import Munch.Unicode.CaseTable
import Munch.Unicode.Classes

/-!
# Comparing and lowering case

`CharSet.foldCase` closes a set under **simple case folding**: with a letter it takes in every
letter of the same case orbit. `lowercase` gives a name its **lower case**, character by character;
only a capital sigma looks at its neighbours, and becomes a final sigma at the end of a word.
-/

namespace Munch

namespace Unicode

/-! ## Folding -/

/-- Reads orbits such as `41 61, 4B 6B 212A`; `orbit` is the one under way, and `n` its last member.
-/
def readOrbits (orbit : List Nat) (n : Nat) : List Char → List (List Nat)
  | [] => [n :: orbit]
  | ',' :: ' ' :: cs => (n :: orbit) :: readOrbits [] 0 cs
  | ' ' :: cs => readOrbits (n :: orbit) 0 cs
  | c :: cs => readOrbits orbit (16 * n + (CharSet.hexValue? c).getD 0) cs

/-- The sets of code points that differ in case alone. -/
def orbits : List (List Nat) := orbitLines.flatMap fun l => readOrbits [] 0 l.toList

end Unicode

namespace CharSet

/-- The set with every letter that differs in case alone from one of its members. -/
def foldCase (s : CharSet) : CharSet :=
  let hit := Unicode.orbits.filter fun o => o.any fun n => inRanges n s.ranges
  if hit.isEmpty then s else s.union (ofRanges (hit.flatten.map fun n => ⟨n, n⟩))

/-- As `foldCase`, for the letters `a` to `z` alone. -/
def foldAsciiCase (s : CharSet) : CharSet :=
  let lowers := s.inter (range 0x61 0x7A)
  let uppers := s.inter (range 0x41 0x5A)
  s.union (ofRanges (lowers.ranges.map (fun r => ⟨r.lo - 0x20, r.hi - 0x20⟩) ++
    uppers.ranges.map fun r => ⟨r.lo + 0x20, r.hi + 0x20⟩))

end CharSet

namespace Unicode

/-! ## Lower case -/

/-- The characters that have case; the voiced pharyngeal fricative has case in patterns alone. -/
def cased : CharSet :=
  (extended (setOf properties "Cased") "Cased").diff (.singleton '\u0295')

def caseIgnorable : CharSet := extended (setOf properties "Case_Ignorable") "Case_Ignorable"

/-- The lower case of a character outside ASCII, taken on its own. -/
def lowerRun (c : Char) : Char :=
  let n := c.toNat
  match lowerRuns.find? fun r => r.base ≤ n && n ≤ r.last && (n - r.base) % r.stride == 0 with
  | some r => Char.ofNat (Int.toNat (n + r.offset))
  | none => c

/-- The lower case of one character; a dotted capital I becomes a letter and a combining dot. -/
def lowerChar (c : Char) : List Char :=
  if c.toNat < 0x80 then [c.toLower]
  else if c = '\u0130' then ['i', '\u0307']
  else [lowerRun c]

/-- Whether a cased letter comes first, after characters that case ignores. -/
def casedNext (cs : List Char) : Bool :=
  match cs.dropWhile caseIgnorable.contains with
  | c :: _ => cased.contains c
  | [] => false

/-- Lowers `cs`, which follows the text whose reverse is `before`. -/
def lowerFrom (before : List Char) : List Char → List Char
  | [] => []
  | c :: cs =>
    let low :=
      if c = 'Σ' then [if casedNext before && !casedNext cs then 'ς' else 'σ'] else lowerChar c
    low ++ lowerFrom (c :: before) cs

end Unicode

/-- A name in lower case. -/
def lowercase (s : String) : String := .ofList (Unicode.lowerFrom [] s.toList)

end Munch
