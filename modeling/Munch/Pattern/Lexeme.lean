import Munch.Pattern.Error
import Munch.Pattern.Node

/-!
# The smallest parts of a pattern

Readers for escapes, numbers, flags and names. A reader takes the characters that are left and gives
back what it read with the characters after it.

**Verbose patterns.** Where the verbose flag is on, blanks and comments may stand between the
characters of most parts; a comment runs from `#` to the end of its line.
-/

namespace Munch.Pattern

/-! ## Blanks and comments -/

/-- Drops blanks and comments; `inComment` says where the text begins. -/
def dropSpace (inComment : Bool) : List Char → List Char
  | [] => []
  | c :: cs =>
    if inComment then dropSpace (c ≠ '\n') cs
    else if Text.isBlank c then dropSpace false cs
    else if c = '#' then dropSpace true cs
    else c :: cs

/-- Drops what a verbose pattern ignores. -/
def skip (verbose : Bool) (cs : List Char) : List Char :=
  if verbose then dropSpace false cs else cs

/-- Passes one character and what is ignored after it. -/
def advance (verbose : Bool) (cs : List Char) : List Char := skip verbose cs.tail

/-- Splits off the longest run of characters that satisfy `p`, passing over what is ignored. -/
def takeRun (verbose : Bool) (p : Char → Bool) (inComment : Bool) :
    List Char → List Char × List Char
  | [] => ([], [])
  | c :: cs =>
    if inComment then takeRun verbose p (c ≠ '\n') cs
    else if verbose && Text.isBlank c then takeRun verbose p false cs
    else if verbose && c = '#' then takeRun verbose p true cs
    else if p c then
      let (run, rest) := takeRun verbose p false cs
      (c :: run, rest)
    else ([], c :: cs)

/-! ## Numbers -/

def ofDigits (base : Nat) (digits : List Char) : Nat :=
  digits.foldl (fun n c => base * n + (CharSet.hexValue? c).getD 0) 0

/-- A decimal number, with blanks around it. Says nothing of a missing number but `none`. -/
def decimal (verbose : Bool) (cs : List Char) : Except Error (Option Nat) × List Char :=
  let (digits, rest) := takeRun verbose Char.isDigit false (cs.dropWhile Text.isBlank)
  let rest := rest.dropWhile Text.isBlank
  if digits.isEmpty then (.ok none, rest)
  else if ofDigits 10 digits < UInt32.size then (.ok (some (ofDigits 10 digits)), rest)
  else (.error .decimalInvalid, rest)

/-- The character with the given code point. -/
def scalar (n : Nat) : Except Error Char :=
  if h : n.isValidChar then .ok (.ofNatAux n h) else .error .hexNotScalar

/-- Exactly `n` hexadecimal digits, added to the value `acc` of those before. -/
def fixedHex (verbose : Bool) (acc : Nat) : Nat → List Char → Except Error (Nat × List Char)
  | 0, cs => .ok (acc, cs)
  | _ + 1, [] => .error .escapeUnfinished
  | n + 1, c :: cs =>
    match CharSet.hexValue? c with
    | some d => fixedHex verbose (16 * acc + d) n (skip verbose cs)
    | none => .error .hexDigitInvalid

/-- Hexadecimal digits up to a closing brace. -/
def bracedHex (verbose : Bool) (cs : List Char) : Except Error (Char × List Char) :=
  let (digits, rest) := takeRun verbose (fun c => (CharSet.hexValue? c).isSome) false cs
  match rest with
  | [] => .error .escapeUnfinished
  | '\x7d' :: rest =>
    if digits.isEmpty then .error .hexEmpty
    else do
      let c ← scalar (ofDigits 16 digits)
      .ok (c, skip verbose rest)
  | _ => .error .hexDigitInvalid

/-- The number of digits after `\x`, `\u` and `\U`. -/
def hexWidth (letter : Char) : Nat :=
  if letter = 'x' then 2 else if letter = 'u' then 4 else 8

/-- A character by its code point, after `\x`, `\u` or `\U`. -/
def hexEscape (verbose : Bool) (letter : Char) (cs : List Char) :
    Except Error (Literal × List Char) :=
  match skip verbose cs with
  | [] => .error .escapeUnfinished
  | '\x7b' :: rest => do
    let (c, rest) ← bracedHex verbose rest
    .ok (⟨c, false⟩, rest)
  | rest => do
    let (n, rest) ← fixedHex verbose 0 (hexWidth letter) rest
    let c ← scalar n
    .ok (⟨c, letter = 'x'⟩, rest)

/-! ## Properties -/

/-- Splits a property name at its first `!=`, or else its first `:`, or else its first `=`. -/
def splitProperty (cs : List Char) : PropertyName :=
  let rec splitUnequal (before : List Char) : List Char → Option PropertyName
    | '!' :: '=' :: rest => some ⟨.ofList before.reverse, some (.ofList rest), true⟩
    | c :: rest => splitUnequal (c :: before) rest
    | [] => none
  let splitAt (sep : Char) : Option PropertyName :=
    match cs.span (· ≠ sep) with
    | (before, _ :: rest) => some ⟨.ofList before, some (.ofList rest), false⟩
    | (_, []) => none
  (splitUnequal [] cs <|> splitAt ':' <|> splitAt '=').getD ⟨.ofList cs, none, false⟩

/-- The name of a property, after `\p` or `\P`: one letter, or a name in braces. -/
def property (verbose : Bool) (cs : List Char) : Except Error (PropertyName × List Char) :=
  match skip verbose cs with
  | [] => .error .escapeUnfinished
  | '\x7b' :: rest =>
    let (name, rest) := takeRun verbose (· ≠ '\x7d') false rest
    match rest with
    | [] => .error .escapeUnfinished
    | _ :: rest => .ok (splitProperty name, rest)
  | '\\' :: _ => .error .propertyInvalid
  | c :: rest => .ok (⟨c.toString, none, false⟩, skip verbose rest)

/-! ## Word edges -/

def edgeNamed? (name : List Char) : Option WordEdge :=
  if name = "start".toList then some .start
  else if name = "end".toList then some .finish
  else if name = "start-half".toList then some .halfStart
  else if name = "end-half".toList then some .halfFinish
  else none

def isEdgeChar (c : Char) : Bool := c.isAlpha || c = '-'

/-- What follows `\b`: a named edge in braces, or nothing. A brace that opens no name is left to be
read as a repetition. -/
def wordEdge (verbose : Bool) (cs : List Char) : Except Error (WordEdge × List Char) :=
  match cs with
  | '\x7b' :: rest =>
    match skip verbose rest with
    | [] => .error .edgeOrCountUnfinished
    | c :: inside =>
      if !isEdgeChar c then .ok (.boundary, cs)
      else
        let (name, rest) := takeRun verbose isEdgeChar false (c :: inside)
        match rest with
        | '\x7d' :: rest =>
          match edgeNamed? name with
          | some edge => .ok (edge, rest)
          | none => .error .edgeUnknown
        | _ => .error .edgeUnclosed
  | cs => .ok (.boundary, cs)

/-! ## Escapes -/

/-- The punctuation that has a meaning in patterns. -/
def isMeta (c : Char) : Bool := "\\.+*?()|[]\x7b\x7d^$#&-~".toList.contains c

/-- Whether a backslash before the character only takes it literally. -/
def isEscapable (c : Char) : Bool :=
  isMeta c || (c.toNat < 0x80 && !c.isAlphanum && c ≠ '<' && c ≠ '>')

/-- What an escape or a single character stands for. -/
inductive Atom where
  | literal (l : Literal)
  | dot
  | anchor (a : Anchor)
  | letter (kind : LetterClass) (negated : Bool)
  | property (name : PropertyName) (negated : Bool)

/-- An escape, after its backslash. -/
def escape (verbose : Bool) : List Char → Except Error (Atom × List Char)
  | [] => .error .escapeUnfinished
  | c :: cs =>
    if c.isDigit then .error .backreference
    else if c = 'x' ∨ c = 'u' ∨ c = 'U' then do
      let (l, rest) ← hexEscape verbose c cs
      .ok (.literal l, rest)
    else if c = 'p' ∨ c = 'P' then do
      let (name, rest) ← property verbose cs
      .ok (.property name (c = 'P'), rest)
    else if isEscapable c then .ok (.literal ⟨c, false⟩, cs)
    else match c with
      | 'd' => .ok (.letter .digit false, cs)
      | 'D' => .ok (.letter .digit true, cs)
      | 's' => .ok (.letter .blank false, cs)
      | 'S' => .ok (.letter .blank true, cs)
      | 'w' => .ok (.letter .word false, cs)
      | 'W' => .ok (.letter .word true, cs)
      | 'a' => .ok (.literal ⟨'\x07', false⟩, cs)
      | 'f' => .ok (.literal ⟨'\x0c', false⟩, cs)
      | 't' => .ok (.literal ⟨'\t', false⟩, cs)
      | 'n' => .ok (.literal ⟨'\n', false⟩, cs)
      | 'r' => .ok (.literal ⟨'\r', false⟩, cs)
      | 'v' => .ok (.literal ⟨'\x0b', false⟩, cs)
      | 'A' => .ok (.anchor .textStart, cs)
      | 'z' => .ok (.anchor .textEnd, cs)
      | 'b' => do
        let (edge, rest) ← wordEdge verbose cs
        .ok (.anchor (.word edge), rest)
      | 'B' => .ok (.anchor (.word .notBoundary), cs)
      | '<' => .ok (.anchor (.word .start), cs)
      | '>' => .ok (.anchor (.word .finish), cs)
      | _ => .error .escapeUnknown

/-! ## Flags -/

def flagNamed? (c : Char) : Option Flag :=
  match c with
  | 'i' => some .caseInsensitive
  | 'm' => some .multiLine
  | 's' => some .dotAll
  | 'U' => some .swapGreed
  | 'u' => some .unicode
  | 'R' => some .crlf
  | 'x' => some .verbose
  | _ => none

/-- Flags up to a colon or a closing parenthesis, which is given back too. `seen` holds the flags so
far, latest first; `off` is set after a dash, and `dash` right after it. -/
def flags (seen : FlagSetting) (off dash : Bool) :
    List Char → Except Error ((FlagSetting × Char) × List Char)
  | [] => .error (if seen.isEmpty && !off then .groupUnclosed else .flagUnfinished)
  | c :: cs =>
    if c = ':' ∨ c = ')' then
      if dash then .error .flagDangling else .ok ((seen.reverse, c), cs)
    else if c = '-' then
      if off then .error .flagNegatedTwice else flags seen true true cs
    else match flagNamed? c with
      | none => .error .flagUnknown
      | some f =>
        if seen.any (·.1 = f) then .error .flagDuplicate else flags ((f, !off) :: seen) off false cs

/-! ## Group names -/

/-- Whether a group name may hold the character, at its start or later. -/
def isNameChar (first : Bool) (c : Char) : Bool :=
  if first then c = '_' || Unicode.isAlphabetic c
  else c = '_' || c = '.' || c = '[' || c = ']' || Unicode.isAlphanumeric c

/-- A group name up to its closing angle bracket. -/
def groupName (first : Bool) : List Char → Except Error (List Char × List Char)
  | [] => .error .nameUnclosed
  | '>' :: cs => .ok ([], cs)
  | c :: cs =>
    if isNameChar first c then do
      let (name, rest) ← groupName false cs
      .ok (c :: name, rest)
    else .error .nameInvalid

end Munch.Pattern
