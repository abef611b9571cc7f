import Munch.Unicode.Classes

/-!
# Regular expressions with assertions

A **regex** describes spans of a text. Besides the usual operations it holds **assertions**, which
look at the characters on either side of a position and take up none.

**Residues.** After a character, the rest of a regex is a list of residues: the span may continue as
any one of them. `Regex.residues` gives this list for the character after a place, and
`Regex.nullable` says whether the span may end at a place. Both look at the place because an
assertion may hold there and not elsewhere.
-/

namespace Munch

/-- What stands on either side of a position in a text. -/
structure Place where
  before : Option Char
  after : Option Char
deriving DecidableEq, Repr

/-! ## Assertions -/

/-- Which sides of a position must hold a word character. -/
inductive WordEdge where
  | boundary
  | notBoundary
  | start
  | finish
  | halfStart
  | halfFinish
deriving DecidableEq, Repr

/-- A condition on a position. Lines end at a line feed, or at any of `\r\n`, `\n` and `\r`. -/
inductive Assertion where
  | textStart
  | textEnd
  | lineStart
  | lineEnd
  | anyLineStart
  | anyLineEnd
  | word (edge : WordEdge) (ascii : Bool)
deriving DecidableEq, Repr

namespace WordEdge

/-- Whether the edge lies between sides that hold a word character or not. -/
def holds (before after : Bool) : WordEdge → Bool
  | boundary => before != after
  | notBoundary => before == after
  | start => !before && after
  | finish => before && !after
  | halfStart => !before
  | halfFinish => !after

end WordEdge

namespace Assertion

def holds (p : Place) : Assertion → Bool
  | textStart => p.before.isNone
  | textEnd => p.after.isNone
  | lineStart => p.before.isNone || p.before == some '\n'
  | lineEnd => p.after.isNone || p.after == some '\n'
  | anyLineStart =>
    p.before.isNone || p.before == some '\n' || (p.before == some '\r' && p.after != some '\n')
  | anyLineEnd =>
    p.after.isNone || p.after == some '\r' || (p.after == some '\n' && p.before != some '\r')
  | word edge ascii =>
    let isWord := if ascii then Unicode.isAsciiWord else Unicode.isWord
    edge.holds (p.before.any isWord) (p.after.any isWord)

/-- Whether the assertion holds between two bytes of one character. Such a place has no ASCII word
character on either side; all other assertions fail there. -/
def holdsInside : Assertion → Bool
  | word edge true => edge.holds false false
  | _ => false

end Assertion

/-! ## Regular expressions -/

inductive Regex where
  | empty
  | chars (set : CharSet)
  | look (assertion : Assertion)
  | seq (first second : Regex)
  | alt (left right : Regex)
  /-- From `least` to `most` copies, without an upper bound if `most` is `none`. -/
  | rep (body : Regex) (least : Nat) (most : Option Nat)
deriving DecidableEq, Repr

namespace Regex

/-- The regex that matches nothing. -/
def never : Regex := chars .empty

def seqAll : List Regex → Regex
  | [] => empty
  | [r] => r
  | r :: rs => seq r (seqAll rs)

def altAll : List Regex → Regex
  | [] => never
  | [r] => r
  | r :: rs => alt r (altAll rs)

/-- Whether the empty span matches at a place. -/
def nullable (p : Place) : Regex → Bool
  | empty => true
  | chars _ => false
  | look a => a.holds p
  | seq r s => r.nullable p && s.nullable p
  | alt r s => r.nullable p || s.nullable p
  | rep r least _ => least == 0 || r.nullable p

/-- Whether the empty span matches between two bytes of one character. -/
def nullableInside : Regex → Bool
  | empty => true
  | chars _ => false
  | look a => a.holdsInside
  | seq r s => r.nullableInside && s.nullableInside
  | alt r s => r.nullableInside || s.nullableInside
  | rep r least _ => least == 0 || r.nullableInside

/-- `r` followed by `s`. -/
def andThen (r s : Regex) : Regex :=
  match r with
  | empty => s
  | r => seq r s

/-- What may follow the character `c`, where `before` stands before it. A repetition whose body may
be empty here can use up its required copies at once. -/
def residues (before : Option Char) (c : Char) : Regex → List Regex
  | empty => []
  | chars s => if s.contains c then [empty] else []
  | look _ => []
  | seq r s =>
    (r.residues before c).map (·.andThen s) ++
      if r.nullable ⟨before, some c⟩ then s.residues before c else []
  | alt r s => r.residues before c ++ s.residues before c
  | rep r least most =>
    if most = some 0 then []
    else
      let least := if r.nullable ⟨before, some c⟩ then 0 else least - 1
      (r.residues before c).map (·.andThen (rep r least (most.map (· - 1))))

/-- Whether a match can only begin at the start of the text. -/
def startsText : Regex → Bool
  | look .textStart => true
  | seq r _ => r.startsText
  | alt r s => r.startsText && s.startsText
  | _ => false

/-- Whether the regex asks for words of any script. -/
def asksForWords : Regex → Bool
  | look (.word _ ascii) => !ascii
  | seq r s => r.asksForWords || s.asksForWords
  | alt r s => r.asksForWords || s.asksForWords
  | rep r _ most => most != some 0 && r.asksForWords
  | _ => false

end Regex

end Munch
