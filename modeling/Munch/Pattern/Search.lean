import Munch.Pattern.Regex

/-!
# Searching a text

A **search** reads a text one character at a time and remembers whether a match has ended and which
residues are under way. It answers whether the text read so far, taken as a whole text, holds a
match. Reading on never starts over, so all prefixes of a text are decided in one pass.
-/

namespace Munch

/-- A search for a regex, after some text. -/
structure Search where
  /-- The last character read. -/
  last : Option Char
  /-- Whether a match ended before the last character. -/
  found : Bool
  /-- The matches under way, and the regex itself where a match may begin. -/
  active : List Regex
deriving DecidableEq, Repr

/-- The matches that may begin inside a text. -/
def Regex.fresh (r : Regex) : List Regex := if r.startsText then [] else [r]

/-- The list with `r` in it once. -/
def Regex.insertNew (r : Regex) (rs : List Regex) : List Regex :=
  if rs.contains r then rs else r :: rs

namespace Search

def start (r : Regex) : Search := ⟨none, false, [r]⟩

/-- Reads one character. -/
def push (r : Regex) (s : Search) (c : Char) : Search :=
  { last := some c
    found := s.found || s.active.any (·.nullable ⟨s.last, some c⟩)
    active :=
      (s.active.flatMap (·.residues s.last c)).foldr Regex.insertNew r.fresh }

def pushAll (r : Regex) (s : Search) (cs : List Char) : Search := cs.foldl (push r) s

/-- Gives up the matches under way. -/
def restart (r : Regex) (s : Search) : Search := { s with active := r.fresh }

/-- Whether the text read so far holds a match. -/
def accepts (s : Search) : Bool := s.found || s.active.any (·.nullable ⟨s.last, none⟩)

/-- Whether no further text can lead to a match. -/
def isDead (s : Search) : Bool := !s.found && s.active.isEmpty

end Search

/-- Whether a match of `r` lies anywhere in the text. -/
def Regex.occursIn (r : Regex) (text : List Char) : Bool :=
  ((Search.start r).pushAll r text).accepts

end Munch
