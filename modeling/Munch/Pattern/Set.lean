import Munch.Pattern

/-!
# Sets of patterns

A **pattern set** asks in one pass which of its patterns match a text. A **scan** is such a pass
after some text: it holds a search for each pattern that may still match, in the order of the set,
and drops a search that cannot succeed any more.
-/

namespace Munch

/-- The search for one pattern of a set. -/
structure Thread where
  index : Nat
  regex : Regex
  search : Search

/-- A pass over a text, in the order of the patterns. -/
structure Scan where
  threads : List Thread

/-- Patterns that are matched together; each is known by its position. -/
structure PatternSet where
  patterns : Array Pattern

namespace Thread

/-- The thread at a later stage of its search, unless the pattern cannot match any more. -/
def withSearch? (t : Thread) (s : Search) : Option Thread :=
  if s.isDead then none else some { t with search := s }

def push? (t : Thread) (c : Char) : Option Thread := t.withSearch? (t.search.push t.regex c)

def restart? (t : Thread) : Option Thread := t.withSearch? (t.search.restart t.regex)

end Thread

namespace Scan

def push (s : Scan) (c : Char) : Scan := ⟨s.threads.filterMap (·.push? c)⟩

def pushAll (s : Scan) (cs : List Char) : Scan := cs.foldl push s

/-- Gives up all matches under way. -/
def restart (s : Scan) : Scan := ⟨s.threads.filterMap Thread.restart?⟩

/-- Whether some pattern has matched before the last character. -/
def found (s : Scan) : Bool := s.threads.any (·.search.found)

/-- Whether the text read so far matches some pattern. -/
def accepts (s : Scan) : Bool := s.threads.any (·.search.accepts)

/-- The patterns that match the text read so far, in ascending order. -/
def matched (s : Scan) : List Nat := (s.threads.filter (·.search.accepts)).map Thread.index

end Scan

namespace PatternSet

def empty : PatternSet := ⟨#[]⟩

/-- The set of some patterns. It is refused if they are too big together. -/
def ofPatterns [Footprint] (patterns : Array Pattern) : Except Pattern.Error PatternSet :=
  if Pattern.WithinLimit patterns.toList then .ok ⟨patterns⟩ else .error .tooBig

/-- A scan before any text. -/
def start (s : PatternSet) : Scan :=
  ⟨s.patterns.toList.mapIdx fun i p => ⟨i, p.regex, Search.start p.regex⟩⟩

def scan (s : PatternSet) (text : List Char) : Scan := s.start.pushAll text

/-- The lowest position of a pattern that matches the text. -/
def first? (s : PatternSet) (text : List Char) : Option Nat := (s.scan text).matched.head?

end PatternSet

end Munch
