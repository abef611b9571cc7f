/-!
# Tokens and segments

A **token** is a piece of text with a name, as it is delivered to the caller. A **segment** also
covers text that is not delivered, and says how it was resolved. **Statistics** count the segments
of each kind, and the chunks.
-/

namespace Munch

/-- The name of a character that no rule matches. -/
def unknownName : String := "_unknown_"

structure Token where
  text : String
  name : String
deriving DecidableEq, Repr

namespace Token

def isUnknown (t : Token) : Bool := t.name == unknownName

def display (t : Token) : String := s!"( word: {t.text}; token: {t.name} )"

end Token

/-- How a piece of text was resolved. -/
inductive Resolution where
  /-- It matched a rule and was delivered. -/
  | emitted
  /-- It matched a rule that is ignored. -/
  | ignored
  /-- It is a character that no rule matches, and was delivered. -/
  | unknown
  /-- It was left at a flush without a rule that matches it. -/
  | dropped
deriving DecidableEq, Repr

structure Segment where
  text : String
  /-- The name of the rule; dropped text has none. -/
  name : Option String
  kind : Resolution
deriving DecidableEq, Repr

namespace Segment

/-- Whether the text of a segment is delivered as a token. -/
def delivers (s : Segment) : Bool := s.kind == .emitted || s.kind == .unknown

/-- The token that a segment delivers. -/
def token (s : Segment) : Token := ⟨s.text, s.name.getD ""⟩

end Segment

/-- Counters of one run. -/
structure Stats where
  emitted : Nat := 0
  ignored : Nat := 0
  unknown : Nat := 0
  dropped : Nat := 0
  chunks : Nat := 0
deriving DecidableEq, Repr

namespace Stats

/-- The number of tokens delivered. -/
def delivered (s : Stats) : Nat := s.emitted + s.unknown

end Stats

end Munch
