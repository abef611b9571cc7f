import Munch.Pattern.Set

/-!
# Probing a text

A **probe** asks of a text only whether some pattern matches, and so it stops where the first match
ends. It goes by bytes: an empty match may lie between two bytes of one character. Such a match
stops the probe as well but does not count, and the probe **restarts** behind the character. What
was under way before is lost, so a probe may miss a match that a scan finds; it never finds one that
a scan misses.
-/

namespace Munch

/-- A scan that is asked only whether some pattern matches. -/
structure Probe where
  scan : Scan
  /-- Whether some pattern matches the empty text between two bytes of a character. -/
  splits : Bool

namespace Probe

/-- Reads one character. -/
def push (p : Probe) (c : Char) : Probe :=
  let s := p.scan.push c
  if p.splits && 1 < c.utf8Size && !s.found then { p with scan := s.restart }
  else { p with scan := s }

def pushAll (p : Probe) (cs : List Char) : Probe := cs.foldl push p

/-- Whether the probe finds a match in the text read so far. -/
def accepts (p : Probe) : Bool := p.scan.accepts

end Probe

namespace PatternSet

/-- A probe after some text. -/
def probe (s : PatternSet) (text : List Char) : Probe :=
  Probe.pushAll ⟨s.start, s.patterns.any (·.regex.nullableInside)⟩ text

/-- Whether a probe finds that some pattern matches the text. -/
def accepts (s : PatternSet) (text : List Char) : Bool := (s.probe text).accepts

end PatternSet

namespace Pattern

/-- The size in bytes of the texts that are searched from each place in turn, without a probe, if
the pattern asks for words. -/
def shortText : Nat := 128

/-- Whether the pattern matches a text. -/
def accepts (p : Pattern) (text : List Char) : Bool :=
  if p.regex.asksForWords && Text.byteSize text ≤ shortText then p.regex.occursIn text
  else PatternSet.accepts ⟨#[p]⟩ text

end Pattern

end Munch
