import Munch.Rule
import Munch.Token

/-!
# Transcripts of a run

A **transcript** takes text that has been resolved: matches of rules, characters that no rule
matches, and text that is given up. It holds the tokens delivered so far and counts every entry; a
full transcript also holds a segment for each.
-/

namespace Munch

structure Transcript where
  /-- The tokens delivered so far. -/
  tokens : Array Token := #[]
  /-- The segments so far, if the transcript is full. -/
  segments? : Option (Array Segment) := none
  stats : Stats := {}
deriving Repr

namespace Transcript

/-- An empty transcript that holds tokens only. -/
def plain : Transcript := {}

/-- An empty transcript that also holds segments. -/
def full : Transcript := { segments? := some #[] }

def deliver (t : Transcript) (token : Token) : Transcript :=
  { t with tokens := t.tokens.push token }

def note (t : Transcript) (s : Segment) : Transcript :=
  { t with segments? := t.segments?.map (·.push s) }

/-- Enters a match of a rule, which is delivered unless the rule is ignored. -/
def addMatch (t : Transcript) (text : String) (r : Rule) : Transcript :=
  if r.ignored then
    { t with stats := { t.stats with ignored := t.stats.ignored + 1 } }.note
      ⟨text, some r.name, .ignored⟩
  else
    ({ t with stats := { t.stats with emitted := t.stats.emitted + 1 } }.deliver
      ⟨text, r.name⟩).note ⟨text, some r.name, .emitted⟩

/-- Enters a character that no rule matches. -/
def addUnknown (t : Transcript) (text : String) : Transcript :=
  ({ t with stats := { t.stats with unknown := t.stats.unknown + 1 } }.deliver
    ⟨text, unknownName⟩).note ⟨text, some unknownName, .unknown⟩

/-- Enters text that is given up at a flush. -/
def addDropped (t : Transcript) (text : String) : Transcript :=
  { t with stats := { t.stats with dropped := t.stats.dropped + 1 } }.note ⟨text, none, .dropped⟩

/-- Counts a chunk. -/
def addChunk (t : Transcript) : Transcript :=
  { t with stats := { t.stats with chunks := t.stats.chunks + 1 } }

/-- The segments so far; there are none unless the transcript is full. -/
def segments (t : Transcript) : Array Segment := t.segments?.getD #[]

/-! ## What an entry changes -/

section

variable (t : Transcript) (text : String) (r : Rule)

@[simp] theorem tokens_addMatch :
    (t.addMatch text r).tokens = if r.ignored then t.tokens else t.tokens.push ⟨text, r.name⟩ := by
  unfold addMatch; split <;> rfl

@[simp] theorem tokens_addUnknown :
    (t.addUnknown text).tokens = t.tokens.push ⟨text, unknownName⟩ := rfl

@[simp] theorem tokens_addDropped : (t.addDropped text).tokens = t.tokens := rfl

@[simp] theorem tokens_addChunk : t.addChunk.tokens = t.tokens := rfl

@[simp] theorem segments?_addMatch :
    (t.addMatch text r).segments? = t.segments?.map
      (·.push ⟨text, some r.name, if r.ignored then .ignored else .emitted⟩) := by
  unfold addMatch; split <;> rfl

@[simp] theorem segments?_addUnknown :
    (t.addUnknown text).segments? =
      t.segments?.map (·.push ⟨text, some unknownName, .unknown⟩) := rfl

@[simp] theorem segments?_addDropped :
    (t.addDropped text).segments? = t.segments?.map (·.push ⟨text, none, .dropped⟩) := rfl

@[simp] theorem segments?_addChunk : t.addChunk.segments? = t.segments? := rfl

end

end Transcript

end Munch
