import Munch.Transcript
import Mathlib.Tactic.SplitIfs

/-!
# A transcript is made of segments

Every entry in a transcript is that of one segment: `add` enters a segment in the tokens, in the
segments of a full transcript and in the counters. So a run has one effect on every transcript, and
a list of segments describes it.

* `addMatch_eq`, `addUnknown_eq` and `addDropped_eq`: the entries are those of segments.
* `segments_addAll`, `tokens_addAll`, `stats_addAll`: what a list of segments leaves in a
  transcript.
-/

namespace Munch

/-! ## Segments -/

namespace Segment

attribute [ext] Segment

/-- The segment of a character that no rule matches. -/
def unknown (c : Char) : Segment := ⟨.ofList [c], some unknownName, .unknown⟩

/-- The segment of text that is given up. -/
def dropped (text : List Char) : Segment := ⟨.ofList text, none, .dropped⟩

/-- The characters of the segment. -/
def chars (s : Segment) : List Char := s.text.toList

@[simp] theorem chars_unknown (c : Char) : (unknown c).chars = [c] := String.toList_ofList

end Segment

/-- The segment of a match of the rule. -/
def Rule.segment (r : Rule) (text : List Char) : Segment :=
  ⟨.ofList text, some r.name, if r.ignored then .ignored else .emitted⟩

@[simp] theorem Rule.chars_segment (r : Rule) (text : List Char) :
    (r.segment text).chars = text := String.toList_ofList

theorem Rule.kind_segment_ne_unknown (r : Rule) (text : List Char) :
    (r.segment text).kind ≠ .unknown := by
  unfold Rule.segment
  cases r.ignored <;> exact nofun

theorem Rule.kind_segment_ne_dropped (r : Rule) (text : List Char) :
    (r.segment text).kind ≠ .dropped := by
  unfold Rule.segment
  cases r.ignored <;> exact nofun

/-! ## Counters -/

namespace Stats

/-- Counts a segment of the given kind. -/
def count (s : Stats) : Resolution → Stats
  | .emitted => { s with emitted := s.emitted + 1 }
  | .ignored => { s with ignored := s.ignored + 1 }
  | .unknown => { s with unknown := s.unknown + 1 }
  | .dropped => { s with dropped := s.dropped + 1 }

/-- The counter of the segments of a kind. -/
def counter (s : Stats) : Resolution → Nat
  | .emitted => s.emitted
  | .ignored => s.ignored
  | .unknown => s.unknown
  | .dropped => s.dropped

theorem counter_count (s : Stats) (k l : Resolution) :
    (s.count k).counter l = s.counter l + if k = l then 1 else 0 := by
  cases k <;> cases l <;> rfl

theorem chunks_count (s : Stats) (k : Resolution) : (s.count k).chunks = s.chunks := by
  cases k <;> rfl

/-- The counters are all that the statistics hold. -/
theorem ext_counter {s s' : Stats} (h : ∀ k, s.counter k = s'.counter k)
    (hchunks : s.chunks = s'.chunks) : s = s' := by
  obtain ⟨emitted, ignored, unknown, dropped, chunks⟩ := s
  obtain rfl : emitted = s'.emitted := h .emitted
  obtain rfl : ignored = s'.ignored := h .ignored
  obtain rfl : unknown = s'.unknown := h .unknown
  obtain rfl : dropped = s'.dropped := h .dropped
  obtain rfl : chunks = s'.chunks := hchunks
  rfl

/-- The statistics of a run that leaves the segments. -/
def tally (chunks : Nat) (segments : List Segment) : Stats where
  emitted := segments.countP (·.kind = .emitted)
  ignored := segments.countP (·.kind = .ignored)
  unknown := segments.countP (·.kind = .unknown)
  dropped := segments.countP (·.kind = .dropped)
  chunks := chunks

theorem counter_tally (chunks : Nat) (segments : List Segment) (k : Resolution) :
    (tally chunks segments).counter k = segments.countP (·.kind = k) := by
  cases k <;> rfl

theorem delivered_tally (chunks : Nat) (segments : List Segment) :
    (tally chunks segments).delivered = (segments.filter Segment.delivers).length := by
  unfold delivered tally
  induction segments with
  | nil => rfl
  | cons s segments ih =>
    obtain ⟨text, name, kind⟩ := s
    simp only [List.countP_cons, List.filter_cons]
    cases kind <;> simp [Segment.delivers] at ih ⊢ <;> omega

end Stats

/-! ## Entering segments -/

namespace Transcript

/-- Enters a segment. -/
def add (t : Transcript) (s : Segment) : Transcript where
  tokens := if s.delivers then t.tokens.push s.token else t.tokens
  segments? := t.segments?.map (·.push s)
  stats := t.stats.count s.kind

theorem addMatch_eq (t : Transcript) (r : Rule) (text : List Char) :
    t.addMatch (.ofList text) r = t.add (r.segment text) := by
  unfold addMatch Rule.segment
  split_ifs <;> rfl

theorem addUnknown_eq (t : Transcript) (c : Char) :
    t.addUnknown (.ofList [c]) = t.add (.unknown c) := rfl

theorem addDropped_eq (t : Transcript) (text : List Char) :
    t.addDropped (.ofList text) = t.add (.dropped text) := rfl

/-- Enters segments in order. -/
def addAll (t : Transcript) (segments : List Segment) : Transcript := segments.foldl add t

@[simp] theorem addAll_nil (t : Transcript) : t.addAll [] = t := rfl

@[simp] theorem addAll_cons (t : Transcript) (s : Segment) (ss : List Segment) :
    t.addAll (s :: ss) = (t.add s).addAll ss := rfl

theorem addAll_append (t : Transcript) (ss ss' : List Segment) :
    t.addAll (ss ++ ss') = (t.addAll ss).addAll ss' := List.foldl_append

/-- Counts several chunks. -/
def addChunks (t : Transcript) (n : Nat) : Transcript :=
  { t with stats := { t.stats with chunks := t.stats.chunks + n } }

theorem addChunks_addChunk (t : Transcript) (n : Nat) :
    t.addChunk.addChunks n = t.addChunks (n + 1) := by
  unfold addChunks addChunk
  rw [Nat.add_right_comm, Nat.add_assoc]

theorem addChunk_add (t : Transcript) (s : Segment) : (t.add s).addChunk = t.addChunk.add s := by
  obtain ⟨text, name, kind⟩ := s
  cases kind <;> rfl

theorem addChunk_addAll (t : Transcript) (ss : List Segment) :
    (t.addAll ss).addChunk = t.addChunk.addAll ss := by
  induction ss generalizing t with
  | nil => rfl
  | cons s ss ih => rw [addAll_cons, ih, addChunk_add, addAll_cons]

theorem segments?_addAll (t : Transcript) (ss : List Segment) :
    (t.addAll ss).segments? = t.segments?.map (· ++ ss.toArray) := by
  induction ss generalizing t with
  | nil => simp
  | cons s ss ih =>
    rw [addAll_cons, ih]
    cases h : t.segments? <;> simp [add, h]

/-- A full transcript holds the segments entered in it. -/
theorem segments_addAll {t : Transcript} (h : t.segments? = some #[]) (ss : List Segment) :
    (t.addAll ss).segments.toList = ss := by
  unfold segments
  rw [segments?_addAll, h]
  simp

theorem counter_addAll (t : Transcript) (ss : List Segment) (k : Resolution) :
    (t.addAll ss).stats.counter k = t.stats.counter k + ss.countP (·.kind = k) := by
  induction ss generalizing t with
  | nil => rfl
  | cons s ss ih =>
    have hadd : (t.add s).stats.counter k = t.stats.counter k + if s.kind = k then 1 else 0 :=
      Stats.counter_count ..
    rw [addAll_cons, ih, hadd, List.countP_cons]
    by_cases h : s.kind = k
    · simp only [h, if_true, decide_true]
      omega
    · simp only [h, if_false, decide_false, Bool.false_eq_true]
      omega

theorem chunks_addAll (t : Transcript) (ss : List Segment) :
    (t.addAll ss).stats.chunks = t.stats.chunks := by
  induction ss generalizing t with
  | nil => rfl
  | cons s ss ih => exact (ih _).trans (Stats.chunks_count ..)

/-- What chunks and segments leave in the statistics of a fresh transcript. -/
theorem stats_addAll {t : Transcript} (h : t.stats = {}) (n : Nat) (ss : List Segment) :
    ((t.addChunks n).addAll ss).stats = .tally n ss := by
  refine Stats.ext_counter (fun k => ?_) ?_
  · rw [counter_addAll, Stats.counter_tally, addChunks, h]
    cases k <;> exact Nat.zero_add _
  · rw [chunks_addAll, addChunks, h]
    exact Nat.zero_add _

/-- The tokens are those that the segments deliver. -/
theorem tokens_addAll (t : Transcript) (ss : List Segment) :
    (t.addAll ss).tokens.toList =
      t.tokens.toList ++ (ss.filter Segment.delivers).map Segment.token := by
  induction ss generalizing t with
  | nil => simp
  | cons s ss ih =>
    rw [addAll_cons, ih]
    cases h : s.delivers <;> simp [add, h]

/-- Nothing is counted as dropped if no segment is. -/
theorem dropped_addAll {t : Transcript} {ss : List Segment} (h : ∀ s ∈ ss, s.kind ≠ .dropped) :
    (t.addAll ss).stats.dropped = t.stats.dropped := by
  have hcount := counter_addAll t ss .dropped
  rw [List.countP_eq_zero.2 fun s hs => by simp [h s hs]] at hcount
  exact hcount

end Transcript

end Munch
