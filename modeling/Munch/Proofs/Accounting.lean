import Munch.Proofs.Transcript

/-!
# What a transcript accounts for

A transcript keeps three accounts of its entries: the tokens that it delivers, a counter for each
kind of entry, and, if it is full, the segments.

**Theorem (`enterAll_account`).** After any entries in any order, the tokens are those of the
entries that are delivered, each counter is the number of entries of its kind, and the segments are
one for each entry. The segments that are delivered are the tokens. A plain transcript differs from
a full one in its segments alone, of which it has none.

Nothing is asked of the texts and of the rules, so this covers entries that no run makes.
-/

namespace Munch

namespace Transcript

/-! ## Entries -/

/-- What can be entered in a transcript. -/
inductive Entry where
  | ofMatch (text : String) (r : Rule)
  | ofUnknown (text : String)
  | ofDropped (text : String)

namespace Entry

/-- How the text of an entry was resolved. -/
def kind : Entry → Resolution
  | ofMatch _ r => if r.ignored then .ignored else .emitted
  | ofUnknown _ => .unknown
  | ofDropped _ => .dropped

/-- The token that is delivered for an entry. -/
def token? : Entry → Option Token
  | ofMatch text r => if r.ignored then none else some ⟨text, r.name⟩
  | ofUnknown text => some ⟨text, unknownName⟩
  | ofDropped _ => none

/-- The segment of an entry. -/
def segment (e : Entry) : Segment :=
  match e with
  | ofMatch text r => ⟨text, some r.name, e.kind⟩
  | ofUnknown text => ⟨text, some unknownName, e.kind⟩
  | ofDropped text => ⟨text, none, e.kind⟩

@[simp] theorem kind_segment (e : Entry) : e.segment.kind = e.kind := by
  cases e <;> rfl

/-- An entry delivers what its segment delivers. -/
theorem token?_eq (e : Entry) :
    e.token? = if e.segment.delivers then some e.segment.token else none := by
  cases e with
  | ofMatch text r =>
    obtain ⟨pattern, name, ignored⟩ := r
    cases ignored <;> rfl
  | ofUnknown text => rfl
  | ofDropped text => rfl

theorem filterMap_token? (entries : List Entry) :
    entries.filterMap token? =
      ((entries.map segment).filter Segment.delivers).map Segment.token := by
  induction entries with
  | nil => rfl
  | cons e entries ih =>
    rw [List.filterMap_cons, token?_eq, List.map_cons, List.filter_cons, ih]
    split_ifs <;> rfl

/-- The segment of an entry that is delivered has the text and the name of its token. -/
theorem name_of_delivers {e : Entry} (h : e.segment.delivers = true) :
    (e.segment.token.text, some e.segment.token.name) = (e.segment.text, e.segment.name) := by
  cases e with
  | ofMatch text r => rfl
  | ofUnknown text => rfl
  | ofDropped text => cases h

end Entry

/-! ## Entering -/

def enter (t : Transcript) : Entry → Transcript
  | .ofMatch text r => t.addMatch text r
  | .ofUnknown text => t.addUnknown text
  | .ofDropped text => t.addDropped text

/-- Makes several entries in order. -/
def enterAll (t : Transcript) (entries : List Entry) : Transcript := entries.foldl enter t

/-- **An entry enters its segment.** -/
theorem enter_eq (t : Transcript) (e : Entry) : t.enter e = t.add e.segment := by
  cases e with
  | ofMatch text r =>
    obtain ⟨pattern, name, ignored⟩ := r
    cases ignored <;> rfl
  | ofUnknown text => rfl
  | ofDropped text => rfl

theorem enterAll_eq (t : Transcript) (entries : List Entry) :
    t.enterAll entries = t.addAll (entries.map Entry.segment) := by
  induction entries generalizing t with
  | nil => rfl
  | cons e entries ih =>
    show (t.enter e).enterAll entries = _
    rw [ih, enter_eq, List.map_cons, addAll_cons]

/-! ## Main result -/

/-- A transcript before any entry, with or without segments. -/
def fresh (traced : Bool) : Transcript := if traced then full else plain

theorem tokens_enterAll (traced : Bool) (entries : List Entry) :
    ((fresh traced).enterAll entries).tokens.toList = entries.filterMap Entry.token? := by
  have hempty : (fresh traced).tokens.toList = [] := by cases traced <;> rfl
  rw [enterAll_eq, tokens_addAll, hempty, List.nil_append, Entry.filterMap_token?]

theorem stats_enterAll (traced : Bool) (entries : List Entry) :
    ((fresh traced).enterAll entries).stats = .tally 0 (entries.map Entry.segment) := by
  have hempty : (fresh traced).stats = {} := by cases traced <;> rfl
  rw [enterAll_eq]
  exact stats_addAll hempty 0 _

theorem segments_enterAll (traced : Bool) (entries : List Entry) :
    ((fresh traced).enterAll entries).segments.toList =
      if traced then entries.map Entry.segment else [] := by
  rw [enterAll_eq]
  cases traced with
  | true => exact segments_addAll rfl _
  | false =>
    unfold segments
    rw [segments?_addAll]
    rfl

/-- The tokens are the segments that are delivered, under the same texts and names. -/
theorem map_delivered (entries : List Entry) :
    ((entries.map Entry.segment).filter Segment.delivers).map (fun s => (s.text, s.name)) =
      (entries.filterMap Entry.token?).map fun token => (token.text, some token.name) := by
  rw [Entry.filterMap_token?, List.map_map]
  refine (List.map_congr_left fun s hs => ?_).symm
  obtain ⟨hmem, hdelivers⟩ := List.mem_filter.1 hs
  obtain ⟨e, -, rfl⟩ := List.mem_map.1 hmem
  exact Entry.name_of_delivers hdelivers

/-- **A transcript accounts for each of its entries,** whatever they are and in whatever order. -/
theorem enterAll_account (traced : Bool) (entries : List Entry) :
    let out := (fresh traced).enterAll entries
    out.tokens.toList = entries.filterMap Entry.token? ∧
      out.stats.delivered = out.tokens.size ∧
      out.stats =
        { emitted := entries.countP (·.kind = .emitted)
          ignored := entries.countP (·.kind = .ignored)
          unknown := entries.countP (·.kind = .unknown)
          dropped := entries.countP (·.kind = .dropped)
          chunks := 0 } ∧
      out.segments.toList = (if traced then entries.map Entry.segment else []) ∧
      (out.segments.toList.filter Segment.delivers).map (fun s => (s.text, s.name)) =
        if traced then out.tokens.toList.map fun token => (token.text, some token.name)
        else [] := by
  intro out
  have htokens : out.tokens.toList = entries.filterMap Entry.token? := tokens_enterAll ..
  have hstats : out.stats = .tally 0 (entries.map Entry.segment) := stats_enterAll ..
  have hsegments : out.segments.toList = if traced then entries.map Entry.segment else [] :=
    segments_enterAll ..
  refine ⟨htokens, ?_, ?_, hsegments, ?_⟩
  · rw [hstats, Stats.delivered_tally, ← Array.length_toList, htokens, Entry.filterMap_token?,
      List.length_map]
  · rw [hstats]
    simp only [Stats.tally, List.countP_map, Function.comp_def, Entry.kind_segment]
  · rw [hsegments, htokens]
    cases traced with
    | true => exact map_delivered entries
    | false => rfl

end Transcript

end Munch
