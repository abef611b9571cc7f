import Munch.Proofs.Ignoring

/-!
# Telling unknown characters by their name

A character that no rule matches is delivered under a name that is kept for such characters, and a
token is **unknown** if it has this name. But a rule may be given the name as well, and then its
tokens look the same.

**Theorem (`tellsUnknown_iff`).** The unknown tokens of a text are its unknown characters and the
tokens that rules deliver under the name. So the name tells the unknown characters of a text if and
only if no rule delivers a token of the text under it.

It is enough that all rules of the name are ignored. The segments that rescanning makes are known,
so a rule of the name does harm if and only if it wins some text that can become a token.
-/

namespace Munch

/-! ## Segments -/

namespace Segment

variable {s : Segment}

/-- The token of a segment is unknown if the segment has the name of unknown characters. -/
theorem isUnknown_token : s.token.isUnknown = true ↔ s.name = some unknownName := by
  obtain ⟨text, name, kind⟩ := s
  cases name with
  | none => exact iff_of_false (show ¬("" == unknownName) = true by decide) nofun
  | some name => simp [token, Token.isUnknown]

/-- A rule delivers the segment under the name of unknown characters. -/
def Poses (s : Segment) : Prop := s.kind = .emitted ∧ s.name = some unknownName

instance : DecidablePred Poses := fun _ => inferInstanceAs (Decidable (_ ∧ _))

/-- An unknown token that is delivered is that of an unknown character, or a rule delivers it under
the name of these. -/
theorem isUnknown_delivers_iff (h : s.kind = .unknown → s.name = some unknownName) :
    (s.token.isUnknown && s.delivers) = true ↔ s.kind = .unknown ∨ s.Poses := by
  rw [Bool.and_eq_true_iff, isUnknown_token]
  cases hkind : s.kind <;> simp_all [delivers, Poses]

theorem countP_isUnknown {segments : List Segment}
    (h : ∀ s ∈ segments, s.kind = .unknown → s.name = some unknownName) :
    ((segments.filter delivers).map token).countP Token.isUnknown =
      segments.countP (·.kind = .unknown) + segments.countP Poses := by
  rw [List.countP_map, List.countP_filter]
  induction segments with
  | nil => rfl
  | cons s segments ih =>
    obtain ⟨hs, hsegments⟩ := List.forall_mem_cons.1 h
    have hexclude : ¬(s.kind = .unknown ∧ s.Poses) := by
      rintro ⟨hunknown, hposes, -⟩
      rw [hunknown] at hposes
      cases hposes
    simp only [List.countP_cons, Function.comp_apply, isUnknown_delivers_iff hs,
      decide_eq_true_eq]
    by_cases hunknown : s.kind = .unknown <;> by_cases hposes : s.Poses <;>
      simp_all <;> omega

end Segment

namespace Rulebook

variable {b : Rulebook} {s : Segment}

/-! ## Books that reserve the name -/

/-- No rule delivers a token under the name of unknown characters. -/
def ReservesName (b : Rulebook) : Prop :=
  ∀ text r, text ≠ [] → Unbroken b.accepts text → b.winner? text = some r → r.ignored = false →
    r.name ≠ unknownName

theorem poses_segment_iff {r : Rule} {text : List Char} :
    (r.segment text).Poses ↔ r.ignored = false ∧ r.name = unknownName := by
  unfold Segment.Poses Rule.segment
  cases r.ignored <;> simp

/-- A book reserves the name if and only if no segment that rescanning makes poses. -/
theorem reservesName_iff (h : b.Coherent) :
    b.ReservesName ↔ ∀ s, b.Yields b.accepts s → ¬s.Poses := by
  constructor
  · intro hname s hs
    cases hs with
    | unknown _ => exact fun hposes => nomatch hposes.1
    | @token text _ hne hrun htoken =>
      rw [token?_eq_map_winner? h] at htoken
      obtain ⟨r, hr, rfl⟩ := Option.map_eq_some_iff.1 htoken
      rw [poses_segment_iff]
      exact fun hposes => hname text r hne hrun hr hposes.1 hposes.2
  · intro hposes text r hne hrun hr hopen hname
    have htoken : b.token? text = some (r.segment text) := by
      rw [token?_eq_map_winner? h, hr]
      rfl
    exact hposes _ (.token hne hrun htoken) (poses_segment_iff.2 ⟨hopen, hname⟩)

/-- It is enough that the rules of the name are ignored. -/
theorem reservesName_of_ignored
    (hrules : ∀ r ∈ b.rules, r.name = unknownName → r.ignored = true) : b.ReservesName := by
  intro text r _ _ hr hopen hname
  obtain ⟨i, -, hi⟩ := Option.bind_eq_some_iff.1 hr
  rw [hrules r (Array.mem_of_getElem? hi) hname] at hopen
  cases hopen

/-- An unknown character is one that no rule matches. -/
theorem Yields.unknown_cases (h : b.Coherent) (hs : b.Yields b.accepts s)
    (hkind : s.kind = .unknown) :
    ∃ c, s = .unknown c ∧ ∀ r ∈ b.rules, r.fits [c] = false ∧ r.accepts [c] = false := by
  cases hs with
  | token _ _ htoken =>
    obtain ⟨r, rfl⟩ := exists_rule_of_token? htoken
    exact (r.kind_segment_ne_unknown _ hkind).elim
  | @unknown c hc =>
    rw [h.accepts_singleton, ← Bool.not_eq_true, fits_iff] at hc
    refine ⟨c, rfl, fun r hr => ?_⟩
    have hfit : ¬r.fits [c] = true := fun hfit => hc ⟨r, hr, hfit⟩
    exact ⟨Bool.eq_false_iff.2 hfit, Bool.eq_false_iff.2 (mt r.fits_of_accepts hfit)⟩

end Rulebook

namespace Tokenizer

section

variable [Footprint] {t : Tokenizer} {s : Segment} {text : List Char}

/-! ## Traces -/

theorem yields_of_mem_trace (h : t.Sound) (hs : s ∈ (t.trace text).1) :
    t.rules.Yields t.rules.accepts s := by
  rw [trace_fst h] at hs
  exact Rulebook.yields_of_mem_flatMap_rescanAll hs

/-- Every segment that rescanning makes is the trace of some text. -/
theorem exists_trace {b : Rulebook} (h : b.Reachable) (hs : b.Yields b.accepts s) :
    ∃ c : Config, c.check = .ok () ∧ ∃ text, (trace ⟨b, c⟩ text).1 = [s] := by
  obtain ⟨text, htext⟩ := hs.exists_rescanAll
  have hsound : Sound ⟨b, { flushPolicy := .endOfStream, trimInput := false }⟩ := ⟨h, rfl⟩
  refine ⟨_, hsound.config, text, ?_⟩
  rw [trace_fst hsound, ← htext]
  exact List.flatMap_singleton ..

/-- The name of unknown characters tells those of the text from its other tokens. -/
structure TellsUnknown (t : Tokenizer) (text : List Char) : Prop where
  token : ∀ s ∈ (t.trace text).1, s.delivers = true →
    (s.token.isUnknown = true ↔ s.kind = .unknown)
  count : (t.tokens text).countP Token.isUnknown = (t.tokenize text).2.unknown
  character : ∀ token ∈ t.tokens text, token.isUnknown = true →
    ∃ c, token.text = .ofList [c] ∧
      ∀ r ∈ t.rules.rules, r.fits [c] = false ∧ r.accepts [c] = false

theorem countP_tokens (h : t.Sound) (text : List Char) :
    (t.tokens text).countP Token.isUnknown =
      (t.tokenize text).2.unknown + (t.trace text).1.countP Segment.Poses := by
  have hname : ∀ s ∈ (t.trace text).1, s.kind = .unknown → s.name = some unknownName := by
    intro s hs hkind
    obtain ⟨c, rfl, -⟩ := (yields_of_mem_trace h hs).unknown_cases h.rules.coherent hkind
    rfl
  have hcount := counter_trace h text .unknown
  rw [tokens_eq h, stats_tokenize h, Segment.countP_isUnknown hname, ← hcount]
  rfl

/-- The name tells the unknown characters unless some segment poses as one. -/
theorem tellsUnknown_iff_not_poses (h : t.Sound) :
    t.TellsUnknown text ↔ ∀ s ∈ (t.trace text).1, ¬s.Poses := by
  constructor
  · rintro htells s hs ⟨hkind, hname⟩
    have hdelivers : s.delivers = true := by simp [Segment.delivers, hkind]
    have hunknown := (htells.token s hs hdelivers).1 (Segment.isUnknown_token.2 hname)
    rw [hkind] at hunknown
    cases hunknown
  · intro hposes
    have hname : ∀ s ∈ (t.trace text).1, s.delivers = true →
        (s.token.isUnknown = true ↔ s.kind = .unknown) := by
      intro s hs hdelivers
      rw [Segment.isUnknown_token]
      constructor
      · intro hname
        by_contra hkind
        refine hposes s hs ⟨?_, hname⟩
        simpa [Segment.delivers, hkind] using hdelivers
      · intro hkind
        obtain ⟨c, rfl, -⟩ := (yields_of_mem_trace h hs).unknown_cases h.rules.coherent hkind
        rfl
    refine ⟨hname, ?_, fun token htoken hunknown => ?_⟩
    · rw [countP_tokens h, List.countP_eq_zero.2 fun s hs => by simpa using hposes s hs]
      rfl
    · rw [tokens_eq h] at htoken
      obtain ⟨s, hs, rfl⟩ := List.mem_map.1 htoken
      obtain ⟨hs, hdelivers⟩ := List.mem_filter.1 hs
      have hkind := (hname s hs hdelivers).1 hunknown
      obtain ⟨c, rfl, hrules⟩ := (yields_of_mem_trace h hs).unknown_cases h.rules.coherent hkind
      exact ⟨c, rfl, hrules⟩

/-! ## Main results -/

/-- **The name tells the unknown characters of a text if and only if no rule delivers a token of the
text under it.** This holds for all configurations and texts if and only if the book reserves the
name. -/
theorem tellsUnknown_iff (h : t.Reachable) :
    (∀ text,
      (∀ s ∈ (t.trace text).1, s.kind = .unknown → s.token.isUnknown = true ∧
        ∃ c, s = .unknown c ∧ ∀ r ∈ t.rules.rules, r.fits [c] = false ∧ r.accepts [c] = false) ∧
      (t.tokens text).countP Token.isUnknown = (t.tokenize text).2.unknown +
        (t.trace text).1.countP (fun s => s.kind = .emitted ∧ s.name = some unknownName) ∧
      (t.TellsUnknown text ↔
        ∀ s ∈ (t.trace text).1, s.kind = .emitted → s.name ≠ some unknownName)) ∧
      ((∀ c : Config, c.check = .ok () → ∀ text, TellsUnknown ⟨t.rules, c⟩ text) ↔
        t.rules.ReservesName) ∧
      ((∀ r ∈ t.rules.rules, r.name = unknownName → r.ignored = true) →
        t.rules.ReservesName) := by
  have hcoh := h.sound.rules.coherent
  refine ⟨fun text => ⟨fun s hs hkind => ?_, countP_tokens h.sound text, ?_⟩, ?_,
    Rulebook.reservesName_of_ignored⟩
  · obtain ⟨c, rfl, hrules⟩ := (yields_of_mem_trace h.sound hs).unknown_cases hcoh hkind
    exact ⟨rfl, c, rfl, hrules⟩
  · rw [tellsUnknown_iff_not_poses h.sound]
    simp only [Segment.Poses, not_and, ne_eq]
  · rw [Rulebook.reservesName_iff hcoh]
    constructor
    · intro hall s hs
      obtain ⟨c, hc, text, htext⟩ := exists_trace h.sound.rules hs
      have hsound : Sound ⟨t.rules, c⟩ := ⟨h.sound.rules, hc⟩
      exact (tellsUnknown_iff_not_poses hsound).1 (hall c hc text) s (by rw [htext]; simp)
    · intro hposes c hc text
      have hsound : Sound ⟨t.rules, c⟩ := ⟨h.sound.rules, hc⟩
      exact (tellsUnknown_iff_not_poses hsound).2 fun s hs =>
        hposes s (yields_of_mem_trace (t := ⟨t.rules, c⟩) hsound hs)

end

/-- No rule has the reserved name, so it tells the one unknown character. -/
theorem tellsUnknown_letters :
    letters.Reachable ∧ letters.rules.ReservesName ∧ letters.TellsUnknown ['a', 'é', 'b'] ∧
      (letters.tokens ['a', 'é', 'b']).countP Token.isUnknown = 1 := by
  obtain ⟨htext, hreserves, hignored⟩ := tellsUnknown_iff reachable_letters
  have hname : letters.rules.ReservesName := hignored (by decide +kernel)
  obtain ⟨-, hcount, -⟩ := htext ['a', 'é', 'b']
  exact ⟨reachable_letters, hname, hreserves.2 hname letters.config rfl _,
    hcount.trans (by decide +kernel)⟩

/-- A tokenizer with a rule of the reserved name. -/
def posing : Tokenizer := ⟨Rulebook.empty.offer ⟨"a", "_unknown_", false⟩, {}⟩

/-- A token of a rule is unknown by its name, and no unknown character is counted. -/
theorem not_tellsUnknown_posing :
    posing.Reachable ∧ posing.tokens ['a'] = [⟨"a", "_unknown_"⟩] ∧
      (posing.tokens ['a']).countP Token.isUnknown = 1 ∧
      (posing.tokenize ['a']).2.unknown = 0 ∧ posing.rules.accepts ['a'] = true ∧
      ¬posing.TellsUnknown ['a'] := by
  have htokens : (posing.tokens ['a']).countP Token.isUnknown = 1 := by decide +kernel
  have hunknown : (posing.tokenize ['a']).2.unknown = 0 := by decide +kernel
  refine ⟨reachable_mk (Rulebook.Reachable.empty.offer _) rfl, by decide +kernel, htokens, hunknown,
    by decide +kernel, fun htells => ?_⟩
  exact Nat.one_ne_zero (htokens.symm.trans (htells.count.trans hunknown))

end Tokenizer

end Munch
