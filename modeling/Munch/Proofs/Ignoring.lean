import Munch.Proofs.Boundaries

/-!
# What ignoring a rule changes

Ignoring a rule **hides** the segments that the rule wins, and nothing else.

**Theorem (`trace_ignore`).** After a rule is ignored, a trace has the same segments in the same
order, and those whose text the rule wins are ignored. The tokens are those of before without the
tokens of such texts. Ignoring a name that no rule has changes nothing.

The flag of a rule has no part in what is accepted or in who wins, so the two runs find tokens of
the same texts under rules at the same positions. No unknown character is hidden: no rule fits it,
because a probe misses nothing in a text of one character.
-/

namespace Munch

namespace Rulebook

variable {b : Rulebook} {i : Nat} {name : String} {text : List Char}

/-- A probe of the book misses nothing in a text of one character. -/
theorem Coherent.accepts_singleton (h : b.Coherent) (c : Char) : b.accepts [c] = b.fits [c] := by
  show b.patterns.accepts [c] = _
  rw [PatternSet.accepts_singleton, h.patterns, List.any_map]
  rfl

theorem priority?_eq_none_of_not_fits (h : b.Coherent) (hfit : b.fits text = false) :
    b.priority? text = none := by
  rw [← h.isSome_priority?, Option.isSome_eq_false_iff, Option.isNone_iff_eq_none] at hfit
  exact hfit

theorem token?_eq_map_winner? (h : b.Coherent) (text : List Char) :
    b.token? text = (b.winner? text).map (·.segment text) := by
  rw [h.winner?_eq_find?]
  rfl

/-! ## Hiding segments -/

/-- What becomes of a segment if the rule at a position is ignored. -/
def hide (b : Rulebook) (i : Nat) (s : Segment) : Segment :=
  if b.priority? s.chars = some i then { s with kind := .ignored } else s

theorem Reachable.ignoreAt [Footprint] (h : b.Reachable) (hn : b.named? name = some i) :
    (b.ignoreAt i).Reachable := by
  have hreach := h.ignore name
  rwa [ignore_eq h, hn] at hreach

/-- A character that fails is not hidden. -/
theorem hide_unknown (h : b.Coherent) {c : Char} (hc : b.accepts [c] = false) :
    b.hide i (.unknown c) = .unknown c := by
  rw [h.accepts_singleton] at hc
  simp [hide, priority?_eq_none_of_not_fits h hc]

theorem hide_segment (b : Rulebook) (i : Nat) (r : Rule) (text : List Char) :
    b.hide i (r.segment text) =
      if b.priority? text = some i then { r with ignored := true }.segment text
      else r.segment text := by
  unfold hide
  rw [r.chars_segment]
  rfl

/-- The token of a text is hidden if the rule wins the text. -/
theorem token?_ignoreAt [Footprint] (h : b.Reachable) (hn : b.named? name = some i)
    (text : List Char) :
    (b.ignoreAt i).token? text = (b.token? text).map (b.hide i) := by
  rw [token?_eq_map_winner? (h.ignoreAt hn).coherent, token?_eq_map_winner? h.coherent]
  show Option.map _ ((b.priority? text).bind fun j => (b.rules.modify i _)[j]?) =
    (((b.priority? text).bind fun j => b.rules[j]?).map _).map _
  cases hp : b.priority? text with
  | none => rfl
  | some j =>
    simp only [Option.bind_some, Array.getElem?_modify]
    cases b.rules[j]? with
    | none => simp
    | some r =>
      by_cases hij : i = j
      · simp [hij, hide_segment, hp]
      · simp [hij, hide_segment, hp, Ne.symm hij]

theorem byRule_kind_hide_segment (b : Rulebook) (i : Nat) (r : Rule) (text : List Char) :
    (b.hide i (r.segment text)).kind.byRule = true := by
  rw [hide_segment]
  split_ifs <;> exact Rule.byRule_segment ..

/-- The tokens that are delivered in spite of hiding. -/
theorem tokens_hide (b : Rulebook) (i : Nat) (segments : List Segment) :
    ((segments.map (b.hide i)).filter Segment.delivers).map Segment.token =
      ((segments.filter Segment.delivers).map Segment.token).filter
        fun token => b.priority? token.text.toList ≠ some i := by
  rw [List.filter_map, List.filter_map, List.filter_filter, List.map_map]
  have hdelivers : ∀ s : Segment, (b.hide i s).delivers =
      (decide (b.priority? s.chars ≠ some i) && s.delivers) := by
    intro s
    unfold hide
    by_cases hs : b.priority? s.chars = some i
    · simp [hs, Segment.delivers]
    · simp [hs]
  have htoken : ∀ s : Segment, (b.hide i s).token = s.token := by
    intro s
    unfold hide
    split_ifs <;> rfl
  exact congrArg₂ List.map (funext htoken) (congrArg (List.filter · segments) (funext hdelivers))

end Rulebook

namespace Tokenizer

section

variable [Footprint] {t : Tokenizer} {i : Nat} {name : String}

theorem ignore_of_named (h : t.Sound) (hn : t.rules.named? name = some i) :
    t.ignore name = ({ t with rules := t.rules.ignoreAt i }, []) := by
  unfold ignore
  rw [Rulebook.ignore_eq h.rules, hn]

theorem ignore_of_not_named (h : t.Sound) (hn : t.rules.named? name = none) :
    t.ignore name = (t, [Log.unknownRule name]) := by
  unfold ignore
  rw [Rulebook.ignore_eq h.rules, hn]

/-- Each segment of the later trace is that of the earlier one, hidden if the rule wins its text. -/
theorem forall₂_ignoreAt (h : t.Sound) (hn : t.rules.named? name = some i) (text : List Char) :
    List.Forall₂ (fun s s' => t.rules.hide i s = s' ∧
        (s'.kind = s.kind ∨ s.kind.byRule = true ∧ s'.kind.byRule = true))
      (t.trace text).1 (trace ⟨t.rules.ignoreAt i, t.config⟩ text).1 := by
  refine forall₂_trace h.rules (h.rules.ignoreAt hn) h.config rfl (fun c hc => ?_) (fun p _ => ?_)
    text
  · exact ⟨Rulebook.hide_unknown h.rules.coherent hc, .inl rfl⟩
  · rw [Rulebook.token?_ignoreAt h.rules hn]
    unfold Rulebook.token?
    cases t.rules.rules.toList.find? (·.fits p) with
    | none => exact .nil
    | some r =>
      have hkinds := Rulebook.byRule_kind_hide_segment t.rules i r p
      exact .cons ⟨rfl, .inr ⟨r.byRule_segment p, hkinds⟩⟩ .nil

theorem trace_ignoreAt (h : t.Sound) (hn : t.rules.named? name = some i) (text : List Char) :
    (trace ⟨t.rules.ignoreAt i, t.config⟩ text).1 = (t.trace text).1.map (t.rules.hide i) := by
  have hhide := (forall₂_ignoreAt h hn text).imp fun _ _ hs => hs.1
  rw [← List.forall₂_map_left_iff, List.forall₂_eq_eq_eq] at hhide
  exact hhide.symm

theorem alike_trace_ignoreAt (h : t.Sound) (hn : t.rules.named? name = some i)
    (text : List Char) :
    (t.trace text).2.Alike (trace ⟨t.rules.ignoreAt i, t.config⟩ text).2 :=
  alike_trace h.rules (h.rules.ignoreAt hn) h.config
    ((forall₂_ignoreAt h hn text).imp fun _ _ hs => hs.2)

theorem tokens_ignoreAt (h : t.Sound) (hn : t.rules.named? name = some i) (text : List Char) :
    tokens ⟨t.rules.ignoreAt i, t.config⟩ text =
      (t.tokens text).filter fun token => t.rules.priority? token.text.toList ≠ some i := by
  have hsound : Sound ⟨t.rules.ignoreAt i, t.config⟩ := ⟨h.rules.ignoreAt hn, h.config⟩
  rw [tokens_eq h, tokens_eq hsound, trace_ignoreAt h hn]
  exact Rulebook.tokens_hide ..

/-- **Ignoring a rule hides the texts that it wins.** Ignoring a name that no rule has changes
nothing. -/
theorem trace_ignore (h : t.Reachable) (name : String) :
    (∀ i, t.rules.named? name = some i →
        (t.ignore name).2 = [] ∧ (t.ignore name).1.rules = t.rules.ignoreAt i ∧
        ∀ text,
          ((t.ignore name).1.trace text).1 = (t.trace text).1.map (t.rules.hide i) ∧
          (t.ignore name).1.tokens text =
            (t.tokens text).filter (fun token =>
              t.rules.priority? token.text.toList ≠ some i) ∧
          (t.trace text).2.Alike ((t.ignore name).1.trace text).2 ∧
          (t.tokenize text).2.Alike ((t.ignore name).1.tokenize text).2) ∧
      (t.rules.named? name = none →
        (t.ignore name).2 = [Log.unknownRule name] ∧
        ∀ text, (t.ignore name).1.trace text = t.trace text ∧
          (t.ignore name).1.tokenize text = t.tokenize text) := by
  have hsound := h.sound
  constructor
  · intro i hn
    have hsound' : Sound ⟨t.rules.ignoreAt i, t.config⟩ :=
      ⟨hsound.rules.ignoreAt hn, hsound.config⟩
    rw [ignore_of_named hsound hn]
    refine ⟨rfl, rfl, fun text => ⟨trace_ignoreAt hsound hn text, tokens_ignoreAt hsound hn text,
      alike_trace_ignoreAt hsound hn text, ?_⟩⟩
    rw [tokenize_eq hsound, tokenize_eq hsound']
    exact alike_trace_ignoreAt hsound hn text
  · intro hn
    rw [ignore_of_not_named hsound hn]
    exact ⟨rfl, fun _ => ⟨rfl, rfl⟩⟩

end

/-- The name is given in capitals. A character that no rule fits is still delivered. -/
theorem trace_ignore_letters :
    letters.Reachable ∧ letters.rules.named? "RUN" = some 0 ∧ (letters.ignore "RUN").2 = [] ∧
      ((letters.ignore "RUN").1.trace ['a', 'a', 'é', 'b']).1 =
        [⟨"aa", some "run", .ignored⟩, ⟨"é", some "_unknown_", .unknown⟩,
          ⟨"b", some "letter", .ignored⟩] ∧
      (letters.ignore "RUN").1.tokens ['a', 'a', 'é', 'b'] = [⟨"é", "_unknown_"⟩] ∧
      letters.rules.named? "other" = none ∧
      (letters.ignore "other").1.trace ['a', 'b'] = letters.trace ['a', 'b'] := by
  obtain ⟨hhide, -⟩ := trace_ignore reachable_letters "RUN"
  obtain ⟨-, hnone⟩ := trace_ignore reachable_letters "other"
  have hrun : letters.rules.named? "RUN" = some 0 := by decide +kernel
  have hother : letters.rules.named? "other" = none := by decide +kernel
  obtain ⟨hlines, -, htext⟩ := hhide 0 hrun
  obtain ⟨htrace, htokens, -⟩ := htext ['a', 'a', 'é', 'b']
  exact ⟨reachable_letters, hrun, hlines, htrace.trans (by decide +kernel),
    htokens.trans (by decide +kernel), hother, ((hnone hother).2 ['a', 'b']).1⟩

end Tokenizer

end Munch
