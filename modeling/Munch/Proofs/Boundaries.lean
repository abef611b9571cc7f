import Mathlib.Data.List.Forall2
import Munch.Proofs.RuleIndex
import Munch.Proofs.Tokenizer

/-!
# What decides where segments end

Two books are compared on one text. If their probes accept the same texts, then they cut the text at
the same places, and each segment of the one run stands beside a segment of the other.

**Theorem (`forall₂_trace`).** What holds between the tokens of every text that is accepted, and of
every character that fails with itself, holds between the segments of the traces.

**Theorem (`trace_sameSpan`).** Where segments end is decided by the set of patterns alone. The
order of the rules, their names and whether they are ignored decide what the segments of the rules
are called and whether they are delivered.

The set of patterns is enough because a probe does not look at the order of its patterns.
-/

namespace Munch

/-! ## Counting segments of rules -/

/-- Whether a rule resolved the text. -/
def Resolution.byRule : Resolution → Bool
  | emitted | ignored => true
  | unknown | dropped => false

@[simp] theorem Rule.byRule_segment (r : Rule) (text : List Char) :
    (r.segment text).kind.byRule = true := by
  unfold Rule.segment
  cases r.ignored <;> rfl

/-- The number of segments of rules, delivered or not. -/
def Stats.byRule (s : Stats) : Nat := s.emitted + s.ignored

/-- Statistics that differ at most in which segments of rules are delivered. -/
structure Stats.Alike (s s' : Stats) : Prop where
  byRule : s'.byRule = s.byRule
  unknown : s'.unknown = s.unknown
  dropped : s'.dropped = s.dropped
  chunks : s'.chunks = s.chunks

theorem Stats.alike_tally (n : Nat) {segments segments' : List Segment}
    (h : List.Forall₂ (fun s s' : Segment =>
      s'.kind = s.kind ∨ s.kind.byRule = true ∧ s'.kind.byRule = true) segments segments') :
    (tally n segments).Alike (tally n segments') := by
  induction h with
  | nil => exact ⟨rfl, rfl, rfl, rfl⟩
  | @cons s s' segments segments' hkind _ ih =>
    obtain ⟨hrule, hunknown, hdropped, -⟩ := ih
    simp only [Stats.byRule, tally] at hrule hunknown hdropped
    obtain ⟨text, name, kind⟩ := s
    obtain ⟨text', name', kind'⟩ := s'
    constructor <;> cases kind <;> cases kind' <;>
      simp_all [Stats.byRule, tally, Resolution.byRule] <;> omega

/-! ## Two books with one test -/

namespace Rulebook

variable {b b' : Rulebook} {test : List Char → Bool} {R : Segment → Segment → Prop}

section

variable (hunknown : ∀ c, test [c] = false → R (.unknown c) (.unknown c))
  (htoken : ∀ p, test p = true → List.Forall₂ R (b.token? p).toList (b'.token? p).toList)

include hunknown htoken

/-- Rescanning holds the same text with both books, and the tokens found before it correspond. -/
theorem forall₂_rescan (text : List Char) :
    List.Forall₂ R (b.rescan test text).1 (b'.rescan test text).1 ∧
      (b'.rescan test text).2 = (b.rescan test text).2 := by
  fun_induction b.rescan test text with
  | case1 =>
    rw [rescan]
    exact ⟨.nil, rfl⟩
  | case2 c cs n hn ih =>
    rw [rescan_cons_of_eq_zero hn]
    exact ⟨.cons (hunknown c (test_of_prefixRun_eq_zero hn)) ih.1, ih.2⟩
  | case3 c cs n h₀ hn =>
    rw [rescan_of_unbroken (prefixRun_eq_length_iff.1 hn)]
    exact ⟨.nil, rfl⟩
  | case4 c cs n h₀ hn ih =>
    have hlt : n < (c :: cs).length := Nat.lt_of_le_of_ne (prefixRun_le_length ..) hn
    rw [rescan_of_lt h₀ hlt]
    exact ⟨List.rel_append (htoken _ (test_take_prefixRun h₀)) ih.1, ih.2⟩

theorem forall₂_rescanAll (text : List Char) :
    List.Forall₂ R (b.rescanAll test text) (b'.rescanAll test text) := by
  obtain ⟨hfound, hheld⟩ := forall₂_rescan hunknown htoken text
  unfold rescanAll
  rw [hheld]
  refine List.rel_append hfound ?_
  split_ifs with hne
  · exact .nil
  · exact htoken _ ((unbroken_rescan b test text).self hne)

end

end Rulebook

namespace Tokenizer

variable {b b' : Rulebook} {c : Config} {R : Segment → Segment → Prop}

/-- **What holds between tokens holds between the segments of traces.** -/
theorem forall₂_trace [Footprint] (hb : b.Reachable) (hb' : b'.Reachable) (hc : c.check = .ok ())
    (haccepts : b'.accepts = b.accepts)
    (hunknown : ∀ c, b.accepts [c] = false → R (.unknown c) (.unknown c))
    (htoken : ∀ p, b.accepts p = true →
      List.Forall₂ R (b.token? p).toList (b'.token? p).toList) (text : List Char) :
    List.Forall₂ R (trace ⟨b, c⟩ text).1 (trace ⟨b', c⟩ text).1 := by
  rw [trace_fst ⟨hb, hc⟩, trace_fst ⟨hb', hc⟩, rescan, rescan, haccepts]
  show List.Forall₂ R ((parts ⟨b, c⟩ text).flatMap _) ((parts ⟨b, c⟩ text).flatMap _)
  induction parts ⟨b, c⟩ text with
  | nil => exact .nil
  | cons part parts ih =>
    rw [List.flatMap_cons, List.flatMap_cons]
    exact List.rel_append (Rulebook.forall₂_rescanAll hunknown htoken part) ih

/-- The statistics of traces whose segments correspond. -/
theorem alike_trace [Footprint] (hb : b.Reachable) (hb' : b'.Reachable) (hc : c.check = .ok ())
    {text : List Char}
    (h : List.Forall₂ (fun s s' : Segment =>
        s'.kind = s.kind ∨ s.kind.byRule = true ∧ s'.kind.byRule = true)
      (trace ⟨b, c⟩ text).1 (trace ⟨b', c⟩ text).1) :
    (trace ⟨b, c⟩ text).2.Alike (trace ⟨b', c⟩ text).2 := by
  have hsound : Sound ⟨b, c⟩ := ⟨hb, hc⟩
  have hsound' : Sound ⟨b', c⟩ := ⟨hb', hc⟩
  rw [trace_fst hsound, trace_fst hsound'] at h
  rw [trace_eq hsound, trace_eq hsound']
  exact Stats.alike_tally _ h

end Tokenizer

/-! ## Books with the same patterns -/

namespace Rulebook

variable {b b' : Rulebook}

/-- The patterns of the rules, as they were written. -/
def sources (b : Rulebook) : List String := b.rules.toList.map (·.pattern.source)

theorem Reachable.mem_patterns_iff [Footprint] (h : b.Reachable) {p : Pattern} :
    p ∈ b.patterns.patterns ↔ p.Compiled ∧ p.source ∈ b.sources := by
  rw [h.coherent.mem_patterns_iff, sources]
  simp only [List.mem_map, Array.mem_toList_iff]
  constructor
  · rintro ⟨r, hr, rfl⟩
    exact ⟨h.compiled_of_mem hr, r, hr, rfl⟩
  · rintro ⟨hp, r, hr, hsource⟩
    exact ⟨r, hr, (h.compiled_of_mem hr).eq_of_source hp hsource⟩

/-- Whether a text is accepted is decided by the set of patterns alone. -/
theorem accepts_congr [Footprint] (hb : b.Reachable) (hb' : b'.Reachable)
    (h : ∀ source, source ∈ b'.sources ↔ source ∈ b.sources) : b'.accepts = b.accepts := by
  refine PatternSet.accepts_congr fun p => ?_
  rw [hb.mem_patterns_iff, hb'.mem_patterns_iff, h]

end Rulebook

/-- The patterns of `letters` in the other order, one of them twice, with other names and flags. -/
def Rulebook.reordered : Rulebook :=
  ((Rulebook.empty.offer ⟨"a|b", "one", false⟩).offer ⟨"a+", "many", true⟩).offer
    ⟨"a|b", "none", true⟩

theorem Rulebook.reachable_reordered : reordered.Reachable :=
  ((Reachable.empty.offer _).offer _).offer _

/-- The segments cover the same text. Either they are the same, or each is of a rule. -/
structure Segment.SameSpan (s s' : Segment) : Prop where
  text : s'.text = s.text
  unknown : s'.kind = .unknown ↔ s.kind = .unknown
  same : s' = s ∨ s.kind.byRule = true ∧ s'.kind.byRule = true

theorem Segment.SameSpan.refl (s : Segment) : s.SameSpan s := ⟨rfl, Iff.rfl, .inl rfl⟩

theorem Rule.sameSpan_segment (r r' : Rule) (text : List Char) :
    (r.segment text).SameSpan (r'.segment text) where
  text := rfl
  unknown := iff_of_false (r'.kind_segment_ne_unknown text) (r.kind_segment_ne_unknown text)
  same := .inr ⟨r.byRule_segment text, r'.byRule_segment text⟩

namespace Tokenizer

variable {b b' : Rulebook} {c : Config}

/-- **Where segments end is decided by the set of patterns.** The order of the rules, their names
and whether they are ignored decide on the rest. -/
theorem trace_sameSpan [Footprint] (hb : b.Reachable) (hb' : b'.Reachable)
    (h : ∀ source, source ∈ b'.sources ↔ source ∈ b.sources) (hc : c.check = .ok ())
    (text : List Char) :
    List.Forall₂ Segment.SameSpan (trace ⟨b, c⟩ text).1 (trace ⟨b', c⟩ text).1 ∧
      (trace ⟨b, c⟩ text).2.Alike (trace ⟨b', c⟩ text).2 := by
  have haccepts := Rulebook.accepts_congr hb hb' h
  have hspan : List.Forall₂ Segment.SameSpan (trace ⟨b, c⟩ text).1 (trace ⟨b', c⟩ text).1 := by
    refine forall₂_trace hb hb' hc haccepts (fun _ _ => Segment.SameSpan.refl _) (fun p hp => ?_)
      text
    obtain ⟨r, -, hr⟩ := Rulebook.token?_of_fits (hb.coherent.fits_of_accepts hp)
    obtain ⟨r', -, hr'⟩ := Rulebook.token?_of_fits (hb'.coherent.fits_of_accepts (haccepts ▸ hp))
    rw [hr, hr']
    exact .cons (r.sameSpan_segment r' p) .nil
  refine ⟨hspan, alike_trace hb hb' hc (hspan.imp fun s s' hs => ?_)⟩
  exact hs.same.imp_left (congrArg Segment.kind)

/-- The cut after two characters splits a run of one letter with both books. -/
theorem trace_sameSpan_letters :
    Rulebook.letters.Reachable ∧ Rulebook.reordered.Reachable ∧
      Rulebook.reordered.sources = ["a|b", "a+", "a|b"] ∧
      (letters.trace ['a', 'a', 'a', '?', 'b']).1 =
        [⟨"aa", some "run", .emitted⟩, ⟨"a", some "run", .emitted⟩,
          ⟨"?", some "_unknown_", .unknown⟩, ⟨"b", some "letter", .ignored⟩] ∧
      (trace ⟨.reordered, letters.config⟩ ['a', 'a', 'a', '?', 'b']).1 =
        [⟨"aa", some "many", .ignored⟩, ⟨"a", some "one", .emitted⟩,
          ⟨"?", some "_unknown_", .unknown⟩, ⟨"b", some "one", .emitted⟩] ∧
      List.Forall₂ Segment.SameSpan (letters.trace ['a', 'a', 'a', '?', 'b']).1
        (trace ⟨.reordered, letters.config⟩ ['a', 'a', 'a', '?', 'b']).1 := by
  have hsources : ∀ source,
      source ∈ Rulebook.reordered.sources ↔ source ∈ Rulebook.letters.sources := by
    have hreordered : Rulebook.reordered.sources = ["a|b", "a+", "a|b"] := by decide +kernel
    have hletters : Rulebook.letters.sources = ["a+", "a|b"] := by decide +kernel
    intro source
    rw [hreordered, hletters]
    simp only [List.mem_cons, List.not_mem_nil]
    tauto
  exact ⟨Rulebook.reachable_letters, Rulebook.reachable_reordered, by decide +kernel,
    by decide +kernel, by decide +kernel,
    (trace_sameSpan Rulebook.reachable_letters Rulebook.reachable_reordered hsources rfl _).1⟩

end Tokenizer

end Munch
