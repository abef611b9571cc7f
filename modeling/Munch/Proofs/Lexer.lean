import Munch.Lexer
import Munch.Proofs.Rescan

/-!
# A lexer finds the tokens of rescanning

A lexer keeps what is pending and does not test again what it knows to match. Its tokens are still
those of rescanning: the state after some calls is that `after` the blocks of text between the
flushes.

**Theorem (`run_eq_after`).** The segments and the pending text after any calls are those of
rescanning each block, with the probe as the test.

**Theorem (`unbroken_pending`).** Every prefix of the pending text matches.

The pending text is what rescanning holds, and that is unbroken: so the run of prefixes that `reach`
goes on with is the one that `prefixRun` starts over. Hence the main results: where a text is cut
makes no difference, no text is skipped and none is given up. The rules themselves can be the test
if and only if the book is thorough.
-/

namespace Munch

namespace Rulebook

variable {b : Rulebook} {text : List Char} {known : Nat}

/-! ## Reaching -/

theorem accepts_probe (b : Rulebook) (text : List Char) :
    (b.patterns.probe text).accepts = b.accepts text := rfl

theorem reachFrom_probe (b : Rulebook) (pre cs : List Char) (h : Unbroken b.accepts pre) :
    reachFrom (b.patterns.probe pre) pre.length cs = prefixRun b.accepts (pre ++ cs) := by
  induction cs generalizing pre with
  | nil =>
    rw [List.append_nil]
    exact (prefixRun_eq_length_iff.2 h).symm
  | cons c cs ih =>
    have htake : (pre ++ c :: cs).take pre.length = pre := List.take_left
    have htake' : (pre ++ c :: cs).take (pre.length + 1) = pre ++ [c] := by
      rw [List.take_length_add_append]
      rfl
    simp only [reachFrom, ← PatternSet.probe_concat, accepts_probe]
    split_ifs with hacc
    · have hrun : Unbroken b.accepts (pre ++ [c]) := by
        rw [← htake'] at hacc ⊢
        exact unbroken_take_succ (htake.symm ▸ h) hacc
      have hih := ih (pre ++ [c]) hrun
      rwa [List.length_append, List.append_assoc] at hih
    · refine (prefixRun_eq ?_ (htake.symm ▸ h) fun _ => ?_).symm
      · rw [List.length_append]
        omega
      · rw [htake']
        exact Bool.eq_false_iff.2 hacc

/-- What is known to match need not be tested again. -/
theorem reach_eq (hk : known ≤ text.length) (h : Unbroken b.accepts (text.take known)) :
    b.reach text known = prefixRun b.accepts text := by
  have hreach := reachFrom_probe b (text.take known) (text.drop known) h
  rwa [List.length_take_of_le hk, List.take_append_drop] at hreach

theorem reach_zero (b : Rulebook) (text : List Char) :
    b.reach text 0 = prefixRun b.accepts text := reach_eq (Nat.zero_le _) unbroken_nil

/-! ## Resolving -/

theorem addAll_token (h : b.Coherent) (text : List Char) (out : Transcript) :
    (match b.winner? text with
      | some r => out.addMatch (.ofList text) r
      | none => out) = out.addAll (b.token? text).toList := by
  rw [h.winner?_eq_find?, token?]
  cases b.rules.toList.find? (·.fits text) with
  | none => rfl
  | some r => exact out.addMatch_eq r text

theorem resolve_eq (h : b.Coherent) (hk : known ≤ text.length)
    (hrun : Unbroken b.accepts (text.take known)) (out : Transcript) :
    b.resolve known text out =
      ((b.rescan b.accepts text).2, out.addAll (b.rescan b.accepts text).1) := by
  -- Only the first step knows of prefixes that match; behind it, `known` is zero.
  fun_induction b.resolve known text out with
  | case1 => rw [rescan]; rfl
  | case2 known out c cs n hn ih =>
    rw [ih (Nat.zero_le _) unbroken_nil, rescan_cons_of_eq_zero ((reach_eq hk hrun).symm.trans hn)]
    rfl
  | case3 known out c cs n h₀ hn =>
    have hall : prefixRun b.accepts (c :: cs) = (c :: cs).length :=
      (reach_eq hk hrun).symm.trans hn
    rw [rescan_of_unbroken (prefixRun_eq_length_iff.1 hall)]
    rfl
  | case4 known out c cs n h₀ hn token out' ih =>
    have hreach : prefixRun b.accepts (c :: cs) = n := (reach_eq hk hrun).symm
    have hlt : n < (c :: cs).length :=
      Nat.lt_of_le_of_ne (hreach ▸ prefixRun_le_length ..) hn
    have hstep := rescan_of_lt (b := b) (hreach.symm ▸ h₀) (hreach.symm ▸ hlt)
    rw [ih (Nat.zero_le _) unbroken_nil, hstep, hreach, Transcript.addAll_append]
    exact congrArg₂ Prod.mk rfl (congrArg (Transcript.addAll · _) (addAll_token h _ _))

end Rulebook

namespace Lexer

variable {b : Rulebook}

/-! ## States -/

/-- The lexer and the transcript after the segments `done` and the text `last`. -/
def after (b : Rulebook) (out : Transcript) (done : List Segment) (last : List Char) :
    Lexer × Transcript :=
  (⟨(b.rescan b.accepts last).2⟩, out.addAll (done ++ (b.rescan b.accepts last).1))

theorem after_nil (b : Rulebook) (out : Transcript) : after b out [] [] = ({}, out) := by
  rw [after, Rulebook.rescan]
  rfl

theorem read_eq (h : b.Coherent) {l : Lexer} (hl : Unbroken b.accepts l.pending)
    (text : List Char) (out : Transcript) :
    l.read b text out =
      (⟨(b.rescan b.accepts (l.pending ++ text)).2⟩,
        out.addAll (b.rescan b.accepts (l.pending ++ text)).1) := by
  unfold read
  rw [Rulebook.resolve_eq h (by simp) (by simpa using hl)]

theorem flush_eq (h : b.Coherent) {l : Lexer} (hl : Unbroken b.accepts l.pending)
    (out : Transcript) :
    l.flush b out =
      ({}, out.addAll (if l.pending = [] then [] else (b.token? l.pending).toList)) := by
  obtain ⟨pending⟩ := l
  cases pending with
  | nil => rfl
  | cons c cs =>
    have hfit : b.fits (c :: cs) = true :=
      h.fits_of_accepts (hl.self (List.cons_ne_nil c cs))
    obtain ⟨r, hr, ht⟩ := Rulebook.token?_of_fits hfit
    simp only [flush, h.winner?_eq_find?, hr, ht, if_neg (List.cons_ne_nil c cs)]
    rw [Transcript.addMatch_eq]
    rfl

/-- Nothing is pending after a flush. -/
theorem flush_fst (b : Rulebook) (l : Lexer) (out : Transcript) : (l.flush b out).1 = {} := by
  obtain ⟨pending⟩ := l
  cases pending with
  | nil => rfl
  | cons c cs =>
    simp only [flush]
    cases b.winner? (c :: cs) <;> rfl

theorem read_after (h : b.Coherent) (out : Transcript) (done : List Segment)
    (last text : List Char) :
    (after b out done last).1.read b text (after b out done last).2 =
      after b out done (last ++ text) := by
  rw [read_eq h (b.unbroken_rescan b.accepts last)]
  unfold after
  rw [Rulebook.rescan_append b b.accepts last text, ← Transcript.addAll_append, List.append_assoc]

theorem flush_after (h : b.Coherent) (out : Transcript) (done : List Segment)
    (last : List Char) :
    (after b out done last).1.flush b (after b out done last).2 =
      after b out (done ++ b.rescanAll b.accepts last) [] := by
  rw [flush_eq h (b.unbroken_rescan b.accepts last)]
  unfold after Rulebook.rescanAll
  rw [← Transcript.addAll_append, List.append_assoc, Rulebook.rescan, List.append_nil]

theorem addChunk_after (b : Rulebook) (out : Transcript) (done : List Segment)
    (last : List Char) :
    ((after b out done last).1, (after b out done last).2.addChunk) =
      after b out.addChunk done last := by
  unfold after
  rw [Transcript.addChunk_addAll]

/-! ## Calls -/

/-- What a lexer can be told to do. -/
inductive Call where
  | read (text : List Char)
  | flush
deriving DecidableEq, Repr

namespace Call

/-- The text that the call brings. -/
def text : Call → List Char
  | read text => text
  | flush => []

def apply (b : Rulebook) (s : Lexer × Transcript) : Call → Lexer × Transcript
  | read text => s.1.read b text s.2
  | flush => s.1.flush b s.2

/-- Adds a call to the blocks that are flushed and the block that is still read. -/
def block (s : List (List Char) × List Char) : Call → List (List Char) × List Char
  | read text => (s.1, s.2 ++ text)
  | flush => (s.1 ++ [s.2], [])

end Call

/-- A fresh lexer and a transcript after some calls. -/
def run (b : Rulebook) (calls : List Call) (out : Transcript) : Lexer × Transcript :=
  calls.foldl (Call.apply b) ({}, out)

/-- The texts between the flushes, and the text after the last one. -/
def blocks (calls : List Call) : List (List Char) × List Char := calls.foldl Call.block ([], [])

/-- The segments of some calls on a fresh lexer, and the text that is pending after them. -/
def outcome (b : Rulebook) (calls : List Call) : List Segment × List Char :=
  ((run b calls .full).2.segments.toList, (run b calls .full).1.pending)

/-- What rescanning each block gives. -/
def naive (b : Rulebook) (test : List Char → Bool) (calls : List Call) :
    List Segment × List Char :=
  ((blocks calls).1.flatMap (b.rescanAll test) ++ (b.rescan test (blocks calls).2).1,
    (b.rescan test (blocks calls).2).2)

theorem run_append (b : Rulebook) (calls calls' : List Call) (out : Transcript) :
    run b (calls ++ calls') out = calls'.foldl (Call.apply b) (run b calls out) :=
  List.foldl_append

/-- **The state after some calls is that after their blocks.** -/
theorem run_eq_after (h : b.Coherent) (calls : List Call) (out : Transcript) :
    run b calls out =
      after b out ((blocks calls).1.flatMap (b.rescanAll b.accepts)) (blocks calls).2 := by
  induction calls using List.reverseRecOn with
  | nil => exact (after_nil b out).symm
  | append_singleton calls call ih =>
    rw [run_append, ih]
    unfold blocks
    rw [List.foldl_append]
    cases call with
    | read text => exact read_after h ..
    | flush =>
      show (after ..).1.flush b (after ..).2 = after b out (List.flatMap _ (_ ++ [_])) []
      rw [List.flatMap_append, List.flatMap_singleton]
      exact flush_after h ..

theorem flatten_blocks (calls : List Call) :
    (blocks calls).1.flatten ++ (blocks calls).2 = calls.flatMap Call.text := by
  induction calls using List.reverseRecOn with
  | nil => rfl
  | append_singleton calls call ih =>
    unfold blocks at ih ⊢
    rw [List.foldl_append, List.flatMap_append, ← ih]
    cases call <;> simp [Call.block, Call.text]

theorem outcome_eq (h : b.Coherent) (calls : List Call) :
    outcome b calls = naive b b.accepts calls := by
  unfold outcome
  rw [run_eq_after h]
  exact congrArg₂ Prod.mk (Transcript.segments_addAll rfl _) rfl

theorem unbroken_pending (h : b.Coherent) (calls : List Call) (out : Transcript) :
    Unbroken b.accepts (run b calls out).1.pending := by
  rw [run_eq_after h]
  exact b.unbroken_rescan b.accepts _

theorem exists_segments (h : b.Coherent) (calls : List Call) (out : Transcript) :
    ∃ segments : List Segment, (run b calls out).2 = out.addAll segments ∧
      segments.flatMap Segment.chars ++ (run b calls out).1.pending = calls.flatMap Call.text ∧
      ∀ s ∈ segments, s.kind ≠ .dropped := by
  have hfit : ∀ p, b.accepts p = true → b.fits p = true := fun _ => h.fits_of_accepts
  rw [run_eq_after h]
  refine ⟨_, rfl, ?_, fun s hs => ?_⟩
  · rw [List.flatMap_append, Rulebook.chars_flatMap_rescanAll hfit, List.append_assoc]
    exact (congrArg _ (Rulebook.chars_rescan hfit _)).trans (flatten_blocks calls)
  · rcases List.mem_append.1 hs with hs | hs
    · exact (Rulebook.makes_of_mem_flatMap_rescanAll hs).kind_ne_dropped
    · exact (Rulebook.makes_of_mem_rescan hs).kind_ne_dropped

/-! ## Main results -/

/-- **The outcome of a run is that of rescanning each block.** The test is the probe; it can be the
rules if and only if the book is thorough. Where a text is cut makes no difference. -/
theorem outcome_eq_naive [Footprint] (h : b.Reachable) :
    (∀ calls, outcome b calls = naive b b.accepts calls) ∧
      ((∀ calls, outcome b calls = naive b b.fits calls) ↔ b.Thorough) ∧
      ((∀ r ∈ b.rules, r.pattern.regex.nullableInside = false) → b.Thorough) ∧
      ∀ calls x y out,
        run b (calls ++ [.read x, .read y]) out = run b (calls ++ [.read (x ++ y)]) out := by
  refine ⟨outcome_eq h.coherent, ⟨fun hall => ?_, fun ht calls => ?_⟩,
    Rulebook.thorough_of_not_nullableInside h.coherent, fun calls x y out => ?_⟩
  · rw [Rulebook.thorough_iff h.coherent]
    intro text
    have hsame := (outcome_eq h.coherent [.read text]).symm.trans (hall [.read text])
    simpa [naive, blocks, Call.block, Prod.ext_iff] using hsame
  · rw [outcome_eq h.coherent]
    unfold naive
    rw [ht.rescan_eq h.coherent, ht.rescanAll_eq h.coherent]
  · rw [run_eq_after h.coherent, run_eq_after h.coherent]
    simp [blocks, Call.block, List.foldl_append]

/-- An outcome with an ignored token, a text that is flushed, and an unknown character. -/
theorem outcome_letters :
    Rulebook.letters.Reachable ∧ Rulebook.letters.Thorough ∧
      outcome Rulebook.letters [.read ['a'], .read [], .read ['a', 'b'], .flush, .read ['?', 'a']] =
        ([⟨"aa", some "run", .emitted⟩, ⟨"b", some "letter", .ignored⟩,
          ⟨"?", some "_unknown_", .unknown⟩], ['a']) := by
  obtain ⟨hall, -, hthorough, -⟩ := outcome_eq_naive Rulebook.reachable_letters
  exact ⟨Rulebook.reachable_letters, hthorough (by decide +kernel),
    (hall _).trans (by decide +kernel)⟩

/-- The probe stops after two characters, although a rule fits all three. -/
theorem outcome_inside :
    Rulebook.inside.Reachable ∧
      outcome Rulebook.inside [.read ['a', 'é', 'a']] =
        ([⟨"aé", some "any", .emitted⟩], ['a']) ∧
      naive Rulebook.inside Rulebook.inside.fits [.read ['a', 'é', 'a']] =
        ([], ['a', 'é', 'a']) :=
  ⟨Rulebook.reachable_inside, by decide +kernel, by decide +kernel⟩

/-- **Every prefix of the pending text matches a rule.** So what is known when more text comes is a
run of matching prefixes, every token has a winner, no text is skipped and none is given up. -/
theorem pending_matches [Footprint] (h : b.Reachable) (calls : List Call) (out : Transcript) :
    (∀ p, p <+: (run b calls out).1.pending → p ≠ [] →
        b.accepts p = true ∧ (b.winner? p).isSome = true ∧ ∃ r ∈ b.rules, r.accepts p = true) ∧
      (∀ text n, n = b.reach ((run b calls out).1.pending ++ text)
          (run b calls out).1.pending.length → n ≠ 0 →
        (b.winner? (((run b calls out).1.pending ++ text).take n)).isSome = true) ∧
      (∀ text n, n = b.reach text 0 → n ≠ 0 → (b.winner? (text.take n)).isSome = true) ∧
      (∃ segments : List Segment, (run b calls out).2 = out.addAll segments ∧
        segments.flatMap Segment.chars ++ (run b calls out).1.pending =
          calls.flatMap Call.text) ∧
      (run b calls out).2.stats.dropped = out.stats.dropped := by
  have hpend := unbroken_pending h.coherent calls out
  obtain ⟨segments, hout, hchars, hkind⟩ := exists_segments h.coherent calls out
  refine ⟨fun p hp hne => ?_, fun text n hn h₀ => ?_, fun text n hn h₀ => ?_,
    ⟨segments, hout, hchars⟩, hout ▸ Transcript.dropped_addAll hkind⟩
  · have hacc := hpend p hp hne
    exact ⟨hacc, h.coherent.isSome_winner?_of_accepts hacc,
      h.coherent.exists_accepts_of_accepts hacc⟩
  · rw [Rulebook.reach_eq (by simp) (by simpa using hpend)] at hn
    subst hn
    exact h.coherent.isSome_winner?_of_accepts (test_take_prefixRun h₀)
  · rw [Rulebook.reach_zero] at hn
    subst hn
    exact h.coherent.isSome_winner?_of_accepts (test_take_prefixRun h₀)

/-- A lexer that is reading again after a flush. -/
theorem pending_letters :
    Rulebook.letters.Reachable ∧
      (run Rulebook.letters [.read ['b', 'a'], .flush, .read ['b', 'a', 'a']] .full).1.pending =
        ['a', 'a'] ∧
      (∀ p, p <+: ['a', 'a'] → p ≠ [] → Rulebook.letters.accepts p = true ∧
        (Rulebook.letters.winner? p).isSome = true ∧
        ∃ r ∈ Rulebook.letters.rules, r.accepts p = true) ∧
      (run Rulebook.letters [.read ['b', 'a'], .flush, .read ['b', 'a', 'a']]
        .full).2.stats.dropped = 0 := by
  obtain ⟨hpre, -, -, -, hdropped⟩ := pending_matches Rulebook.reachable_letters
    [.read ['b', 'a'], .flush, .read ['b', 'a', 'a']] .full
  have hpend : (run Rulebook.letters [.read ['b', 'a'], .flush, .read ['b', 'a', 'a']]
      .full).1.pending = ['a', 'a'] := by decide +kernel
  rw [hpend] at hpre
  exact ⟨Rulebook.reachable_letters, hpend, hpre, hdropped⟩

end Lexer

end Munch
