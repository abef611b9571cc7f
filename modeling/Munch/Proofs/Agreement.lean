import Munch.Proofs.RuleKeys
import Mathlib.Data.List.Find

/-!
# The pattern set and the rules

A book decides a text with its pattern set, in one pass for all rules. The set **agrees** with the
rules on a text if it reports those that match the text on their own.

**Theorem (`priority?_run`).** Whatever led to a book, the priority of a text is the first place of
a rule that matches it, and the winner is the rule there, if the set agrees with the rules. A rule
that is added keeps the priority of every text that has one, and gets those it matches of the
others. The probe accepts a text if and only if the text has a priority, unless the probe misses it.

What a probe **misses** is settled by the matches in the text: where a pattern of the book is empty
inside a character, only matches without characters of several bytes count for it. Unless there is
such a pattern, the set agrees with the rules on every text, and the probe misses none.
-/

namespace Munch

/-- A pattern that is not empty inside a character is matched by itself as in a set. -/
theorem Pattern.accepts_eq_occursIn {p : Pattern} (h : p.regex.nullableInside = false)
    (text : List Char) : p.accepts text = p.regex.occursIn text := by
  unfold accepts
  split_ifs
  · rfl
  · rw [PatternSet.accepts_of_not_nullableInside (by simpa using h)]
    simp

namespace Rulebook

variable {b b' : Rulebook} {r : Rule} {text : List Char} {i : Nat}

/-! ## Agreement -/

/-- The pattern set reports the rules that match the text on their own. -/
def Agrees (b : Rulebook) (text : List Char) : Prop :=
  ∀ i r, b.rules[i]? = some r → (i ∈ (b.patterns.scan text).matched ↔ r.accepts text = true)

theorem Coherent.mem_matched_iff (h : b.Coherent) :
    i ∈ (b.patterns.scan text).matched ↔ ∃ r, b.rules[i]? = some r ∧ r.fits text = true := by
  rw [PatternSet.mem_matched_scan_iff, ← Array.getElem?_toList, h.patterns, List.getElem?_map,
    Array.getElem?_toList]
  simp only [Option.map_eq_some_iff]
  constructor
  · rintro ⟨p, ⟨r, hr, rfl⟩, hfit⟩
    exact ⟨r, hr, hfit⟩
  · rintro ⟨r, hr, hfit⟩
    exact ⟨r.pattern, ⟨r, hr, rfl⟩, hfit⟩

theorem Coherent.agrees_iff (h : b.Coherent) :
    b.Agrees text ↔ ∀ r ∈ b.rules.toList, r.fits text = r.accepts text := by
  have hreport : ∀ i r, b.rules[i]? = some r →
      (i ∈ (b.patterns.scan text).matched ↔ r.fits text = true) := by
    intro i r hr
    simp [h.mem_matched_iff, hr]
  constructor
  · intro ha r hr
    obtain ⟨i, hi⟩ := List.mem_iff_getElem?.1 hr
    rw [Array.getElem?_toList] at hi
    exact Bool.eq_iff_iff.2 ((hreport i r hi).symm.trans (ha i r hi))
  · intro ha i r hr
    have hmem := Array.mem_toList_iff.2 (Array.mem_of_getElem? hr)
    rw [hreport i r hr, ha r hmem]

theorem Coherent.agrees_of_not_nullableInside (h : b.Coherent)
    (hin : ∀ r ∈ b.rules, r.pattern.regex.nullableInside = false) : b.Agrees text :=
  h.agrees_iff.2 fun r hr =>
    (Pattern.accepts_eq_occursIn (hin r (Array.mem_toList_iff.1 hr)) text).symm

/-! ## What a probe misses -/

/-- Some rule fits the text, a pattern of the book is empty inside a character, and every match of
a rule holds a character of several bytes. -/
structure Misses (b : Rulebook) (text : List Char) : Prop where
  fits : b.fits text = true
  splits : ∃ r ∈ b.rules, r.pattern.regex.nullableInside = true
  wide : ∀ r ∈ b.rules, ∀ mid, r.pattern.regex.MatchIn mid text → ∃ c ∈ mid, c.utf8Size ≠ 1

theorem Coherent.accepts_iff (h : b.Coherent) :
    b.accepts text = true ↔ ∃ r ∈ b.rules, ∃ mid, r.pattern.regex.MatchIn mid text ∧
      ((∃ s ∈ b.rules, s.pattern.regex.nullableInside = true) → ∀ c ∈ mid, c.utf8Size = 1) := by
  show b.patterns.accepts text = true ↔ _
  rw [PatternSet.accepts_iff]
  simp only [h.mem_patterns_iff, exists_exists_and_eq_and]

/-- **A probe accepts what some rule fits, unless it misses it.** -/
theorem Coherent.accepts_eq_fits_iff (h : b.Coherent) :
    b.accepts text = b.fits text ↔ ¬b.Misses text := by
  constructor
  · rintro hsame ⟨hfit, hsplits, hwide⟩
    obtain ⟨r, hr, mid, hmatch, hkeep⟩ := h.accepts_iff.1 (hsame.trans hfit)
    obtain ⟨c, hc, hsize⟩ := hwide r hr mid hmatch
    exact hsize (hkeep hsplits c hc)
  · intro hno
    refine Bool.eq_iff_iff.2 ⟨h.fits_of_accepts, fun hfit => ?_⟩
    by_contra hacc
    rw [h.accepts_iff] at hacc
    push Not at hacc
    refine hno ⟨hfit, ?_, fun r hr mid hmatch => (hacc r hr mid hmatch).2⟩
    obtain ⟨r, hr, hocc⟩ := fits_iff.1 hfit
    obtain ⟨mid, hmatch⟩ := Regex.occursIn_iff.1 hocc
    exact (hacc r hr mid hmatch).1

/-! ## Priorities -/

private theorem findIdx?_congr {α : Type} {p q : α → Bool} {l : List α}
    (h : ∀ a ∈ l, p a = q a) : l.findIdx? p = l.findIdx? q := by
  induction l with
  | nil => rfl
  | cons a l ih =>
    rw [List.findIdx?_cons, List.findIdx?_cons, h a List.mem_cons_self,
      ih fun b hb => h b (List.mem_cons_of_mem a hb)]

theorem Coherent.priority?_eq_of_agrees (h : b.Coherent) (ha : b.Agrees text) :
    b.priority? text = b.rules.toList.findIdx? (·.accepts text) := by
  rw [h.priority?_eq_findIdx?]
  exact findIdx?_congr (h.agrees_iff.1 ha)

theorem Coherent.winner?_eq_of_agrees (h : b.Coherent) (ha : b.Agrees text) :
    b.winner? text = b.rules.toList.find? (·.accepts text) := by
  rw [h.winner?_eq_find?]
  exact List.find?_congr (h.agrees_iff.1 ha)

section

variable [Footprint]

theorem priority?_push (h : b.Coherent) (hp : b.push r = .ok b') (text : List Char) :
    b'.priority? text = (b.priority? text).or (if r.fits text then some b.size else none) := by
  have h' := coherent_of_push hp
  obtain ⟨-, -, rfl⟩ := push_eq_ok.1 hp
  rw [h'.priority?_eq_findIdx?, h.priority?_eq_findIdx?]
  show (b.rules.push r).toList.findIdx? _ = _
  rw [Array.toList_push, List.findIdx?_append]
  cases hfit : r.fits text <;> simp [hfit, size]

theorem winner?_push (h : b.Coherent) (hp : b.push r = .ok b') (text : List Char) :
    b'.winner? text = (b.winner? text).or (if r.fits text then some r else none) := by
  have h' := coherent_of_push hp
  obtain ⟨-, -, rfl⟩ := push_eq_ok.1 hp
  rw [h'.winner?_eq_find?, h.winner?_eq_find?]
  show (b.rules.push r).toList.find? _ = _
  rw [Array.toList_push, List.find?_append]
  cases hfit : r.fits text <;> simp [hfit]

/-! ## Main results -/

/-- **The priority of a text is the first place of a rule that matches it.** The probe agrees with
it on the texts that it does not miss. -/
theorem priority?_run (edits : List Edit) (text : List Char) :
    ((run edits).Agrees text →
        (run edits).priority? text = (run edits).rules.toList.findIdx? (·.accepts text) ∧
          (run edits).winner? text = (run edits).rules.toList.find? (·.accepts text)) ∧
      ((run edits).accepts text = ((run edits).priority? text).isSome ↔
        ¬(run edits).Misses text) ∧
      ((∀ r ∈ (run edits).rules, r.pattern.regex.nullableInside = false) →
        (run edits).Agrees text ∧ ¬(run edits).Misses text) ∧
      ∀ e b, (run edits).add e = .ok b → b.Agrees text →
        ∃ r, r.entry = e ∧ b.rules = (run edits).rules.push r ∧
          b.priority? text = ((run edits).priority? text).or
            (if r.accepts text then some (b.size - 1) else none) ∧
          b.winner? text = ((run edits).winner? text).or
            (if r.accepts text then some r else none) := by
  have h : (run edits).Coherent := (reachable_iff_run.2 ⟨edits, rfl⟩).coherent
  refine ⟨fun ha => ⟨h.priority?_eq_of_agrees ha, h.winner?_eq_of_agrees ha⟩, ?_, fun hin => ?_,
    fun e b hadd ha => ?_⟩
  · rw [h.isSome_priority?]
    exact h.accepts_eq_fits_iff
  · refine ⟨h.agrees_of_not_nullableInside hin, fun hmiss => ?_⟩
    obtain ⟨r, hr, hsplit⟩ := hmiss.splits
    exact Bool.false_ne_true ((hin r hr).symm.trans hsplit)
  · obtain ⟨r, hr, hpush⟩ := add_eq_ok.1 hadd
    have hpriority := priority?_push h hpush text
    have hwinner := winner?_push h hpush text
    have hfit := (coherent_of_push hpush).agrees_iff.1 ha r
    obtain ⟨-, -, rfl⟩ := push_eq_ok.1 hpush
    rw [hfit (by simp)] at hpriority hwinner
    refine ⟨r, (RuleEntry.toRule_eq_ok hr).1, rfl, ?_, hwinner⟩
    rw [hpriority]
    simp [size]

end

/-- A text that only the second rule matches, and one that only a rule added later matches. -/
theorem priority?_run_letters :
    letters.Agrees ['b'] ∧ letters.priority? ['b'] = some 1 ∧ letters.accepts ['b'] = true ∧
      letters.priority? ['é'] = none ∧ (letters.offer ⟨"é+", "accents", false⟩).Agrees ['é'] ∧
      (letters.offer ⟨"é+", "accents", false⟩).priority? ['é'] = some 2 := by
  have hrun : run [.add ⟨"a+", "run", false⟩, .add ⟨"a|b", "letter", true⟩] = letters := rfl
  obtain ⟨hfirst, hprobe, husual, -⟩ := priority?_run
    [.add ⟨"a+", "run", false⟩, .add ⟨"a|b", "letter", true⟩] ['b']
  obtain ⟨-, -, -, hadd⟩ := priority?_run
    [.add ⟨"a+", "run", false⟩, .add ⟨"a|b", "letter", true⟩] ['é']
  rw [hrun] at hfirst hprobe husual hadd
  obtain ⟨hagree, hmiss⟩ := husual (by decide +kernel)
  have hb : letters.priority? ['b'] = some 1 := (hfirst hagree).1.trans (by decide +kernel)
  have hé : letters.priority? ['é'] = none := by decide +kernel
  have hagree' : (letters.offer ⟨"é+", "accents", false⟩).Agrees ['é'] :=
    (reachable_letters.offer _).coherent.agrees_of_not_nullableInside (by decide +kernel)
  refine ⟨hagree, hb, ?_, hé, hagree', ?_⟩
  · rw [hprobe.2 hmiss, hb]
    rfl
  · obtain ⟨r, hentry, hrules, hpriority, -⟩ :=
      hadd _ _ (add_eq_ok_offer (e := ⟨"é+", "accents", false⟩) (by decide +kernel)) hagree'
    have hacc : ∀ s ∈ (letters.offer ⟨"é+", "accents", false⟩).rules,
        s.entry = ⟨"é+", "accents", false⟩ → s.accepts ['é'] = true := by decide +kernel
    rw [hpriority, hé, hacc r (hrules ▸ by simp) hentry]
    decide +kernel

/-- Changes that lead to a book with a pattern that is empty inside a character. -/
def splitting : List Edit :=
  [.add ⟨"(?s:.+)", "any", false⟩, .add ⟨"z)|(?-u:\\B)|(?:q", "inside", false⟩]

/-- The set agrees with the rules on a text that the first of them matches, and the probe misses
it. -/
theorem accepts_splitting :
    (run splitting).Agrees ['a', 'é', 'a'] ∧
      (run splitting).priority? ['a', 'é', 'a'] = some 0 ∧
      (run splitting).accepts ['a', 'é', 'a'] = false := by
  have h : (run splitting).Coherent := (reachable_iff_run.2 ⟨splitting, rfl⟩).coherent
  exact ⟨h.agrees_iff.2 (by decide +kernel), by decide +kernel, by decide +kernel⟩

end Rulebook

end Munch
