import Munch.Proofs.RuleKeys

/-!
# Ignoring by name

A book finds the rule of a name with its index of names. What it finds is what going through the
rules in order would find: the **first** rule of the name, in any case of letters.

**Theorem (`ignore_run`).** Whatever led to a book, ignoring a name sets the flag of the first rule
of the name and leaves all else as it is, or warns and leaves everything as it is if no rule has the
name. It does the same a second time, and two names may be ignored in either order. A rule behind
another of its name is never reached.

Ignoring changes no name. So a name leads to one place in the book for good, and only the flags of
two places have to be compared.
-/

namespace Munch

namespace Rulebook

variable {b : Rulebook} {i j : Nat} {r s : Rule} {name : String}

/-! ## Places in a book -/

theorem getElem?_ignoreAt (b : Rulebook) (i j : Nat) :
    (b.ignoreAt i).rules[j]? =
      if i = j then b.rules[j]?.map fun r => { r with ignored := true } else b.rules[j]? :=
  Array.getElem?_modify

theorem ignoreAt_comm (b : Rulebook) (i j : Nat) :
    (b.ignoreAt i).ignoreAt j = (b.ignoreAt j).ignoreAt i := by
  refine congrArg (Rulebook.mk · b.names b.patterns) (Array.ext_getElem? fun k => ?_)
  show ((b.ignoreAt i).ignoreAt j).rules[k]? = ((b.ignoreAt j).ignoreAt i).rules[k]?
  simp only [getElem?_ignoreAt]
  split_ifs <;> rfl

/-- A name leads to the same place after another name is ignored. -/
theorem named?_ignore (b : Rulebook) (name name' : String) :
    (b.ignore name).1.named? name' = b.named? name' := by
  have hindex : ∀ b : Rulebook, b.named? name' =
      (b.rules.toList.map Rule.name).findIdx? fun n => lowercase n = lowercase name' := by
    intro b
    rw [List.findIdx?_map]
    rfl
  rw [hindex, hindex, map_rules_ignore fun _ => rfl]

theorem named?_eq_none_iff :
    b.named? name = none ↔ ∀ r ∈ b.rules, lowercase r.name ≠ lowercase name := by
  simp [named?, List.findIdx?_eq_none_iff]

theorem exists_named (h : ∃ r ∈ b.rules, lowercase r.name = lowercase name) :
    ∃ i, b.named? name = some i := by
  refine Option.ne_none_iff_exists'.1 fun hnone => ?_
  obtain ⟨r, hr, hname⟩ := h
  exact named?_eq_none_iff.1 hnone r hr hname

/-- A name does not lead to a rule behind another one of its name. -/
theorem named?_ne_of_lt (hij : i < j) (hr : b.rules[i]? = some r) (hs : b.rules[j]? = some s)
    (hname : lowercase s.name = lowercase r.name) (name : String) : b.named? name ≠ some j := by
  intro hn
  obtain ⟨_, hj, hfirst⟩ := List.findIdx?_eq_some_iff_getElem.1 hn
  rw [← Array.getElem?_toList] at hr hs
  obtain ⟨hi, rfl⟩ := List.getElem?_eq_some_iff.1 hr
  obtain ⟨_, rfl⟩ := List.getElem?_eq_some_iff.1 hs
  exact hfirst i hij (decide_eq_true (hname.symm.trans (of_decide_eq_true hj)))

/-! ## Main results -/

/-- The book `b'` is `b` with the rule at a place ignored. -/
structure IgnoresAt (b b' : Rulebook) (i : Nat) : Prop where
  rule : ∃ r, b.rules[i]? = some r ∧ b'.rules[i]? = some { r with ignored := true }
  others : ∀ j, j ≠ i → b'.rules[j]? = b.rules[j]?
  names : b'.names = b.names
  patterns : b'.patterns = b.patterns
  priority? : b'.priority? = b.priority?
  accepts : b'.accepts = b.accepts

theorem ignoresAt_ignoreAt (hr : b.rules[i]? = some r) : b.IgnoresAt (b.ignoreAt i) i where
  rule := ⟨r, hr, by rw [getElem?_ignoreAt, if_pos rfl, hr]; rfl⟩
  others j hj := by rw [getElem?_ignoreAt, if_neg hj.symm]
  names := rfl
  patterns := rfl
  priority? := rfl
  accepts := rfl

theorem ignore_ignore [Footprint] (h : b.Reachable) (name : String) :
    (b.ignore name).1.ignore name = b.ignore name := by
  rw [ignore_eq (h.ignore name), named?_ignore, ignore_eq h]
  cases hn : b.named? name with
  | none => rfl
  | some i =>
    obtain ⟨r, hr, -⟩ := exists_of_named hn
    obtain ⟨r', -, hr'⟩ := (ignoresAt_ignoreAt hr).rule
    exact congrArg (·, []) (ignoreAt_of_ignored hr' rfl)

theorem ignore_comm [Footprint] (h : b.Reachable) (name name' : String) :
    ((b.ignore name).1.ignore name').1 = ((b.ignore name').1.ignore name).1 ∧
      ((b.ignore name).1.ignore name').2 = (b.ignore name').2 := by
  rw [ignore_eq (h.ignore name), ignore_eq (h.ignore name'), named?_ignore, named?_ignore,
    ignore_eq h, ignore_eq h]
  cases b.named? name <;> cases b.named? name' <;>
    first | exact ⟨rfl, rfl⟩ | exact ⟨ignoreAt_comm .., rfl⟩

/-- **Ignoring a name goes to its first rule and to nothing else.** It does so once, and in any
order with other names. -/
theorem ignore_run [Footprint] (edits : List Edit) (name : String) :
    ((∃ r ∈ (run edits).rules, lowercase r.name = lowercase name) →
        ∃ i b, (run edits).named? name = some i ∧ (run edits).ignore? name = some b ∧
          (run edits).ignore name = (b, []) ∧ (run edits).IgnoresAt b i) ∧
      ((∀ r ∈ (run edits).rules, lowercase r.name ≠ lowercase name) →
        (run edits).ignore? name = none ∧
          (run edits).ignore name = (run edits, [Log.unknownRule name])) ∧
      ((run edits).ignore name).1.ignore name = (run edits).ignore name ∧
      (∀ name', (((run edits).ignore name).1.ignore name').1 =
            (((run edits).ignore name').1.ignore name).1 ∧
          (((run edits).ignore name).1.ignore name').2 = ((run edits).ignore name').2) ∧
      ∀ i j r s, i < j → (run edits).rules[i]? = some r → (run edits).rules[j]? = some s →
        lowercase s.name = lowercase r.name →
          (run edits).named? name ≠ some j ∧ ((run edits).ignore name).1.rules[j]? = some s := by
  have h : (run edits).Reachable := reachable_iff_run.2 ⟨edits, rfl⟩
  refine ⟨fun hsome => ?_, fun hnone => ?_, ignore_ignore h name, ignore_comm h name,
    fun i j r s hij hr hs hname => ?_⟩
  · obtain ⟨i, hn⟩ := exists_named hsome
    obtain ⟨r, hr, -⟩ := exists_of_named hn
    refine ⟨i, (run edits).ignoreAt i, hn, ?_, ?_, ignoresAt_ignoreAt hr⟩
    · rw [ignore?_eq h, hn]
      rfl
    · rw [ignore_eq h, hn]
  · have hn := named?_eq_none_iff.2 hnone
    constructor
    · rw [ignore?_eq h, hn]
      rfl
    · rw [ignore_eq h, hn]
  · have hne := named?_ne_of_lt hij hr hs hname name
    refine ⟨hne, ?_⟩
    rw [ignore_eq h]
    cases hn : (run edits).named? name with
    | none => exact hs
    | some k =>
      obtain ⟨r', hr', -⟩ := exists_of_named hn
      rw [(ignoresAt_ignoreAt hr').others j fun hjk => hne (hjk ▸ hn), hs]

/-- Changes that lead to a book with one name in two cases of letters. -/
def twice : List Edit :=
  [.add ⟨"a+", "run", false⟩, .add ⟨"b", "letter", true⟩, .add ⟨"c", "RUN", false⟩]

/-- A third case of letters goes to the first rule, and the other one stays as it is. -/
theorem ignore_run_twice :
    (∃ b, (run twice).ignore? "Run" = some b ∧ (run twice).IgnoresAt b 0) ∧
      ((run twice).ignore "Run").1.rules[2]? = (run twice).rules[2]? ∧
      ((run twice).rules[2]?.map Rule.ignored) = some false ∧
      (run twice).ignore? "word" = none := by
  obtain ⟨hfirst, -, -, -, hbehind⟩ := ignore_run twice "Run"
  obtain ⟨-, hunknown, -⟩ := ignore_run twice "word"
  obtain ⟨i, b, hi, hb, -, hat⟩ := hfirst (by decide +kernel)
  obtain rfl : 0 = i := Option.some.inj (Eq.trans (by decide +kernel) hi)
  obtain ⟨r, hr, -⟩ := hat.rule
  obtain ⟨s, hs⟩ : ∃ s, (run twice).rules[2]? = some s :=
    Option.isSome_iff_exists.1 (by decide +kernel)
  have hname : ((run twice).rules[2]?.map fun r => lowercase r.name) =
      (run twice).rules[0]?.map fun r => lowercase r.name := by decide +kernel
  rw [hr, hs] at hname
  refine ⟨⟨b, hb, hat⟩, ?_, by decide +kernel, (hunknown (by decide +kernel)).1⟩
  exact (hbehind 0 2 r s (by omega) hr hs (Option.some.inj hname)).2.trans hs.symm

end Rulebook

end Munch
