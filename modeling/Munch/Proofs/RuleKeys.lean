import Munch.Proofs.RuleIndex

/-!
# Rules with the same key

A rule is refused where its key is taken. Ignoring a rule changes its key as well, but then nothing
is checked: a rule that was delivered **merges** with the ignored rule of its pattern, if there is
one.

**Theorem (`distinct_run_iff`).** The rules of a book have distinct keys if and only if none of the
changes that led to it merged two rules. In any case, only ignored rules share a key.

A change that adds a rule keeps the keys distinct, and cannot make them so. A change that ignores
one does neither, unless it merges: what shares a key is ignored already, and stays as it is.
-/

namespace Munch

namespace Rulebook

variable {b : Rulebook} {i : Nat} {r : Rule} {e : RuleEntry} {name : String}

/-! ## Distinct keys -/

/-- No two rules have the same key. -/
def Distinct (b : Rulebook) : Prop := b.rules.toList.Pairwise fun r s => r.key ≠ s.key

instance : Decidable b.Distinct := inferInstanceAs (Decidable (List.Pairwise ..))

/-- Rules that have the same key are ignored. -/
def Separate (b : Rulebook) : Prop :=
  b.rules.toList.Pairwise fun r s => r.key = s.key → r.ignored = true ∧ s.ignored = true

theorem clashes_eq_false_iff : b.clashes r = false ↔ ∀ s ∈ b.rules.toList, s.key ≠ r.key := by
  simp only [clashes, Array.any_eq_false', decide_eq_true_eq, Array.mem_toList_iff, ne_eq]

theorem pairwise_concat_iff {R : Rule → Rule → Prop} {rules : List Rule} :
    (rules ++ [r]).Pairwise R ↔ rules.Pairwise R ∧ ∀ s ∈ rules, R s r := by
  rw [List.pairwise_append]
  simp

/-! ## Merging -/

/-- Ignoring the name gives a rule that was delivered the key of another rule. -/
def Merges (b : Rulebook) (name : String) : Prop :=
  ∃ i r, b.named? name = some i ∧ b.rules[i]? = some r ∧ r.ignored = false ∧
    ∃ s ∈ b.rules, s.key = (r.pattern.source, true)

theorem exists_ignoreAt (hr : b.rules[i]? = some r) :
    ∃ pre post, b.rules.toList = pre ++ r :: post ∧
      (b.ignoreAt i).rules.toList = pre ++ { r with ignored := true } :: post := by
  rw [← Array.getElem?_toList] at hr
  obtain ⟨hi, hr⟩ := List.getElem?_eq_some_iff.1 hr
  obtain ⟨pre, s, post, hrules, hlen, hmodify⟩ :=
    List.exists_of_modify (fun r : Rule => { r with ignored := true }) hi
  obtain rfl : s = r := by
    rw [← hr]
    simp [hrules, ← hlen]
  exact ⟨pre, post, hrules, Array.toList_modify.trans hmodify⟩

/-- An ignored rule is left as it is. -/
theorem ignoreAt_of_ignored (hr : b.rules[i]? = some r) (h : r.ignored = true) :
    b.ignoreAt i = b := by
  obtain ⟨pre, post, hrules, hrules'⟩ := exists_ignoreAt hr
  have hsame : { r with ignored := true } = r := by rw [← h]
  rw [hsame, ← hrules] at hrules'
  obtain ⟨rules, names, patterns⟩ := b
  exact congrArg (Rulebook.mk · names patterns) (Array.toList_inj.1 hrules')

theorem Separate.ignoreAt (h : b.Separate) (hr : b.rules[i]? = some r) :
    (b.ignoreAt i).Separate := by
  obtain ⟨pre, post, hrules, hrules'⟩ := exists_ignoreAt hr
  have hsymm : ∀ {r s : Rule}, (r.key = s.key → r.ignored = true ∧ s.ignored = true) →
      s.key = r.key → s.ignored = true ∧ r.ignored = true :=
    fun h heq => (h heq.symm).symm
  unfold Separate at h ⊢
  rw [hrules, List.pairwise_middle hsymm, List.pairwise_cons] at h
  rw [hrules', List.pairwise_middle hsymm, List.pairwise_cons]
  exact ⟨fun s _ heq => ⟨rfl, (congrArg Prod.snd heq).symm⟩, h.2⟩

theorem distinct_ignoreAt_iff (h : b.Separate) (hr : b.rules[i]? = some r)
    (hopen : r.ignored = false) :
    (b.ignoreAt i).Distinct ↔
      b.Distinct ∧ ¬∃ s ∈ b.rules, s.key = (r.pattern.source, true) := by
  obtain ⟨pre, post, hrules, hrules'⟩ := exists_ignoreAt hr
  have hsymm : ∀ {r s : Rule}, r.key ≠ s.key → s.key ≠ r.key := Ne.symm
  have hkey : r.key = (r.pattern.source, false) := congrArg (Prod.mk _) hopen
  -- Nothing has the key of the rule before it is ignored.
  have hown : ∀ s ∈ pre ++ post, r.key ≠ s.key := by
    unfold Separate at h
    rw [hrules, List.pairwise_middle fun h heq => (h heq.symm).symm, List.pairwise_cons] at h
    intro s hs heq
    rw [(h.1 s hs heq).1] at hopen
    cases hopen
  have htaken : (∃ s ∈ b.rules, s.key = (r.pattern.source, true)) ↔
      ∃ s ∈ pre ++ post, s.key = (r.pattern.source, true) := by
    simp only [← Array.mem_toList_iff, hrules, List.mem_append, List.mem_cons]
    constructor
    · rintro ⟨s, hs | rfl | hs, heq⟩
      · exact ⟨s, .inl hs, heq⟩
      · rw [hkey] at heq
        cases heq
      · exact ⟨s, .inr hs, heq⟩
    · rintro ⟨s, hs | hs, heq⟩
      · exact ⟨s, .inl hs, heq⟩
      · exact ⟨s, .inr (.inr hs), heq⟩
  unfold Distinct
  rw [htaken, hrules, hrules', List.pairwise_middle hsymm, List.pairwise_middle hsymm,
    List.pairwise_cons, List.pairwise_cons]
  constructor
  · rintro ⟨hnew, hrest⟩
    exact ⟨⟨hown, hrest⟩, fun ⟨s, hs, heq⟩ => hnew s hs heq.symm⟩
  · rintro ⟨⟨-, hrest⟩, hfree⟩
    exact ⟨fun s hs heq => hfree ⟨s, hs, heq.symm⟩, hrest⟩

section

variable [Footprint]

/-! ## Changes -/

/-- A change of a book. -/
inductive Edit where
  | add (e : RuleEntry)
  | ignore (name : String)
deriving DecidableEq, Repr

/-- The book after a change; a rule that is refused changes nothing. -/
def Edit.apply (b : Rulebook) : Edit → Rulebook
  | add e => b.offer e
  | ignore name => (b.ignore name).1

/-- The book that some changes make of the empty one. -/
def run (edits : List Edit) : Rulebook := edits.foldl Edit.apply .empty

theorem run_concat (edits : List Edit) (edit : Edit) :
    run (edits ++ [edit]) = edit.apply (run edits) := List.foldl_concat ..

/-- The reachable books are those that changes lead to. -/
theorem reachable_iff_run : b.Reachable ↔ ∃ edits, run edits = b := by
  constructor
  · intro h
    induction h with
    | empty => exact ⟨[], rfl⟩
    | @add b b' e _ hadd ih =>
      obtain ⟨edits, rfl⟩ := ih
      refine ⟨edits ++ [.add e], ?_⟩
      rw [run_concat]
      simp only [Edit.apply, offer, hadd]
    | ignore name _ ih =>
      obtain ⟨edits, rfl⟩ := ih
      exact ⟨edits ++ [.ignore name], run_concat ..⟩
  · rintro ⟨edits, rfl⟩
    induction edits using List.reverseRecOn with
    | nil => exact .empty
    | append_singleton edits edit ih =>
      rw [run_concat]
      cases edit with
      | add e => exact ih.offer e
      | ignore name => exact ih.ignore name

/-! ## What changes do to the keys -/

/-- A rule is added with a key of its own, or not at all. -/
theorem offer_cases (b : Rulebook) (e : RuleEntry) :
    b.offer e = b ∨ ∃ r, (∀ s ∈ b.rules.toList, s.key ≠ r.key) ∧
      (b.offer e).rules.toList = b.rules.toList ++ [r] := by
  unfold offer
  cases hadd : b.add e with
  | error _ => exact .inl rfl
  | ok b' =>
    obtain ⟨r, -, hpush⟩ := add_eq_ok.1 hadd
    obtain ⟨hclash, -, rfl⟩ := push_eq_ok.1 hpush
    exact .inr ⟨r, clashes_eq_false_iff.1 hclash, Array.toList_push⟩

theorem distinct_offer_iff : (b.offer e).Distinct ↔ b.Distinct := by
  rcases offer_cases b e with hb | ⟨r, hfresh, hrules⟩
  · rw [hb]
  · unfold Distinct
    rw [hrules, pairwise_concat_iff]
    exact and_iff_left hfresh

theorem Separate.offer (h : b.Separate) (e : RuleEntry) : (b.offer e).Separate := by
  rcases offer_cases b e with hb | ⟨r, hfresh, hrules⟩
  · rwa [hb]
  · unfold Separate
    rw [hrules, pairwise_concat_iff]
    exact ⟨h, fun s hs heq => (hfresh s hs heq).elim⟩

theorem Separate.ignore (hb : b.Reachable) (h : b.Separate) (name : String) :
    (b.ignore name).1.Separate := by
  rw [ignore_eq hb]
  cases hn : b.named? name with
  | none => exact h
  | some i =>
    obtain ⟨r, hr, -⟩ := exists_of_named hn
    exact h.ignoreAt hr

theorem distinct_ignore_iff (hb : b.Reachable) (h : b.Separate) :
    (b.ignore name).1.Distinct ↔ b.Distinct ∧ ¬b.Merges name := by
  rw [ignore_eq hb]
  cases hn : b.named? name with
  | none =>
    have hno : ¬b.Merges name := by
      rintro ⟨i, -, hi, -⟩
      rw [hn] at hi
      cases hi
    exact (and_iff_left hno).symm
  | some i =>
    obtain ⟨r, hr, -⟩ := exists_of_named hn
    have hmerges : b.Merges name ↔
        r.ignored = false ∧ ∃ s ∈ b.rules, s.key = (r.pattern.source, true) := by
      constructor
      · rintro ⟨j, s, hj, hs, hrest⟩
        obtain rfl : i = j := Option.some.inj (hn.symm.trans hj)
        obtain rfl : r = s := Option.some.inj (hr.symm.trans hs)
        exact hrest
      · exact fun hrest => ⟨i, r, hn, hr, hrest⟩
    show (b.ignoreAt i).Distinct ↔ _
    rw [hmerges]
    cases hflag : r.ignored with
    | true => simp [ignoreAt_of_ignored hr hflag]
    | false => simpa using distinct_ignoreAt_iff h hr hflag

/-! ## Main results -/

theorem separate_run (edits : List Edit) : (run edits).Separate := by
  induction edits using List.reverseRecOn with
  | nil => exact List.Pairwise.nil
  | append_singleton edits edit ih =>
    rw [run_concat]
    cases edit with
    | add e => exact ih.offer e
    | ignore name => exact ih.ignore (reachable_iff_run.2 ⟨edits, rfl⟩) name

/-- **Keys are distinct if and only if no change merged two rules.** Only ignored rules share a
key. -/
theorem distinct_run_iff (edits : List Edit) :
    ((run edits).Distinct ↔
        ∀ pre name, pre ++ [.ignore name] <+: edits → ¬(run pre).Merges name) ∧
      (run edits).Separate := by
  refine ⟨?_, separate_run edits⟩
  induction edits using List.reverseRecOn with
  | nil =>
    refine ⟨fun _ pre name h => ?_, fun _ => List.Pairwise.nil⟩
    simp at h
  | append_singleton edits edit ih =>
    rw [run_concat]
    simp only [List.prefix_concat_iff, List.append_singleton_inj]
    cases edit with
    | add e =>
      show ((run edits).offer e).Distinct ↔ _
      rw [distinct_offer_iff, ih]
      simp
    | ignore name =>
      show ((run edits).ignore name).1.Distinct ↔ _
      rw [distinct_ignore_iff (reachable_iff_run.2 ⟨edits, rfl⟩) (separate_run edits), ih]
      constructor
      · rintro ⟨hpre, hlast⟩ pre name' (⟨rfl, heq⟩ | hp)
        · cases heq
          exact hlast
        · exact hpre pre name' hp
      · intro h
        exact ⟨fun pre name' hp => h pre name' (.inr hp), h edits name (.inl ⟨rfl, rfl⟩)⟩

end

/-- Changes that ignore a rule beside one of another name that was ignored from the start. -/
def merging : List Edit := [.add ⟨"^a$", "x", false⟩, .add ⟨"^a$", "y", true⟩, .ignore "x"]

theorem not_distinct_merging : ¬(run merging).Distinct := by
  decide +kernel

end Rulebook

end Munch
