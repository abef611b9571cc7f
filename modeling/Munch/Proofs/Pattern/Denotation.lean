import Munch.Proofs.Pattern.Match

/-!
# What a regex matches

A regex has a meaning without residues. **Matches** goes by its form: a sequence matches a span that
falls into a match of each part, and a repetition one that falls into copies, as many as its bounds
allow. Each part looks at the whole text around it.

**Theorem (`matches_iff_spans`).** Residues decide this meaning if the bounds of all repetitions are
in order.

The order of the bounds matters where the body of a repetition may be empty. A residue counts all
copies that are required as used up there, and an upper bound below the lower one would not show.
-/

namespace Munch

namespace Regex

variable {r s a : Regex} {p : List Char → List Char → List Char → Prop}
  {pre mid post text : List Char} {before : Option Char} {c : Char} {n k : Nat} {most : Option Nat}

/-- Spans in a row, as many as a number says, that all satisfy `p`. -/
def Copies (p : List Char → List Char → List Char → Prop) :
    Nat → List Char → List Char → List Char → Prop
  | 0, _, mid, _ => mid = []
  | n + 1, pre, mid, post =>
    ∃ u v, u ++ v = mid ∧ p pre u (v ++ post) ∧ Copies p n (pre ++ u) v post

/-- The regex matches `mid` in the text `pre ++ mid ++ post`. -/
def Matches : Regex → List Char → List Char → List Char → Prop
  | empty, _, mid, _ => mid = []
  | chars set, _, mid, _ => ∃ c, set.contains c = true ∧ mid = [c]
  | look a, pre, mid, post => mid = [] ∧ a.holds ⟨pre.getLast?, post.head?⟩ = true
  | seq r s, pre, mid, post =>
    ∃ u v, u ++ v = mid ∧ r.Matches pre u (v ++ post) ∧ s.Matches (pre ++ u) v post
  | alt r s, pre, mid, post => r.Matches pre mid post ∨ s.Matches pre mid post
  | rep r least most, pre, mid, post =>
    ∃ n, least ≤ n ∧ (∀ m ∈ most, n ≤ m) ∧ Copies r.Matches n pre mid post

/-- The bounds of all repetitions are in order. -/
def Ordered : Regex → Prop
  | empty | chars _ | look _ => True
  | seq r s | alt r s => r.Ordered ∧ s.Ordered
  | rep r least most => r.Ordered ∧ ∀ m ∈ most, least ≤ m

/-! ## Copies -/

theorem copies_nil_iff : Copies p n pre [] post ↔ n = 0 ∨ p pre [] post := by
  induction n generalizing pre with
  | zero => simp [Copies]
  | succ n ih =>
    constructor
    · rintro ⟨u, v, huv, hp, -⟩
      obtain ⟨rfl, rfl⟩ := List.append_eq_nil_iff.1 huv
      exact .inr hp
    · rintro (h | hp)
      · cases h
      · refine ⟨[], [], rfl, hp, ?_⟩
        rw [List.append_nil]
        exact ih.2 (.inr hp)

/-- Empty copies can be added in front. -/
theorem Copies.pad (hp : p pre [] (mid ++ post)) (h : Copies p n pre mid post) (k : Nat) :
    Copies p (n + k) pre mid post := by
  induction k with
  | zero => exact h
  | succ k ih =>
    refine ⟨[], mid, rfl, hp, ?_⟩
    rw [List.append_nil]
    exact ih

/-- Copies of a span that is not empty begin with empty copies and one that is not. -/
theorem Copies.exists_cons (h : Copies p n pre (c :: mid) post) :
    ∃ k u v, k < n ∧ (k = 0 ∨ p pre [] (c :: mid ++ post)) ∧ u ++ v = mid ∧
      p pre (c :: u) (v ++ post) ∧ Copies p (n - 1 - k) (pre ++ c :: u) v post := by
  induction n with
  | zero => cases h
  | succ n ih =>
    obtain ⟨u, v, huv, hp, hcopies⟩ := h
    cases u with
    | nil =>
      obtain rfl : v = c :: mid := huv
      rw [List.append_nil] at hcopies
      obtain ⟨k, u, v, hk, -, huv, hp', hcopies'⟩ := ih hcopies
      refine ⟨k + 1, u, v, Nat.succ_lt_succ hk, .inr hp, huv, hp', ?_⟩
      rwa [Nat.add_sub_cancel, Nat.add_comm, ← Nat.sub_sub]
    | cons d u =>
      obtain ⟨rfl, rfl⟩ := List.cons.inj huv
      exact ⟨0, u, v, Nat.succ_pos n, .inl rfl, rfl, hp, hcopies⟩

/-! ## Empty matches -/

theorem nullable_iff (h : r.Ordered) :
    r.nullable ⟨pre.getLast?, post.head?⟩ = true ↔ r.Matches pre [] post := by
  induction r with
  | empty => simp [nullable, Matches]
  | chars set => simp [nullable, Matches]
  | look a => simp [nullable, Matches]
  | seq r s ihr ihs =>
    simp only [nullable, Bool.and_eq_true, ihr h.1, ihs h.2, Matches, List.append_eq_nil_iff]
    constructor
    · rintro ⟨hr, hs⟩
      exact ⟨[], [], ⟨rfl, rfl⟩, hr, by rwa [List.append_nil]⟩
    · rintro ⟨u, v, ⟨rfl, rfl⟩, hr, hs⟩
      rw [List.append_nil] at hs
      exact ⟨hr, hs⟩
  | alt r s ihr ihs => simp only [nullable, Bool.or_eq_true, ihr h.1, ihs h.2, Matches]
  | rep r least most ih =>
    simp only [nullable, Bool.or_eq_true, beq_iff_eq, ih h.1, Matches, copies_nil_iff]
    constructor
    · rintro (rfl | hr)
      · exact ⟨0, Nat.le_refl 0, fun m _ => Nat.zero_le m, .inl rfl⟩
      · exact ⟨least, Nat.le_refl least, h.2, .inr hr⟩
    · rintro ⟨n, hn, -, rfl | hr⟩
      · exact .inl (Nat.le_zero.1 hn)
      · exact .inr hr

theorem nullable_before (h : r.Ordered) :
    r.nullable ⟨pre.getLast?, some c⟩ = true ↔ r.Matches pre [] (c :: post) := by
  rw [← nullable_iff h, List.head?_cons]

/-! ## Residues -/

theorem mem_residues_seq_iff :
    a ∈ (seq r s).residues before c ↔ (∃ b ∈ r.residues before c, a = b.andThen s) ∨
      r.nullable ⟨before, some c⟩ = true ∧ a ∈ s.residues before c := by
  show a ∈ (r.residues before c).map (·.andThen s) ++ (if _ then s.residues before c else []) ↔ _
  rw [List.mem_append, List.mem_map]
  split_ifs with h <;> simp [h, eq_comm]

theorem mem_residues_rep_iff :
    a ∈ (rep r n most).residues before c ↔ most ≠ some 0 ∧ ∃ b ∈ r.residues before c,
      a = b.andThen (rep r (if r.nullable ⟨before, some c⟩ = true then 0 else n - 1)
        (most.map (· - 1))) := by
  show a ∈ (if most = some 0 then [] else (r.residues before c).map _) ↔ _
  by_cases h : most = some 0
  · simp [h]
  · rw [if_neg h, List.mem_map, and_iff_right h]
    simp only [eq_comm (b := a)]

theorem matches_andThen_iff :
    (r.andThen s).Matches pre mid post ↔ (seq r s).Matches pre mid post := by
  cases r with
  | empty => simp [andThen, Matches]
  | _ => rfl

theorem Ordered.andThen (hr : r.Ordered) (hs : s.Ordered) : (r.andThen s).Ordered := by
  cases r with
  | empty => exact hs
  | _ => exact ⟨hr, hs⟩

theorem Ordered.residues (h : r.Ordered) (ha : a ∈ r.residues before c) : a.Ordered := by
  induction r generalizing a with
  | empty | look _ => cases ha
  | chars set =>
    unfold Regex.residues at ha
    split_ifs at ha
    · obtain rfl := List.mem_singleton.1 ha
      exact trivial
    · cases ha
  | seq r s ihr ihs =>
    rcases mem_residues_seq_iff.1 ha with ⟨b, hb, rfl⟩ | ⟨-, ha⟩
    · exact (ihr h.1 hb).andThen h.2
    · exact ihs h.2 ha
  | alt r s ihr ihs =>
    rcases List.mem_append.1 ha with ha | ha
    · exact ihr h.1 ha
    · exact ihs h.2 ha
  | rep r least most ih =>
    obtain ⟨-, b, hb, rfl⟩ := mem_residues_rep_iff.1 ha
    refine (ih h.1 hb).andThen ⟨h.1, fun m hm => ?_⟩
    obtain ⟨m', hm', rfl⟩ := Option.map_eq_some_iff.1 hm
    have hle := h.2 m' hm'
    split_ifs <;> omega

/-- **A residue matches what is left of a match behind its first character.** -/
theorem matches_cons_iff (h : r.Ordered) :
    r.Matches pre (c :: mid) post ↔
      ∃ a ∈ r.residues pre.getLast? c, a.Matches (pre ++ [c]) mid post := by
  induction r generalizing mid post with
  | empty => simp [Matches, residues]
  | look a => simp [Matches, residues]
  | chars set =>
    simp only [Matches, residues]
    by_cases hc : set.contains c = true
    · simp [hc, Matches]
    · simp [hc]
  | alt r s ihr ihs =>
    simp only [Matches, ihr h.1, ihs h.2, residues, List.mem_append, or_and_right, exists_or]
  | seq r s ihr ihs =>
    have hnull : r.nullable ⟨pre.getLast?, some c⟩ = true ↔ r.Matches pre [] (c :: mid ++ post) :=
      nullable_before h.1
    simp only [mem_residues_seq_iff, hnull]
    constructor
    · rintro ⟨u, v, huv, hr, hs⟩
      cases u with
      | nil =>
        obtain rfl : v = c :: mid := huv
        rw [List.append_nil] at hs
        obtain ⟨a, ha, hmatch⟩ := (ihs h.2).1 hs
        exact ⟨a, .inr ⟨hr, ha⟩, hmatch⟩
      | cons d u =>
        obtain ⟨rfl, rfl⟩ := List.cons.inj huv
        obtain ⟨b, hb, hmatch⟩ := (ihr h.1).1 hr
        refine ⟨_, .inl ⟨b, hb, rfl⟩, matches_andThen_iff.2 ⟨u, v, rfl, hmatch, ?_⟩⟩
        rwa [List.append_assoc]
    · rintro ⟨a, ⟨b, hb, rfl⟩ | ⟨hr, ha⟩, hmatch⟩
      · obtain ⟨u, v, rfl, hb', hs⟩ := matches_andThen_iff.1 hmatch
        refine ⟨c :: u, v, rfl, (ihr h.1).2 ⟨b, hb, hb'⟩, ?_⟩
        rwa [List.append_assoc] at hs
      · refine ⟨[], c :: mid, rfl, hr, ?_⟩
        rw [List.append_nil]
        exact (ihs h.2).2 ⟨a, ha, hmatch⟩
  | rep r least most ih =>
    have hnull : r.nullable ⟨pre.getLast?, some c⟩ = true ↔ r.Matches pre [] (c :: mid ++ post) :=
      nullable_before h.1
    simp only [mem_residues_rep_iff]
    constructor
    · rintro ⟨n, hleast, hmost, hcopies⟩
      obtain ⟨k, u, v, hk, hempty, rfl, hr, hrest⟩ := hcopies.exists_cons
      obtain ⟨b, hb, hmatch⟩ := (ih h.1).1 hr
      have hsome : most ≠ some 0 := fun h0 => by
        have := hmost 0 h0
        omega
      refine ⟨_, ⟨hsome, b, hb, rfl⟩, matches_andThen_iff.2 ⟨u, v, rfl, hmatch, n - 1 - k, ?_⟩⟩
      rw [List.append_assoc]
      refine ⟨?_, fun m hm => ?_, hrest⟩
      · split_ifs with hn
        · exact Nat.zero_le _
        · rcases hempty with rfl | hempty
          · omega
          · exact (hn (hnull.2 hempty)).elim
      · obtain ⟨m', hm', rfl⟩ := Option.map_eq_some_iff.1 hm
        have := hmost m' hm'
        omega
    · rintro ⟨_, ⟨hsome, b, hb, rfl⟩, hmatch⟩
      obtain ⟨u, v, rfl, hmatch, n, hleast, hmost, hcopies⟩ := matches_andThen_iff.1 hmatch
      have hone : Copies r.Matches (n + 1) pre (c :: (u ++ v)) post := by
        refine ⟨c :: u, v, rfl, (ih h.1).2 ⟨b, hb, hmatch⟩, ?_⟩
        rwa [List.append_assoc] at hcopies
      -- Copies that are still required are empty ones in front.
      refine ⟨max least (n + 1), Nat.le_max_left .., fun m hm => Nat.max_le.2 ⟨h.2 m hm, ?_⟩, ?_⟩
      · have := hmost (m - 1) (Option.map_eq_some_iff.2 ⟨m, hm, rfl⟩)
        have : m ≠ 0 := fun h0 => hsome (h0 ▸ hm)
        omega
      · split_ifs at hleast with hn
        · have hpad := hone.pad (hnull.1 hn) (max least (n + 1) - (n + 1))
          rwa [Nat.add_sub_cancel' (Nat.le_max_right ..)] at hpad
        · rwa [Nat.max_eq_right (by omega)]

/-! ## Main results -/

/-- **Residues decide what a regex matches.** -/
theorem matches_iff_spans (h : r.Ordered) :
    r.Matches pre mid post ↔ r.spans pre.getLast? mid post.head? = true := by
  induction mid generalizing r pre with
  | nil => exact (nullable_iff h).symm
  | cons c mid ih =>
    rw [matches_cons_iff h, spans, List.any_eq_true]
    refine exists_congr fun a => and_congr_right fun ha => ?_
    rw [ih (h.residues ha), List.getLast?_concat]

theorem matchIn_iff (h : r.Ordered) :
    r.MatchIn mid text ↔ ∃ pre post, pre ++ mid ++ post = text ∧ r.Matches pre mid post := by
  simp only [MatchIn, matches_iff_spans h]

end Regex

end Munch
