import Munch.Proofs.Json.Layout

/-!
# Edits that keep what a record means

An **edit** of a record permutes its members, adds a member of another name, adds or removes a
member that says what holds anyway, or exchanges the value of a field for one that means the same.

What a field sees of an edit are the values that stand for it: they are **revised** (`Revises`).

**Theorem (`Tree.Edit.revises`).** An edit of a record leaves a record, and revises the values of
each field.

**Theorem (`Optional.revise`).** A field with a default means after a revision what it meant before.
-/

namespace Munch.Json

variable {α : Type} {D : Tree → Prop} {E : Tree → Tree → Prop} {ts ts' : List Tree} {a : α}

/-! ## Fields -/

/-- What a field with a default means by the values that stand for it. -/
def Optional (R : Tree → α → Prop) (default : α) : List Tree → α → Prop
  | [], a => a = default
  | [t], a => R t a
  | _, _ => False

/-- What a field that must be present means by the values that stand for it. -/
def Required (R : Tree → α → Prop) : List Tree → α → Prop
  | [t], a => R t a
  | _, _ => False

variable {R : Tree → α → Prop} {default : α}

theorem optional_iff :
    Optional R default ts a ↔ ∃ o : Option α, Settles R none ts o ∧ o.getD default = a := by
  match ts with
  | [] => simp [Optional, Settles, eq_comm]
  | [t] => simp [Optional, Settles]
  | t :: u :: ts => simp [Optional, Settles]

theorem required_iff : Required R ts a ↔ Settles R none ts (some a) := by
  match ts with
  | [] => simp [Required, Settles]
  | [t] => simp [Required, Settles]
  | t :: u :: ts => simp [Required, Settles]

theorem required_eq_ok_iff {name : String} {o : Option α} :
    required name o = .ok a ↔ o = some a := by
  cases o <;> simp [required]

theorem Required.optional (h : Required R ts a) : Optional R default ts a := by
  match ts, h with
  | [t], h => exact h

/-! ## Revisions -/

/-- The values that stand for a field are revised; those that satisfy `D` say what holds anyway, and
`E` exchanges one for another. -/
inductive Revises (D : Tree → Prop) (E : Tree → Tree → Prop) : List Tree → List Tree → Prop
  | permute {ts ts' : List Tree} : ts.Perm ts' → Revises D E ts ts'
  | add {t : Tree} : D t → Revises D E [] [t]
  | remove {before after : List Tree} {t : Tree} : D t →
      Revises D E (before ++ t :: after) (before ++ after)
  | exchange {before after : List Tree} {t t' : Tree} : E t t' →
      Revises D E (before ++ t :: after) (before ++ t' :: after)

/-- A field has one value at most. -/
theorem Optional.eq_singleton {before after : List Tree} {t : Tree}
    (h : Optional R default (before ++ t :: after) a) : before = [] ∧ after = [] ∧ R t a := by
  match before, after, h with
  | [], [], h => exact ⟨rfl, rfl, h⟩
  | [], _ :: _, h => exact h.elim
  | [_], [], h => exact h.elim
  | [_], _ :: _, h => exact h.elim
  | _ :: _ :: _, _, h => exact h.elim

theorem Optional.perm (h : Optional R default ts a) (hperm : ts.Perm ts') :
    Optional R default ts' a := by
  match ts, h with
  | [], h => rwa [← hperm.nil_eq]
  | [t], h => rwa [List.perm_singleton.1 hperm.symm]

/-- **A revision of the values does not show in a field,** if those that may come and go mean the
default. -/
theorem Optional.revise (hD : ∀ t, D t → R t default)
    (hE : ∀ t t' a, E t t' → R t a → R t' a) (hunique : ∀ t a b, R t a → R t b → a = b)
    (h : Optional R default ts a) (hrev : Revises D E ts ts') : Optional R default ts' a := by
  cases hrev with
  | permute hperm => exact h.perm hperm
  | @add t ht =>
    obtain rfl : a = default := h
    exact hD t ht
  | @remove before after t ht =>
    obtain ⟨rfl, rfl, ha⟩ := h.eq_singleton
    exact hunique t a default ha (hD t ht)
  | @exchange before after t t' ht =>
    obtain ⟨rfl, rfl, ha⟩ := h.eq_singleton
    exact hE t t' a ht ha

/-- Of a field without a default, no value may come or go. -/
theorem Required.revise (hD : ∀ t, ¬D t) (hE : ∀ t t' a, E t t' → R t a → R t' a)
    (h : Required R ts a) (hrev : Revises D E ts ts') : Required R ts' a := by
  cases hrev with
  | permute hperm =>
    match ts, h with
    | [t], h => rwa [List.perm_singleton.1 hperm.symm]
  | add ht => exact (hD _ ht).elim
  | remove ht => exact (hD _ ht).elim
  | @exchange before after t t' ht =>
    have hopt : Optional R a (before ++ t :: after) a := h.optional
    obtain ⟨rfl, rfl, ha⟩ := hopt.eq_singleton
    exact hE t t' a ht ha

/-! ## Edits -/

namespace Tree

/-- An edit of a record with fields of the given names. The values `D` of a field mean its default,
and `E` exchanges values of a field. -/
inductive Edit (names : List String) (D : String → Tree → Prop) (E : String → Tree → Tree → Prop) :
    Tree → Tree → Prop
  | permute {ms ms' : List (List Piece × Tree)} : ms.Perm ms' →
      Edit names D E (.object ms) (.object ms')
  | addOther {before after : List (List Piece × Tree)} {k : List Piece} {key : String} {t : Tree} :
      Piece.text? k = some key → key ∉ names →
        Edit names D E (.object (before ++ after)) (.object (before ++ (k, t) :: after))
  | addDefault {before after : List (List Piece × Tree)} {k : List Piece} {name : String}
      {t : Tree} : Piece.text? k = some name → D name t →
        (∀ m ∈ before ++ after, Piece.text? m.1 ≠ some name) →
          Edit names D E (.object (before ++ after)) (.object (before ++ (k, t) :: after))
  | removeDefault {before after : List (List Piece × Tree)} {k : List Piece} {name : String}
      {t : Tree} : Piece.text? k = some name → D name t →
        Edit names D E (.object (before ++ (k, t) :: after)) (.object (before ++ after))
  | member {before after : List (List Piece × Tree)} {k : List Piece} {name : String}
      {t t' : Tree} : Piece.text? k = some name → E name t t' →
        Edit names D E (.object (before ++ (k, t) :: after)) (.object (before ++ (k, t') :: after))
  /-- In a list, the value stands in the place of its field. -/
  | item {before after : List Tree} {pre post : List String} {name : String} {t t' : Tree} :
      names = pre ++ name :: post → pre.length = before.length → E name t t' →
        Edit names D E (.list (before ++ t :: after)) (.list (before ++ t' :: after))

end Tree

theorem valuesOf_append (name : String) (es es' : List (String × Tree)) :
    valuesOf name (es ++ es') = valuesOf name es ++ valuesOf name es' := by
  simp [valuesOf]

theorem valuesOf_eq_nil {name : String} {es : List (String × Tree)}
    (h : ∀ e ∈ es, e.1 ≠ name) : valuesOf name es = [] := by
  rw [valuesOf, List.map_eq_nil_iff, List.filter_eq_nil_iff]
  simpa using h

/-- The values of a field, with those of one entry among them. -/
theorem valuesOf_insert (name key : String) (t : Tree) (es es' : List (String × Tree)) :
    valuesOf name (es ++ (key, t) :: es') =
      if key = name then valuesOf name es ++ t :: valuesOf name es'
      else valuesOf name (es ++ es') := by
  rw [valuesOf_append]
  split_ifs with h
  · subst h
    rw [valuesOf_cons_self]
  · rw [valuesOf_cons_of_ne h, valuesOf_append]

namespace Revises

theorem refl (ts : List Tree) : Revises D E ts ts := .permute (.refl ts)

end Revises

namespace Tree

variable {names : List String} {name key : String} {k : List Piece} {t t' : Tree}
  {before after : List (List Piece × Tree)}

theorem keyed?_eq_some (hkey : Piece.text? k = some key) (t : Tree) :
    keyed? (k, t) = some (key, t) := by
  simp [keyed?, hkey]

theorem values_member (hkey : Piece.text? k = some key) :
    (object (before ++ (k, t) :: after)).values names name =
      if key = name then
        (object before).values names name ++ t :: (object after).values names name
      else (object (before ++ after)).values names name := by
  simp only [values, entries, List.filterMap_append, List.filterMap_cons, keyed?_eq_some hkey,
    valuesOf_insert]

theorem values_append :
    (object (before ++ after)).values names name =
      (object before).values names name ++ (object after).values names name := by
  simp only [values, entries, List.filterMap_append, valuesOf_append]

/-- A field that is absent has no value. -/
theorem values_eq_nil {ms : List (List Piece × Tree)}
    (h : ∀ m ∈ ms, Piece.text? m.1 ≠ some name) : (object ms).values names name = [] := by
  refine valuesOf_eq_nil fun e he => ?_
  obtain ⟨m, hm, hentry⟩ := List.mem_filterMap.1 he
  obtain ⟨key, hkey, rfl⟩ := Option.map_eq_some_iff.1 hentry
  rintro rfl
  exact h m hm hkey

/-- The keys of the other members can be read. -/
theorem isRecord_member (hkey : Piece.text? k = some key) :
    (object (before ++ (k, t) :: after)).IsRecord names ↔
      (object (before ++ after)).IsRecord names := by
  simp only [IsRecord, List.forall_mem_append, List.forall_mem_cons, keyed?_eq_some hkey,
    Option.isSome_some, true_and]

namespace Edit

variable {D : String → Tree → Prop} {E : String → Tree → Tree → Prop}

/-- **An edit of a record leaves a record.** -/
theorem isRecord (h : Edit names D E t t') (ht : t.IsRecord names) : t'.IsRecord names := by
  cases h with
  | permute hperm => exact fun m hm => ht m (hperm.mem_iff.2 hm)
  | addOther hkey => exact (isRecord_member hkey).2 ht
  | addDefault hkey => exact (isRecord_member hkey).2 ht
  | removeDefault hkey => exact (isRecord_member hkey).1 ht
  | member hkey => exact (isRecord_member hkey).2 ((isRecord_member hkey).1 ht)
  | item => simpa [IsRecord] using ht

/-- **An edit of a record revises the values of each field.** -/
theorem revises (h : Edit names D E t t') (hname : name ∈ names) :
    Revises (D name) (E name) (t.values names name) (t'.values names name) := by
  cases h with
  | permute hperm => exact .permute (((hperm.filterMap _).filter _).map _)
  | @addOther _ _ _ key _ hkey hother =>
    have hne : key ≠ name := by
      rintro rfl
      exact hother hname
    rw [values_member hkey, if_neg hne]
    exact .refl _
  | @addDefault before after _ other _ hkey hD habsent =>
    rw [values_member hkey]
    split_ifs with hsame
    · subst hsame
      have hnil : (object (before ++ after)).values names other = [] := values_eq_nil habsent
      rw [values_append, List.append_eq_nil_iff] at hnil
      rw [values_append, hnil.1, hnil.2]
      exact .add hD
    · exact .refl _
  | removeDefault hkey hD =>
    rw [values_member hkey]
    split_ifs with hsame
    · subst hsame
      rw [values_append]
      exact .remove hD
    · exact .refl _
  | member hkey hE =>
    rw [values_member hkey, values_member hkey]
    split_ifs with hsame
    · subst hsame
      exact .exchange hE
    · exact .refl _
  | @item before after pre post other t t' hnames hlen hE =>
    have hzip : ∀ u, names.zip (before ++ u :: after) =
        pre.zip before ++ (other, u) :: post.zip after := fun u => by
      rw [hnames, List.zip_append hlen, List.zip_cons_cons]
    simp only [values, entries, hzip, valuesOf_insert]
    split_ifs with hsame
    · subst hsame
      exact .exchange hE
    · exact .refl _

end Edit

end Tree

end Munch.Json
