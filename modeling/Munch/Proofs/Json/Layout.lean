import Munch.Proofs.Json.Decoder
import Munch.Proofs.Json.Strict
import Mathlib.Data.List.Pairwise

/-!
# What records mean

A record is an object or a list. What stands for a field are the values of the members that have its
name, or the item in its place; a member of another name stands for no field. So the two forms of a
record come down to names with values, its **entries**.

**Layout.** A record is **laid out** if the draft has a place of its own for each field, and the
record cannot be finished without the fields that have no default (`Layout`).

**Theorem (`means_record`).** A record that is laid out means what its fields mean: at most one
value stands for each of them, and the draft holds what that value means, or nothing if there is
none.

The decoder goes through the entries from left to right, and a field is read only if the draft does
not have it. What that comes to for one field does not depend on the others (`loads_iff`), so the
order of the entries plays no part in the theorem.
-/

namespace Munch.Json

variable {α σ : Type} {text ws rest rest' : List Char}

/-! ## The entries of a record -/

/-- The values that entries have for a name. -/
def valuesOf (name : String) (es : List (String × Tree)) : List Tree :=
  (es.filter fun e => e.1 = name).map (·.2)

theorem valuesOf_cons_self {name : String} {t : Tree} {es : List (String × Tree)} :
    valuesOf name ((name, t) :: es) = t :: valuesOf name es := by
  simp [valuesOf]

theorem valuesOf_cons_of_ne {name other : String} {t : Tree} {es : List (String × Tree)}
    (h : other ≠ name) : valuesOf name ((other, t) :: es) = valuesOf name es := by
  simp [valuesOf, h]

/-- A member with its key read, unless that has a surrogate that is alone. -/
def keyed? (m : List Piece × Tree) : Option (String × Tree) := (Piece.text? m.1).map (·, m.2)

namespace Tree

/-- The names of fields with the values that stand for them; the items of a list stand for the
fields in their order. -/
def entries (names : List String) : Tree → List (String × Tree)
  | .object ms => ms.filterMap keyed?
  | .list ts => names.zip ts
  | _ => []

/-- The tree is an object whose keys can be read, or a list that is not too long. -/
def IsRecord (names : List String) : Tree → Prop
  | .object ms => ∀ m ∈ ms, (keyed? m).isSome
  | .list ts => ts.length ≤ names.length
  | _ => False

/-- The values that stand for a field. -/
def values (names : List String) (name : String) (t : Tree) : List Tree :=
  valuesOf name (t.entries names)

end Tree

/-- What a field holds when values that stand for it have been read, if it held `o` before: it is
read once at most. -/
def Settles (R : Tree → α → Prop) (o : Option α) : List Tree → Option α → Prop
  | [], o' => o' = o
  | [t], o' => o = none ∧ ∃ a, o' = some a ∧ R t a
  | _, _ => False

theorem settles_some {R : Tree → α → Prop} {a : α} {ts : List Tree} {o : Option α} :
    Settles R (some a) ts o ↔ ts = [] ∧ o = some a := by
  match ts with
  | [] => simp [Settles]
  | [t] => simp [Settles]
  | t :: u :: ts => simp [Settles]

theorem settles_cons {R : Tree → α → Prop} {o o' : Option α} {t : Tree} {ts : List Tree} :
    Settles R o (t :: ts) o' ↔ o = none ∧ ∃ a, R t a ∧ Settles R (some a) ts o' := by
  simp only [settles_some]
  cases ts with
  | nil => simp [Settles, and_comm]
  | cons u ts => simp [Settles]

/-! ## Layouts -/

/-- A field with its place in a draft, and what its values mean. -/
structure Slot (σ : Type) where
  name : String
  Content : Type
  get : σ → Option Content
  put : σ → Content → σ
  decoder : Decoder Content
  hasDefault : Bool
  Denotes : Tree → Content → Prop
  means : Means decoder Denotes
  strict : Strict decoder

namespace Slot

def field (b : Slot σ) : Field σ := .ofOption b.name b.get b.put b.decoder b.hasDefault

/-- Two fields have different names, and neither one touches what the other one holds. -/
structure Apart (b c : Slot σ) : Prop where
  name : b.name ≠ c.name
  get_put : ∀ s a, c.get (b.put s a) = c.get s
  get_put' : ∀ s a, b.get (c.put s a) = b.get s

theorem Apart.symm {b c : Slot σ} (h : b.Apart c) : c.Apart b :=
  ⟨h.name.symm, h.get_put', h.get_put⟩

instance : Std.Symm (fun b c : Slot σ => b.Apart c) := ⟨fun _ _ => Apart.symm⟩

/-- The slot of a name. -/
def find? (slots : List (Slot σ)) (name : String) : Option (Slot σ) :=
  List.find? (fun b => b.name = name) slots

theorem find?_field (slots : List (Slot σ)) (name : String) :
    ((slots.map field).find? fun f => f.name == name) = (find? slots name).map field := by
  rw [List.find?_map]
  rfl

end Slot

/-- The slots of a record. -/
structure Layout (r : Record α) where
  slots : List (Slot r.Draft)
  fields_eq : r.fields = slots.map Slot.field
  apart : slots.Pairwise Slot.Apart
  get_put : ∀ b ∈ slots, ∀ s a, b.get (b.put s a) = some a
  get_empty : ∀ b ∈ slots, b.get r.empty = none
  /-- The draft holds nothing else. -/
  ext : ∀ s s', (∀ b ∈ slots, b.get s = b.get s') → s = s'
  /-- A record is not finished without the fields that have no default. -/
  needed : ∀ b ∈ slots, b.hasDefault = false → ∀ s a, b.get s = none → r.finish s ≠ .ok a

namespace Layout

variable {r : Record α} (L : Layout r)

def names : List String := L.slots.map (·.name)

theorem apart_of_ne {b c : Slot r.Draft} (hb : b ∈ L.slots) (hc : c ∈ L.slots) (hne : b ≠ c) :
    b.Apart c := L.apart.forall hb hc hne

theorem find?_eq_some_iff {b : Slot r.Draft} {name : String} :
    Slot.find? L.slots name = some b ↔ b ∈ L.slots ∧ b.name = name := by
  constructor
  · intro h
    exact ⟨List.mem_of_find?_eq_some h, by simpa using List.find?_some h⟩
  · rintro ⟨hb, rfl⟩
    cases hfind : Slot.find? L.slots b.name with
    | none => exact absurd (decide_eq_true rfl) (List.find?_eq_none.1 hfind b hb)
    | some c =>
      have hc : c ∈ L.slots := List.mem_of_find?_eq_some hfind
      have hname : c.name = b.name := by simpa using List.find?_some hfind
      by_cases hne : b = c
      · rw [hne]
      · exact absurd hname.symm (L.apart_of_ne hb hc hne).name

/-- The entries, read into the draft `s` one after the other, make the draft `s'`. -/
inductive Loads : r.Draft → List (String × Tree) → r.Draft → Prop
  | nil (s : r.Draft) : Loads s [] s
  | field {s s' : r.Draft} {name : String} {b : Slot r.Draft} {a : b.Content} {t : Tree}
      {es : List (String × Tree)} : Slot.find? L.slots name = some b → b.get s = none →
        b.Denotes t a → Loads (b.put s a) es s' → Loads s ((name, t) :: es) s'
  /-- A value that stands for no field. -/
  | other {s s' : r.Draft} {name : String} {t : Tree} {es : List (String × Tree)} :
      Slot.find? L.slots name = none → Loads s es s' → Loads s ((name, t) :: es) s'

variable {L}

/-- **What entries make of a draft, field by field.** -/
theorem loads_iff {s s' : r.Draft} {es : List (String × Tree)} :
    L.Loads s es s' ↔
      ∀ b ∈ L.slots, Settles b.Denotes (b.get s) (valuesOf b.name es) (b.get s') := by
  induction es generalizing s with
  | nil =>
    constructor
    · rintro ⟨⟩ b -
      rfl
    · intro h
      obtain rfl : s' = s := L.ext _ _ h
      exact .nil s'
  | cons e es ih =>
    obtain ⟨name, t⟩ := e
    constructor
    · intro h c hc
      cases h with
      | @field _ _ _ b a _ _ hfind hget ha h =>
        obtain ⟨hb, rfl⟩ := L.find?_eq_some_iff.1 hfind
        have hc' := ih.1 h c hc
        by_cases hne : b = c
        · subst hne
          rw [L.get_put b hb] at hc'
          rw [valuesOf_cons_self, settles_cons]
          exact ⟨hget, a, ha, hc'⟩
        · have hapart := L.apart_of_ne hb hc hne
          rw [hapart.get_put] at hc'
          rwa [valuesOf_cons_of_ne hapart.name]
      | other hfind h =>
        have hname : name ≠ c.name := by
          rintro rfl
          cases hfind.symm.trans (L.find?_eq_some_iff.2 ⟨hc, rfl⟩)
        rw [valuesOf_cons_of_ne hname]
        exact ih.1 h c hc
    · intro h
      cases hfind : Slot.find? L.slots name with
      | none =>
        refine .other hfind (ih.2 fun c hc => ?_)
        have hname : name ≠ c.name := by
          rintro rfl
          cases hfind.symm.trans (L.find?_eq_some_iff.2 ⟨hc, rfl⟩)
        have hc' := h c hc
        rwa [valuesOf_cons_of_ne hname] at hc'
      | some b =>
        obtain ⟨hb, rfl⟩ := L.find?_eq_some_iff.1 hfind
        have hb' := h b hb
        rw [valuesOf_cons_self, settles_cons] at hb'
        obtain ⟨hget, a, ha, hrest⟩ := hb'
        refine .field hfind hget ha (ih.2 fun c hc => ?_)
        by_cases hne : b = c
        · subst hne
          rwa [L.get_put b hb]
        · have hapart := L.apart_of_ne hb hc hne
          have hc' := h c hc
          rw [valuesOf_cons_of_ne hapart.name] at hc'
          rwa [hapart.get_put]

/-! ## Objects -/

theorem fields_find? (name : String) :
    (r.fields.find? fun f => f.name == name) = (Slot.find? L.slots name).map Slot.field := by
  rw [L.fields_eq, Slot.find?_field]

/-- A field is read if the draft does not have it. -/
theorem read_spells {b : Slot r.Draft} {t : Tree} {s s' : r.Draft} (ht : Spells t text)
    (hws : Blank ws) (hrest : EndsNumber rest) :
    b.field.read s (ws ++ (text ++ rest)) = .ok (s', rest') ↔
      (∃ a, b.Denotes t a ∧ s' = b.put s a) ∧ rest' = rest := by
  show (b.decoder _ >>= _) = _ ↔ _
  rw [bind_eq_ok]
  constructor
  · rintro ⟨⟨a, cs⟩, hread, hok⟩
    obtain ⟨ha, rfl⟩ := (b.means ht hws hrest).1 hread
    cases hok
    exact ⟨⟨a, ha, rfl⟩, rfl⟩
  · rintro ⟨⟨a, ha, rfl⟩, rfl⟩
    exact ⟨(a, rest'), (b.means ht hws hrest).2 ⟨ha, rfl⟩, rfl⟩

/-- A member with a key that has been read goes to the field of that name, or is passed over. -/
theorem member_eq {body key wsc wst : List Char} {t : Tree} (s : r.Draft) (hwsc : Blank wsc)
    (hwst : Blank wst) (ht : Spells t text) (hrest : EndsNumber rest)
    (hkey : stringBody [] body = .ok (key, wsc ++ ':' :: (wst ++ (text ++ rest)))) :
    Decoder.member r.fields s body =
      match Slot.find? L.slots (.ofList key) with
      | some b =>
        if (b.get s).isSome then .error (.duplicateField b.name)
        else b.field.read s (wst ++ (text ++ rest))
      | none => .ok (s, rest) := by
  have hcolon : Decoder.colon (wsc ++ ':' :: (wst ++ (text ++ rest))) =
      .ok (wst ++ (text ++ rest)) := by
    rw [Decoder.colon, dropBlanks_append hwsc]
    rfl
  unfold Decoder.member
  simp only [hkey, bind, Except.bind, L.fields_find?, hcolon, skipValue_spells ht hwst hrest]
  cases Slot.find? L.slots (.ofList key) <;> rfl

/-- A member is read as the entry that it is. -/
theorem member_spells {k : List Piece} {t : Tree} {wsc wst : List Char} {s s' : r.Draft}
    (hwsc : Blank wsc) (hwst : Blank wst) (ht : Spells t text) (hrest : EndsNumber rest) :
    Decoder.member r.fields s
        (k.flatMap Piece.chars ++ '"' :: (wsc ++ ':' :: (wst ++ (text ++ rest)))) =
          .ok (s', rest') ↔
      (∃ e, keyed? (k, t) = some e ∧ L.Loads s [e] s') ∧ rest' = rest := by
  constructor
  · intro h
    obtain ⟨⟨key, cs⟩, hkey, -⟩ := bind_eq_ok.1 h
    obtain ⟨⟨said, hsaid, hsame⟩, rfl⟩ := (stringBody_pieces k [] key).1 hkey
    obtain rfl : key = said := hsame
    have hentry : keyed? (k, t) = some (.ofList key, t) := by
      simp [keyed?, Piece.text?, hsaid]
    rw [L.member_eq s hwsc hwst ht hrest hkey] at h
    split at h
    · rename_i b hfind
      split_ifs at h with hset
      obtain ⟨⟨a, ha, rfl⟩, rfl⟩ := (read_spells ht hwst hrest).1 h
      have hget : b.get s = none := by simpa using hset
      exact ⟨⟨_, hentry, .field hfind hget ha (.nil _)⟩, rfl⟩
    · rename_i hfind
      cases h
      exact ⟨⟨_, hentry, .other hfind (.nil _)⟩, rfl⟩
  · rintro ⟨⟨e, hentry, hload⟩, rfl⟩
    obtain ⟨name, hname, rfl⟩ := Option.map_eq_some_iff.1 hentry
    obtain ⟨key, hsaid, rfl⟩ := Option.map_eq_some_iff.1 hname
    rw [L.member_eq s hwsc hwst ht hrest
      ((stringBody_pieces k [] key).2 ⟨⟨key, hsaid, rfl⟩, rfl⟩)]
    cases hload with
    | field hfind hget ha hload =>
      cases hload
      simp only [hfind, hget, Option.isSome_none, Bool.false_eq_true, if_false]
      exact (read_spells ht hwst hrest).2 ⟨⟨_, ha, rfl⟩, rfl⟩
    | other hfind hload =>
      cases hload
      rw [hfind]

/-- Entries are loaded one after the other. -/
theorem Loads.append {s s' s'' : r.Draft} {es es' : List (String × Tree)} (h : L.Loads s es s')
    (h' : L.Loads s' es' s'') : L.Loads s (es ++ es') s'' := by
  induction h with
  | nil => exact h'
  | field hfind hget ha _ ih => exact .field hfind hget ha (ih h')
  | other hfind _ ih => exact .other hfind (ih h')

theorem loads_nil_iff {s s' : r.Draft} : L.Loads s [] s' ↔ s = s' := by
  constructor
  · rintro ⟨⟩
    rfl
  · rintro rfl
    exact .nil s

theorem loads_cons_iff {s s'' : r.Draft} {e : String × Tree} {es : List (String × Tree)} :
    L.Loads s (e :: es) s'' ↔ ∃ s', L.Loads s [e] s' ∧ L.Loads s' es s'' := by
  constructor
  · rintro (_ | ⟨hfind, hget, ha, h⟩ | ⟨hfind, h⟩)
    · exact ⟨_, .field hfind hget ha (.nil _), h⟩
    · exact ⟨_, .other hfind (.nil _), h⟩
  · rintro ⟨s', h, h'⟩
    exact h.append h'

/-- The members of an object are read one after the other. -/
theorem members_spells {first : Bool} {ms : List (List Piece × Tree)} {n : Nat} {s s' : r.Draft}
    (htext : SpellsMembers first ms text) (hws : Blank ws) (hn : text.length < n)
    (rest : List Char) :
    Decoder.members r.fields n first s (text ++ (ws ++ '\x7d' :: rest)) = .ok (s', rest') ↔
      ((∀ m ∈ ms, (keyed? m).isSome) ∧ L.Loads s (ms.filterMap keyed?) s') ∧
        rest' = ws ++ '\x7d' :: rest := by
  induction ms generalizing first text s n with
  | nil =>
    cases htext
    obtain ⟨n, rfl⟩ := Nat.exists_eq_add_of_lt hn
    rw [List.nil_append, Decoder.members, Decoder.nextMember_end first hws, List.filterMap_nil,
      loads_nil_iff]
    show Except.ok (s, ws ++ '\x7d' :: rest) = Except.ok (s', rest') ↔ _
    constructor
    · rintro ⟨⟩
      exact ⟨⟨List.forall_mem_nil _, rfl⟩, rfl⟩
    · rintro ⟨⟨-, rfl⟩, rfl⟩
      rfl
  | cons m ms ih =>
    cases htext with
    | @cons _ k t _ lead wsc wst textt more hlead hwsc hwst ht hmore =>
      cases n with
      | zero => exact absurd hn (Nat.not_lt_zero _)
      | succ n =>
        simp only [List.length_append, List.length_cons] at hn
        have hends := hmore.endsNumber ((endsNumber_brace rest).blank_append hws)
        simp only [List.append_assoc, List.cons_append]
        rw [Decoder.members, Piece.quoted_append, Decoder.nextMember_leads hlead]
        show (Decoder.member r.fields s _ >>= fun out =>
          Decoder.members r.fields n false out.1 out.2) = _ ↔ _
        rw [bind_eq_ok]
        constructor
        · rintro ⟨⟨s₁, cs⟩, hmember, hmembers⟩
          obtain ⟨⟨e, he, hload⟩, rfl⟩ := (L.member_spells hwsc hwst ht hends).1 hmember
          obtain ⟨⟨hkeys, hloads⟩, hrest⟩ := (ih hmore (by omega)).1 hmembers
          refine ⟨⟨?_, ?_⟩, hrest⟩
          · rintro m (_ | ⟨_, hm⟩)
            · rw [he]
              rfl
            · exact hkeys m hm
          · rw [List.filterMap_cons_some he, loads_cons_iff]
            exact ⟨s₁, hload, hloads⟩
        · rintro ⟨⟨hkeys, hloads⟩, rfl⟩
          obtain ⟨e, he⟩ := Option.isSome_iff_exists.1 (hkeys _ List.mem_cons_self)
          rw [List.filterMap_cons_some he, loads_cons_iff] at hloads
          obtain ⟨s₁, hload, hloads⟩ := hloads
          have hkeys' : ∀ m ∈ ms, (keyed? m).isSome := fun m hm => hkeys m (.tail _ hm)
          exact ⟨_, (L.member_spells hwsc hwst ht hends).2 ⟨⟨e, he, hload⟩, rfl⟩,
            (ih hmore (by omega)).2 ⟨⟨hkeys', hloads⟩, rfl⟩⟩

/-! ## Lists -/

/-- The items of a list, read by the fields in their order from the draft `s` on, make the draft
`s'`; fields without an item have defaults. -/
inductive Places : List (Slot r.Draft) → r.Draft → List Tree → r.Draft → Prop
  | nil (s : r.Draft) : Places [] s [] s
  | item {s s' : r.Draft} {b : Slot r.Draft} {bs : List (Slot r.Draft)} {a : b.Content} {t : Tree}
      {ts : List Tree} : b.Denotes t a → Places bs (b.put s a) ts s' →
        Places (b :: bs) s (t :: ts) s'
  | default {s s' : r.Draft} {b : Slot r.Draft} {bs : List (Slot r.Draft)} :
      b.hasDefault = true → Places bs s [] s' → Places (b :: bs) s [] s'

/-- A list does not end before an item. -/
theorem endList_ne {first : Bool} {lead : List Char} {t : Tree} (hlead : Leads first lead)
    (ht : Spells t text) : Decoder.endList (lead ++ (text ++ rest)) ≠ .ok rest' := by
  obtain ⟨c, cs, rfl, hc⟩ := ht.opens
  unfold Decoder.endList
  cases hlead with
  | first hws =>
    rw [dropBlanks_append hws, List.cons_append, dropBlanks_cons hc]
    split
    · exact error_ne_ok
    · rename_i heq
      cases heq
      contradiction
    · rename_i heq
      cases heq
      contradiction
    · exact error_ne_ok
  | next hws =>
    rw [List.append_assoc, dropBlanks_append hws]
    split
    · exact error_ne_ok
    · rename_i heq
      cases heq
    · split <;> exact error_ne_ok
    · exact error_ne_ok

/-- Items in place of fields are read one after the other, and there is no other item. -/
theorem positional_spells {first : Bool} {ts : List Tree} {expected : String} {index : Nat}
    {bs : List (Slot r.Draft)} {s s' : r.Draft} (htext : SpellsItems first ts text)
    (hws : Blank ws) (rest : List Char) :
    (∃ cs, Decoder.positional expected index first s (bs.map Slot.field)
          (text ++ (ws ++ ']' :: rest)) = .ok (s', cs) ∧ Decoder.endList cs = .ok rest') ↔
      Places bs s ts s' ∧ rest' = rest := by
  induction bs generalizing first text ts s index with
  | nil =>
    cases htext with
    | nil =>
      constructor
      · rintro ⟨_, ⟨⟩, hend⟩
        cases hend.symm.trans (Decoder.endList_blank hws rest)
        exact ⟨.nil _, rfl⟩
      · rintro ⟨⟨⟩, rfl⟩
        exact ⟨_, rfl, Decoder.endList_blank hws rest'⟩
    | cons hlead ht =>
      constructor
      · rintro ⟨_, ⟨⟩, hend⟩
        rw [List.append_assoc, List.append_assoc] at hend
        exact (endList_ne hlead ht hend).elim
      · rintro ⟨⟨⟩, -⟩
  | cons b bs ih =>
    rw [List.map_cons, Decoder.positional]
    cases htext with
    | nil =>
      rw [List.nil_append, Decoder.nextItem_end first hws]
      show (∃ cs, (if b.hasDefault then Decoder.positional expected (index + 1) first s
        (bs.map Slot.field) (ws ++ ']' :: rest) else _) = _ ∧ _) ↔ _
      have htail : (∃ cs, Decoder.positional expected (index + 1) first s (bs.map Slot.field)
          (ws ++ ']' :: rest) = .ok (s', cs) ∧ Decoder.endList cs = .ok rest') ↔ _ :=
        ih (.nil first)
      split_ifs with hdefault
      · rw [htail]
        constructor
        · rintro ⟨h, rfl⟩
          exact ⟨.default hdefault h, rfl⟩
        · rintro ⟨_ | _ | ⟨-, h⟩, rfl⟩
          exact ⟨h, rfl⟩
      · constructor
        · rintro ⟨_, ⟨⟩, -⟩
        · rintro ⟨_ | _ | ⟨h, -⟩, -⟩
          exact (hdefault h).elim
    | @cons _ t ts lead textt more hlead ht hmore =>
      obtain ⟨c, cs, hcons, hc⟩ := ht.opens
      have hends := hmore.endsNumber ((endsNumber_bracket rest).blank_append hws)
      have hnext : Decoder.nextItem first (lead ++ (textt ++ (more ++ (ws ++ ']' :: rest)))) =
          .ok (some (textt ++ (more ++ (ws ++ ']' :: rest)))) := by
        rw [hcons]
        exact Decoder.nextItem_leads hlead hc _
      rw [List.append_assoc, List.append_assoc, hnext]
      show (∃ cs, (b.field.read s _ >>= fun out =>
        Decoder.positional expected (index + 1) false out.1 (bs.map Slot.field) out.2) = _ ∧ _) ↔ _
      constructor
      · rintro ⟨cs, hread, hend⟩
        obtain ⟨⟨s₁, cs'⟩, hread, hmore'⟩ := bind_eq_ok.1 hread
        obtain ⟨⟨a, ha, rfl⟩, rfl⟩ := (read_spells ht blank_nil hends).1 hread
        obtain ⟨h, rfl⟩ := (ih hmore).1 ⟨cs, hmore', hend⟩
        exact ⟨.item ha h, rfl⟩
      · rintro ⟨_ | ⟨ha, h⟩ | _, rfl⟩
        obtain ⟨cs, hmore', hend⟩ := (ih hmore).2 ⟨h, rfl⟩
        refine ⟨cs, bind_eq_ok.2 ⟨(_, _), ?_, hmore'⟩, hend⟩
        exact (read_spells ht blank_nil hends).2 ⟨⟨_, ha, rfl⟩, rfl⟩

/-- The items of a list are the entries of the fields in whose places they stand, if the fields that
the draft lacks have defaults. -/
theorem places_iff {bs : List (Slot r.Draft)} {s s' : r.Draft} {ts : List Tree}
    (hmem : ∀ b ∈ bs, b ∈ L.slots) (hapart : bs.Pairwise Slot.Apart)
    (hunset : ∀ b ∈ bs, b.get s = none)
    (hdefault : ∀ b ∈ bs, b.get s' = none → b.hasDefault = true) :
    Places bs s ts s' ↔ ts.length ≤ bs.length ∧ L.Loads s ((bs.map (·.name)).zip ts) s' := by
  induction bs generalizing s ts with
  | nil =>
    cases ts with
    | nil =>
      rw [List.map_nil, List.zip_nil_left, loads_nil_iff]
      constructor
      · rintro ⟨⟩
        exact ⟨Nat.le_refl _, rfl⟩
      · rintro ⟨-, rfl⟩
        exact .nil s
    | cons t ts =>
      constructor
      · rintro ⟨⟩
      · rintro ⟨hlen, -⟩
        exact absurd hlen (Nat.not_succ_le_zero _)
  | cons b bs ih =>
    rw [List.pairwise_cons] at hapart
    rw [List.forall_mem_cons] at hmem hunset hdefault
    have hfind := L.find?_eq_some_iff.2 ⟨hmem.1, rfl⟩
    cases ts with
    | nil =>
      have htail : Places bs s [] s' ↔ _ := ih hmem.2 hapart.2 hunset.2 hdefault.2
      rw [List.zip_nil_right, loads_nil_iff] at htail ⊢
      constructor
      · rintro (_ | _ | ⟨-, h⟩)
        exact ⟨Nat.zero_le _, (htail.1 h).2⟩
      · rintro ⟨-, rfl⟩
        exact .default (hdefault.1 hunset.1) (htail.2 ⟨Nat.zero_le _, rfl⟩)
    | cons t ts =>
      -- The field does not touch what the fields behind it hold.
      have hunset' : ∀ a, ∀ c ∈ bs, c.get (b.put s a) = none := fun a c hc => by
        rw [(hapart.1 c hc).get_put, hunset.2 c hc]
      have htail : ∀ a, Places bs (b.put s a) ts s' ↔ _ := fun a =>
        ih hmem.2 hapart.2 (hunset' a) hdefault.2
      rw [List.map_cons, List.zip_cons_cons]
      constructor
      · rintro (_ | ⟨ha, h⟩)
        obtain ⟨hlen, hloads⟩ := (htail _).1 h
        exact ⟨Nat.succ_le_succ hlen, .field hfind hunset.1 ha hloads⟩
      · rintro ⟨hlen, ⟨_⟩ | ⟨hfind', -, ha, hloads⟩ | ⟨hfind', -⟩⟩
        · cases hfind.symm.trans hfind'
          exact .item ha ((htail _).2 ⟨Nat.le_of_succ_le_succ hlen, hloads⟩)
        · cases hfind.symm.trans hfind'

/-! ## Records -/

variable (L) in
/-- What the tree says for each field, and what the record makes of it. -/
def Denotes (t : Tree) (a : α) : Prop :=
  t.IsRecord L.names ∧ ∃ s, r.finish s = .ok a ∧
    ∀ b ∈ L.slots, Settles b.Denotes none (t.values L.names b.name) (b.get s)

theorem loads_empty_iff {s : r.Draft} {es : List (String × Tree)} :
    L.Loads r.empty es s ↔
      ∀ b ∈ L.slots, Settles b.Denotes none (valuesOf b.name es) (b.get s) := by
  rw [loads_iff]
  refine forall₂_congr fun b hb => ?_
  rw [L.get_empty b hb]

/-- A record as a list. -/
theorem list_spells {ts : List Tree} {a : α} {expected : String}
    (htext : SpellsItems true ts text) (hws : Blank ws) (rest : List Char) :
    (Decoder.positional expected 0 true r.empty r.fields (text ++ (ws ++ ']' :: rest)) >>=
        fun out => r.finish out.1 >>= fun a => Decoder.endList out.2 >>= fun cs => .ok (a, cs)) =
          .ok (a, rest') ↔
      L.Denotes (.list ts) a ∧ rest' = rest := by
  have hplaces : ∀ {s}, r.finish s = .ok a →
      (Places L.slots r.empty ts s ↔ ts.length ≤ L.slots.length ∧
        L.Loads r.empty (L.names.zip ts) s) := fun hfinish => by
    refine places_iff (fun _ => id) L.apart L.get_empty fun b hb hnone => ?_
    refine Decidable.byContradiction fun hno => ?_
    exact L.needed b hb (by simpa using hno) _ a hnone hfinish
  have hlength : L.names.length = L.slots.length := List.length_map ..
  rw [L.fields_eq]
  constructor
  · intro h
    obtain ⟨⟨s, cs⟩, hread, h⟩ := bind_eq_ok.1 h
    obtain ⟨a', hfinish, h⟩ := bind_eq_ok.1 h
    obtain ⟨cs', hend, h⟩ := bind_eq_ok.1 h
    cases h
    obtain ⟨hitems, rfl⟩ := (positional_spells htext hws rest).1 ⟨cs, hread, hend⟩
    obtain ⟨hlen, hloads⟩ := (hplaces hfinish).1 hitems
    have hlen' : ts.length ≤ L.names.length := Nat.le_trans hlen (Nat.le_of_eq hlength.symm)
    exact ⟨⟨hlen', s, hfinish, loads_empty_iff.1 hloads⟩, rfl⟩
  · rintro ⟨⟨hlen, s, hfinish, hloads⟩, rfl⟩
    have hlen' : ts.length ≤ L.slots.length := Nat.le_trans hlen (Nat.le_of_eq hlength)
    have hitems := (hplaces hfinish).2 ⟨hlen', loads_empty_iff.2 hloads⟩
    obtain ⟨cs, hread, hend⟩ := (positional_spells htext hws rest').2 ⟨hitems, rfl⟩
    exact bind_eq_ok.2 ⟨_, hread, bind_eq_ok.2 ⟨a, hfinish, bind_eq_ok.2 ⟨_, hend, rfl⟩⟩⟩

/-- A record as an object. -/
theorem object_spells {ms : List (List Piece × Tree)} {a : α} {n : Nat}
    (htext : SpellsMembers true ms text) (hws : Blank ws) (hn : text.length < n)
    (rest : List Char) :
    (Decoder.members r.fields n true r.empty (text ++ (ws ++ '\x7d' :: rest)) >>=
        fun out => r.finish out.1 >>= fun a => Decoder.endObject out.2 >>= fun cs => .ok (a, cs)) =
          .ok (a, rest') ↔
      L.Denotes (.object ms) a ∧ rest' = rest := by
  constructor
  · intro h
    obtain ⟨⟨s, cs⟩, hread, h⟩ := bind_eq_ok.1 h
    obtain ⟨a', hfinish, h⟩ := bind_eq_ok.1 h
    obtain ⟨cs', hend, h⟩ := bind_eq_ok.1 h
    cases h
    obtain ⟨⟨hkeys, hloads⟩, rfl⟩ := (L.members_spells htext hws hn rest).1 hread
    cases hend.symm.trans (Decoder.endObject_blank hws rest)
    exact ⟨⟨hkeys, s, hfinish, loads_empty_iff.1 hloads⟩, rfl⟩
  · rintro ⟨⟨hkeys, s, hfinish, hloads⟩, rfl⟩
    have hread := (L.members_spells htext hws hn rest').2
      ⟨⟨hkeys, loads_empty_iff.2 hloads⟩, rfl⟩
    have hend := Decoder.endObject_blank hws rest'
    exact bind_eq_ok.2 ⟨_, hread, bind_eq_ok.2 ⟨a, hfinish, bind_eq_ok.2 ⟨_, hend, rfl⟩⟩⟩

/-- **A record means what its fields mean.** -/
theorem means_record (L : Layout r) : Means (Decoder.record r) L.Denotes := by
  intro t text ws rest a rest' htext hws _
  rw [Decoder.record, htext.dropBlanks_append hws]
  obtain ⟨c, cs, rfl, hc⟩ := htext.begins
  rw [List.cons_append]
  split <;> rename_i heq <;> cases heq
  · cases hc with
    | digit => contradiction
    | list ts =>
      cases htext with
      | list hitems hws' =>
        rw [List.append_assoc, List.append_assoc]
        exact list_spells hitems hws' rest
  · cases hc with
    | digit => contradiction
    | object ms =>
      cases htext with
      | object hmembers hws' =>
        rw [List.append_assoc, List.append_assoc]
        refine object_spells hmembers hws' ?_ rest
        rw [List.length_append]
        omega
  · rename_i hbracket hbrace
    refine iff_of_false error_ne_ok ?_
    rintro ⟨⟨hrecord, -⟩, -⟩
    cases hc with
    | list => exact hbracket rfl
    | object => exact hbrace rfl
    | _ => exact hrecord

theorem strict_record (L : Layout r) : Strict (Decoder.record r) := by
  refine Decoder.strict_record fun f hf => ?_
  rw [L.fields_eq] at hf
  obtain ⟨b, -, rfl⟩ := List.mem_map.1 hf
  exact Decoder.strict_ofOption b.strict

end Layout

end Munch.Json
