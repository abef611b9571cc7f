import Munch.Proofs.Json.Meaning

/-!
# What decoders read back

A decoder **decodes** a JSON value if it reads one and the same value of its type from all written
forms of it. Whoever writes and reads a type proves this once, and the proof follows the type: a
list by its items, a record by the members that fill its draft one after the other.

* `decodes_list`: a list reads back if its items do.
* `decodes_record`: a record reads back if its members fill the draft.
-/

namespace Munch.Json

/-- The decoder reads `a` from all written forms of `v`. -/
def Decodes {α : Type} (d : Decoder α) (v : Value) (a : α) : Prop :=
  ∀ ⦃text ws rest : List Char⦄, Written v text → Blank ws → EndsNumber rest →
    d (ws ++ (text ++ rest)) = .ok (a, rest)

/-- What a decoder means, it reads back. -/
theorem Means.decodes {α : Type} {d : Decoder α} {R : Tree → α → Prop} {v : Value} {a : α}
    (h : Means d R) (ha : R v.tree a) : Decodes d v a :=
  fun _ _ _ htext hws hrest => (h (Written.spells v htext) hws hrest).2 ⟨ha, rfl⟩

/-- What is written for a string stands for it. -/
theorem Piece.text?_ofString (s : String) : Piece.text? (Piece.ofString s) = some s := by
  obtain ⟨body, hquote, hread⟩ := stringBody_quote s []
  rw [← Piece.quoted_ofString, Piece.quoted_append] at hquote
  obtain rfl := (List.cons.inj hquote).2
  obtain ⟨⟨said, hsaid, hsame⟩, -⟩ := (stringBody_pieces _ [] _).1 hread
  obtain rfl : s.toList = said := hsame
  rw [Piece.text?, hsaid, Option.map_some, String.ofList_toList]

namespace Decoder

/-! ## Simple values -/

theorem decodes_bool (b : Bool) : Decodes bool (.bool b) b := means_bool.decodes rfl

theorem decodes_stringFor (expected s : String) : Decodes (stringFor expected) (.string s) s :=
  (means_stringFor expected).decodes ⟨_, rfl, Piece.text?_ofString s⟩

theorem decodes_string (s : String) : Decodes string (.string s) s := decodes_stringFor _ s

theorem decodes_word64 (expected : String) (n : UInt64) :
    Decodes (word64 expected) (.number n.toNat) n :=
  (means_word64 expected).decodes ⟨_, rfl, Numeral.chars_ofNat _⟩

theorem decodes_option_none {α : Type} (d : Decoder α) : Decodes (option d) .null none := by
  intro text ws rest htext hws _
  rw [option, htext.dropBlanks_append hws]
  cases htext
  show (do .ok (none, ← word "ull".toList ("ull".toList ++ rest))) = _
  rw [word_append]
  rfl

/-- A value reads back as it does without the option, unless it is `null`. -/
theorem decodes_option_some {α : Type} {d : Decoder α} {v : Value} {a : α} (h : Decodes d v a)
    (hv : v ≠ .null) : Decodes (option d) v (some a) := by
  intro text ws rest htext hws hrest
  have hread : d (text ++ rest) = .ok (a, rest) := h htext blank_nil hrest
  obtain ⟨c, cs, rfl, -⟩ := htext.opens
  have hc : c ≠ 'n' := fun hc => htext.ne_n hv (by rw [hc])
  rw [List.cons_append] at hread
  rw [option, htext.dropBlanks_append hws, List.cons_append]
  split
  · rename_i heq
    exact absurd (List.cons.inj heq).1 hc
  · rw [hread]
    rfl

/-! ## Choices -/

theorem decodes_choice {α : Type} {choices : List (String × α)} {name : String} {a : α}
    (h : choices.lookup name = some a) : Decodes (choice choices) (.string name) a :=
  (means_choice choices).decodes ⟨name, ⟨_, Piece.text?_ofString name, .inl rfl⟩, h⟩

/-! ## Lists -/

theorem nextItem_written {first : Bool} {v : Value} {ws text : List Char} (h : Written v text)
    (hws : Blank ws) (rest : List Char) :
    nextItem first (separator first ++ (ws ++ (text ++ rest))) = .ok (some (text ++ rest)) := by
  obtain ⟨c, cs, rfl, hc⟩ := h.opens
  rw [← List.append_assoc]
  exact nextItem_leads (leads_separator hws) hc _

/-- The items of a list are all read if each of them is. -/
theorem items_written {α : Type} {d : Decoder α} {first : Bool} {vs : List Value} {as : List α}
    {text ws : List Char} {n : Nat} (h : List.Forall₂ (Decodes d) vs as)
    (htext : WrittenItems first vs text) (hws : Blank ws) (hn : text.length < n) (acc : List α)
    (rest : List Char) :
    items d n first acc (text ++ (ws ++ ']' :: rest)) =
      .ok (acc.reverse ++ as, ws ++ ']' :: rest) := by
  induction h generalizing first text acc n with
  | nil =>
    cases htext
    obtain ⟨n, rfl⟩ := Nat.exists_eq_add_of_lt hn
    simp only [List.nil_append, items, nextItem_end first hws]
    simp [bind, Except.bind]
  | @cons v a vs as hva _ ih =>
    cases htext with
    | @cons _ _ _ wsv textv more hwsv hv hmore =>
      cases n with
      | zero => exact absurd hn (Nat.not_lt_zero _)
      | succ n =>
        have hopens : 0 < textv.length := by
          obtain ⟨c, cs, rfl, -⟩ := hv.opens
          exact Nat.succ_pos _
        simp only [List.length_append] at hn
        have hrest := hmore.endsNumber ((endsNumber_bracket rest).blank_append hws)
        have hread := hva hv blank_nil hrest
        rw [List.nil_append] at hread
        simp only [List.append_assoc, items, nextItem_written hv hwsv, bind, Except.bind, hread]
        rw [ih hmore (by omega)]
        simp

/-- **A list reads back if its items do.** -/
theorem decodes_list {α : Type} {d : Decoder α} {vs : List Value} {as : List α}
    (h : List.Forall₂ (Decodes d) vs as) : Decodes (list d) (.list vs) as := by
  intro text ws rest htext hws _
  rw [list, htext.dropBlanks_append hws]
  cases htext with
  | @list _ items ws' hitems hws' =>
    have hread := items_written h hitems hws' (n := (items ++ ws' ++ [']'] ++ rest).length + 1)
      (by simp only [List.length_append]; omega) [] rest
    simp only [List.cons_append, List.append_assoc, List.nil_append] at hread ⊢
    simp only [hread, endList_blank hws', bind, Except.bind]
    rfl

/-! ## Records -/

theorem nextMember_leads {first : Bool} {lead : List Char} (hlead : Leads first lead)
    (body : List Char) : nextMember first (lead ++ '"' :: body) = .ok (some body) := by
  have hquote : dropBlanks ('"' :: body) = '"' :: body := rfl
  cases hlead with
  | first hws =>
    rw [nextMember, dropBlanks_append hws, hquote]
    rfl
  | @next ws ws' hws hws' =>
    have hsep : dropBlanks (',' :: (ws' ++ '"' :: body)) = ',' :: (ws' ++ '"' :: body) := rfl
    simp only [List.append_assoc, List.cons_append, nextMember, dropBlanks_append hws,
      dropBlanks_append hws', hsep, hquote, Bool.false_eq_true, if_false]

theorem nextMember_written {first : Bool} {ws : List Char} (hws : Blank ws) (body : List Char) :
    nextMember first (separator first ++ (ws ++ '"' :: body)) = .ok (some body) := by
  rw [← List.append_assoc]
  exact nextMember_leads (leads_separator hws) body

theorem nextMember_end {ws : List Char} (first : Bool) (hws : Blank ws) (rest : List Char) :
    nextMember first (ws ++ '\x7d' :: rest) = .ok none := by
  rw [nextMember, dropBlanks_append hws]
  rfl

theorem endObject_blank {ws : List Char} (hws : Blank ws) (rest : List Char) :
    endObject (ws ++ '\x7d' :: rest) = .ok rest := by
  rw [endObject, dropBlanks_append hws]
  rfl

/-- The members, read into the draft `s` one after the other, make the draft `s'`. -/
inductive Fills {σ : Type} (fields : List (Field σ)) : σ → List (String × Value) → σ → Prop
  | nil (s : σ) : Fills fields s [] s
  | cons {s s' s'' : σ} {f : Field σ} {k : String} {v : Value} {ms : List (String × Value)} :
      (fields.find? fun f => f.name == k) = some f → f.isSet s = false → Decodes (f.read s) v s' →
        Fills fields s' ms s'' → Fills fields s ((k, v) :: ms) s''
  /-- A member of another name is passed over. -/
  | skip {s s' : σ} {k : String} {v : Value} {ms : List (String × Value)} :
      (fields.find? fun f => f.name == k) = none → Fills fields s ms s' →
        Fills fields s ((k, v) :: ms) s'

theorem Fills.append {σ : Type} {fields : List (Field σ)} {s s' s'' : σ}
    {ms ms' : List (String × Value)} (h : Fills fields s ms s') (h' : Fills fields s' ms' s'') :
    Fills fields s (ms ++ ms') s'' := by
  induction h with
  | nil => exact h'
  | cons hfind hset hread _ ih => exact .cons hfind hset hread (ih h')
  | skip hfind _ ih => exact .skip hfind (ih h')

/-- A member is read from all its written forms, and makes the draft `s'` of the draft `s`. -/
def Takes {σ : Type} (fields : List (Field σ)) (s : σ) (k : String) (v : Value) (s' : σ) : Prop :=
  ∀ ⦃text ws rest body : List Char⦄, Written v text → Blank ws → EndsNumber rest →
    stringBody [] body = .ok (k.toList, ':' :: (ws ++ (text ++ rest))) →
      member fields s body = .ok (s', rest)

/-- A member is read by the field that has its name. -/
theorem takes_of_field {σ : Type} {fields : List (Field σ)} {s s' : σ} {f : Field σ} {k : String}
    {v : Value} (hfind : (fields.find? fun f => f.name == k) = some f) (hset : f.isSet s = false)
    (hread : Decodes (f.read s) v s') : Takes fields s k v s' := by
  intro text ws rest body htext hws hrest hbody
  have hcolon : colon (':' :: (ws ++ (text ++ rest))) = .ok (ws ++ (text ++ rest)) := rfl
  simp only [member, hbody, bind, Except.bind, String.ofList_toList, hfind, hset, hcolon,
    Bool.false_eq_true, if_false]
  exact hread htext hws hrest

/-- A member that no field has the name of leaves the draft as it is. -/
theorem takes_of_no_field {σ : Type} {fields : List (Field σ)} {k : String}
    (hfind : (fields.find? fun f => f.name == k) = none) (s : σ) (v : Value) :
    Takes fields s k v s := by
  intro text ws rest body htext hws hrest hbody
  have hcolon : colon (':' :: (ws ++ (text ++ rest))) = .ok (ws ++ (text ++ rest)) := rfl
  have hskip := skipValue_written htext hws hrest
  simp only [member, hbody, bind, Except.bind, String.ofList_toList, hfind, hcolon, hskip]

/-- The members of an object are all read if the first one is and the others are. -/
theorem members_cons {σ : Type} {fields : List (Field σ)} {s s' s'' : σ} {first : Bool} {k : String}
    {v : Value} {ms : List (String × Value)} {text ws rest : List Char} {n : Nat}
    (htakes : Takes fields s k v s')
    (hmembers : ∀ {text n}, WrittenMembers false ms text → text.length < n →
      members fields n false s' (text ++ (ws ++ '\x7d' :: rest)) = .ok (s'', ws ++ '\x7d' :: rest))
    (htext : WrittenMembers first ((k, v) :: ms) text) (hws : Blank ws) (hn : text.length < n) :
    members fields n first s (text ++ (ws ++ '\x7d' :: rest)) =
      .ok (s'', ws ++ '\x7d' :: rest) := by
  cases htext with
  | @cons _ _ _ _ wsk wsv textv more hwsk hwsv hv hmore =>
    cases n with
    | zero => exact absurd hn (Nat.not_lt_zero _)
    | succ n =>
      simp only [List.length_append, List.length_cons] at hn
      obtain ⟨body, hquote, hbody⟩ :=
        stringBody_quote k (':' :: (wsv ++ (textv ++ (more ++ (ws ++ '\x7d' :: rest)))))
      have hrest := hmore.endsNumber ((endsNumber_brace rest).blank_append hws)
      have hmember := htakes hv hwsv hrest hbody
      simp only [List.append_assoc, List.cons_append, hquote]
      simp only [members, nextMember_written hwsk, bind, Except.bind, hmember]
      exact hmembers hmore (by omega)

/-- The members of an object are all read if they fill the draft. -/
theorem members_written {σ : Type} {fields : List (Field σ)} {s s' : σ} {first : Bool}
    {ms : List (String × Value)} {text ws : List Char} {n : Nat} (h : Fills fields s ms s')
    (htext : WrittenMembers first ms text) (hws : Blank ws) (hn : text.length < n)
    (rest : List Char) :
    members fields n first s (text ++ (ws ++ '\x7d' :: rest)) = .ok (s', ws ++ '\x7d' :: rest) := by
  induction h generalizing first text n with
  | nil s =>
    cases htext
    obtain ⟨n, rfl⟩ := Nat.exists_eq_add_of_lt hn
    simp only [List.nil_append, members, nextMember_end first hws]
    simp [bind, Except.bind]
  | cons hfind hset hread _ ih =>
    exact members_cons (takes_of_field hfind hset hread) ih htext hws hn
  | skip hfind _ ih => exact members_cons (takes_of_no_field hfind _ _) ih htext hws hn

/-- **A record reads back if its members fill the draft.** -/
theorem decodes_record {α : Type} {r : Record α} {ms : List (String × Value)} {s : r.Draft} {a : α}
    (h : Fills r.fields r.empty ms s) (hfinish : r.finish s = .ok a) :
    Decodes (record r) (.object ms) a := by
  intro text ws rest htext hws _
  rw [record, htext.dropBlanks_append hws]
  cases htext with
  | @object _ members ws' hmembers hws' =>
    have hread := members_written h hmembers hws'
      (n := (members ++ ws' ++ ['\x7d'] ++ rest).length + 1)
      (by simp only [List.length_append]; omega) rest
    simp only [List.cons_append, List.append_assoc, List.nil_append] at hread ⊢
    simp only [hread, hfinish, endObject_blank hws', bind, Except.bind]

/-- A field that the draft holds as an option reads what its decoder reads. -/
theorem decodes_ofOption {σ α : Type} {name : String} {get : σ → Option α} {put : σ → α → σ}
    {d : Decoder α} {hasDefault : Bool} {v : Value} {a : α} (h : Decodes d v a) (s : σ) :
    Decodes ((Field.ofOption name get put d hasDefault).read s) v (put s a) := by
  intro text ws rest htext hws hrest
  simp [Field.ofOption, h htext hws hrest, bind, Except.bind]

/-! ## Whole texts -/

/-- A text may end with blanks. -/
theorem run_append_eq_ok {α : Type} {d : Decoder α} {v : Value} {a : α} {text ws : List Char}
    (h : Decodes d v a) (htext : Written v text) (hws : Blank ws) :
    d.run (.ofList (text ++ ws)) = .ok a := by
  have hends : EndsNumber ws := by simpa using endsNumber_nil.blank_append hws
  have hread : d ([] ++ (text ++ ws)) = .ok (a, ws) := h htext blank_nil hends
  have hnil : dropBlanks ws = [] := hws
  rw [List.nil_append] at hread
  simp [run, hread, hnil, bind, Except.bind]

theorem run_eq_ok {α : Type} {d : Decoder α} {v : Value} {a : α} {text : List Char}
    (h : Decodes d v a) (htext : Written v text) : d.run (.ofList text) = .ok a := by
  simpa using run_append_eq_ok h htext blank_nil

end Decoder

end Munch.Json
