import Munch.Proofs.Json.Grammar
import Munch.Proofs.Json.Meaning

/-!
# What is read is JSON

A decoder is **strict** if what it reads from a text is a text of a tree. What a strict decoder
accepts as a whole text is a document, so what is known of documents is known of all texts that it
accepts.

* `Strict.run_eq_ok_iff`: the texts that are read.
* `strict_bool`, `strict_stringFor`, `strict_word64`, `strict_choice`: simple values.
* `strict_list`, `strict_record`: a list is strict if its items are, a record if its fields are.
-/

namespace Munch.Json

variable {α σ : Type} {cs rest : List Char}

/-- What the decoder reads is JSON. -/
def Strict (d : Decoder α) : Prop :=
  ∀ ⦃cs rest : List Char⦄ ⦃a : α⦄, d cs = .ok (a, rest) → TreeThen cs rest

/-- A whole text that is read is a document. -/
theorem Strict.exists_document {d : Decoder α} {text : String} {a : α} (h : Strict d)
    (hrun : d.run text = .ok a) : ∃ t, Document t text := by
  obtain ⟨⟨a', rest⟩, hread, hend⟩ := bind_eq_ok.1 hrun
  obtain ⟨t, ws, body, hws, hbody, htext⟩ := h hread
  dsimp only at hend
  split at hend
  · rename_i hrest
    exact ⟨t, ws, body, rest, hws, hbody, List.isEmpty_iff.1 hrest, htext⟩
  · cases hend

/-- **The texts that are read are the documents of the trees with a meaning.** -/
theorem Strict.run_eq_ok_iff {d : Decoder α} {R : Tree → α → Prop} {text : String} {a : α}
    (h : Strict d) (hmeans : Means d R) :
    d.run text = .ok a ↔ ∃ t, Document t text ∧ R t a := by
  constructor
  · intro hrun
    obtain ⟨t, ht⟩ := h.exists_document hrun
    exact ⟨t, ht, (hmeans.run_eq_ok_iff ht).1 hrun⟩
  · rintro ⟨t, ht, ha⟩
    exact (hmeans.run_eq_ok_iff ht).2 ha

/-- A tree that stands behind what leads to an item is the first one of the items. -/
theorem SpellsItems.treeThen {first : Bool} {ts : List Tree} {lead text : List Char}
    (hlead : Leads first lead) (h : TreeThen cs (text ++ rest)) (hts : SpellsItems false ts text) :
    ∃ ts text, SpellsItems first ts text ∧ lead ++ cs = text ++ rest := by
  obtain ⟨t, ws, body, hws, hbody, rfl⟩ := h
  exact ⟨t :: ts, _, .cons (hlead.append_blank hws) hbody hts, by simp⟩

namespace Decoder

/-! ## Simple values -/

theorem strict_bool : Strict bool := by
  intro cs rest b h
  unfold bool at h
  split at h
  · cases h
  · rename_i heq
    obtain ⟨more, hword, hok⟩ := bind_eq_ok.1 h
    cases hok
    exact treeThen_of_word (.bool true) heq hword
  · rename_i heq
    obtain ⟨more, hword, hok⟩ := bind_eq_ok.1 h
    cases hok
    exact treeThen_of_word (.bool false) heq hword
  · cases h

theorem strict_unit : Strict unit := by
  intro cs rest u h
  unfold unit at h
  split at h
  · cases h
  · rename_i heq
    obtain ⟨more, hword, hok⟩ := bind_eq_ok.1 h
    cases hok
    exact treeThen_of_word .null heq hword
  · cases h

theorem exists_quoted_of_stringFor {expected a : String}
    (h : stringFor expected cs = .ok (a, rest)) :
    ∃ ws k, Blank ws ∧ cs = ws ++ (Piece.quoted k ++ rest) := by
  unfold stringFor at h
  split at h
  · cases h
  · rename_i heq
    obtain ⟨out, hstring, hok⟩ := bind_eq_ok.1 h
    cases hok
    obtain ⟨ws, hws, rfl⟩ := exists_blank heq
    obtain ⟨k, rfl⟩ := exists_pieces_of_stringBody hstring
    exact ⟨ws, k, hws, by rw [Piece.quoted_append]⟩
  · cases h

theorem strict_stringFor (expected : String) : Strict (stringFor expected) := by
  intro cs rest s h
  obtain ⟨ws, k, hws, rfl⟩ := exists_quoted_of_stringFor h
  exact ⟨.string k, ws, _, hws, .string k, rfl⟩

theorem strict_string : Strict string := strict_stringFor _

theorem strict_word64 (expected : String) : Strict (word64 expected) := by
  intro cs rest n h
  unfold word64 at h
  dsimp only at h
  split at h
  · cases h
  · have hnumber := (number_bind (fun _ _ => rfl) (fun _ _ _ => error_ne_ok)
      fun _ _ _ => error_ne_ok).1 h
    cases (natural_of_number hnumber).1
  · rename_i heq
    split_ifs at h
    have hnumber := (number_bind (fun _ _ => rfl) (fun _ _ _ => error_ne_ok)
      fun _ _ _ => error_ne_ok).1 h
    obtain ⟨-, -, -, hdigits⟩ := natural_of_number hnumber
    refine (Spells.number (.ofNat n.toNat)).treeThen ?_
    rw [heq, hdigits, Numeral.chars_ofNat]

/-! ## Choices -/

variable {choices : List (String × α)} {a : α}

theorem exists_quoted_of_variantName (h : variantName choices cs = .ok (a, rest)) :
    ∃ ws k, Blank ws ∧ cs = ws ++ (Piece.quoted k ++ rest) := by
  obtain ⟨⟨name, more⟩, hname, hlookup⟩ := bind_eq_ok.1 h
  dsimp only at hlookup
  split at hlookup
  · cases hlookup
    exact exists_quoted_of_stringFor hname
  · cases hlookup

theorem exists_quoted_of_variantKey (h : variantKey choices cs = .ok (a, rest)) :
    ∃ ws k, Blank ws ∧ cs = ws ++ (Piece.quoted k ++ rest) := by
  unfold variantKey at h
  split at h
  · cases h
  · rename_i heq
    obtain ⟨ws, hws, rfl⟩ := exists_blank heq
    obtain ⟨ws', k, hws', hquoted⟩ := exists_quoted_of_variantName h
    exact ⟨ws ++ ws', k, hws.append hws', by rw [hquoted, List.append_assoc]⟩
  · cases h
  · cases h

theorem strict_choice (choices : List (String × α)) : Strict (choice choices) := by
  intro cs rest a h
  unfold choice at h
  split at h
  · cases h
  · rename_i heq
    obtain ⟨ws, hws, rfl⟩ := exists_blank heq
    obtain ⟨ws', k, hws', hquoted⟩ := exists_quoted_of_variantName h
    refine ⟨.string k, ws ++ ws', _, hws.append hws', .string k, ?_⟩
    rw [hquoted, List.append_assoc]
  · rename_i heq
    obtain ⟨⟨a', more⟩, hkey, hcolon⟩ := bind_eq_ok.1 h
    dsimp only at hcolon
    split at hcolon
    · cases hcolon
    · rename_i heq'
      obtain ⟨⟨_, more'⟩, hunit, hend⟩ := bind_eq_ok.1 hcolon
      dsimp only at hend
      split at hend
      · rename_i heq''
        cases hend
        obtain ⟨wsk, k, hwsk, rfl⟩ := exists_quoted_of_variantKey hkey
        obtain ⟨wsc, hwsc, rfl⟩ := exists_blank heq'
        obtain ⟨t, wst, text, hwst, htext, rfl⟩ := strict_unit hunit
        obtain ⟨wse, hwse, rfl⟩ := exists_blank heq''
        have hmember : SpellsMembers true [(k, t)] _ :=
          .cons (.first hwsk) hwsc hwst htext (.nil false)
        exact (Spells.object hmember hwse).treeThen (by simp [heq])
      · cases hend
      · cases hend
    · cases hcolon
  · cases h

/-! ## Lists -/

variable {first : Bool} {d : Decoder α}

theorem exists_leads_of_nextItem (h : nextItem first cs = .ok (some rest)) :
    ∃ lead, Leads first lead ∧ cs = lead ++ rest := by
  unfold nextItem at h
  split at h
  · cases h
  · cases h
  · rename_i heq
    obtain ⟨ws, hws, rfl⟩ := exists_blank heq
    split_ifs at h with hfirst
    · cases h
      exact ⟨ws, hfirst ▸ .first hws, rfl⟩
    · rw [Bool.eq_false_iff.2 hfirst]
      split at h
      · cases h
      · cases h
      · cases h
        obtain ⟨ws', hws', hmore⟩ := exists_blank rfl
        exact ⟨_, .next hws hws', by rw [List.append_assoc, List.cons_append, ← hmore]⟩
  · split_ifs at h with hfirst
    cases h
    obtain ⟨ws, hws, hcs⟩ := exists_blank rfl
    exact ⟨ws, hfirst ▸ .first hws, hcs⟩

theorem exists_blank_of_endList (h : endList cs = .ok rest) :
    ∃ ws, Blank ws ∧ cs = ws ++ ']' :: rest := by
  unfold endList at h
  split at h
  · cases h
  · rename_i heq
    cases h
    exact exists_blank heq
  · split at h <;> cases h
  · cases h

theorem exists_spellsItems_of_items (h : Strict d) {n : Nat} {acc as : List α}
    (hread : items d n first acc cs = .ok (as, rest)) :
    ∃ ts text, SpellsItems first ts text ∧ cs = text ++ rest := by
  induction n generalizing first acc cs with
  | zero =>
    cases hread
    exact ⟨[], [], .nil first, rfl⟩
  | succ n ih =>
    obtain ⟨next, hnext, hitem⟩ := bind_eq_ok.1 hread
    cases next with
    | none =>
      cases hitem
      exact ⟨[], [], .nil first, rfl⟩
    | some more =>
      obtain ⟨⟨a, more'⟩, ha, hitems⟩ := bind_eq_ok.1 hitem
      obtain ⟨lead, hlead, rfl⟩ := exists_leads_of_nextItem hnext
      obtain ⟨ts, text, hts, rfl⟩ := ih hitems
      exact hts.treeThen hlead (h ha)

/-- **A list is strict if its items are.** -/
theorem strict_list (h : Strict d) : Strict (list d) := by
  intro cs rest as hread
  unfold list at hread
  split at hread
  · cases hread
  · rename_i heq
    obtain ⟨⟨as', more⟩, hitems, hread⟩ := bind_eq_ok.1 hread
    obtain ⟨rest', hend, hok⟩ := bind_eq_ok.1 hread
    cases hok
    obtain ⟨ts, text, hts, rfl⟩ := exists_spellsItems_of_items h hitems
    obtain ⟨ws, hws, rfl⟩ := exists_blank_of_endList hend
    exact (Spells.list hts hws).treeThen (by simp [heq])
  · cases hread

/-! ## Records -/

/-- Each of the fields is strict. -/
def StrictFields (fields : List (Field σ)) : Prop := ∀ f ∈ fields, ∀ s, Strict (f.read s)

theorem strict_ofOption {name : String} {get : σ → Option α} {put : σ → α → σ}
    {hasDefault : Bool} (h : Strict d) (s : σ) :
    Strict ((Field.ofOption name get put d hasDefault).read s) := by
  intro cs rest s' hread
  obtain ⟨⟨a, more⟩, ha, hok⟩ := bind_eq_ok.1 hread
  cases hok
  exact h ha

variable {fields : List (Field σ)} {s s' : σ}

theorem exists_leads_of_nextMember (h : nextMember first cs = .ok (some rest)) :
    ∃ lead, Leads first lead ∧ cs = lead ++ '"' :: rest := by
  unfold nextMember at h
  split at h
  · cases h
  · cases h
  · rename_i heq
    split_ifs at h with hfirst
    obtain ⟨ws, hws, rfl⟩ := exists_blank heq
    rw [Bool.eq_false_iff.2 hfirst]
    split at h
    · cases h
    · rename_i heq'
      cases h
      obtain ⟨ws', hws', rfl⟩ := exists_blank heq'
      exact ⟨_, .next hws hws', by simp⟩
    · cases h
    · cases h
  · rename_i heq
    split_ifs at h with hfirst hquote
    cases h
    obtain ⟨ws, hws, rfl⟩ := exists_blank heq
    have hfirst' : first = true := by simpa using hfirst
    exact ⟨ws, hfirst' ▸ .first hws, by rw [hquote]⟩

theorem exists_blank_of_colon (h : colon cs = .ok rest) :
    ∃ ws, Blank ws ∧ cs = ws ++ ':' :: rest := by
  unfold colon at h
  split at h
  · cases h
  · rename_i heq
    cases h
    exact exists_blank heq
  · cases h

theorem exists_blank_of_endObject (h : endObject cs = .ok rest) :
    ∃ ws, Blank ws ∧ cs = ws ++ '\x7d' :: rest := by
  unfold endObject at h
  split at h
  · cases h
  · rename_i heq
    cases h
    exact exists_blank heq
  · cases h
  · cases h

/-- A member is a key, a colon and a value, whether a field has its name or not. -/
theorem exists_treeThen_of_member (hfields : StrictFields fields)
    (h : member fields s cs = .ok (s', rest)) :
    ∃ k ws more, Blank ws ∧ TreeThen more rest ∧
      '"' :: cs = Piece.quoted k ++ (ws ++ ':' :: more) := by
  obtain ⟨⟨key, more⟩, hkey, hvalue⟩ := bind_eq_ok.1 h
  obtain ⟨more', hcolon, htree⟩ : ∃ more', colon more = .ok more' ∧ TreeThen more' rest := by
    dsimp only at hvalue
    split at hvalue
    · rename_i f hfind
      split_ifs at hvalue
      obtain ⟨more', hcolon, hread⟩ := bind_eq_ok.1 hvalue
      exact ⟨more', hcolon, hfields f (List.mem_of_find?_eq_some hfind) s hread⟩
    · obtain ⟨more', hcolon, hvalue⟩ := bind_eq_ok.1 hvalue
      obtain ⟨rest', hskip, hok⟩ := bind_eq_ok.1 hvalue
      cases hok
      exact ⟨more', hcolon, treeThen_of_skipValue hskip⟩
  obtain ⟨ws, hws, rfl⟩ := exists_blank_of_colon hcolon
  obtain ⟨k, rfl⟩ := exists_pieces_of_stringBody hkey
  exact ⟨k, ws, more', hws, htree, by rw [Piece.quoted_append]⟩

theorem exists_spellsMembers_of_members (hfields : StrictFields fields) {n : Nat}
    (h : members fields n first s cs = .ok (s', rest)) :
    ∃ ms text, SpellsMembers first ms text ∧ cs = text ++ rest := by
  induction n generalizing first s cs with
  | zero =>
    cases h
    exact ⟨[], [], .nil first, rfl⟩
  | succ n ih =>
    obtain ⟨next, hnext, hnext'⟩ := bind_eq_ok.1 h
    cases next with
    | none =>
      cases hnext'
      exact ⟨[], [], .nil first, rfl⟩
    | some more =>
      obtain ⟨⟨s₁, more'⟩, hmember, hmembers⟩ := bind_eq_ok.1 hnext'
      obtain ⟨lead, hlead, rfl⟩ := exists_leads_of_nextMember hnext
      obtain ⟨ms, text, hms, rfl⟩ := ih hmembers
      obtain ⟨k, wsc, _, hwsc, ⟨t, ws, body, hws, hbody, rfl⟩, hcs⟩ :=
        exists_treeThen_of_member hfields hmember
      refine ⟨(k, t) :: ms, _, .cons hlead hwsc hws hbody hms, ?_⟩
      rw [hcs]
      simp

theorem exists_spellsItems_of_positional (hfields : StrictFields fields) {expected : String}
    {index : Nat} (h : positional expected index first s fields cs = .ok (s', rest)) :
    ∃ ts text, SpellsItems first ts text ∧ cs = text ++ rest := by
  induction fields generalizing first s cs index with
  | nil =>
    cases h
    exact ⟨[], [], .nil first, rfl⟩
  | cons f fields ih =>
    obtain ⟨hf, hfields⟩ := List.forall_mem_cons.1 hfields
    obtain ⟨next, hnext, hnext'⟩ := bind_eq_ok.1 h
    cases next with
    | none =>
      dsimp only at hnext'
      split_ifs at hnext'
      exact ih hfields hnext'
    | some more =>
      obtain ⟨⟨s₁, more'⟩, hitem, hitems⟩ := bind_eq_ok.1 hnext'
      obtain ⟨lead, hlead, rfl⟩ := exists_leads_of_nextItem hnext
      obtain ⟨ts, text, hts, rfl⟩ := ih hfields hitems
      exact hts.treeThen hlead (hf s hitem)

/-- **A record is strict if its fields are.** -/
theorem strict_record {r : Record α} (h : StrictFields r.fields) : Strict (record r) := by
  intro cs rest a hread
  unfold record at hread
  split at hread
  · cases hread
  · rename_i heq
    obtain ⟨⟨s, more⟩, hitems, hread⟩ := bind_eq_ok.1 hread
    obtain ⟨a', -, hread⟩ := bind_eq_ok.1 hread
    obtain ⟨rest', hend, hok⟩ := bind_eq_ok.1 hread
    cases hok
    obtain ⟨ts, text, hts, rfl⟩ := exists_spellsItems_of_positional h hitems
    obtain ⟨ws, hws, rfl⟩ := exists_blank_of_endList hend
    exact (Spells.list hts hws).treeThen (by simp [heq])
  · rename_i heq
    obtain ⟨⟨s, more⟩, hmembers, hread⟩ := bind_eq_ok.1 hread
    obtain ⟨a', -, hread⟩ := bind_eq_ok.1 hread
    obtain ⟨rest', hend, hok⟩ := bind_eq_ok.1 hread
    cases hok
    obtain ⟨ms, text, hms, rfl⟩ := exists_spellsMembers_of_members h hmembers
    obtain ⟨ws, hws, rfl⟩ := exists_blank_of_endObject hend
    exact (Spells.object hms hws).treeThen (by simp [heq])
  · cases hread

end Decoder

end Munch.Json
