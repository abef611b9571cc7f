import Munch.Pattern.Lexeme
import Mathlib.Data.List.Basic

/-!
# What readers look at

A reader of a part of a pattern gives back the text behind the part. It **keeps to its part**
(`Reads`) if it reads the same from a text that stops behind the part: what it gives back is an end
of the text, and of that end it looks at nothing.

The readers of the smallest parts keep to them, with one exception (`escape_cut`): `\b` may be
followed by a brace that opens no name, and the reader looks inside to find that out.
-/

namespace Munch

/-! ## Computations that may fail -/

/-- A computation succeeds if and only if each of its steps does. -/
theorem bind_eq_ok {ε α β : Type} {x : Except ε α} {f : α → Except ε β} {y : β} :
    (x >>= f) = .ok y ↔ ∃ a, x = .ok a ∧ f a = .ok y := by
  cases x with
  | error cause =>
    constructor
    · intro h
      cases h
    · rintro ⟨a, h, -⟩
      cases h
  | ok a =>
    constructor
    · exact fun h => ⟨a, rfl, h⟩
    · rintro ⟨a', h, hf⟩
      cases h
      exact hf

theorem error_ne_ok {ε α : Type} {cause : ε} {a : α} : Except.error cause ≠ Except.ok a := by
  rintro ⟨⟩

theorem isOk_iff {ε α : Type} {x : Except ε α} : x.isOk = true ↔ ∃ a, x = .ok a := by
  cases x <;> simp [Except.isOk, Except.toBool]

namespace Pattern

variable {α β : Type} {v inComment : Bool} {c : Char} {cs ds r rest run tail : List Char}
  {p : Char → Bool}

/-! ## Blanks and comments -/

theorem dropSpace_cut (h : dropSpace inComment cs = rest ++ tail) :
    ∃ w, cs = w ++ tail ∧ dropSpace inComment w = rest := by
  induction cs generalizing inComment with
  | nil =>
    obtain ⟨rfl, rfl⟩ := List.append_eq_nil_iff.1 h.symm
    exact ⟨[], rfl, rfl⟩
  | cons c cs ih =>
    have hpass {b} (hdrop : dropSpace b cs = rest ++ tail)
        (hstep : ∀ ds, dropSpace inComment (c :: ds) = dropSpace b ds) :
        ∃ w, c :: cs = w ++ tail ∧ dropSpace inComment w = rest := by
      obtain ⟨w, rfl, hw⟩ := ih hdrop
      exact ⟨c :: w, rfl, (hstep w).trans hw⟩
    unfold dropSpace at h
    split_ifs at h with hcomment hblank hmark
    · exact hpass h fun ds => by simp only [dropSpace, if_pos hcomment]
    · exact hpass h fun ds => by simp only [dropSpace, if_neg hcomment, if_pos hblank]
    · exact hpass h fun ds => by
        simp only [dropSpace, if_neg hcomment, if_neg hblank, if_pos hmark]
    · refine ⟨rest, h, ?_⟩
      cases rest with
      | nil => rfl
      | cons d rest =>
        obtain ⟨rfl, -⟩ := List.cons.inj h
        simp only [dropSpace, if_neg hcomment, if_neg hblank, if_neg hmark]

theorem dropSpace_append (h : dropSpace inComment cs = c :: r) (tail : List Char) :
    dropSpace inComment (cs ++ tail) = c :: (r ++ tail) := by
  induction cs generalizing inComment with
  | nil => cases h
  | cons d cs ih =>
    rw [List.cons_append]
    unfold dropSpace at h ⊢
    split_ifs at h ⊢
    · exact ih h
    · exact ih h
    · exact ih h
    · rw [← List.cons_append, h, List.cons_append]

theorem stops_of_dropSpace (h : dropSpace inComment cs = c :: r) :
    Text.isBlank c = false ∧ c ≠ '#' := by
  induction cs generalizing inComment with
  | nil => cases h
  | cons d cs ih =>
    unfold dropSpace at h
    split_ifs at h with hcomment hblank hmark
    · exact ih h
    · exact ih h
    · exact ih h
    · obtain ⟨rfl, -⟩ := List.cons.inj h
      exact ⟨by simpa using hblank, hmark⟩

theorem skip_cut (h : skip v cs = rest ++ tail) : ∃ w, cs = w ++ tail ∧ skip v w = rest := by
  unfold skip at h
  split_ifs at h with hv
  · simpa only [skip, if_pos hv] using dropSpace_cut h
  · exact ⟨rest, h, if_neg hv⟩

theorem skip_suffix (v : Bool) (cs : List Char) : skip v cs <:+ cs := by
  obtain ⟨w, hw, -⟩ := skip_cut (List.nil_append (skip v cs)).symm
  exact ⟨w, hw.symm⟩

theorem skip_append (h : skip v cs = c :: r) (tail : List Char) :
    skip v (cs ++ tail) = c :: (r ++ tail) := by
  unfold skip at h ⊢
  split_ifs at h ⊢
  · exact dropSpace_append h tail
  · rw [h, List.cons_append]

/-- What `skip` stops at is never passed over. -/
theorem skip_cons_of_skip (h : skip v cs = c :: r) (ds : List Char) :
    skip v (c :: ds) = c :: ds := by
  unfold skip at h ⊢
  split_ifs at h ⊢
  · obtain ⟨hblank, hmark⟩ := stops_of_dropSpace h
    simp [dropSpace, hblank, hmark]
  · rfl

theorem skip_nil (v : Bool) : skip v [] = [] := List.suffix_nil.1 (skip_suffix v [])

theorem skip_skip (v : Bool) (cs : List Char) : skip v (skip v cs) = skip v cs := by
  cases h : skip v cs with
  | nil => exact skip_nil v
  | cons c r => exact skip_cons_of_skip h r

/-! ## Runs -/

theorem takeRun_cut (h : takeRun v p inComment cs = (run, rest ++ tail)) :
    ∃ w, cs = w ++ tail ∧ takeRun v p inComment w = (run, rest) := by
  induction cs generalizing inComment run with
  | nil =>
    obtain ⟨rfl, hrest⟩ := Prod.mk.inj h
    obtain ⟨rfl, rfl⟩ := List.append_eq_nil_iff.1 hrest.symm
    exact ⟨[], rfl, rfl⟩
  | cons c cs ih =>
    have hpass {b} (hrun : takeRun v p b cs = (run, rest ++ tail))
        (hstep : ∀ ds, takeRun v p inComment (c :: ds) = takeRun v p b ds) :
        ∃ w, c :: cs = w ++ tail ∧ takeRun v p inComment w = (run, rest) := by
      obtain ⟨w, rfl, hw⟩ := ih hrun
      exact ⟨c :: w, rfl, (hstep w).trans hw⟩
    unfold takeRun at h
    split_ifs at h with hcomment hblank hmark htake
    · exact hpass h fun ds => by simp only [takeRun, if_pos hcomment]
    · exact hpass h fun ds => by simp only [takeRun, if_neg hcomment, if_pos hblank]
    · exact hpass h fun ds => by
        simp only [takeRun, if_neg hcomment, if_neg hblank, if_pos hmark]
    · obtain ⟨rfl, hrest⟩ := Prod.mk.inj h
      obtain ⟨w, rfl, hw⟩ := ih (Prod.ext rfl hrest)
      refine ⟨c :: w, rfl, ?_⟩
      simp only [takeRun, if_neg hcomment, if_neg hblank, if_neg hmark, if_pos htake, hw]
    · obtain ⟨rfl, hrest⟩ := Prod.mk.inj h
      refine ⟨rest, hrest, ?_⟩
      cases rest with
      | nil => rfl
      | cons d rest =>
        obtain ⟨rfl, -⟩ := List.cons.inj hrest
        simp only [takeRun, if_neg hcomment, if_neg hblank, if_neg hmark, if_neg htake]

theorem takeRun_suffix (v : Bool) (p : Char → Bool) (inComment : Bool) (cs : List Char) :
    (takeRun v p inComment cs).2 <:+ cs := by
  obtain ⟨w, hw, -⟩ := takeRun_cut (Prod.ext rfl (List.nil_append _).symm)
  exact ⟨w, hw.symm⟩

theorem dropWhile_cut (h : cs.dropWhile p = rest ++ tail) :
    ∃ w, cs = w ++ tail ∧ w.dropWhile p = rest := by
  induction cs with
  | nil =>
    obtain ⟨rfl, rfl⟩ := List.append_eq_nil_iff.1 h.symm
    exact ⟨[], rfl, rfl⟩
  | cons c cs ih =>
    by_cases hc : p c = true
    · rw [List.dropWhile_cons_of_pos hc] at h
      obtain ⟨w, rfl, hw⟩ := ih h
      exact ⟨c :: w, rfl, (List.dropWhile_cons_of_pos hc).trans hw⟩
    · rw [List.dropWhile_cons_of_neg hc] at h
      refine ⟨rest, h, ?_⟩
      cases rest with
      | nil => rfl
      | cons d rest =>
        obtain ⟨rfl, -⟩ := List.cons.inj h
        exact List.dropWhile_cons_of_neg hc

/-! ## Readers -/

/-- The reader keeps to its part: it reads the same from a text that stops anywhere behind it. -/
structure Reads (f : List Char → Except Error (α × List Char)) : Prop where
  cut : ∀ {cs rest tail x}, f cs = .ok (x, rest ++ tail) → ∃ w, cs = w ++ tail ∧ f w = .ok (x, rest)

namespace Reads

variable {f : List Char → Except Error (α × List Char)}
  {g : α → List Char → Except Error (β × List Char)}

theorem suffix {x : α} (hf : Reads f) (h : f cs = .ok (x, rest)) : rest <:+ cs := by
  rw [← List.nil_append rest] at h
  obtain ⟨w, hw, -⟩ := hf.cut h
  exact ⟨w, hw.symm⟩

theorem fail (e : Error) : Reads fun _ => (.error e : Except Error (α × List Char)) := ⟨nofun⟩

theorem done (x : α) : Reads fun cs => .ok (x, cs) where
  cut {_ rest _ _} h := by
    obtain ⟨rfl, hcs⟩ := Prod.mk.inj (Except.ok.inj h)
    exact ⟨rest, hcs, rfl⟩

theorem bind (hf : Reads f) (hg : ∀ x, Reads (g x)) :
    Reads fun cs => f cs >>= fun out => g out.1 out.2 where
  cut h := by
    obtain ⟨⟨x, r⟩, hx, h⟩ := bind_eq_ok.1 h
    obtain ⟨u, rfl, hu⟩ := (hg x).cut h
    obtain ⟨w, hcs, hw⟩ := hf.cut hx
    exact ⟨w, hcs, bind_eq_ok.2 ⟨_, hw, hu⟩⟩

/-- A check that has nothing to do with the text. -/
theorem check {x : Except Error α} (hg : ∀ a, Reads (g a)) :
    Reads fun cs => x >>= fun a => g a cs := by
  cases x with
  | error e => exact fail e
  | ok a => exact hg a

theorem skip (hf : Reads f) (v : Bool) : Reads fun cs => f (Pattern.skip v cs) where
  cut h := by
    obtain ⟨u, hu, hread⟩ := hf.cut h
    obtain ⟨w, hcs, rfl⟩ := skip_cut hu
    exact ⟨w, hcs, hread⟩

/-- A run and what is read behind it. -/
theorem ofRun {f : List Char → Except Error (β × List Char)}
    (g : List Char → List Char → Except Error (β × List Char))
    (hf : ∀ cs, f cs = g (takeRun v p false cs).1 (takeRun v p false cs).2)
    (hg : ∀ run, Reads (g run)) : Reads f where
  cut h := by
    rw [hf] at h
    obtain ⟨u, hu, hread⟩ := (hg _).cut h
    obtain ⟨w, hcs, hw⟩ := takeRun_cut (Prod.ext rfl hu)
    refine ⟨w, hcs, ?_⟩
    rw [hf, hw]
    exact hread

/-- A reader that takes a first character which is not passed over. -/
theorem ofHead (v : Bool) (hskip : ∀ cs, f (Pattern.skip v cs) = f cs)
    (hnil : ∀ out, f [] ≠ .ok out)
    (hcons : ∀ c, (∀ cs, Pattern.skip v (c :: cs) = c :: cs) → Reads fun cs => f (c :: cs)) :
    Reads f where
  cut {cs _ _ _} h := by
    rw [← hskip] at h
    cases hs : Pattern.skip v cs with
    | nil => exact (hnil _ (hs ▸ h)).elim
    | cons c r =>
      rw [hs] at h
      obtain ⟨u, rfl, hu⟩ := (hcons c (skip_cons_of_skip hs)).cut h
      obtain ⟨w, hcs, hw⟩ := skip_cut (List.cons_append .. ▸ hs)
      refine ⟨w, hcs, ?_⟩
      rw [← hskip, hw]
      exact hu

theorem uncons (hnil : ∀ out, f [] ≠ .ok out) (hcons : ∀ c, Reads fun cs => f (c :: cs)) :
    Reads f := ofHead false (fun _ => rfl) hnil fun c _ => hcons c

end Reads

/-! ## Numbers -/

theorem reads_fixedHex {acc n : Nat} : Reads (fixedHex v acc n) := by
  induction n generalizing acc with
  | zero => exact .done acc
  | succ n ih =>
    refine .uncons nofun fun c => ?_
    simp only [fixedHex]
    cases CharSet.hexValue? c with
    | none => exact .fail _
    | some d => exact ih.skip v

theorem reads_fixedHex_cons {acc n : Nat} (c : Char) :
    Reads fun cs => fixedHex v acc (n + 1) (c :: cs) := by
  simp only [fixedHex]
  cases CharSet.hexValue? c with
  | none => exact .fail _
  | some d => exact reads_fixedHex.skip v

/-- The character of a code in braces, at the end of its digits. -/
def closeHex (v : Bool) (digits : List Char) : List Char → Except Error (Char × List Char)
  | [] => .error .escapeUnfinished
  | '\x7d' :: rest =>
    if digits.isEmpty then .error .hexEmpty
    else do
      let c ← scalar (ofDigits 16 digits)
      .ok (c, skip v rest)
  | _ => .error .hexDigitInvalid

theorem reads_bracedHex : Reads (bracedHex v) := by
  refine .ofRun (closeHex v) (fun cs => rfl) fun digits => ?_
  refine .uncons nofun fun c => ?_
  by_cases hc : c = '\x7d'
  · subst hc
    show Reads fun cs => if digits.isEmpty = true then _ else _
    split_ifs
    · exact .fail _
    · exact .check fun c => (Reads.done c).skip v
  · simp only [closeHex, List.cons.injEq, hc, false_and, imp_self, implies_true]
    exact .fail _

theorem exists_hexWidth (letter : Char) : ∃ n, hexWidth letter = n + 1 := by
  unfold hexWidth
  split_ifs <;> exact ⟨_, rfl⟩

theorem reads_hexEscape {letter : Char} : Reads (hexEscape v letter) := by
  refine .ofHead v (fun cs => by simp only [hexEscape, skip_skip]) ?_ fun c hc => ?_
  · simp [hexEscape, skip_nil]
  · by_cases hbrace : c = '\x7b'
    · subst hbrace
      simp only [hexEscape, hc]
      exact reads_bracedHex.bind fun c => .done (⟨c, false⟩ : Literal)
    · obtain ⟨n, hn⟩ := exists_hexWidth letter
      simp only [hexEscape, hc, hn, List.cons.injEq, hbrace, false_and, imp_self, implies_true]
      exact (reads_fixedHex_cons c).bind fun n =>
        .check fun c => .done (⟨c, letter = 'x'⟩ : Literal)

theorem snd_decimal (v : Bool) (cs : List Char) : (decimal v cs).2 =
    (takeRun v Char.isDigit false (cs.dropWhile Text.isBlank)).2.dropWhile Text.isBlank := by
  simp only [decimal]
  split_ifs <;> rfl

theorem decimal_cut {n : Except Error (Option Nat)} (h : decimal v cs = (n, rest ++ tail)) :
    ∃ w, cs = w ++ tail ∧ decimal v w = (n, rest) := by
  have hrest := snd_decimal v cs
  rw [h] at hrest
  obtain ⟨t, ht, rfl⟩ := dropWhile_cut hrest.symm
  obtain ⟨u, hu, hrun⟩ := takeRun_cut (Prod.ext rfl ht)
  obtain ⟨w, rfl, hw⟩ := dropWhile_cut hu
  refine ⟨w, rfl, ?_⟩
  simp only [decimal] at h
  simp only [decimal, hw, hrun]
  split_ifs at h ⊢
  all_goals exact Prod.ext (Prod.mk.inj h).1 rfl

theorem decimal_suffix (v : Bool) (cs : List Char) : (decimal v cs).2 <:+ cs := by
  obtain ⟨w, hw, -⟩ := decimal_cut (Prod.ext rfl (List.nil_append (decimal v cs).2).symm)
  exact ⟨w, hw.symm⟩

/-! ## Properties -/

/-- The name of a property in braces, at its end. -/
def closeProperty (name : List Char) : List Char → Except Error (PropertyName × List Char)
  | [] => .error .escapeUnfinished
  | _ :: rest => .ok (splitProperty name, rest)

theorem reads_property : Reads (property v) := by
  refine .ofHead v (fun cs => by simp only [property, skip_skip]) ?_ fun c hc => ?_
  · simp [property, skip_nil]
  · by_cases hbrace : c = '\x7b'
    · subst hbrace
      simp only [property, hc]
      refine .ofRun closeProperty (fun cs => rfl) fun name => ?_
      exact .uncons nofun fun c => .done (splitProperty name)
    · by_cases hslash : c = '\\'
      · subst hslash
        simp only [property, hc]
        exact .fail _
      · simp only [property, hc]
        exact (Reads.done _).skip v

/-! ## Escapes -/

/-- A named edge, after its opening brace. -/
def namedEdge (v : Bool) (cs : List Char) : Except Error (WordEdge × List Char) :=
  let (name, rest) := takeRun v isEdgeChar false cs
  match rest with
  | '\x7d' :: rest =>
    match edgeNamed? name with
    | some edge => .ok (edge, rest)
    | none => .error .edgeUnknown
  | _ => .error .edgeUnclosed

theorem wordEdge_brace (v : Bool) (cs : List Char) : wordEdge v ('\x7b' :: cs) =
    match skip v cs with
    | [] => .error .edgeOrCountUnfinished
    | c :: inside =>
      if isEdgeChar c = true then namedEdge v (c :: inside) else .ok (.boundary, '\x7b' :: cs) := by
  simp only [wordEdge, namedEdge]
  cases skip v cs with
  | nil => rfl
  | cons c inside =>
    by_cases hc : isEdgeChar c = true
    · have hedge : ¬(!isEdgeChar c) = true := by simp [hc]
      exact (if_neg hedge).trans (if_pos hc).symm
    · have hedge : (!isEdgeChar c) = true := by simp [hc]
      exact (if_pos hedge).trans (if_neg hc).symm

theorem wordEdge_of_ne (hc : ∀ ds, cs ≠ '\x7b' :: ds) : wordEdge v cs = .ok (.boundary, cs) := by
  simp only [wordEdge]

theorem reads_namedEdge : Reads (namedEdge v) := by
  refine .ofRun (fun name rest => match rest with
    | '\x7d' :: rest =>
      match edgeNamed? name with
      | some edge => .ok (edge, rest)
      | none => .error .edgeUnknown
    | _ => .error .edgeUnclosed) (fun cs => rfl) fun name => ?_
  refine .uncons nofun fun c => ?_
  by_cases hc : c = '\x7d'
  · subst hc
    cases hname : edgeNamed? name with
    | none =>
      simp only
      exact .fail _
    | some edge =>
      simp only
      exact .done edge
  · simp only [List.cons.injEq, hc, false_and, imp_self, implies_true]
    exact .fail _

theorem length_lt_of_namedEdge {edge : WordEdge} (h : namedEdge v cs = .ok (edge, rest)) :
    rest.length < cs.length := by
  have hclose : '\x7d' :: rest <:+ cs := by
    simp only [namedEdge] at h
    split at h
    · rename_i hrun
      split at h
      · cases h
        exact hrun ▸ takeRun_suffix v isEdgeChar false cs
      · cases h
    · cases h
  exact hclose.length_le

/-- A brace with nothing behind it but what is passed over; whatever it opens lies further on. -/
def BareBrace (v : Bool) (rest : List Char) : Prop := ∃ ds, rest = '\x7b' :: ds ∧ skip v ds = []

/-- A boundary takes no character, and looks at what follows only to see a brace and what it
opens. -/
theorem wordEdge_boundary (h : wordEdge v (rest ++ tail) = .ok (.boundary, rest ++ tail)) :
    wordEdge v rest = .ok (.boundary, rest) ∨ BareBrace v rest := by
  by_cases hbrace : ∃ ds, rest = '\x7b' :: ds
  · obtain ⟨ds, rfl⟩ := hbrace
    cases hs : skip v ds with
    | nil => exact .inr ⟨ds, rfl, hs⟩
    | cons c inside =>
      rw [List.cons_append, wordEdge_brace, skip_append hs] at h
      refine .inl ?_
      rw [wordEdge_brace, hs]
      simp only at h ⊢
      split_ifs at h ⊢
      · have hlen := length_lt_of_namedEdge h
        have hle := (skip_suffix v (ds ++ tail)).length_le
        rw [skip_append hs] at hle
        rw [List.length_cons] at hlen
        omega
      · rfl
  · exact .inl (wordEdge_of_ne fun ds hds => hbrace ⟨ds, hds⟩)

/-- A word edge is a boundary that takes no character, or a named one. -/
theorem wordEdge_cases {edge : WordEdge} (h : wordEdge v cs = .ok (edge, rest)) :
    edge = .boundary ∧ rest = cs ∨ ∃ ds c inside, cs = '\x7b' :: ds ∧
      skip v ds = c :: inside ∧ isEdgeChar c = true ∧
        namedEdge v (c :: inside) = .ok (edge, rest) := by
  by_cases hbrace : ∃ ds, cs = '\x7b' :: ds
  · obtain ⟨ds, rfl⟩ := hbrace
    rw [wordEdge_brace] at h
    cases hs : skip v ds with
    | nil =>
      rw [hs] at h
      cases h
    | cons c inside =>
      simp only [hs] at h
      split_ifs at h with hc
      · exact .inr ⟨ds, c, inside, rfl, hs, hc, h⟩
      · cases h
        exact .inl ⟨rfl, rfl⟩
  · rw [wordEdge_of_ne fun ds hds => hbrace ⟨ds, hds⟩] at h
    cases h
    exact .inl ⟨rfl, rfl⟩

theorem wordEdge_cut {edge : WordEdge} (h : wordEdge v cs = .ok (edge, rest ++ tail)) :
    ∃ w, cs = w ++ tail ∧
      (wordEdge v w = .ok (edge, rest) ∨ edge = .boundary ∧ BareBrace v rest) := by
  rcases wordEdge_cases h with ⟨rfl, rfl⟩ | ⟨ds, c, inside, rfl, hs, hc, hname⟩
  · exact ⟨rest, rfl, (wordEdge_boundary h).imp_right fun hbare => ⟨rfl, hbare⟩⟩
  · obtain ⟨u, hu, hread⟩ := reads_namedEdge.cut hname
    cases u with
    | nil => cases hread
    | cons d u =>
      obtain ⟨rfl, rfl⟩ := List.cons.inj hu
      obtain ⟨w, rfl, hw⟩ := skip_cut (List.cons_append .. ▸ hs)
      refine ⟨'\x7b' :: w, rfl, .inl ?_⟩
      rw [wordEdge_brace, hw]
      simp only [if_pos hc, hread]

theorem escape_b (v : Bool) (cs : List Char) : escape v ('b' :: cs) =
    wordEdge v cs >>= fun out => .ok (.anchor (.word out.1), out.2) := rfl

theorem escape_cons_of_plain (hx : ¬(c = 'x' ∨ c = 'u' ∨ c = 'U'))
    (hp : ¬(c = 'p' ∨ c = 'P')) (hb : c ≠ 'b') (cs : List Char) :
    escape v (c :: cs) = escape v [c] >>= fun out => .ok (out.1, cs) := by
  simp only [escape, if_neg hx, if_neg hp]
  split_ifs
  · rfl
  · rfl
  · split
    all_goals first | rfl | exact absurd rfl hb

theorem reads_escape_cons (hb : c ≠ 'b') : Reads fun cs => escape v (c :: cs) := by
  by_cases hdigit : c.isDigit = true
  · simp only [escape, if_pos hdigit]
    exact .fail _
  · by_cases hx : c = 'x' ∨ c = 'u' ∨ c = 'U'
    · simp only [escape, if_neg hdigit, if_pos hx]
      exact reads_hexEscape.bind fun l => .done (Atom.literal l)
    · by_cases hp : c = 'p' ∨ c = 'P'
      · simp only [escape, if_neg hdigit, if_neg hx, if_pos hp]
        exact reads_property.bind fun name => .done (Atom.property name (c = 'P'))
      · rw [funext (escape_cons_of_plain hx hp hb)]
        exact .check fun out => .done out.1

/-- **An escape keeps to its part, or it is a boundary with a bare brace behind it.** -/
theorem escape_cut {x : Atom} (h : escape v cs = .ok (x, rest ++ tail)) :
    ∃ w, cs = w ++ tail ∧
      (escape v w = .ok (x, rest) ∨ x = .anchor (.word .boundary) ∧ BareBrace v rest) := by
  cases cs with
  | nil => cases h
  | cons c cs =>
    by_cases hb : c = 'b'
    · subst hb
      rw [escape_b] at h
      obtain ⟨⟨edge, r⟩, hedge, h⟩ := bind_eq_ok.1 h
      obtain ⟨rfl, rfl⟩ := Prod.mk.inj (Except.ok.inj h)
      obtain ⟨w, rfl, hread | ⟨rfl, hbare⟩⟩ := wordEdge_cut hedge
      · exact ⟨'b' :: w, rfl, .inl (by rw [escape_b, hread]; rfl)⟩
      · exact ⟨'b' :: w, rfl, .inr ⟨rfl, hbare⟩⟩
    · obtain ⟨w, rfl, hread⟩ := (reads_escape_cons hb).cut h
      exact ⟨c :: w, rfl, .inl hread⟩

theorem escape_suffix {x : Atom} (h : escape v cs = .ok (x, rest)) : rest <:+ cs := by
  rw [← List.nil_append rest] at h
  obtain ⟨w, hw, -⟩ := escape_cut h
  exact ⟨w, hw.symm⟩

/-! ## Flags and names -/

theorem flags_cut {seen : FlagSetting} {off dash : Bool} {x : FlagSetting × Char}
    (h : flags seen off dash cs = .ok (x, rest ++ tail)) :
    ∃ w, cs = w ++ tail ∧ flags seen off dash w = .ok (x, rest) := by
  induction cs generalizing seen off dash with
  | nil => cases h
  | cons c cs ih =>
    unfold flags at h
    split_ifs at h with hend hdash hminus hoff
    · obtain ⟨rfl, rfl⟩ := Prod.mk.inj (Except.ok.inj h)
      exact ⟨c :: rest, rfl, by simp only [flags, if_pos hend, if_neg hdash]⟩
    · obtain ⟨w, rfl, hw⟩ := ih h
      exact ⟨c :: w, rfl, by simp only [flags, if_neg hend, if_pos hminus, if_neg hoff, hw]⟩
    · split at h
      · cases h
      · rename_i f hf
        split_ifs at h with hseen
        obtain ⟨w, rfl, hw⟩ := ih h
        exact ⟨c :: w, rfl, by simp only [flags, if_neg hend, if_neg hminus, hf, if_neg hseen, hw]⟩

theorem reads_flags {seen : FlagSetting} {off dash : Bool} : Reads (flags seen off dash) :=
  ⟨flags_cut⟩

theorem groupName_cons {first : Bool} (hc : c ≠ '>') : groupName first (c :: cs) =
    if isNameChar first c = true then
      groupName false cs >>= fun out => .ok (c :: out.1, out.2)
    else .error .nameInvalid := by
  simp only [groupName]

theorem groupName_cut {first : Bool} (h : groupName first cs = .ok (run, rest ++ tail)) :
    ∃ w, cs = w ++ tail ∧ groupName first w = .ok (run, rest) := by
  induction cs generalizing first run with
  | nil => cases h
  | cons c cs ih =>
    by_cases hc : c = '>'
    · subst hc
      obtain ⟨rfl, rfl⟩ := Prod.mk.inj (Except.ok.inj h)
      exact ⟨'>' :: rest, rfl, rfl⟩
    · rw [groupName_cons hc] at h
      split_ifs at h with hname
      obtain ⟨⟨run, r⟩, hrun, h⟩ := bind_eq_ok.1 h
      obtain ⟨rfl, rfl⟩ := Prod.mk.inj (Except.ok.inj h)
      obtain ⟨w, rfl, hw⟩ := ih hrun
      refine ⟨c :: w, rfl, ?_⟩
      rw [groupName_cons hc, if_pos hname, hw]
      rfl

theorem reads_groupName {first : Bool} : Reads (groupName first) := ⟨groupName_cut⟩

end Pattern

end Munch
