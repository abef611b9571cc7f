import Munch.Json.Decoder
import Munch.Proofs.Json.Skip
import Munch.Proofs.Pattern.Reading
import Mathlib.Data.List.Forall2

/-!
# What decoders make of trees

A decoder **means** a relation between trees and values (`Means`) if it reads from a text of a tree
just the values that the tree is related to, and stops behind the text. So what it reads depends on
the tree alone: not on the blanks, and not on what follows. Each decoder of this file means a
relation that says in terms of trees what it accepts.

* `means_bool`, `means_string`, `means_word64`, `means_choice`: simple values.
* `means_list`: a list means what its items mean.

A number is the one decoder whose relation has to be found out: what is read as a natural number is
what is written for it (`natural_of_number`), and where it ends is known from passing over it.
-/

namespace Munch.Json

variable {α : Type} {t : Tree} {text ws rest rest' : List Char}

/-- The decoder reads from the texts of a tree what the relation says, and nothing else. -/
def Means (d : Decoder α) (R : Tree → α → Prop) : Prop :=
  ∀ ⦃t : Tree⦄ ⦃text ws rest : List Char⦄ ⦃a : α⦄ ⦃rest' : List Char⦄,
    Spells t text → Blank ws → EndsNumber rest →
      (d (ws ++ (text ++ rest)) = .ok (a, rest') ↔ R t a ∧ rest' = rest)

namespace Means

variable {d : Decoder α} {R : Tree → α → Prop} {a b : α}

theorem read_iff (h : Means d R) (htext : Spells t text) (hrest : EndsNumber rest) :
    d (text ++ rest) = .ok (a, rest') ↔ R t a ∧ rest' = rest := h htext blank_nil hrest

theorem congr {S : Tree → α → Prop} (h : Means d R) (hRS : ∀ t a, R t a ↔ S t a) : Means d S := by
  intro t text ws rest a rest' htext hws hrest
  rw [h htext hws hrest, hRS]

/-- A tree has at most one meaning. -/
theorem unique (h : Means d R) (ha : R t a) (hb : R t b) : a = b := by
  have hread := (h.read_iff (spells_chars t) endsNumber_nil).2 ⟨ha, rfl⟩
  have hread' := (h.read_iff (spells_chars t) endsNumber_nil).2 ⟨hb, rfl⟩
  cases hread.symm.trans hread'
  rfl

/-- **A whole text is read as the tree that it holds.** -/
theorem run_eq_ok_iff (h : Means d R) {text : String} (htext : Document t text) :
    d.run text = .ok a ↔ R t a := by
  obtain ⟨ws, body, ws', hws, hbody, hws', htext⟩ := htext
  have hread : ∀ rest', d text.toList = .ok (a, rest') ↔ R t a ∧ rest' = ws' := by
    intro rest'
    rw [htext]
    refine h hbody hws ?_
    simpa using endsNumber_nil.blank_append hws'
  have hnil : dropBlanks ws' = [] := hws'
  constructor
  · intro hrun
    obtain ⟨⟨a', rest'⟩, hd, hend⟩ := bind_eq_ok.1 hrun
    dsimp only at hend
    split at hend
    · cases hend
      exact ((hread rest').1 hd).1
    · cases hend
  · intro ha
    refine bind_eq_ok.2 ⟨(a, ws'), (hread ws').2 ⟨ha, rfl⟩, ?_⟩
    simp [hnil]

end Means

/-! ## Strings -/

/-- A backslash and a letter read back as the character that they stand for. -/
theorem stringBody_escape {letter c : Char} (h : escaped? letter = some c) (acc cs : List Char) :
    stringBody acc ('\\' :: letter :: cs) = stringBody (c :: acc) cs := by
  unfold escaped? at h
  split at h
  case h_9 => cases h
  all_goals
    cases h
    rfl

/-- A surrogate that no second one follows is refused. -/
theorem stringBody_lone {a b c d : Char} {n : Nat} (hn : unit? a b c d = some n)
    (htrail : ¬isTrail n = true) (hlead : ¬(!isLead n) = true) {ps : List Piece}
    (hps : ∀ a b c d m (hm : unit? a b c d = some m) qs, ps = .unit a b c d m hm :: qs → False)
    (acc rest : List Char) (out : List Char × List Char) :
    stringBody acc ('\\' :: 'u' :: a :: b :: c :: d :: (ps.flatMap Piece.chars ++ '"' :: rest)) ≠
      .ok out := by
  rw [stringBody]
  simp only [hn, htrail, hlead, if_false, Bool.false_eq_true]
  cases ps with
  | nil => exact error_ne_ok
  | cons p ps =>
    rw [List.flatMap_cons, List.append_assoc]
    cases p with
    | plain e he =>
      simp only [Piece.chars, List.cons_append]
      split
      · rename_i heq
        exact (he.2.1 (List.cons.inj heq).1).elim
      · rename_i heq
        exact (he.2.1 (List.cons.inj heq).1).elim
      · exact error_ne_ok
      · exact error_ne_ok
      · exact error_ne_ok
    | escape letter e he =>
      unfold escaped? at he
      split at he
      case h_9 => cases he
      all_goals exact error_ne_ok
    | unit => exact (hps _ _ _ _ _ _ _ rfl).elim

/-- **A string reads back if its surrogates pair up,** and is refused otherwise. -/
theorem stringBody_pieces (ps : List Piece) (acc cs : List Char) :
    stringBody acc (ps.flatMap Piece.chars ++ '"' :: rest) = .ok (cs, rest') ↔
      (∃ said, Piece.said? ps = some said ∧ cs = acc.reverse ++ said) ∧ rest' = rest := by
  induction ps using Piece.said?.induct generalizing acc with
  | case1 =>
    show Except.ok (acc.reverse, rest) = _ ↔ _
    simp [Piece.said?, eq_comm]
  | case2 c hc ps ih =>
    rw [List.flatMap_cons, List.append_assoc, Piece.chars, List.singleton_append,
      stringBody_plain hc.1 hc.2.1 (Nat.not_lt.2 hc.2.2), ih]
    simp [Piece.said?]
  | case3 letter c hc ps ih =>
    rw [List.flatMap_cons, List.append_assoc]
    show stringBody acc ('\\' :: letter :: (ps.flatMap Piece.chars ++ '"' :: rest)) = _ ↔ _
    rw [stringBody_escape hc, ih]
    simp [Piece.said?]
  | case4 a b c d n hn ps htrail =>
    have hsaid : Piece.said? (.unit a b c d n hn :: ps) = none := by
      unfold Piece.said?
      exact if_pos htrail
    rw [List.flatMap_cons, List.append_assoc, hsaid]
    simp [Piece.chars, stringBody, hn, htrail]
  | case5 a b c d n hn ps htrail hlead ih =>
    have hsaid : Piece.said? (.unit a b c d n hn :: ps) =
        (Piece.said? ps).map (Char.ofNat n :: ·) := by
      conv => lhs; unfold Piece.said?
      rw [if_neg htrail, if_pos hlead]
    rw [List.flatMap_cons, List.append_assoc, hsaid]
    simp only [Piece.chars, List.cons_append, List.nil_append]
    rw [stringBody]
    simp only [hn, htrail, hlead, if_true, if_false, Bool.false_eq_true, ih]
    simp
  | case6 a b c d n hn htrail hlead a' b' c' d' m hm ps htrail' ih =>
    rw [List.flatMap_cons, List.append_assoc, List.flatMap_cons, List.append_assoc]
    simp only [Piece.chars, List.cons_append, List.nil_append]
    rw [stringBody]
    simp only [hn, hm, htrail, hlead, htrail', if_true, if_false, Bool.false_eq_true, ih]
    simp [Piece.said?, htrail, hlead, htrail']
  | case7 a b c d n hn htrail hlead a' b' c' d' m hm ps htrail' =>
    rw [List.flatMap_cons, List.append_assoc, List.flatMap_cons, List.append_assoc]
    simp [Piece.chars, Piece.said?, stringBody, hn, hm, htrail, hlead, htrail']
  | case8 a b c d n hn ps htrail hlead hps =>
    rw [List.flatMap_cons, List.append_assoc]
    have hlone := stringBody_lone hn htrail hlead hps acc rest (cs, rest')
    simp only [Piece.chars, List.cons_append, List.nil_append]
    refine iff_of_false hlone ?_
    unfold Piece.said?
    simp [htrail, hlead]

/-! ## Numbers -/

theorem digitChar_of_digit? {c : Char} {d : Nat} (h : digit? c = some d) :
    d < 10 ∧ d.digitChar = c := by
  unfold digit? at h
  split_ifs at h with hrange
  have hlow : 48 ≤ c.toNat := hrange.1
  have hhigh : c.toNat ≤ 57 := hrange.2
  have hd : c.toNat - 48 = d := Option.some.inj h
  have hall : ∀ d < 10, d.digitChar = Char.ofNat (48 + d) := by decide
  have hlt : d < 10 := by omega
  have hc : 48 + d = c.toNat := by omega
  rw [hall d hlt, hc, Char.ofNat_toNat]
  exact ⟨hlt, rfl⟩

/-- The digits that are taken are those that the significand gains. -/
theorem toDigits_takeDigits {s s' k k' : Nat} {cs rest : List Char}
    (h : takeDigits s k cs = (s', k', rest)) (hpos : 0 < s) (hs : s < UInt64.size) :
    Nat.toDigits 10 s ++ cs = Nat.toDigits 10 s' ++ rest ∧ s' < UInt64.size := by
  induction cs generalizing s k with
  | nil =>
    cases h
    exact ⟨rfl, hs⟩
  | cons c cs ih =>
    unfold takeDigits at h
    split at h
    · rename_i d hd
      obtain ⟨hlt, hdc⟩ := digitChar_of_digit? hd
      split_ifs at h with hfits
      · obtain ⟨hdigits, hs'⟩ := ih h (by omega) hfits
        refine ⟨?_, hs'⟩
        have hdiv : (10 * s + d) / 10 = s := by omega
        have hmod : (10 * s + d) % 10 = d := by omega
        rw [← hdigits, Nat.toDigits_of_base_le (by omega) (by omega : 10 ≤ 10 * s + d), hdiv, hmod,
          hdc, List.append_assoc, List.singleton_append]
      · cases h
        exact ⟨rfl, hs⟩
    · cases h
      exact ⟨rfl, hs⟩

theorem floatOf_ne_natural {minus : Bool} {s n : Nat} {e : Int} :
    floatOf minus s e ≠ .ok (.natural n) := by
  unfold floatOf
  split <;> rintro ⟨⟩

theorem exponent_ne_natural {minus : Bool} {s n : Nat} {e : Int} {cs : List Char} :
    exponent minus s e cs ≠ .ok (.natural n, rest) := by
  unfold exponent
  intro h
  dsimp only at h
  split at h
  · cases h
  · split_ifs at h
    all_goals
      obtain ⟨x, hx, h⟩ := bind_eq_ok.1 h
      cases h
      exact floatOf_ne_natural hx

theorem exponentOrEnd_ne_natural {minus : Bool} {s n : Nat} {e : Int} {cs : List Char} :
    exponentOrEnd minus s e cs ≠ .ok (.natural n, rest) := by
  unfold exponentOrEnd
  intro h
  split at h
  · exact exponent_ne_natural h
  · exact exponent_ne_natural h
  · obtain ⟨x, hx, h⟩ := bind_eq_ok.1 h
    cases h
    exact floatOf_ne_natural hx

theorem fraction_ne_natural {minus : Bool} {s n : Nat} {e : Int} {cs : List Char} :
    fraction minus s e cs ≠ .ok (.natural n, rest) := by
  unfold fraction
  intro h
  dsimp only at h
  split_ifs at h
  all_goals exact exponentOrEnd_ne_natural h

theorem natural_of_afterInteger {minus : Bool} {s n : Nat} {cs : List Char}
    (hstart : startsWithDigit cs = false)
    (h : afterInteger minus s cs = .ok (.natural n, rest)) :
    minus = false ∧ n = s ∧ rest = cs ∧ EndsNumber cs := by
  unfold afterInteger at h
  split at h
  · exact (fraction_ne_natural h).elim
  · exact (exponent_ne_natural h).elim
  · exact (exponent_ne_natural h).elim
  · rename_i hpoint hlower hupper
    split_ifs at h with hminus
    · cases h
      refine ⟨by simpa using hminus, rfl, rfl, fun c hc => ?_⟩
      obtain ⟨cs, rfl⟩ := List.head?_eq_some_iff.1 hc
      refine ⟨hstart, ?_, ?_, ?_⟩
      · rintro rfl
        exact hpoint _ rfl
      · rintro rfl
        exact hlower _ rfl
      · rintro rfl
        exact hupper _ rfl
    · cases h
    · obtain ⟨x, hx, h⟩ := bind_eq_ok.1 h
      cases h
      exact (floatOf_ne_natural hx).elim

/-- **What is read as a natural number is what is written for it.** -/
theorem natural_of_number {minus : Bool} {n : Nat} {cs : List Char}
    (h : number minus cs = .ok (.natural n, rest)) :
    minus = false ∧ n < UInt64.size ∧ EndsNumber rest ∧ cs = Nat.toDigits 10 n ++ rest := by
  unfold number at h
  split at h
  · cases h
  · split_ifs at h with hstart
    obtain ⟨hminus, rfl, rfl, hends⟩ := natural_of_afterInteger (Bool.eq_false_iff.2 hstart) h
    exact ⟨hminus, by decide, hends, rfl⟩
  · rename_i c cs hzero
    split_ifs at h with hdigit
    obtain ⟨⟨s, k, rest'⟩, htake⟩ : ∃ out, takeDigits 0 0 (c :: cs) = out := ⟨_, rfl⟩
    rw [htake] at h
    dsimp only at h
    split_ifs at h with hstart
    · split at h
      · exact (fraction_ne_natural h).elim
      · exact (exponentOrEnd_ne_natural h).elim
    · obtain ⟨hminus, rfl, rfl, hends⟩ := natural_of_afterInteger (Bool.eq_false_iff.2 hstart) h
      -- The first digit is not a zero, so from it on the significand is not zero.
      have hc : isDigit c = true := by simpa using hdigit
      obtain ⟨d, hd⟩ := Option.isSome_iff_exists.1 hc
      obtain ⟨hlt, hdc⟩ := digitChar_of_digit? hd
      have hpos : 0 < d := by
        refine Nat.pos_of_ne_zero ?_
        rintro rfl
        exact hzero hdc.symm
      have hsmall : 10 * 0 + d < UInt64.size := by
        show _ < 18446744073709551616
        omega
      rw [takeDigits, hd] at htake
      simp only [hsmall, if_true] at htake
      obtain ⟨hdigits, hs⟩ := toDigits_takeDigits htake (by omega) hsmall
      refine ⟨hminus, hs, hends, ?_⟩
      rw [← hdigits, Nat.mul_zero, Nat.zero_add, Nat.toDigits_of_lt_base hlt, hdc,
        List.singleton_append]

/-- A natural number of 64 bits is read from what is written for it, and from no other number. -/
theorem number_unsigned {minus : Bool} {n : Nat} {num : Numeral} (hrest : EndsNumber rest) :
    number minus (num.unsigned ++ rest) = .ok (.natural n, rest') ↔
      minus = false ∧ n < UInt64.size ∧ num.unsigned = Nat.toDigits 10 n ∧ rest' = rest := by
  constructor
  · intro h
    obtain ⟨hminus, hn, hends, hcs⟩ := natural_of_number h
    -- Passing over the number says where it ends.
    have hskip := skipNumber_unsigned num hrest
    rw [hcs, skipNumber_toDigits n hends] at hskip
    obtain rfl : rest' = rest := Except.ok.inj hskip
    exact ⟨hminus, hn, List.append_cancel_right hcs, rfl⟩
  · rintro ⟨rfl, hn, hnum, rfl⟩
    rw [hnum, number_toDigits hn hrest]

theorem isNat_number_iff {num : Numeral} {n : Nat} :
    (Tree.number num).IsNat n ↔ num.minus = false ∧ num.unsigned = Nat.toDigits 10 n := by
  constructor
  · rintro ⟨_, ⟨⟩, hchars⟩
    rw [Numeral.chars] at hchars
    split_ifs at hchars with hminus
    · -- The digits do not begin with a sign.
      obtain ⟨c, cs, hdigits, hc, -⟩ := exists_toDigits_eq_cons n
      rw [hdigits] at hchars
      obtain rfl := (List.cons.inj hchars).1
      contradiction
    · exact ⟨by simpa using hminus, hchars⟩
  · rintro ⟨hminus, hunsigned⟩
    exact ⟨num, rfl, by simp [Numeral.chars, hminus, hunsigned]⟩

/-- The number is read into 64 bits if the reader `f` of numbers takes the natural ones alone. -/
theorem number_bind {minus : Bool} {cs : List Char} {a : UInt64}
    {f : Number × List Char → Except Fault (UInt64 × List Char)}
    (hnatural : ∀ n cs, f (.natural n, cs) = .ok (.ofNat n, cs))
    (hnegative : ∀ n cs out, f (.negative n, cs) ≠ .ok out)
    (hfloat : ∀ x cs out, f (.float x, cs) ≠ .ok out) :
    (number minus cs >>= f) = .ok (a, rest) ↔ number minus cs = .ok (.natural a.toNat, rest) := by
  rw [bind_eq_ok]
  constructor
  · rintro ⟨⟨x, cs'⟩, hnumber, hf⟩
    cases x with
    | natural n =>
      obtain ⟨-, hn, -⟩ := natural_of_number hnumber
      rw [hnatural] at hf
      cases hf
      rw [hnumber, UInt64.toNat_ofNat_of_lt' hn]
    | negative n => exact (hnegative _ _ _ hf).elim
    | float x => exact (hfloat _ _ _ hf).elim
  · intro hnumber
    refine ⟨_, hnumber, ?_⟩
    rw [hnatural, UInt64.ofNat_toNat]

namespace Decoder

/-! ## Simple values -/

theorem means_bool : Means bool fun t b => t = .bool b := by
  intro t text ws rest b rest' htext hws _
  rw [bool, htext.dropBlanks_append hws]
  obtain ⟨c, cs, rfl, hc⟩ := htext.begins
  rw [List.cons_append]
  split <;> rename_i heq <;> cases heq
  · cases hc with
    | digit => contradiction
    | true =>
      cases htext
      show (do .ok (true, ← word "rue".toList ("rue".toList ++ rest))) = _ ↔ _
      rw [word_append]
      simp [bind, Except.bind, eq_comm]
  · cases hc with
    | digit => contradiction
    | false =>
      cases htext
      show (do .ok (false, ← word "alse".toList ("alse".toList ++ rest))) = _ ↔ _
      rw [word_append]
      simp [bind, Except.bind, eq_comm]
  · rename_i htrue hfalse
    refine iff_of_false error_ne_ok ?_
    rintro ⟨rfl, -⟩
    cases hc with
    | true => exact htrue rfl
    | false => exact hfalse rfl

theorem means_unit : Means unit fun t _ => t = .null := by
  intro t text ws rest u rest' htext hws _
  rw [unit, htext.dropBlanks_append hws]
  obtain ⟨c, cs, rfl, hc⟩ := htext.begins
  rw [List.cons_append]
  split <;> rename_i heq <;> cases heq
  · cases hc with
    | digit => contradiction
    | null =>
      cases htext
      show (do .ok ((), ← word "ull".toList ("ull".toList ++ rest))) = _ ↔ _
      rw [word_append]
      simp [bind, Except.bind, eq_comm]
  · rename_i hnull
    refine iff_of_false error_ne_ok ?_
    rintro ⟨rfl, -⟩
    cases hc
    exact hnull rfl

theorem stringFor_quoted {expected : String} {ps : List Piece} {s : String} :
    stringFor expected (Piece.quoted ps ++ rest) = .ok (s, rest') ↔
      Piece.text? ps = some s ∧ rest' = rest := by
  rw [Piece.quoted_append]
  show (stringBody [] _ >>= _) = _ ↔ _
  rw [bind_eq_ok]
  constructor
  · rintro ⟨⟨cs, r⟩, hread, hok⟩
    cases hok
    obtain ⟨⟨said, hsaid, rfl⟩, rfl⟩ := (stringBody_pieces ps [] cs).1 hread
    exact ⟨by simp [Piece.text?, hsaid], rfl⟩
  · rintro ⟨htext, rfl⟩
    obtain ⟨said, hsaid, rfl⟩ := Option.map_eq_some_iff.1 htext
    exact ⟨(said, rest'), (stringBody_pieces ps [] said).2 ⟨⟨said, hsaid, rfl⟩, rfl⟩, rfl⟩

theorem means_stringFor (expected : String) : Means (stringFor expected) Tree.IsText := by
  intro t text ws rest s rest' htext hws _
  rw [stringFor, htext.dropBlanks_append hws]
  obtain ⟨c, cs, rfl, hc⟩ := htext.begins
  rw [List.cons_append]
  split <;> rename_i heq <;> cases heq
  · cases hc with
    | digit => contradiction
    | string ps =>
      have hquoted : '"' :: (cs ++ rest) = Piece.quoted ps ++ rest := by
        cases htext
        rfl
      show stringFor expected ('"' :: (cs ++ rest)) = _ ↔ _
      rw [hquoted, stringFor_quoted]
      simp [Tree.IsText]
  · rename_i hquote
    refine iff_of_false error_ne_ok ?_
    rintro ⟨⟨ps, rfl, -⟩, -⟩
    cases hc
    exact hquote rfl

theorem means_string : Means string Tree.IsText := means_stringFor _

theorem means_word64 (expected : String) :
    Means (word64 expected) fun t n => t.IsNat n.toNat := by
  intro t text ws rest n rest' htext hws hrest
  unfold word64
  rw [htext.dropBlanks_append hws]
  obtain ⟨c, cs, rfl, hc⟩ := htext.begins
  rw [List.cons_append]
  dsimp only
  split <;> rename_i heq <;> cases heq
  · refine Iff.trans (number_bind (fun _ _ => rfl) (fun _ _ _ => error_ne_ok)
      fun _ _ _ => error_ne_ok) ?_
    cases hc with
    | digit => contradiction
    | @minus num hminus =>
      refine iff_of_false (fun h => ?_) fun h => ?_
      · cases (natural_of_number h).1
      · cases hminus.symm.trans (isNat_number_iff.1 h.1).1
  · rename_i hdash
    cases hc with
    | minus => exact (hdash rfl).elim
    | @digit num _ hminus hdigit =>
      rw [if_pos hdigit]
      refine Iff.trans (number_bind (fun _ _ => rfl) (fun _ _ _ => error_ne_ok)
        fun _ _ _ => error_ne_ok) ?_
      have hchars : c :: cs = num.unsigned := by
        generalize c :: cs = text at htext
        cases htext
        simp [Numeral.chars, hminus]
      rw [← List.cons_append, hchars, number_unsigned hrest, isNat_number_iff]
      constructor
      · rintro ⟨-, -, hnum, hend⟩
        exact ⟨⟨hminus, hnum⟩, hend⟩
      · rintro ⟨⟨-, hnum⟩, hend⟩
        exact ⟨rfl, n.toNat_lt, hnum, hend⟩
    | _ =>
      refine iff_of_false error_ne_ok ?_
      rintro ⟨⟨_, ⟨⟩, -⟩, -⟩

/-! ## Choices -/

variable {choices : List (String × α)} {a : α}

theorem variantName_quoted {ps : List Piece} :
    variantName choices (Piece.quoted ps ++ rest) = .ok (a, rest') ↔
      (∃ name, Piece.text? ps = some name ∧ choices.lookup name = some a) ∧ rest' = rest := by
  unfold variantName
  rw [bind_eq_ok]
  constructor
  · rintro ⟨⟨name, r⟩, hread, hok⟩
    obtain ⟨hname, rfl⟩ := stringFor_quoted.1 hread
    dsimp only at hok
    split at hok
    · rename_i a' hlookup
      cases hok
      exact ⟨⟨name, hname, hlookup⟩, rfl⟩
    · cases hok
  · rintro ⟨⟨name, hname, hlookup⟩, rfl⟩
    refine ⟨(name, rest'), stringFor_quoted.2 ⟨hname, rfl⟩, ?_⟩
    simp [hlookup]

theorem variantKey_quoted {ps : List Piece} (hws : Blank ws) :
    variantKey choices (ws ++ (Piece.quoted ps ++ rest)) = .ok (a, rest') ↔
      (∃ name, Piece.text? ps = some name ∧ choices.lookup name = some a) ∧ rest' = rest := by
  have hdrop : dropBlanks (ws ++ (Piece.quoted ps ++ rest)) = Piece.quoted ps ++ rest := by
    rw [dropBlanks_append hws]
    rfl
  rw [variantKey, hdrop]
  exact variantName_quoted

/-- An object of a choice has one member, which maps the name to `null`. -/
theorem choice_members {ms : List (List Piece × Tree)} {text ws rest rest' : List Char}
    (hms : SpellsMembers true ms text) (hws : Blank ws) :
    choice choices ('\x7b' :: (text ++ (ws ++ '\x7d' :: rest))) = .ok (a, rest') ↔
      (∃ name, (Tree.object ms).Names name ∧ choices.lookup name = some a) ∧ rest' = rest := by
  have hend : dropBlanks (ws ++ '\x7d' :: rest) = '\x7d' :: rest := by
    rw [dropBlanks_append hws]
    rfl
  show (variantKey choices _ >>= _) = _ ↔ _
  cases hms with
  | nil =>
    refine iff_of_false ?_ (by simp [Tree.Names])
    rw [List.nil_append, variantKey, hend]
    exact error_ne_ok
  | @cons _ k t ms lead wsc wst textt more hlead hwsc hwst ht hmore =>
    have hcolon : ∀ cs, dropBlanks (wsc ++ ':' :: cs) = ':' :: cs := fun cs => by
      rw [dropBlanks_append hwsc]
      rfl
    have hends := hmore.endsNumber ((endsNumber_brace rest).blank_append hws)
    obtain ⟨hlead⟩ := hlead
    simp only [List.append_assoc, List.cons_append]
    rw [bind_eq_ok]
    constructor
    · rintro ⟨⟨a', r⟩, hkey, h⟩
      obtain ⟨⟨name, hname, hlookup⟩, rfl⟩ := (variantKey_quoted hlead).1 hkey
      simp only [hcolon] at h
      obtain ⟨⟨_, r⟩, hunit, h⟩ := bind_eq_ok.1 h
      obtain ⟨rfl, rfl⟩ := (means_unit ht hwst hends).1 hunit
      cases hmore with
      | nil =>
        simp only [List.nil_append, hend] at h
        cases h
        exact ⟨⟨name, ⟨k, hname, .inr rfl⟩, hlookup⟩, rfl⟩
      | cons hlead' =>
        cases hlead' with
        | next hws' =>
          simp only [List.append_assoc, dropBlanks_append hws', List.cons_append] at h
          cases h
    · rintro ⟨⟨name, ⟨_, hname, h | h⟩, hlookup⟩, rfl⟩
      · cases h
      cases h
      cases hmore
      refine ⟨(a, _), (variantKey_quoted hlead).2 ⟨⟨name, hname, hlookup⟩, rfl⟩, ?_⟩
      simp only [hcolon]
      refine bind_eq_ok.2 ⟨((), _), (means_unit ht hwst hends).2 ⟨rfl, rfl⟩, ?_⟩
      simp only [List.nil_append, hend]

theorem means_choice (choices : List (String × α)) :
    Means (choice choices) fun t a => ∃ name, t.Names name ∧ choices.lookup name = some a := by
  intro t text ws rest a rest' htext hws _
  have hdrop := htext.dropBlanks_append hws rest
  rw [choice, hdrop]
  obtain ⟨c, cs, rfl, hc⟩ := htext.begins
  rw [List.cons_append]
  split
  · rename_i heq
    cases heq
  · rename_i heq
    cases heq
    cases hc with
    | digit => contradiction
    | string ps =>
      have hquoted : '"' :: (cs ++ rest) = Piece.quoted ps ++ rest := by
        cases htext
        rfl
      rw [hquoted, variantName_quoted]
      simp [Tree.Names]
  · rename_i heq
    cases heq
    cases hc with
    | digit => contradiction
    | object ms =>
      cases htext with
      | @object _ text ws' hms hws' =>
        rw [List.append_assoc, List.append_assoc]
        exact choice_members hms hws'
  · rename_i hquote hbrace
    refine iff_of_false error_ne_ok ?_
    rintro ⟨⟨_, ⟨ps, -, rfl | rfl⟩, -⟩, -⟩
    · cases hc
      exact hquote _ rfl
    · cases hc
      exact hbrace _ rfl

/-! ## Lists -/

variable {d : Decoder α} {R : Tree → α → Prop}

theorem nextItem_leads {first : Bool} {lead : List Char} {c : Char} (hlead : Leads first lead)
    (hc : Opens c) (cs : List Char) : nextItem first (lead ++ c :: cs) = .ok (some (c :: cs)) := by
  have hbracket : c ≠ ']' := by rintro rfl; exact hc (by decide)
  have hcomma : c ≠ ',' := by rintro rfl; exact hc (by decide)
  cases hlead with
  | first hws =>
    rw [nextItem, dropBlanks_append hws, dropBlanks_cons hc]
    split
    · next heq => cases heq
    · next heq =>
      cases heq
      contradiction
    · next heq =>
      cases heq
      contradiction
    · rfl
  | @next ws ws' hws hws' =>
    have hsep : dropBlanks (',' :: (ws' ++ c :: cs)) = ',' :: (ws' ++ c :: cs) := rfl
    have hdrop : dropBlanks (ws' ++ c :: cs) = c :: cs := by
      rw [dropBlanks_append hws', dropBlanks_cons hc]
    simp only [List.append_assoc, List.cons_append, nextItem, dropBlanks_append hws, hsep, hdrop,
      Bool.false_eq_true, if_false]
    split
    · next heq => cases heq
    · next heq =>
      cases heq
      contradiction
    · rfl

theorem nextItem_end {ws : List Char} (first : Bool) (hws : Blank ws) (rest : List Char) :
    nextItem first (ws ++ ']' :: rest) = .ok none := by
  rw [nextItem, dropBlanks_append hws]
  rfl

theorem endList_blank {ws : List Char} (hws : Blank ws) (rest : List Char) :
    endList (ws ++ ']' :: rest) = .ok rest := by
  rw [endList, dropBlanks_append hws]
  rfl

theorem items_cons {first : Bool} {lead : List Char} (hlead : Leads first lead)
    (htext : Spells t text) (n : Nat) (acc : List α) (more : List Char) :
    items d (n + 1) first acc (lead ++ (text ++ more)) =
      d (text ++ more) >>= fun out => items d n false (out.1 :: acc) out.2 := by
  obtain ⟨c, cs, rfl, hc⟩ := htext.opens
  rw [items, List.cons_append, nextItem_leads hlead hc]
  rfl

/-- The items of a list are read one after the other, each as what it means. -/
theorem items_spells (h : Means d R) {first : Bool} {ts : List Tree} {n : Nat} {as : List α}
    (htext : SpellsItems first ts text) (hws : Blank ws) (hn : text.length < n) (acc : List α)
    (rest : List Char) :
    items d n first acc (text ++ (ws ++ ']' :: rest)) = .ok (as, rest') ↔
      (∃ more, List.Forall₂ R ts more ∧ as = acc.reverse ++ more) ∧ rest' = ws ++ ']' :: rest := by
  induction ts generalizing first text acc n with
  | nil =>
    cases htext
    obtain ⟨n, rfl⟩ := Nat.exists_eq_add_of_lt hn
    simp only [List.nil_append, items, nextItem_end first hws]
    simp [bind, Except.bind, eq_comm]
  | cons t ts ih =>
    cases htext with
    | @cons _ _ _ lead textt more hlead ht hmore =>
      cases n with
      | zero => exact absurd hn (Nat.not_lt_zero _)
      | succ n =>
        have hpos := ht.length_pos
        simp only [List.length_append] at hn
        have hends := hmore.endsNumber ((endsNumber_bracket rest).blank_append hws)
        rw [List.append_assoc, List.append_assoc, items_cons hlead ht, bind_eq_ok]
        constructor
        · rintro ⟨⟨a, r⟩, hread, hitems⟩
          obtain ⟨ha, rfl⟩ := (h.read_iff ht hends).1 hread
          obtain ⟨⟨bs, hbs, rfl⟩, hr⟩ := (ih hmore (by omega) (a :: acc)).1 hitems
          exact ⟨⟨a :: bs, .cons ha hbs, by simp⟩, hr⟩
        · rintro ⟨⟨bs, hbs, rfl⟩, hr⟩
          cases hbs with
          | @cons _ a _ bs ha hbs =>
            refine ⟨(a, _), (h.read_iff ht hends).2 ⟨ha, rfl⟩, ?_⟩
            exact (ih hmore (by omega) (a :: acc)).2 ⟨⟨bs, hbs, by simp⟩, hr⟩

/-- **A list means what its items mean.** -/
theorem means_list (h : Means d R) :
    Means (list d) fun t as => ∃ ts, t = .list ts ∧ List.Forall₂ R ts as := by
  intro t text ws rest as rest' htext hws _
  rw [list, htext.dropBlanks_append hws]
  obtain ⟨c, cs, rfl, hc⟩ := htext.begins
  rw [List.cons_append]
  split <;> rename_i heq <;> cases heq
  · cases hc with
    | digit => contradiction
    | list ts =>
      cases htext with
      | @list _ items ws' hitems hws' =>
        rw [List.append_assoc, List.append_assoc, List.singleton_append, bind_eq_ok]
        have hn : items.length < (items ++ (ws' ++ ']' :: rest)).length + 1 := by
          rw [List.length_append]
          omega
        constructor
        · rintro ⟨⟨bs, r⟩, hread, hend⟩
          obtain ⟨⟨bs, hbs, rfl⟩, rfl⟩ := (items_spells h hitems hws' hn [] rest).1 hread
          obtain ⟨r, hr, hok⟩ := bind_eq_ok.1 hend
          cases hr.symm.trans (endList_blank hws' rest)
          cases hok
          exact ⟨⟨ts, rfl, hbs⟩, rfl⟩
        · rintro ⟨⟨_, ⟨⟩, has⟩, rfl⟩
          refine ⟨_, (items_spells h hitems hws' hn [] _).2 ⟨⟨as, has, rfl⟩, rfl⟩, ?_⟩
          exact bind_eq_ok.2 ⟨_, endList_blank hws' _, rfl⟩
  · rename_i hbracket
    refine iff_of_false error_ne_ok ?_
    rintro ⟨⟨ts, rfl, -⟩, -⟩
    cases hc
    exact hbracket rfl

end Decoder

end Munch.Json
