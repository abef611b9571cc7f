import Munch.Json.Literal
import Munch.Json.Number
import Munch.Json.Value
import Mathlib.Tactic.SplitIfs

/-!
# Reading back words, strings and numbers

What is written for a string, a word or a natural number of 64 bits reads back, whatever follows.
Only a number must not be followed by what could go on with it.

* `stringBody_quote`: a string reads back, each character from its escape.
* `number_toDigits`: the digits of a number read back.
-/

namespace Munch.Json

/-! ## Blanks -/

/-- The text is blank. -/
def Blank (cs : List Char) : Prop := dropBlanks cs = []

theorem dropBlanks_append {ws : List Char} (h : Blank ws) (cs : List Char) :
    dropBlanks (ws ++ cs) = dropBlanks cs := by
  unfold Blank dropBlanks at *
  rw [List.dropWhile_append, h]
  rfl

/-- The character is neither a blank nor one that comes between or after items. -/
def Opens (c : Char) : Prop := c ∉ [' ', '\n', '\t', '\r', ',', ':', ']', '\x7d']

instance (c : Char) : Decidable (Opens c) := inferInstanceAs (Decidable (_ ∉ _))

theorem dropBlanks_cons {c : Char} (h : Opens c) (cs : List Char) :
    dropBlanks (c :: cs) = c :: cs := by
  simp only [Opens, List.mem_cons, List.not_mem_nil, or_false, not_or] at h
  simp [dropBlanks, h]

/-! ## Words -/

theorem word_append (w cs : List Char) : word w (w ++ cs) = .ok cs := by
  induction w with
  | nil => rfl
  | cons c w ih => simpa [word] using ih

/-! ## Strings -/

theorem unit?_hexDigit {n : Nat} (h : n < 0x20) :
    unit? '0' '0' (hexDigit (n / 16)) (hexDigit (n % 16)) = some n := by
  have hall : ∀ n < 0x20, unit? '0' '0' (hexDigit (n / 16)) (hexDigit (n % 16)) = some n := by
    decide
  exact hall n h

theorem stringBody_plain {c : Char} (hquote : c ≠ '"') (hslash : c ≠ '\\') (hlow : ¬c.toNat < 0x20)
    (acc cs : List Char) : stringBody acc (c :: cs) = stringBody (c :: acc) cs := by
  rw [stringBody.eq_def]
  split <;> rename_i heq <;> cases heq
  all_goals first | contradiction | exact if_neg hlow

/-- A character reads back from its escape. -/
theorem stringBody_escapedChar (acc : List Char) (c : Char) (cs : List Char) :
    stringBody acc (escapedChar c ++ cs) = stringBody (c :: acc) cs := by
  unfold escapedChar
  split_ifs with hquote hslash hplain hb hf hn hr ht
  · subst hquote; rfl
  · subst hslash; rfl
  · exact stringBody_plain hquote hslash (Nat.not_lt.2 hplain) acc cs
  · subst hb; rfl
  · subst hf; rfl
  · subst hn; rfl
  · subst hr; rfl
  · subst ht; rfl
  · have hlow : c.toNat < 0x20 := Nat.not_le.1 hplain
    have htrail : isTrail c.toNat = false := by simp [isTrail]; omega
    have hlead : isLead c.toNat = false := by simp [isLead]; omega
    simp only [List.cons_append, List.nil_append]
    rw [stringBody]
    simp [unit?_hexDigit hlow, htrail, hlead, Char.ofNat_toNat]

theorem stringBody_flatMap (acc cs rest : List Char) :
    stringBody acc (cs.flatMap escapedChar ++ '"' :: rest) = .ok (acc.reverse ++ cs, rest) := by
  induction cs generalizing acc with
  | nil =>
    rw [List.append_nil]
    rfl
  | cons c cs ih =>
    rw [List.flatMap_cons, List.append_assoc, stringBody_escapedChar, ih, List.reverse_cons,
      List.append_assoc]
    rfl

/-- **A string reads back.** -/
theorem stringBody_quote (s : String) (rest : List Char) :
    ∃ body, quote s ++ rest = '"' :: body ∧ stringBody [] body = .ok (s.toList, rest) := by
  refine ⟨s.toList.flatMap escapedChar ++ '"' :: rest, ?_, stringBody_flatMap ..⟩
  simp [quote]

/-! ## Numbers -/

/-- The text does not go on with a number. -/
def EndsNumber (rest : List Char) : Prop :=
  ∀ c ∈ rest.head?, isDigit c = false ∧ c ≠ '.' ∧ c ≠ 'e' ∧ c ≠ 'E'

theorem digit?_digitChar {d : Nat} (h : d < 10) : digit? d.digitChar = some d := by
  have hall : ∀ d < 10, digit? d.digitChar = some d := by decide
  exact hall d h

theorem startsWithDigit_eq_false {rest : List Char} (h : EndsNumber rest) :
    startsWithDigit rest = false := by
  cases rest with
  | nil => rfl
  | cons c cs => exact (h c rfl).1

/-- The digits of a number that fits into 64 bits are all taken. -/
theorem takeDigits_toDigits {n : Nat} (h : n < UInt64.size) (cs : List Char) :
    takeDigits 0 0 (Nat.toDigits 10 n ++ cs) = takeDigits n (Nat.toDigits 10 n).length cs := by
  induction n using Nat.strongRecOn generalizing cs with
  | ind n ih =>
    by_cases hsmall : n < 10
    · rw [Nat.toDigits_of_lt_base hsmall]
      simp [takeDigits, digit?_digitChar hsmall, h]
    · have hlast : n % 10 < 10 := Nat.mod_lt _ (by omega)
      have hvalue : 10 * (n / 10) + n % 10 = n := Nat.div_add_mod n 10
      rw [Nat.toDigits_of_base_le (by omega) (Nat.not_lt.1 hsmall), List.append_assoc,
        ih (n / 10) (by omega) (by omega), List.singleton_append, List.length_append]
      simp [takeDigits, digit?_digitChar hlast, hvalue, h]

theorem isDigit_of_mem_toDigits {c : Char} {n : Nat} (h : c ∈ Nat.toDigits 10 n) :
    isDigit c = true := by
  have hdigit := Nat.isDigit_of_mem_toDigits (by decide) (Nat.le_refl 10) h
  rw [Char.isDigit, Bool.and_eq_true, decide_eq_true_iff, decide_eq_true_iff] at hdigit
  have hrange : '0' ≤ c ∧ c ≤ '9' := hdigit
  rw [isDigit, digit?, if_pos hrange]
  rfl

/-- The first digit of a number is not a zero, unless the number is zero. -/
theorem exists_toDigits_eq_cons (n : Nat) :
    ∃ c cs, Nat.toDigits 10 n = c :: cs ∧ isDigit c = true ∧ (n ≠ 0 → c ≠ '0') := by
  induction n using Nat.strongRecOn with
  | ind n ih =>
    by_cases hsmall : n < 10
    · refine ⟨n.digitChar, [], Nat.toDigits_of_lt_base hsmall, ?_, ?_⟩
      · rw [isDigit, digit?_digitChar hsmall]
        rfl
      · have hall : ∀ n < 10, n ≠ 0 → n.digitChar ≠ '0' := by decide
        exact hall n hsmall
    · obtain ⟨c, cs, hdigits, hc, hzero⟩ := ih (n / 10) (by omega)
      rw [Nat.toDigits_of_base_le (by omega) (Nat.not_lt.1 hsmall), hdigits, List.cons_append]
      exact ⟨c, _, rfl, hc, fun _ => hzero (by omega)⟩

theorem afterInteger_natural {rest : List Char} (h : EndsNumber rest) (n : Nat) :
    afterInteger false n rest = .ok (.natural n, rest) := by
  unfold afterInteger
  split
  · exact ((h '.' rfl).2.1 rfl).elim
  · exact ((h 'e' rfl).2.2.1 rfl).elim
  · exact ((h 'E' rfl).2.2.2 rfl).elim
  · rfl

/-- **The digits of a number read back.** -/
theorem number_toDigits {n : Nat} {rest : List Char} (hn : n < UInt64.size)
    (h : EndsNumber rest) :
    number false (Nat.toDigits 10 n ++ rest) = .ok (.natural n, rest) := by
  by_cases hzero : n = 0
  · subst hzero
    show (if startsWithDigit rest then _ else afterInteger false 0 rest) = _
    rw [startsWithDigit_eq_false h, afterInteger_natural h]
    rfl
  · obtain ⟨c, cs, hdigits, hc, hne⟩ := exists_toDigits_eq_cons n
    have htake : takeDigits 0 0 (c :: (cs ++ rest)) =
        (n, (Nat.toDigits 10 n).length, rest) := by
      rw [← List.cons_append, ← hdigits, takeDigits_toDigits hn]
      cases rest with
      | nil => rfl
      | cons d ds =>
        have hd : digit? d = none := Option.not_isSome_iff_eq_none.1
          (Bool.eq_false_iff.1 (h d rfl).1)
        simp [takeDigits, hd]
    rw [hdigits, List.cons_append]
    unfold number
    split
    · contradiction
    · rename_i heq
      exact (hne hzero (List.cons.inj heq).1).elim
    · rename_i heq
      cases heq
      simp only [hc, htake, startsWithDigit_eq_false h]
      exact afterInteger_natural h n

end Munch.Json
