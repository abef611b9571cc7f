import Munch.Proofs.Json.Literal

/-!
# The written forms of a value

A value has many **written forms**: they differ in the blanks before items, members and their
values, and before what closes a list or an object. `Written` relates a value to each of them, so
that what reads back from all forms reads back from the layouts in use.

* `Value.written_compactChars` and `Value.written_prettyChars`: the compact and the pretty form are
  written forms.
-/

namespace Munch.Json

/-- What stands between an item and the one before it; the first item has none before it. -/
def separator (first : Bool) : List Char := if first then [] else [',']

mutual

/-- The text is a written form of the value. -/
inductive Written : Value → List Char → Prop
  | null : Written .null "null".toList
  | bool (b : Bool) : Written (.bool b) (toString b).toList
  | number (n : Nat) : Written (.number n) (toString n).toList
  | string (s : String) : Written (.string s) (quote s)
  | list {vs : List Value} {text ws : List Char} :
      WrittenItems true vs text → Blank ws → Written (.list vs) ('[' :: text ++ ws ++ [']'])
  | object {ms : List (String × Value)} {text ws : List Char} :
      WrittenMembers true ms text → Blank ws →
        Written (.object ms) ('\x7b' :: text ++ ws ++ ['\x7d'])

/-- The text is a written form of the items, each with its separator. -/
inductive WrittenItems : Bool → List Value → List Char → Prop
  | nil (first : Bool) : WrittenItems first [] []
  | cons {first : Bool} {v : Value} {vs : List Value} {ws text more : List Char} :
      Blank ws → Written v text → WrittenItems false vs more →
        WrittenItems first (v :: vs) (separator first ++ ws ++ text ++ more)

/-- The text is a written form of the members, each with its separator. -/
inductive WrittenMembers : Bool → List (String × Value) → List Char → Prop
  | nil (first : Bool) : WrittenMembers first [] []
  | cons {first : Bool} {k : String} {v : Value} {ms : List (String × Value)}
      {ws ws' text more : List Char} :
      Blank ws → Blank ws' → Written v text → WrittenMembers false ms more →
        WrittenMembers first ((k, v) :: ms)
          (separator first ++ ws ++ quote k ++ ':' :: ws' ++ text ++ more)

end

/-! ## What a form begins with, and what may follow it -/

theorem opens_of_isDigit {c : Char} (h : isDigit c = true) : Opens c := by
  intro hmem
  have hall : [' ', '\n', '\t', '\r', ',', ':', ']', '\x7d'].all (!isDigit ·) = true := by decide
  have hc := List.all_eq_true.1 hall c hmem
  rw [h] at hc
  cases hc

theorem Written.opens {v : Value} {text : List Char} (h : Written v text) :
    ∃ c cs, text = c :: cs ∧ Opens c := by
  cases h with
  | null => exact ⟨'n', _, rfl, by decide⟩
  | bool b => cases b <;> exact ⟨_, _, rfl, by decide⟩
  | number n =>
    obtain ⟨c, cs, hdigits, hc, -⟩ := exists_toDigits_eq_cons n
    exact ⟨c, cs, by simpa [Nat.toString_eq_ofList_toDigits] using hdigits, opens_of_isDigit hc⟩
  | string s => exact ⟨'"', _, rfl, by decide⟩
  | list => exact ⟨'[', _, rfl, by decide⟩
  | object => exact ⟨'\x7b', _, rfl, by decide⟩

/-- Only `null` begins with its first letter. -/
theorem Written.ne_n {v : Value} {text cs : List Char} (h : Written v text) (hv : v ≠ .null) :
    text ≠ 'n' :: cs := by
  cases h with
  | null => exact absurd rfl hv
  | bool b => cases b <;> exact fun h => nomatch h
  | number n =>
    obtain ⟨c, cs, hdigits, hc, -⟩ := exists_toDigits_eq_cons n
    rw [Nat.toString_eq_ofList_toDigits, String.toList_ofList, hdigits]
    rintro ⟨⟩
    exact absurd hc (by decide)
  | string s => exact fun h => nomatch h
  | list => exact fun h => nomatch h
  | object => exact fun h => nomatch h

/-- A form of a value stands where blanks have been dropped. -/
theorem Written.dropBlanks_append {v : Value} {text ws : List Char} (h : Written v text)
    (hws : Blank ws) (rest : List Char) : dropBlanks (ws ++ (text ++ rest)) = text ++ rest := by
  obtain ⟨c, cs, rfl, hc⟩ := h.opens
  rw [Json.dropBlanks_append hws]
  exact dropBlanks_cons hc _

theorem Written.length_pos {v : Value} {text : List Char} (h : Written v text) :
    0 < text.length := by
  obtain ⟨c, cs, rfl, -⟩ := h.opens
  exact Nat.succ_pos _

theorem EndsNumber.blank_append {ws rest : List Char} (hws : Blank ws) (h : EndsNumber rest) :
    EndsNumber (ws ++ rest) := by
  cases ws with
  | nil => exact h
  | cons w ws =>
    have hblank : w = ' ' ∨ w = '\n' ∨ w = '\t' ∨ w = '\r' := by
      refine Decidable.byContradiction fun hother => ?_
      simp only [not_or] at hother
      simp [Blank, dropBlanks, hother] at hws
    rintro c ⟨⟩
    rcases hblank with rfl | rfl | rfl | rfl <;> decide

theorem endsNumber_nil : EndsNumber [] := nofun

theorem endsNumber_comma (rest : List Char) : EndsNumber (',' :: rest) := by
  rintro c ⟨⟩
  decide

theorem endsNumber_bracket (rest : List Char) : EndsNumber (']' :: rest) := by
  rintro c ⟨⟩
  decide

theorem endsNumber_brace (rest : List Char) : EndsNumber ('\x7d' :: rest) := by
  rintro c ⟨⟩
  decide

theorem WrittenItems.endsNumber {vs : List Value} {text rest : List Char}
    (htext : WrittenItems false vs text) (h : EndsNumber rest) : EndsNumber (text ++ rest) := by
  cases htext with
  | nil => exact h
  | cons => exact endsNumber_comma _

theorem WrittenMembers.endsNumber {ms : List (String × Value)} {text rest : List Char}
    (htext : WrittenMembers false ms text) (h : EndsNumber rest) : EndsNumber (text ++ rest) := by
  cases htext with
  | nil => exact h
  | cons => exact endsNumber_comma _

/-! ## The two layouts -/

theorem WrittenItems.next {v : Value} {vs : List Value} {text : List Char}
    (h : WrittenItems true (v :: vs) text) : WrittenItems false (v :: vs) (',' :: text) := by
  cases h with
  | cons hws hv hvs => exact .cons hws hv hvs

theorem WrittenMembers.next {m : String × Value} {ms : List (String × Value)} {text : List Char}
    (h : WrittenMembers true (m :: ms) text) : WrittenMembers false (m :: ms) (',' :: text) := by
  cases h with
  | cons hws hws' hv hms => exact .cons hws hws' hv hms

theorem blank_nil : Blank [] := rfl

theorem blank_space : Blank [' '] := rfl

theorem blank_newLine (depth : Nat) : Blank (Value.newLine depth) := by
  simp [Blank, Value.newLine, dropBlanks]

namespace Value

mutual

theorem written_compactChars : (v : Value) → Written v v.compactChars
  | null => .null
  | bool b => .bool b
  | number n => .number n
  | string s => .string s
  | list vs => by simpa [compactChars] using Written.list (writtenItems_compact vs) blank_nil
  | object ms => by simpa [compactChars] using Written.object (writtenMembers_compact ms) blank_nil

theorem writtenItems_compact : (vs : List Value) → WrittenItems true vs (compactItems vs)
  | [] => .nil true
  | [v] => by
    have h : WrittenItems true [v] _ := .cons blank_nil (written_compactChars v) (.nil false)
    simpa [compactItems, separator] using h
  | v :: w :: vs => .cons blank_nil (written_compactChars v) (writtenItems_compact (w :: vs)).next

theorem writtenMembers_compact :
    (ms : List (String × Value)) → WrittenMembers true ms (compactMembers ms)
  | [] => .nil true
  | [(k, v)] => by
    have h : WrittenMembers true [(k, v)] _ :=
      .cons blank_nil blank_nil (written_compactChars v) (.nil false)
    simpa [compactMembers, separator] using h
  | (k, v) :: m :: ms => by
    have h : WrittenMembers true ((k, v) :: m :: ms) _ :=
      .cons blank_nil blank_nil (written_compactChars v) (writtenMembers_compact (m :: ms)).next
    simpa [compactMembers, separator] using h

end

mutual

theorem written_prettyChars (depth : Nat) : (v : Value) → Written v (v.prettyChars depth)
  | null => .null
  | bool b => .bool b
  | number n => .number n
  | string s => .string s
  | list [] => .list (.nil true) blank_nil
  | list (v :: vs) => .list (writtenItems_pretty (depth + 1) (v :: vs)) (blank_newLine depth)
  | object [] => .object (.nil true) blank_nil
  | object (m :: ms) => .object (writtenMembers_pretty (depth + 1) (m :: ms)) (blank_newLine depth)

theorem writtenItems_pretty (depth : Nat) :
    (vs : List Value) → WrittenItems true vs (prettyItems depth vs)
  | [] => .nil true
  | [v] => by
    have h : WrittenItems true [v] _ :=
      .cons (blank_newLine depth) (written_prettyChars depth v) (.nil false)
    simpa [prettyItems, separator] using h
  | v :: w :: vs =>
    .cons (blank_newLine depth) (written_prettyChars depth v)
      (writtenItems_pretty depth (w :: vs)).next

theorem writtenMembers_pretty (depth : Nat) :
    (ms : List (String × Value)) → WrittenMembers true ms (prettyMembers depth ms)
  | [] => .nil true
  | [(k, v)] => by
    have h : WrittenMembers true [(k, v)] _ :=
      .cons (blank_newLine depth) blank_space (written_prettyChars depth v) (.nil false)
    simpa [prettyMembers, separator] using h
  | (k, v) :: m :: ms => by
    have h : WrittenMembers true ((k, v) :: m :: ms) _ :=
      .cons (blank_newLine depth) blank_space (written_prettyChars depth v)
        (writtenMembers_pretty depth (m :: ms)).next
    simpa [prettyMembers, separator] using h

end

end Value

end Munch.Json
