import Munch.Proofs.Json.Written

/-!
# JSON as it stands in a text

A **tree** is JSON without its blanks. It keeps each number and each string as it is spelled, so it
holds more than a value: `1` and `1.0e0` are different trees, and so are strings that write one
character in different ways. `Spells` relates a tree to the texts that differ in their blanks alone,
and a **document** is such a text between blanks.

Strings may hold escapes of lone surrogates; `said?` gives the characters of a string without any.

* `spells_chars`: every tree has a text.
* `Written.spells`: the written forms of a value are texts of its tree.
-/

namespace Munch.Json

/-! ## Strings -/

/-- A part of a string as it is spelled. -/
inductive Piece where
  /-- A character that stands for itself. -/
  | plain (c : Char) (isPlain : c ≠ '"' ∧ c ≠ '\\' ∧ 0x20 ≤ c.toNat)
  /-- A backslash and a letter. -/
  | escape (letter c : Char) (isEscape : escaped? letter = some c)
  /-- A UTF-16 unit, by its four digits. -/
  | unit (a b c d : Char) (n : Nat) (isUnit : unit? a b c d = some n)

namespace Piece

def chars : Piece → List Char
  | plain c _ => [c]
  | escape letter _ _ => ['\\', letter]
  | unit a b c d _ _ => ['\\', 'u', a, b, c, d]

/-- The characters that a string stands for, unless one of its surrogates is alone. -/
def said? : List Piece → Option (List Char)
  | [] => some []
  | plain c _ :: ps => (said? ps).map (c :: ·)
  | escape _ c _ :: ps => (said? ps).map (c :: ·)
  | unit _ _ _ _ n _ :: ps =>
    if isTrail n then none
    else if !isLead n then (said? ps).map (Char.ofNat n :: ·)
    else
      match ps with
      | unit _ _ _ _ m _ :: ps =>
        if isTrail m then (said? ps).map (pairChar n m :: ·) else none
      | _ => none

/-- The string that its pieces stand for. -/
def text? (ps : List Piece) : Option String := (said? ps).map String.ofList

/-- The pieces between quotes. -/
def quoted (ps : List Piece) : List Char := '"' :: ps.flatMap chars ++ ['"']

theorem quoted_append (ps : List Piece) (rest : List Char) :
    quoted ps ++ rest = '"' :: (ps.flatMap chars ++ '"' :: rest) := by
  simp [quoted]

end Piece

/-! ## Numbers -/

/-- Decimal digits, of which there is at least one. -/
def Digits (ds : List Char) : Prop := ds ≠ [] ∧ ds.all isDigit = true

instance (ds : List Char) : Decidable (Digits ds) := inferInstanceAs (Decidable (_ ∧ _))

/-- A point and digits, or nothing. -/
inductive Fraction : List Char → Prop
  | absent : Fraction []
  | present {ds : List Char} : Digits ds → Fraction ('.' :: ds)

/-- The letter of an exponent, a sign and digits, or nothing. -/
inductive Exponent : List Char → Prop
  | absent : Exponent []
  | present {e : Char} {sign ds : List Char} : e ∈ ['e', 'E'] → sign ∈ [[], ['+'], ['-']] →
      Digits ds → Exponent (e :: (sign ++ ds))

/-- A number as it is spelled. It does not begin with a zero, unless that is its only digit before
the point. -/
structure Numeral where
  minus : Bool := false
  whole : List Char
  fraction : List Char := []
  exponent : List Char := []
  isWhole : whole = ['0'] ∨ Digits whole ∧ whole.head? ≠ some '0'
  isFraction : Fraction fraction := by exact .absent
  isExponent : Exponent exponent := by exact .absent

namespace Numeral

/-- The number without its sign. -/
def unsigned (n : Numeral) : List Char := n.whole ++ (n.fraction ++ n.exponent)

def chars (n : Numeral) : List Char := if n.minus then '-' :: n.unsigned else n.unsigned

theorem digits_whole (n : Numeral) : Digits n.whole := by
  rcases n.isWhole with h | ⟨h, -⟩
  · rw [h]
    decide
  · exact h

theorem exists_unsigned (n : Numeral) : ∃ c cs, n.unsigned = c :: cs ∧ isDigit c = true := by
  obtain ⟨hne, hall⟩ := n.digits_whole
  obtain ⟨c, cs, hwhole⟩ := List.exists_cons_of_ne_nil hne
  rw [hwhole, List.all_cons, Bool.and_eq_true] at hall
  exact ⟨c, _, by rw [unsigned, hwhole, List.cons_append], hall.1⟩

/-- The numeral of a natural number. -/
def ofNat (n : Nat) : Numeral where
  whole := Nat.toDigits 10 n
  isWhole := by
    by_cases hzero : n = 0
    · exact .inl (by rw [hzero]; rfl)
    · obtain ⟨c, cs, hdigits, -, hne⟩ := exists_toDigits_eq_cons n
      refine .inr ⟨⟨by rw [hdigits]; exact List.cons_ne_nil c cs, ?_⟩, ?_⟩
      · exact List.all_eq_true.2 fun d hd => isDigit_of_mem_toDigits hd
      · rw [hdigits, List.head?_cons]
        exact fun h => hne hzero (Option.some.inj h)

theorem chars_ofNat (n : Nat) : (ofNat n).chars = Nat.toDigits 10 n := by
  simp [chars, unsigned, ofNat]

end Numeral

/-! ## Trees -/

inductive Tree where
  | null
  | bool (b : Bool)
  | number (n : Numeral)
  | string (ps : List Piece)
  | list (items : List Tree)
  | object (members : List (List Piece × Tree))

namespace Tree

/-- The tree is a string that stands for the text. -/
def IsText (t : Tree) (s : String) : Prop := ∃ ps, t = .string ps ∧ Piece.text? ps = some s

/-- The tree is a natural number, spelled without a point or an exponent. -/
def IsNat (t : Tree) (n : Nat) : Prop := ∃ num, t = .number num ∧ num.chars = Nat.toDigits 10 n

/-- The tree is the name of a choice, or maps the name to `null`. -/
def Names (t : Tree) (name : String) : Prop :=
  ∃ ps, Piece.text? ps = some name ∧ (t = .string ps ∨ t = .object [(ps, .null)])

end Tree

/-- What stands before an item or a member: blanks, and a comma unless it is the first one. -/
inductive Leads : Bool → List Char → Prop
  | first {ws : List Char} : Blank ws → Leads true ws
  | next {ws ws' : List Char} : Blank ws → Blank ws' → Leads false (ws ++ ',' :: ws')

mutual

/-- The text is that of the tree, with blanks in any of the places where they mean nothing. -/
inductive Spells : Tree → List Char → Prop
  | null : Spells .null "null".toList
  | bool (b : Bool) : Spells (.bool b) (toString b).toList
  | number (n : Numeral) : Spells (.number n) n.chars
  | string (ps : List Piece) : Spells (.string ps) (Piece.quoted ps)
  | list {ts : List Tree} {text ws : List Char} :
      SpellsItems true ts text → Blank ws → Spells (.list ts) ('[' :: (text ++ (ws ++ [']'])))
  | object {ms : List (List Piece × Tree)} {text ws : List Char} :
      SpellsMembers true ms text → Blank ws →
        Spells (.object ms) ('\x7b' :: (text ++ (ws ++ ['\x7d'])))

/-- The text is that of the items, each with what stands before it. -/
inductive SpellsItems : Bool → List Tree → List Char → Prop
  | nil (first : Bool) : SpellsItems first [] []
  | cons {first : Bool} {t : Tree} {ts : List Tree} {lead text more : List Char} :
      Leads first lead → Spells t text → SpellsItems false ts more →
        SpellsItems first (t :: ts) (lead ++ (text ++ more))

/-- The text is that of the members, each with what stands before it. -/
inductive SpellsMembers : Bool → List (List Piece × Tree) → List Char → Prop
  | nil (first : Bool) : SpellsMembers first [] []
  | cons {first : Bool} {k : List Piece} {t : Tree} {ms : List (List Piece × Tree)}
      {lead ws ws' text more : List Char} :
      Leads first lead → Blank ws → Blank ws' → Spells t text → SpellsMembers false ms more →
        SpellsMembers first ((k, t) :: ms)
          (lead ++ (Piece.quoted k ++ (ws ++ ':' :: (ws' ++ (text ++ more)))))

end

/-- The text holds the tree between blanks, and nothing else. -/
def Document (t : Tree) (text : String) : Prop :=
  ∃ ws body ws', Blank ws ∧ Spells t body ∧ Blank ws' ∧ text.toList = ws ++ (body ++ ws')

/-! ## What a text begins with, and what may follow it -/

/-- The texts of the tree begin with the character. -/
inductive Tree.Begins : Tree → Char → Prop
  | null : Begins .null 'n'
  | true : Begins (.bool Bool.true) 't'
  | false : Begins (.bool Bool.false) 'f'
  | minus {n : Numeral} : n.minus = Bool.true → Begins (.number n) '-'
  | digit {n : Numeral} {c : Char} : n.minus = Bool.false → isDigit c = Bool.true →
      Begins (.number n) c
  | string (ps : List Piece) : Begins (.string ps) '"'
  | list (ts : List Tree) : Begins (.list ts) '['
  | object (ms : List (List Piece × Tree)) : Begins (.object ms) '\x7b'

theorem Tree.Begins.opens {t : Tree} {c : Char} (h : t.Begins c) : Opens c := by
  cases h with
  | digit _ hc => exact opens_of_isDigit hc
  | _ => decide

namespace Spells

variable {t : Tree} {text : List Char}

theorem begins (h : Spells t text) : ∃ c cs, text = c :: cs ∧ t.Begins c := by
  cases h with
  | null => exact ⟨'n', _, rfl, .null⟩
  | bool b => cases b <;> exact ⟨_, _, rfl, by constructor⟩
  | number n =>
    obtain ⟨c, cs, hunsigned, hc⟩ := n.exists_unsigned
    rw [Numeral.chars, hunsigned]
    cases hminus : n.minus with
    | true => exact ⟨'-', _, rfl, .minus hminus⟩
    | false => exact ⟨c, cs, rfl, .digit hminus hc⟩
  | string ps => exact ⟨'"', _, rfl, .string ps⟩
  | list => exact ⟨'[', _, rfl, .list _⟩
  | object => exact ⟨'\x7b', _, rfl, .object _⟩

theorem opens (h : Spells t text) : ∃ c cs, text = c :: cs ∧ Opens c := by
  obtain ⟨c, cs, htext, hc⟩ := h.begins
  exact ⟨c, cs, htext, hc.opens⟩

/-- A text of a tree stands where blanks have been dropped. -/
theorem dropBlanks_append (h : Spells t text) {ws : List Char} (hws : Blank ws)
    (rest : List Char) : dropBlanks (ws ++ (text ++ rest)) = text ++ rest := by
  obtain ⟨c, cs, rfl, hc⟩ := h.opens
  rw [Json.dropBlanks_append hws]
  exact dropBlanks_cons hc _

theorem length_pos (h : Spells t text) : 0 < text.length := by
  obtain ⟨c, cs, rfl, -⟩ := h.opens
  exact Nat.succ_pos _

end Spells

theorem Leads.endsNumber {lead : List Char} (h : Leads false lead) (rest : List Char) :
    EndsNumber (lead ++ rest) := by
  cases h with
  | next hws hws' =>
    rw [List.append_assoc]
    exact (endsNumber_comma _).blank_append hws

theorem SpellsItems.endsNumber {ts : List Tree} {text rest : List Char}
    (h : SpellsItems false ts text) (hrest : EndsNumber rest) : EndsNumber (text ++ rest) := by
  cases h with
  | nil => exact hrest
  | cons hlead =>
    rw [List.append_assoc]
    exact hlead.endsNumber _

theorem SpellsMembers.endsNumber {ms : List (List Piece × Tree)} {text rest : List Char}
    (h : SpellsMembers false ms text) (hrest : EndsNumber rest) : EndsNumber (text ++ rest) := by
  cases h with
  | nil => exact hrest
  | cons hlead =>
    rw [List.append_assoc]
    exact hlead.endsNumber _

/-! ## Every tree has a text -/

mutual

/-- A text of the tree that has no blanks. -/
def Tree.chars : Tree → List Char
  | .null => "null".toList
  | .bool b => (toString b).toList
  | .number n => n.chars
  | .string ps => Piece.quoted ps
  | .list ts => '[' :: (itemChars true ts ++ [']'])
  | .object ms => '\x7b' :: (memberChars true ms ++ ['\x7d'])

def itemChars (first : Bool) : List Tree → List Char
  | [] => []
  | t :: ts => separator first ++ (t.chars ++ itemChars false ts)

def memberChars (first : Bool) : List (List Piece × Tree) → List Char
  | [] => []
  | (k, t) :: ms =>
    separator first ++ (Piece.quoted k ++ ':' :: (t.chars ++ memberChars false ms))

end

theorem leads_separator {first : Bool} {ws : List Char} (hws : Blank ws) :
    Leads first (separator first ++ ws) := by
  cases first with
  | true => exact .first hws
  | false => exact .next blank_nil hws

theorem leads_nil (first : Bool) : Leads first (separator first) := by
  simpa using leads_separator blank_nil

mutual

/-- **Every tree has a text.** -/
theorem spells_chars : (t : Tree) → Spells t t.chars
  | .null => .null
  | .bool b => .bool b
  | .number n => .number n
  | .string ps => .string ps
  | .list ts => .list (spells_itemChars true ts) blank_nil
  | .object ms => .object (spells_memberChars true ms) blank_nil

theorem spells_itemChars (first : Bool) :
    (ts : List Tree) → SpellsItems first ts (itemChars first ts)
  | [] => .nil first
  | t :: ts => .cons (leads_nil first) (spells_chars t) (spells_itemChars false ts)

theorem spells_memberChars (first : Bool) :
    (ms : List (List Piece × Tree)) → SpellsMembers first ms (memberChars first ms)
  | [] => .nil first
  | (_, t) :: ms =>
    .cons (leads_nil first) blank_nil blank_nil (spells_chars t) (spells_memberChars false ms)

end

/-! ## The trees of values -/

namespace Piece

/-- A character as it is written. -/
def ofChar (c : Char) : Piece :=
  if hquote : c = '"' then .escape '"' '"' rfl
  else if hslash : c = '\\' then .escape '\\' '\\' rfl
  else if hplain : 0x20 ≤ c.toNat then .plain c ⟨hquote, hslash, hplain⟩
  else if c = '\x08' then .escape 'b' '\x08' rfl
  else if c = '\x0c' then .escape 'f' '\x0c' rfl
  else if c = '\n' then .escape 'n' '\n' rfl
  else if c = '\r' then .escape 'r' '\r' rfl
  else if c = '\t' then .escape 't' '\t' rfl
  else .unit '0' '0' (hexDigit (c.toNat / 16)) (hexDigit (c.toNat % 16)) c.toNat
    (unit?_hexDigit (Nat.not_le.1 hplain))

theorem chars_ofChar (c : Char) : (ofChar c).chars = escapedChar c := by
  unfold ofChar escapedChar
  split_ifs <;> rfl

def ofString (s : String) : List Piece := s.toList.map ofChar

theorem quoted_ofString (s : String) : quoted (ofString s) = quote s := by
  rw [quoted, quote, ofString, List.flatMap_map]
  simp only [chars_ofChar]

end Piece

mutual

/-- The tree of the written forms of a value. -/
def Value.tree : Value → Tree
  | .null => .null
  | .bool b => .bool b
  | .number n => .number (.ofNat n)
  | .string s => .string (Piece.ofString s)
  | .list vs => .list (treeItems vs)
  | .object ms => .object (treeMembers ms)

def treeItems : List Value → List Tree
  | [] => []
  | v :: vs => v.tree :: treeItems vs

def treeMembers : List (String × Value) → List (List Piece × Tree)
  | [] => []
  | (k, v) :: ms => (Piece.ofString k, v.tree) :: treeMembers ms

end

mutual

/-- **The written forms of a value are texts of its tree.** -/
theorem Written.spells {text : List Char} : (v : Value) → Written v text → Spells v.tree text
  | .null, h => by cases h; exact .null
  | .bool b, h => by cases h; exact .bool b
  | .number n, h => by
    cases h
    rw [Nat.toString_eq_ofList_toDigits, String.toList_ofList, ← Numeral.chars_ofNat]
    exact .number _
  | .string s, h => by
    cases h
    rw [← Piece.quoted_ofString]
    exact .string _
  | .list vs, h => by
    cases h with
    | list hitems hws => simpa [Value.tree] using Spells.list (WrittenItems.spells vs hitems) hws
  | .object ms, h => by
    cases h with
    | object hmembers hws =>
      simpa [Value.tree] using Spells.object (WrittenMembers.spells ms hmembers) hws

theorem WrittenItems.spells {first : Bool} {text : List Char} :
    (vs : List Value) → WrittenItems first vs text → SpellsItems first (treeItems vs) text
  | [], h => by cases h; exact .nil first
  | v :: vs, h => by
    cases h with
    | cons hws hv hmore =>
      simpa [treeItems] using SpellsItems.cons (leads_separator hws) (Written.spells v hv)
        (WrittenItems.spells vs hmore)

theorem WrittenMembers.spells {first : Bool} {text : List Char} :
    (ms : List (String × Value)) → WrittenMembers first ms text →
      SpellsMembers first (treeMembers ms) text
  | [], h => by cases h; exact .nil first
  | (k, v) :: ms, h => by
    cases h with
    | cons hws hws' hv hmore =>
      have hlead : Leads first _ := leads_separator hws
      have hcons : SpellsMembers first (treeMembers ((k, v) :: ms)) _ :=
        .cons hlead blank_nil hws' (Written.spells v hv) (WrittenMembers.spells ms hmore)
      rw [Piece.quoted_ofString] at hcons
      simpa using hcons

end

theorem Written.document {v : Value} {text : List Char} (h : Written v text) :
    Document v.tree (.ofList text) :=
  ⟨[], text, [], blank_nil, Written.spells v h, blank_nil, by simp⟩

theorem document_compact (v : Value) : Document v.tree v.compact := v.written_compactChars.document

theorem document_pretty (v : Value) : Document v.tree v.pretty := (v.written_prettyChars 0).document

end Munch.Json
