import Munch.Proofs.Json.Skip
import Munch.Proofs.Pattern.Reading
import Mathlib.Data.List.TakeWhile

/-!
# What is passed over is JSON

The readers of strings, numbers and values refuse what is not JSON: what one of them passes is a
text of a tree.

**Theorem (`treeThen_of_skipValue`).** What is passed over as a value is blanks and a text of a
tree.

The reader that passes over values keeps a stack of what is open, so the proof goes backwards. One
step can do five things (`Skipper.Moves`); after each of them, what finishes the rest of the run
finishes it from before the step as well (`Skipper.Moves.finishes`). Each step gets on, so the
number of steps that the reader has is enough.
-/

namespace Munch.Json

variable {cs rest : List Char}

/-- The text is blanks, a text of a tree, and the rest. -/
def TreeThen (cs rest : List Char) : Prop :=
  ∃ t ws text, Blank ws ∧ Spells t text ∧ cs = ws ++ (text ++ rest)

/-! ## Blanks and words -/

theorem exists_blank (h : dropBlanks cs = rest) : ∃ ws, Blank ws ∧ cs = ws ++ rest := by
  subst h
  refine ⟨cs.takeWhile _, List.dropWhile_eq_nil_iff.2 ?_, List.takeWhile_append_dropWhile.symm⟩
  intro c hc
  have hblank := List.mem_takeWhile_imp hc
  exact hblank

theorem Blank.append {ws ws' : List Char} (h : Blank ws) (h' : Blank ws') : Blank (ws ++ ws') := by
  rw [Blank, dropBlanks_append h]
  exact h'

theorem Leads.append_blank {first : Bool} {lead ws : List Char} (h : Leads first lead)
    (hws : Blank ws) : Leads first (lead ++ ws) := by
  cases h with
  | first hlead => exact .first (hlead.append hws)
  | next hlead hlead' =>
    rw [List.append_assoc]
    exact .next hlead (hlead'.append hws)

theorem Spells.treeThen {t : Tree} {text : List Char} (h : Spells t text)
    (hcs : dropBlanks cs = text ++ rest) : TreeThen cs rest := by
  obtain ⟨ws, hws, hsplit⟩ := exists_blank hcs
  exact ⟨t, ws, text, hws, h, hsplit⟩

theorem eq_append_of_word {w : List Char} (h : word w cs = .ok rest) : cs = w ++ rest := by
  fun_induction word w cs with
  | case1 cs =>
    cases h
    rfl
  | case2 => cases h
  | case3 ws c cs ih => rw [ih h, List.cons_append]
  | case4 => cases h

theorem treeThen_of_word {t : Tree} {c : Char} {w more : List Char} (ht : Spells t (c :: w))
    (hcs : dropBlanks cs = c :: more) (h : word w more = .ok rest) : TreeThen cs rest :=
  ht.treeThen (by rw [hcs, eq_append_of_word h, List.cons_append])

/-! ## Strings -/

theorem exists_plain {c : Char} (hquote : c ≠ '"') (hnil : c = '\\' → cs ≠ [])
    (hcons : ∀ e ds, c = '\\' → cs ≠ e :: ds) (hlow : ¬c.toNat < 0x20) :
    ∃ p : Piece, p.chars = [c] := by
  refine ⟨.plain c ⟨hquote, ?_, Nat.not_lt.1 hlow⟩, rfl⟩
  intro hslash
  cases cs with
  | nil => exact hnil hslash rfl
  | cons e ds => exact hcons e ds hslash rfl

/-- A string that is read is one. -/
theorem exists_pieces_of_stringBody {acc : List Char} {out : List Char × List Char} :
    stringBody acc cs = .ok out →
      ∃ ps : List Piece, cs = ps.flatMap Piece.chars ++ '"' :: out.2 := by
  fun_induction stringBody acc cs with
  | case2 acc cs =>
    rintro ⟨⟩
    exact ⟨[], rfl⟩
  | case5 acc a b c d cs n hn htrail hlead ih =>
    intro h
    obtain ⟨ps, rfl⟩ := ih h
    exact ⟨.unit a b c d n hn :: ps, rfl⟩
  | case7 acc a b c d n hn htrail hlead a' b' c' d' cs m hm htrail' ih =>
    intro h
    obtain ⟨ps, rfl⟩ := ih h
    exact ⟨.unit a b c d n hn :: .unit a' b' c' d' m hm :: ps, rfl⟩
  | case15 acc e cs _ _ c hc ih =>
    intro h
    obtain ⟨ps, rfl⟩ := ih h
    exact ⟨.escape e c hc :: ps, rfl⟩
  | case18 acc c cs hquote _ _ hnil hcons hlow ih =>
    intro h
    obtain ⟨ps, rfl⟩ := ih h
    obtain ⟨p, hp⟩ := exists_plain hquote hnil hcons hlow
    exact ⟨p :: ps, by rw [List.flatMap_cons, hp]; rfl⟩
  | _ => rintro ⟨⟩

/-- A string that is passed over is one. -/
theorem exists_pieces_of_skipString :
    skipString cs = .ok rest → ∃ ps : List Piece, cs = ps.flatMap Piece.chars ++ '"' :: rest := by
  fun_induction skipString cs with
  | case2 cs =>
    rintro ⟨⟩
    exact ⟨[], rfl⟩
  | case3 a b c d cs hunit ih =>
    intro h
    obtain ⟨ps, rfl⟩ := ih h
    obtain ⟨n, hn⟩ := Option.isSome_iff_exists.1 hunit
    exact ⟨.unit a b c d n hn :: ps, rfl⟩
  | case7 e cs _ _ hescape ih =>
    intro h
    obtain ⟨ps, rfl⟩ := ih h
    obtain ⟨c, hc⟩ := Option.isSome_iff_exists.1 hescape
    exact ⟨.escape e c hc :: ps, rfl⟩
  | case10 c cs hquote _ _ hnil hcons hlow ih =>
    intro h
    obtain ⟨ps, rfl⟩ := ih h
    obtain ⟨p, hp⟩ := exists_plain hquote hnil hcons hlow
    exact ⟨p :: ps, by rw [List.flatMap_cons, hp]; rfl⟩
  | _ => rintro ⟨⟩

/-! ## Numbers -/

theorem exists_digits (h : startsWithDigit cs = true) :
    ∃ ds, Digits ds ∧ cs = ds ++ cs.dropWhile isDigit := by
  refine ⟨cs.takeWhile isDigit, ⟨?_, ?_⟩, List.takeWhile_append_dropWhile.symm⟩
  · cases cs with
    | nil => cases h
    | cons c cs =>
      have hc : isDigit c = true := h
      rw [List.takeWhile_cons_of_pos hc]
      exact List.cons_ne_nil _ _
  · exact List.all_eq_true.2 fun c hc => List.mem_takeWhile_imp hc

theorem exists_exponent {e : Char} (he : e ∈ ['e', 'E']) (h : skipExponent cs = .ok rest) :
    ∃ exponent, Exponent exponent ∧ e :: cs = exponent ++ rest := by
  have hpresent : ∀ {sign cs : List Char}, sign ∈ [[], ['+'], ['-']] →
      (if startsWithDigit cs then Except.ok (cs.dropWhile isDigit)
        else .error Fault.invalidNumber) = .ok rest →
        ∃ exponent, Exponent exponent ∧ e :: (sign ++ cs) = exponent ++ rest := by
    intro sign cs hsign h
    split_ifs at h with hstart
    cases h
    obtain ⟨ds, hds, hcs⟩ := exists_digits hstart
    refine ⟨_, .present he hsign hds, ?_⟩
    rw [List.cons_append, List.append_assoc, ← hcs]
  unfold skipExponent at h
  dsimp only at h
  split at h
  · exact @hpresent ['+'] _ (by decide) h
  · exact @hpresent ['-'] _ (by decide) h
  · exact @hpresent [] _ (by decide) h

theorem exists_fraction (h : skipFraction cs = .ok rest) :
    ∃ fraction exponent, Fraction fraction ∧ Exponent exponent ∧
      cs = fraction ++ (exponent ++ rest) := by
  have hlower : 'e' ∈ ['e', 'E'] := by decide
  have hupper : 'E' ∈ ['e', 'E'] := by decide
  unfold skipFraction at h
  split at h
  · rename_i cs
    split_ifs at h with hstart
    obtain ⟨ds, hds, hcs⟩ := exists_digits (by simpa using hstart)
    generalize cs.dropWhile isDigit = more at h hcs
    subst hcs
    split at h
    · obtain ⟨exponent, hexp, htail⟩ := exists_exponent hlower h
      exact ⟨_, exponent, .present hds, hexp, by rw [htail]; rfl⟩
    · obtain ⟨exponent, hexp, htail⟩ := exists_exponent hupper h
      exact ⟨_, exponent, .present hds, hexp, by rw [htail]; rfl⟩
    · cases h
      exact ⟨_, [], .present hds, .absent, rfl⟩
  · obtain ⟨exponent, hexp, htail⟩ := exists_exponent hlower h
    exact ⟨[], exponent, .absent, hexp, htail⟩
  · obtain ⟨exponent, hexp, htail⟩ := exists_exponent hupper h
    exact ⟨[], exponent, .absent, hexp, htail⟩
  · cases h
    exact ⟨[], [], .absent, .absent, rfl⟩

/-- A number that is passed over is one, with either sign. -/
theorem exists_numeral_of_skipNumber (minus : Bool) (h : skipNumber cs = .ok rest) :
    ∃ n : Numeral, n.minus = minus ∧ cs = n.unsigned ++ rest := by
  unfold skipNumber at h
  split at h
  · split_ifs at h
    obtain ⟨fraction, exponent, hfrac, hexp, rfl⟩ := exists_fraction h
    refine ⟨⟨minus, ['0'], fraction, exponent, .inl rfl, hfrac, hexp⟩, rfl, ?_⟩
    simp [Numeral.unsigned]
  · rename_i hzero
    split_ifs at h with hstart
    obtain ⟨ds, hds, hcs⟩ := exists_digits hstart
    obtain ⟨fraction, exponent, hfrac, hexp, hrest⟩ := exists_fraction h
    have hhead : ds.head? ≠ some '0' := by
      intro hhead
      obtain ⟨ds, rfl⟩ := List.head?_eq_some_iff.1 hhead
      exact hzero _ hcs
    refine ⟨⟨minus, ds, fraction, exponent, .inr ⟨hds, hhead⟩, hfrac, hexp⟩, rfl, ?_⟩
    rw [hcs, hrest]
    simp [Numeral.unsigned]

/-! ## Open lists and objects -/

namespace Bracket

def opening : Bracket → Char
  | list => '['
  | object => '\x7b'

/-- What stands in an open list or object up to the blanks before its end. -/
def Inner (first : Bool) (text : List Char) : Bracket → Prop
  | list => ∃ ts, SpellsItems first ts text
  | object => ∃ ms, SpellsMembers first ms text

theorem inner_nil (first : Bool) (b : Bracket) : b.Inner first [] := by
  cases b with
  | list => exact ⟨[], .nil first⟩
  | object => exact ⟨[], .nil first⟩

end Bracket

/-- The text closes what is open, innermost first, and goes on with the rest. -/
def Closes (first : Bool) : List Bracket → List Char → List Char → Prop
  | [], cs, rest => cs = rest
  | b :: stack, cs, rest => ∃ text ws more, b.Inner first text ∧ Blank ws ∧
      cs = text ++ (ws ++ b.close :: more) ∧ Closes false stack more rest

namespace Skipper

variable {s s' : Skipper} {first : Bool} {b : Bracket} {stack : List Bracket}

/-! ## What one step can do -/

inductive Moves : Skipper → Skipper → Prop
  | leaf {t : Tree} {ws text rest : List Char} {stack : List Bracket} : Blank ws → Spells t text →
      Moves ⟨.value, stack, ws ++ (text ++ rest)⟩ ⟨.next, stack, rest⟩
  | opening {b : Bracket} {ws rest : List Char} {stack : List Bracket} : Blank ws →
      Moves ⟨.value, stack, ws ++ b.opening :: rest⟩ ⟨.first, b :: stack, rest⟩
  | close {first : Bool} {b : Bracket} {ws rest : List Char} {stack : List Bracket} : Blank ws →
      Moves ⟨inside first, b :: stack, ws ++ b.close :: rest⟩ ⟨.next, stack, rest⟩
  | item {first : Bool} {lead rest : List Char} {stack : List Bracket} : Leads first lead →
      Moves ⟨inside first, .list :: stack, lead ++ rest⟩ ⟨.value, .list :: stack, rest⟩
  | member {first : Bool} {k : List Piece} {lead ws rest : List Char} {stack : List Bracket} :
      Leads first lead → Blank ws →
        Moves ⟨inside first, .object :: stack, lead ++ (Piece.quoted k ++ (ws ++ ':' :: rest))⟩
          ⟨.value, .object :: stack, rest⟩

theorem moves_of_treeThen (h : TreeThen cs rest) :
    Moves ⟨.value, stack, cs⟩ ⟨.next, stack, rest⟩ := by
  obtain ⟨t, ws, text, hws, htext, rfl⟩ := h
  exact .leaf hws htext

theorem moves_of_opening (h : dropBlanks cs = b.opening :: rest) :
    Moves ⟨.value, stack, cs⟩ ⟨.first, b :: stack, rest⟩ := by
  obtain ⟨ws, hws, rfl⟩ := exists_blank h
  exact .opening hws

theorem moves_of_value (h : value stack cs = .ok s) : Moves ⟨.value, stack, cs⟩ s := by
  unfold value at h
  split at h
  · cases h
  · rename_i heq
    obtain ⟨more, hword, hok⟩ := bind_eq_ok.1 h
    cases hok
    exact moves_of_treeThen (treeThen_of_word .null heq hword)
  · rename_i heq
    obtain ⟨more, hword, hok⟩ := bind_eq_ok.1 h
    cases hok
    exact moves_of_treeThen (treeThen_of_word (.bool true) heq hword)
  · rename_i heq
    obtain ⟨more, hword, hok⟩ := bind_eq_ok.1 h
    cases hok
    exact moves_of_treeThen (treeThen_of_word (.bool false) heq hword)
  · rename_i heq
    obtain ⟨more, hnumber, hok⟩ := bind_eq_ok.1 h
    cases hok
    obtain ⟨n, hminus, rfl⟩ := exists_numeral_of_skipNumber true hnumber
    exact moves_of_treeThen ((Spells.number n).treeThen (by simp [heq, Numeral.chars, hminus]))
  · rename_i heq
    obtain ⟨more, hstring, hok⟩ := bind_eq_ok.1 h
    cases hok
    obtain ⟨ps, rfl⟩ := exists_pieces_of_skipString hstring
    exact moves_of_treeThen ((Spells.string ps).treeThen (by rw [heq, Piece.quoted_append]))
  · rename_i heq
    cases h
    exact @moves_of_opening _ _ .list stack heq
  · rename_i heq
    cases h
    exact @moves_of_opening _ _ .object stack heq
  · rename_i heq
    split_ifs at h
    obtain ⟨more, hnumber, hok⟩ := bind_eq_ok.1 h
    cases hok
    obtain ⟨n, hminus, hn⟩ := exists_numeral_of_skipNumber false hnumber
    exact moves_of_treeThen ((Spells.number n).treeThen (by simp [heq, hn, Numeral.chars, hminus]))

theorem exists_quoted_of_key (h : key cs = .ok rest) :
    ∃ ws k ws', Blank ws ∧ Blank ws' ∧ cs = ws ++ (Piece.quoted k ++ (ws' ++ ':' :: rest)) := by
  unfold key at h
  split at h
  · cases h
  · rename_i heq
    obtain ⟨more, hstring, hcolon⟩ := bind_eq_ok.1 h
    split at hcolon
    · cases hcolon
    · rename_i heq'
      cases hcolon
      obtain ⟨ws, hws, rfl⟩ := exists_blank heq
      obtain ⟨k, rfl⟩ := exists_pieces_of_skipString hstring
      obtain ⟨ws', hws', rfl⟩ := exists_blank heq'
      exact ⟨ws, k, ws', hws, hws', by rw [Piece.quoted_append]⟩
    · cases hcolon
  · cases h

theorem moves_of_item {lead : List Char} (hlead : Leads first lead)
    (h : item b stack cs = .ok s) : Moves ⟨inside first, b :: stack, lead ++ cs⟩ s := by
  cases b with
  | list =>
    cases h
    exact .item hlead
  | object =>
    obtain ⟨more, hkey, hok⟩ := bind_eq_ok.1 h
    cases hok
    obtain ⟨ws, k, ws', hws, hws', rfl⟩ := exists_quoted_of_key hkey
    rw [← List.append_assoc]
    exact .member (hlead.append_blank hws) hws'

theorem step_inside (first : Bool) (b : Bracket) (stack : List Bracket) (cs : List Char) :
    step ⟨inside first, b :: stack, cs⟩ =
      match dropBlanks cs with
      | [] => .error b.eof
      | c :: cs =>
        if c = b.close then .ok ⟨.next, stack, cs⟩
        else if first then item b stack (c :: cs)
        else if c = ',' then item b stack cs
        else .error b.expectedEnd := by
  cases first <;> rfl

theorem moves_of_inside (h : step ⟨inside first, b :: stack, cs⟩ = .ok s) :
    Moves ⟨inside first, b :: stack, cs⟩ s := by
  rw [step_inside] at h
  split at h
  · cases h
  · rename_i heq
    obtain ⟨ws, hws, rfl⟩ := exists_blank heq
    split_ifs at h with hclose hfirst hcomma
    · cases h
      rw [hclose]
      exact .close hws
    · rw [hfirst]
      exact moves_of_item (.first hws) h
    · rw [Bool.eq_false_iff.2 hfirst, hcomma]
      simpa using moves_of_item (.next hws blank_nil) h

/-- A step gets on, unless nothing is open and nothing is awaited. -/
theorem moves_of_step (hopen : s.awaited ≠ .value → s.stack ≠ []) (h : s.step = .ok s') :
    Moves s s' := by
  obtain ⟨awaited, stack, cs⟩ := s
  cases awaited with
  | value => exact moves_of_value h
  | first =>
    cases stack with
    | nil => exact absurd rfl (hopen (by simp))
    | cons b stack => exact @moves_of_inside _ _ true b stack h
  | next =>
    cases stack with
    | nil => exact absurd rfl (hopen (by simp))
    | cons b stack => exact @moves_of_inside _ _ false b stack h

/-! ## What a run passes over -/

/-- A step passes a character, or gets from before an item to its value. -/
def measure (s : Skipper) : Nat := 2 * s.rest.length + if s.awaited = .value then 0 else 1

theorem inside_ne_value : inside first ≠ .value := by
  cases first <;> decide

theorem Moves.measure_lt (h : Moves s s') : s'.measure < s.measure := by
  cases h with
  | leaf _ htext =>
    have hpos := htext.length_pos
    simp only [measure, List.length_append, reduceCtorEq, if_true, if_false]
    omega
  | opening =>
    simp only [measure, List.length_append, List.length_cons, reduceCtorEq, if_true, if_false]
    omega
  | close =>
    simp only [measure, List.length_append, List.length_cons, reduceCtorEq, if_false]
    omega
  | item =>
    simp only [measure, inside_ne_value, List.length_append, if_true, if_false]
    omega
  | member =>
    simp only [measure, inside_ne_value, List.length_append, List.length_cons, if_true, if_false]
    omega

/-- What is left is the value that is awaited, if one is, and closes what is open. -/
def Finishes (s : Skipper) (rest : List Char) : Prop :=
  match s.awaited with
  | .value => ∃ more, TreeThen s.rest more ∧ Closes false s.stack more rest
  | .first => Closes true s.stack s.rest rest
  | .next => Closes false s.stack s.rest rest

theorem finishes_inside : Finishes ⟨inside first, stack, cs⟩ rest ↔ Closes first stack cs rest := by
  cases first <;> rfl

/-- **What finishes a run from behind a step finishes it from before the step.** -/
theorem Moves.finishes (h : Moves s s') (hs' : s'.Finishes rest) : s.Finishes rest := by
  cases h with
  | @leaf t ws text more stack hws htext => exact ⟨more, ⟨t, ws, text, hws, htext, rfl⟩, hs'⟩
  | @opening b ws more stack hws =>
    obtain ⟨text, ws', more', hinner, hws', rfl, hcloses⟩ := hs'
    refine ⟨more', ?_, hcloses⟩
    cases b with
    | list =>
      obtain ⟨ts, hts⟩ := hinner
      refine ⟨.list ts, ws, _, hws, .list hts hws', ?_⟩
      simp [Bracket.opening, Bracket.close]
    | object =>
      obtain ⟨ms, hms⟩ := hinner
      refine ⟨.object ms, ws, _, hws, .object hms hws', ?_⟩
      simp [Bracket.opening, Bracket.close]
  | @close first b ws more stack hws =>
    exact finishes_inside.2 ⟨[], ws, more, b.inner_nil first, hws, rfl, hs'⟩
  | @item first lead more stack hlead =>
    obtain ⟨_, ⟨t, ws, text, hws, htext, rfl⟩, hcloses⟩ := hs'
    obtain ⟨more', wse, rest', ⟨ts, hts⟩, hwse, rfl, hcloses⟩ := hcloses
    have hitems : SpellsItems first (t :: ts) _ := .cons (hlead.append_blank hws) htext hts
    exact finishes_inside.2 ⟨_, wse, rest', ⟨_, hitems⟩, hwse, by simp, hcloses⟩
  | @member first k lead wsk more stack hlead hwsk =>
    obtain ⟨_, ⟨t, ws, text, hws, htext, rfl⟩, hcloses⟩ := hs'
    obtain ⟨more', wse, rest', ⟨ms, hms⟩, hwse, rfl, hcloses⟩ := hcloses
    have hmembers : SpellsMembers first ((k, t) :: ms) _ := .cons hlead hwsk hws htext hms
    exact finishes_inside.2 ⟨_, wse, rest', ⟨_, hmembers⟩, hwse, by simp, hcloses⟩

/-- What a run passes over finishes what was open. -/
theorem finishes_of_run {n : Nat} (hn : s.measure < n) (hopen : s.awaited = .first → s.stack ≠ [])
    (h : run n s = .ok rest) : s.Finishes rest := by
  induction n generalizing s with
  | zero => exact absurd hn (Nat.not_lt_zero _)
  | succ n ih =>
    rw [run] at h
    split_ifs at h with hend
    · obtain ⟨awaited, stack, cs⟩ := s
      obtain ⟨rfl, hstack⟩ := hend
      obtain rfl : stack = [] := List.isEmpty_iff.1 hstack
      cases h
      rfl
    · obtain ⟨s', hstep, hrun⟩ := bind_eq_ok.1 h
      have hmoves : Moves s s' := by
        refine moves_of_step ?_ hstep
        obtain ⟨awaited, stack, cs⟩ := s
        cases awaited with
        | value => simp
        | first => exact fun _ => hopen rfl
        | next => simpa using hend
      have hlt := hmoves.measure_lt
      refine hmoves.finishes (ih (by omega) ?_ hrun)
      cases hmoves <;> simp

end Skipper

/-- **What is passed over is a text of a tree.** -/
theorem treeThen_of_skipValue (h : skipValue cs = .ok rest) : TreeThen cs rest := by
  have hmeasure : Skipper.measure ⟨.value, [], cs⟩ < 2 * cs.length + 2 := by
    simp [Skipper.measure]
  obtain ⟨more, htree, rfl⟩ := Skipper.finishes_of_run hmeasure (by simp) h
  exact htree

end Munch.Json
