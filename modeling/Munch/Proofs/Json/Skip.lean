import Munch.Json.Skip
import Munch.Proofs.Json.Tree

/-!
# Values that are passed over

**Theorem (`skipValue_spells`).** A text of a tree is passed over, whatever the tree and whatever
follows. So is each written form of a value.

The reader keeps a stack of what is open. A value leaves the stack as it was, so a text of a tree
takes the reader from before it to behind it for every stack (`gets_value`). The number of steps is
less than twice the number of characters, which is what the reader has.
-/

namespace Munch.Json

variable {rest : List Char}

/-! ## Strings and numbers -/

theorem skipString_plain {c : Char} (hquote : c ≠ '"') (hslash : c ≠ '\\') (hlow : ¬c.toNat < 0x20)
    (cs : List Char) : skipString (c :: cs) = skipString cs := by
  rw [skipString.eq_def]
  split <;> rename_i heq <;> cases heq
  all_goals first | contradiction | exact if_neg hlow

theorem skipString_piece (p : Piece) (cs : List Char) :
    skipString (p.chars ++ cs) = skipString cs := by
  cases p with
  | plain c hc => exact skipString_plain hc.1 hc.2.1 (Nat.not_lt.2 hc.2.2) cs
  | escape letter c hc =>
    unfold escaped? at hc
    split at hc
    case h_9 => cases hc
    all_goals rfl
  | unit a b c d n hn => simp [Piece.chars, skipString, hn]

/-- A string is passed over, whatever its escapes stand for. -/
theorem skipString_pieces (ps : List Piece) (rest : List Char) :
    skipString (ps.flatMap Piece.chars ++ '"' :: rest) = .ok rest := by
  induction ps with
  | nil => rfl
  | cons p ps ih => rw [List.flatMap_cons, List.append_assoc, skipString_piece, ih]

theorem dropWhile_isDigit (h : startsWithDigit rest = false) : rest.dropWhile isDigit = rest := by
  cases rest with
  | nil => rfl
  | cons c cs => exact List.dropWhile_cons_of_neg (Bool.eq_false_iff.1 h)

theorem Digits.dropWhile_append {ds : List Char} (hds : Digits ds)
    (h : startsWithDigit rest = false) : (ds ++ rest).dropWhile isDigit = rest := by
  rw [List.dropWhile_append_of_pos fun c hc => List.all_eq_true.1 hds.2 c hc, dropWhile_isDigit h]

theorem Digits.exists_cons {ds : List Char} (hds : Digits ds) :
    ∃ c cs, ds = c :: cs ∧ isDigit c = true := by
  obtain ⟨hne, hall⟩ := hds
  obtain ⟨c, cs, rfl⟩ := List.exists_cons_of_ne_nil hne
  exact ⟨c, cs, rfl, List.all_eq_true.1 hall c List.mem_cons_self⟩

theorem skipFraction_ends (h : EndsNumber rest) : skipFraction rest = .ok rest := by
  unfold skipFraction
  split
  · exact ((h '.' rfl).2.1 rfl).elim
  · exact ((h 'e' rfl).2.2.1 rfl).elim
  · exact ((h 'E' rfl).2.2.2 rfl).elim
  · rfl

theorem skipExponent_append {sign ds : List Char} (hsign : sign ∈ [[], ['+'], ['-']])
    (hds : Digits ds) (h : EndsNumber rest) : skipExponent (sign ++ (ds ++ rest)) = .ok rest := by
  have hdrop := hds.dropWhile_append (startsWithDigit_eq_false h)
  obtain ⟨c, cs, rfl, hc⟩ := hds.exists_cons
  have hstart : startsWithDigit (c :: cs ++ rest) = true := hc
  have hdigits :
      (if startsWithDigit (c :: cs ++ rest) then Except.ok ((c :: cs ++ rest).dropWhile isDigit)
        else .error Fault.invalidNumber) = .ok rest := by
    rw [if_pos hstart, hdrop]
  simp only [List.mem_cons, List.not_mem_nil, or_false] at hsign
  rcases hsign with rfl | rfl | rfl
  · -- The digits do not begin with a sign.
    rw [List.nil_append]
    unfold skipExponent
    split
    · rename_i heq
      exact absurd ((List.cons.inj heq).1 ▸ hc) (by decide)
    · rename_i heq
      exact absurd ((List.cons.inj heq).1 ▸ hc) (by decide)
    · exact hdigits
  · exact hdigits
  · exact hdigits

namespace Numeral

variable {fraction exponent : List Char}

theorem startsWithDigit_exponent (hexp : Exponent exponent) (h : EndsNumber rest) :
    startsWithDigit (exponent ++ rest) = false := by
  cases hexp with
  | absent => exact startsWithDigit_eq_false h
  | present he =>
    simp only [List.mem_cons, List.not_mem_nil, or_false] at he
    rcases he with rfl | rfl <;> rfl

theorem skipFraction_exponent (hexp : Exponent exponent) (h : EndsNumber rest) :
    skipFraction (exponent ++ rest) = .ok rest := by
  cases hexp with
  | absent => exact skipFraction_ends h
  | @present e sign ds he hsign hds =>
    have hskip := skipExponent_append hsign hds h
    simp only [List.mem_cons, List.not_mem_nil, or_false] at he
    rw [List.cons_append, List.append_assoc]
    rcases he with rfl | rfl <;> exact hskip

/-- Behind digits, an exponent is passed over as it is without them. -/
theorem skipFraction_point {ds cs : List Char} (hds : Digits ds)
    (hstart : startsWithDigit cs = false) (hpoint : cs.head? ≠ some '.') :
    skipFraction ('.' :: (ds ++ cs)) = skipFraction cs := by
  have hdrop := hds.dropWhile_append hstart
  obtain ⟨c, ds, rfl, hc⟩ := hds.exists_cons
  have hdigit : startsWithDigit (c :: ds ++ cs) = true := hc
  rw [skipFraction, hdrop]
  simp only [hdigit, Bool.not_true, Bool.false_eq_true, if_false]
  conv => rhs; unfold skipFraction
  split
  · rfl
  · rfl
  · split
    · simp at hpoint
    · rename_i cs hlower _
      exact (hlower cs rfl).elim
    · rename_i cs _ hupper
      exact (hupper cs rfl).elim
    · rfl

theorem startsWithDigit_fraction (hfrac : Fraction fraction) (hexp : Exponent exponent)
    (h : EndsNumber rest) : startsWithDigit (fraction ++ (exponent ++ rest)) = false := by
  cases hfrac with
  | absent =>
    rw [List.nil_append]
    exact startsWithDigit_exponent hexp h
  | present => rfl

theorem skipFraction_append (hfrac : Fraction fraction) (hexp : Exponent exponent)
    (h : EndsNumber rest) : skipFraction (fraction ++ (exponent ++ rest)) = .ok rest := by
  cases hfrac with
  | absent => exact skipFraction_exponent hexp h
  | present hds =>
    have hpoint : (exponent ++ rest).head? ≠ some '.' := by
      cases hexp with
      | absent => exact fun hhead => (h '.' hhead).2.1 rfl
      | present he =>
        rintro hhead
        obtain rfl := Option.some.inj hhead
        exact absurd he (by decide)
    rw [List.cons_append, skipFraction_point hds (startsWithDigit_exponent hexp h) hpoint,
      skipFraction_exponent hexp h]

end Numeral

/-- A number is passed over, whatever its size. -/
theorem skipNumber_unsigned (n : Numeral) (h : EndsNumber rest) :
    skipNumber (n.unsigned ++ rest) = .ok rest := by
  have hstart := Numeral.startsWithDigit_fraction n.isFraction n.isExponent h
  have hskip := Numeral.skipFraction_append n.isFraction n.isExponent h
  rw [Numeral.unsigned, List.append_assoc, List.append_assoc]
  rcases n.isWhole with hwhole | ⟨hwhole, hhead⟩
  · rw [hwhole]
    show (if startsWithDigit (n.fraction ++ (n.exponent ++ rest)) then _
      else skipFraction (n.fraction ++ (n.exponent ++ rest))) = _
    rw [hstart, hskip]
    rfl
  · have hdrop := hwhole.dropWhile_append hstart
    obtain ⟨c, cs, hcons, hc⟩ := hwhole.exists_cons
    rw [hcons, List.cons_append] at hdrop ⊢
    rw [hcons, List.head?_cons] at hhead
    unfold skipNumber
    split
    · rename_i heq
      exact (hhead (congrArg some (List.cons.inj heq).1)).elim
    · rw [startsWithDigit, if_pos hc, hdrop, hskip]

/-- The digits of a natural number are passed over. -/
theorem skipNumber_toDigits (n : Nat) (h : EndsNumber rest) :
    skipNumber (Nat.toDigits 10 n ++ rest) = .ok rest := by
  simpa [Numeral.ofNat, Numeral.unsigned] using skipNumber_unsigned (.ofNat n) h

namespace Skipper

variable {s s' s'' : Skipper} {j k n : Nat} {stack : List Bracket}

/-! ## Steps -/

/-- The reader gets from `s` to `s'` in `k` steps, and is not at its end before. -/
def Gets (k : Nat) (s s' : Skipper) : Prop := ∀ n, run (n + k) s = run n s'

theorem Gets.trans (h : Gets j s s') (h' : Gets k s' s'') : Gets (k + j) s s'' := by
  intro n
  rw [← Nat.add_assoc, h, h']

theorem gets_of_step (hopen : ¬(s.awaited = .next ∧ s.stack.isEmpty)) (h : s.step = .ok s') :
    Gets 1 s s' := by
  intro n
  rw [run, if_neg hopen, h]
  rfl

/-- What is awaited in a list or an object, at its first item or behind one. -/
def inside (first : Bool) : Awaited := if first then .first else .next

theorem gets_close (first : Bool) (b : Bracket) {ws : List Char} (hws : Blank ws) :
    Gets 1 ⟨inside first, b :: stack, ws ++ b.close :: rest⟩ ⟨.next, stack, rest⟩ := by
  refine gets_of_step (by simp) ?_
  have hdrop : dropBlanks (ws ++ b.close :: rest) = b.close :: rest := by
    rw [dropBlanks_append hws]
    cases b <;> rfl
  cases first <;> simp [step, inside, hdrop]

/-- The step to an item passes what stands before it, but for some blanks. -/
theorem step_of_opens {first : Bool} {c : Char} {lead cs : List Char} (hc : Opens c)
    (hlead : Leads first lead) (b : Bracket) (stack : List Bracket) :
    ∃ ws, Blank ws ∧
      step ⟨inside first, b :: stack, lead ++ c :: cs⟩ = item b stack (ws ++ c :: cs) := by
  have hdrop := dropBlanks_cons hc cs
  have hclose : c ≠ b.close := by
    rintro rfl
    cases b <;> exact hc (by decide)
  cases hlead with
  | first hws =>
    refine ⟨[], blank_nil, ?_⟩
    simp [step, inside, dropBlanks_append hws, hdrop, hclose]
  | @next ws ws' hws hws' =>
    refine ⟨ws', hws', ?_⟩
    have hsep : dropBlanks (',' :: (ws' ++ c :: cs)) = ',' :: (ws' ++ c :: cs) := rfl
    cases b <;> simp [step, inside, dropBlanks_append hws, hsep, Bracket.close]

theorem step_item {first : Bool} {t : Tree} {text lead : List Char} (h : Spells t text)
    (hlead : Leads first lead) (stack : List Bracket) (rest : List Char) :
    ∃ ws, Blank ws ∧
      step ⟨inside first, .list :: stack, lead ++ (text ++ rest)⟩ =
        .ok ⟨.value, .list :: stack, ws ++ (text ++ rest)⟩ := by
  obtain ⟨c, cs, rfl, hc⟩ := h.opens
  exact step_of_opens hc hlead .list stack

theorem key_quoted {ws ws' : List Char} (hws : Blank ws) (hws' : Blank ws') (k : List Piece)
    (cs : List Char) : key (ws ++ (Piece.quoted k ++ (ws' ++ ':' :: cs))) = .ok cs := by
  have hdrop : dropBlanks (ws ++ '"' :: (k.flatMap Piece.chars ++ '"' :: (ws' ++ ':' :: cs))) =
      '"' :: (k.flatMap Piece.chars ++ '"' :: (ws' ++ ':' :: cs)) := by
    rw [dropBlanks_append hws]
    rfl
  have hcolon : dropBlanks (ws' ++ ':' :: cs) = ':' :: cs := by
    rw [dropBlanks_append hws']
    rfl
  rw [Piece.quoted_append, key, hdrop]
  simp only [skipString_pieces, bind, Except.bind, hcolon]

theorem step_member {first : Bool} {lead ws : List Char} (hlead : Leads first lead)
    (hws : Blank ws) (stack : List Bracket) (k : List Piece) (cs : List Char) :
    step ⟨inside first, .object :: stack, lead ++ (Piece.quoted k ++ (ws ++ ':' :: cs))⟩ =
      .ok ⟨.value, .object :: stack, cs⟩ := by
  have hopens : Opens '"' := by decide
  obtain ⟨ws', hws', hstep⟩ := step_of_opens hopens hlead .object stack
  refine hstep.trans ?_
  show (do .ok (Skipper.mk .value (.object :: stack)
    (← key (ws' ++ (Piece.quoted k ++ (ws ++ ':' :: cs)))))) = _
  rw [key_quoted hws' hws]
  rfl

/-! ## Values -/

/-- A value that does not nest is passed over in one step. -/
theorem gets_of_leaf {t : Tree} {text ws : List Char} (h : Spells t text)
    (hlist : ∀ ts, t ≠ .list ts) (hobject : ∀ ms, t ≠ .object ms) (hws : Blank ws)
    (hrest : EndsNumber rest) (stack : List Bracket) :
    ∃ k < 2 * text.length, Gets k ⟨.value, stack, ws ++ (text ++ rest)⟩ ⟨.next, stack, rest⟩ := by
  have hpos := h.length_pos
  refine ⟨1, by omega, gets_of_step (by simp) ?_⟩
  show value stack (ws ++ (text ++ rest)) = _
  rw [value, h.dropBlanks_append hws]
  cases h with
  | null =>
    show (do .ok (Skipper.mk .next stack (← word "ull".toList ("ull".toList ++ rest)))) = _
    rw [word_append]
    rfl
  | bool b =>
    cases b with
    | true =>
      show (do .ok (Skipper.mk .next stack (← word "rue".toList ("rue".toList ++ rest)))) = _
      rw [word_append]
      rfl
    | false =>
      show (do .ok (Skipper.mk .next stack (← word "alse".toList ("alse".toList ++ rest)))) = _
      rw [word_append]
      rfl
  | number n =>
    have hnumber := skipNumber_unsigned n hrest
    rw [Numeral.chars]
    cases n.minus with
    | true =>
      show (do .ok (Skipper.mk .next stack (← skipNumber (n.unsigned ++ rest)))) = _
      rw [hnumber]
      rfl
    | false =>
      obtain ⟨c, cs, hunsigned, hc⟩ := n.exists_unsigned
      simp only [hunsigned, List.cons_append, Bool.false_eq_true, if_false] at hnumber ⊢
      split <;> rename_i heq <;> cases heq
      all_goals first | exact absurd hc (by decide) | skip
      rw [if_pos hc, hnumber]
      rfl
  | string ps =>
    rw [Piece.quoted_append]
    simp only [skipString_pieces]
    rfl
  | list => exact absurd rfl (hlist _)
  | object => exact absurd rfl (hobject _)

mutual

/-- **A value is passed over, and leaves open what was open before it.** -/
theorem gets_value {text ws rest : List Char} (stack : List Bracket) :
    (t : Tree) → Spells t text → Blank ws → EndsNumber rest →
      ∃ k < 2 * text.length, Gets k ⟨.value, stack, ws ++ (text ++ rest)⟩ ⟨.next, stack, rest⟩
  | .list ts, h, hws, hrest => by
    have hdrop := h.dropBlanks_append hws rest
    cases h with
    | @list _ items ws' hitems hws' =>
      obtain ⟨k, hk, hgets⟩ := gets_items stack ts hitems hws'
      have hstep : step ⟨.value, stack, ws ++ ('[' :: (items ++ (ws' ++ [']'])) ++ rest)⟩ =
          .ok ⟨inside true, .list :: stack, items ++ (ws' ++ ']' :: rest)⟩ := by
        show value stack _ = _
        rw [value, hdrop]
        simp [inside]
      refine ⟨k + 1, ?_, (gets_of_step (by simp) hstep).trans hgets⟩
      simp only [List.length_append, List.length_cons]
      omega
  | .object ms, h, hws, hrest => by
    have hdrop := h.dropBlanks_append hws rest
    cases h with
    | @object _ members ws' hmembers hws' =>
      obtain ⟨k, hk, hgets⟩ := gets_members stack ms hmembers hws'
      have hstep : step ⟨.value, stack, ws ++ ('\x7b' :: (members ++ (ws' ++ ['\x7d'])) ++ rest)⟩ =
          .ok ⟨inside true, .object :: stack, members ++ (ws' ++ '\x7d' :: rest)⟩ := by
        show value stack _ = _
        rw [value, hdrop]
        simp [inside]
      refine ⟨k + 1, ?_, (gets_of_step (by simp) hstep).trans hgets⟩
      simp only [List.length_append, List.length_cons]
      omega
  | .null, h, hws, hrest => gets_of_leaf h nofun nofun hws hrest stack
  | .bool _, h, hws, hrest => gets_of_leaf h nofun nofun hws hrest stack
  | .number _, h, hws, hrest => gets_of_leaf h nofun nofun hws hrest stack
  | .string _, h, hws, hrest => gets_of_leaf h nofun nofun hws hrest stack

theorem gets_items {first : Bool} {text ws rest : List Char} (stack : List Bracket) :
    (ts : List Tree) → SpellsItems first ts text → Blank ws →
      ∃ k ≤ 2 * text.length + 1,
        Gets k ⟨inside first, .list :: stack, text ++ (ws ++ ']' :: rest)⟩ ⟨.next, stack, rest⟩
  | [], h, hws => by
    cases h
    exact ⟨1, by simp, gets_close first .list hws⟩
  | t :: ts, h, hws => by
    cases h with
    | @cons _ _ _ lead textt more hlead ht hmore =>
      have hends := hmore.endsNumber ((endsNumber_bracket rest).blank_append hws)
      obtain ⟨ws', hws', hstep⟩ := step_item ht hlead stack (more ++ (ws ++ ']' :: rest))
      obtain ⟨j, hj, hvalue⟩ := gets_value (.list :: stack) t ht hws' hends
      obtain ⟨k, hk, hitems⟩ := gets_items stack ts hmore hws
      -- One step to the item, the steps over it, and those to the end of the list.
      simp only [List.append_assoc, List.length_append]
      refine ⟨_, ?_, ((gets_of_step ?_ hstep).trans hvalue).trans hitems⟩
      · omega
      · simp

theorem gets_members {first : Bool} {text ws rest : List Char} (stack : List Bracket) :
    (ms : List (List Piece × Tree)) → SpellsMembers first ms text → Blank ws →
      ∃ k ≤ 2 * text.length + 1,
        Gets k ⟨inside first, .object :: stack, text ++ (ws ++ '\x7d' :: rest)⟩
          ⟨.next, stack, rest⟩
  | [], h, hws => by
    cases h
    exact ⟨1, by simp, gets_close first .object hws⟩
  | (name, t) :: ms, h, hws => by
    cases h with
    | @cons _ _ _ _ lead wsc wst textt more hlead hwsc hwst ht hmore =>
      have hends := hmore.endsNumber ((endsNumber_brace rest).blank_append hws)
      have hstep :=
        step_member hlead hwsc stack name (wst ++ (textt ++ (more ++ (ws ++ '\x7d' :: rest))))
      obtain ⟨j, hj, hvalue⟩ := gets_value (.object :: stack) t ht hwst hends
      obtain ⟨k, hk, hmembers⟩ := gets_members stack ms hmore hws
      simp only [List.append_assoc, List.cons_append, List.length_append, List.length_cons]
      refine ⟨_, ?_, ((gets_of_step ?_ hstep).trans hvalue).trans hmembers⟩
      · omega
      · simp

end

end Skipper

/-- **A text of a tree is passed over.** -/
theorem skipValue_spells {t : Tree} {text ws : List Char} (h : Spells t text) (hws : Blank ws)
    (hrest : EndsNumber rest) : skipValue (ws ++ (text ++ rest)) = .ok rest := by
  obtain ⟨k, hk, hgets⟩ := Skipper.gets_value [] t h hws hrest
  obtain ⟨n, hn⟩ : ∃ n, 2 * (ws ++ (text ++ rest)).length + 2 = n + k := by
    refine Nat.exists_eq_add_of_le' ?_
    simp only [List.length_append]
    omega
  rw [skipValue, hn, hgets]
  cases n <;> rfl

/-- Each written form of a value is passed over. -/
theorem skipValue_written {v : Value} {text ws : List Char} (h : Written v text) (hws : Blank ws)
    (hrest : EndsNumber rest) : skipValue (ws ++ (text ++ rest)) = .ok rest :=
  skipValue_spells (Written.spells v h) hws hrest

end Munch.Json
