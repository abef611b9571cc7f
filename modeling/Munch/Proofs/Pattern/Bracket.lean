import Munch.Pattern.Bracket
import Munch.Proofs.Pattern.Reading
import Mathlib.Data.List.TakeDrop
import Mathlib.Data.List.TakeWhile

/-!
# What the reader of a class looks at

Some parts of a bracketed class are read with a look at the character behind them, and so they keep
to themselves only where the text goes on. A class goes on up to its closing bracket.

**Theorem (`bracket_cut`).** A class is read the same from a text that stops behind it, if what is
left out holds neither a closing bracket nor a dash.
-/

namespace Munch.Pattern

variable {v : Bool} {c d : Char} {cs ds r rest run tail : List Char} {item : ClassNode}
  {node : Node} {s b : BracketState} {n : Nat}

/-! ## Named classes -/

/-- A named class, after its colon and its caret. -/
def posixName? (negated : Bool) (cs : List Char) : Option (ClassNode × List Char) := do
  let (name, rest) := cs.span (· ≠ ':')
  let ':' :: ']' :: rest := rest | none
  let kind ← namedClass? name
  some (.named kind negated, rest)

theorem posixClass?_caret (cs : List Char) :
    posixClass? (':' :: '^' :: cs) = posixName? true cs := rfl

theorem posixClass?_colon (hc : ∀ ds, cs ≠ '^' :: ds) :
    posixClass? (':' :: cs) = posixName? false cs := by
  unfold posixClass?
  split
  · rename_i hcons
    obtain rfl := (List.cons.inj hcons).2
    split
    rename_i hsplit
    split at hsplit
    · exact (hc _ rfl).elim
    · cases hsplit
      rfl
  · rename_i hcolon
    exact (hcolon cs rfl).elim

theorem exists_of_posixName? {negated : Bool} (h : posixName? negated cs = some (item, rest)) :
    ∃ name, cs = name ++ ':' :: ']' :: rest ∧
      ∀ ds, posixName? negated (name ++ ':' :: ']' :: ds) = some (item, ds) := by
  simp only [posixName?, List.span_eq_takeWhile_dropWhile] at h
  split at h
  · rename_i hrest
    obtain ⟨kind, hkind, h⟩ := Option.bind_eq_some_iff.1 h
    cases h
    refine ⟨cs.takeWhile (· ≠ ':'), ?_, fun ds => ?_⟩
    · rw [← hrest, List.takeWhile_append_dropWhile]
    · have hall : ∀ c ∈ cs.takeWhile (· ≠ ':'), decide (c ≠ ':') = true := by
        intro c hc
        exact List.mem_takeWhile_imp (p := fun c => decide (c ≠ ':')) hc
      simp only [posixName?, List.span_eq_takeWhile_dropWhile,
        List.takeWhile_append_of_pos hall, List.dropWhile_append_of_pos hall]
      show (do
        let kind ← namedClass? (cs.takeWhile (· ≠ ':') ++ [])
        some (ClassNode.named kind negated, ds)) = _
      rw [List.append_nil, hkind]
      rfl
  · cases h

/-- A named class stands by itself: what follows has no part in it. -/
theorem exists_of_posixClass? (h : posixClass? cs = some (item, rest)) :
    ∃ u, cs = u ++ rest ∧ ∀ ds, posixClass? (u ++ ds) = some (item, ds) := by
  match cs with
  | [] => cases h
  | c :: cs =>
    by_cases hc : c = ':'
    · subst hc
      by_cases hcaret : ∃ ds, cs = '^' :: ds
      · obtain ⟨cs, rfl⟩ := hcaret
        obtain ⟨name, rfl, hname⟩ := exists_of_posixName? h
        refine ⟨':' :: '^' :: (name ++ [':', ']']), by simp, fun ds => ?_⟩
        simpa [posixClass?_caret] using hname ds
      · rw [posixClass?_colon fun ds hds => hcaret ⟨ds, hds⟩] at h
        obtain ⟨name, rfl, hname⟩ := exists_of_posixName? h
        refine ⟨':' :: (name ++ [':', ']']), by simp, fun ds => ?_⟩
        have hno : ∀ es, name ++ ':' :: ']' :: ds ≠ '^' :: es := fun es hes => by
          cases name with
          | nil => cases hes
          | cons c name =>
            obtain ⟨rfl, -⟩ := List.cons.inj hes
            exact hcaret ⟨_, rfl⟩
        simpa [posixClass?_colon hno] using hname ds
    · simp [posixClass?, hc] at h

theorem posixClass?_suffix (h : posixClass? cs = some (item, rest)) : rest <:+ cs := by
  obtain ⟨u, rfl, -⟩ := exists_of_posixClass? h
  exact List.suffix_append u rest

theorem posixClass?_append (h : posixClass? cs = some (item, rest)) (tail : List Char) :
    posixClass? (cs ++ tail) = some (item, rest ++ tail) := by
  obtain ⟨u, rfl, hu⟩ := exists_of_posixClass? h
  rw [List.append_assoc]
  exact hu (rest ++ tail)

theorem posixClass?_cut (h : posixClass? cs = some (item, rest ++ tail)) :
    ∃ w, cs = w ++ tail ∧ posixClass? w = some (item, rest) := by
  obtain ⟨u, rfl, hu⟩ := exists_of_posixClass? h
  exact ⟨u ++ rest, (List.append_assoc ..).symm, hu rest⟩

/-! ## The opening of a class -/

/-- The dash that opens a class stands for itself. -/
def openDash : ClassNode := .literal ⟨'-', false⟩

/-- What opens a class, after its caret. -/
def openItems (v negated : Bool) (cs : List Char) :
    Except Error ((Bool × List ClassNode) × List Char) :=
  let (dashes, rest) := takeRun v (· = '-') false cs
  match dashes, rest with
  | _, [] => .error .classUnclosed
  | [], ']' :: rest =>
    match skip v rest with
    | [] => .error .classUnclosed
    | rest => .ok ((negated, [.literal ⟨']', false⟩]), rest)
  | dashes, rest => .ok ((negated, dashes.map fun _ => openDash), rest)

theorem openBracket_caret (h : skip v cs = '^' :: ds) :
    openBracket v cs = openItems v true (skip v ds) := by
  simp only [openBracket, h]
  rfl

theorem openBracket_of_ne (h : ∀ ds, skip v cs ≠ '^' :: ds) :
    openBracket v cs = openItems v false (skip v cs) := by
  simp only [openBracket]
  rfl

theorem openItems_suffix {negated : Bool} {x : Bool × List ClassNode}
    (h : openItems v negated cs = .ok (x, rest)) : rest <:+ cs := by
  have hsuffix := takeRun_suffix v (· = '-') false cs
  simp only [openItems] at h
  split at h
  · cases h
  · rename_i hrest
    rw [hrest] at hsuffix
    split at h
    · cases h
    · cases h
      exact ((skip_suffix v _).trans (List.suffix_cons ']' _)).trans hsuffix
  · cases h
    exact hsuffix

theorem openItems_cut {negated : Bool} {x : Bool × List ClassNode}
    (h : openItems v negated cs = .ok (x, d :: rest ++ tail)) :
    ∃ w, cs = w ++ tail ∧ openItems v negated w = .ok (x, d :: rest) := by
  cases hrun : takeRun v (· = '-') false cs with
  | mk dashes r =>
    simp only [openItems, hrun] at h
    split at h
    · cases h
    · split at h
      · cases h
      · obtain ⟨hx, hskip⟩ := Prod.mk.inj (Except.ok.inj h)
        obtain ⟨u, rfl, hu⟩ := skip_cut hskip
        obtain ⟨w, rfl, hw⟩ := takeRun_cut (List.cons_append .. ▸ hrun)
        refine ⟨w, rfl, ?_⟩
        simp only [openItems, hw, hu, hx]
    · rename_i hbracket
      obtain ⟨hx, rfl⟩ := Prod.mk.inj (Except.ok.inj h)
      obtain ⟨w, rfl, hw⟩ := takeRun_cut hrun
      refine ⟨w, rfl, ?_⟩
      simp only [openItems, hw]
      split
      · rename_i hnil
        cases hnil
      · rename_i hd
        exact (hbracket _ rfl (congrArg (· ++ tail) hd)).elim
      · rw [hx]

theorem openBracket_suffix {x : Bool × List ClassNode} (h : openBracket v cs = .ok (x, rest)) :
    rest <:+ cs := by
  by_cases hcaret : ∃ ds, skip v cs = '^' :: ds
  · obtain ⟨ds, hds⟩ := hcaret
    rw [openBracket_caret hds] at h
    have hcs : '^' :: ds <:+ cs := hds ▸ skip_suffix v cs
    have hrest := (openItems_suffix h).trans (skip_suffix v ds)
    exact (hrest.trans (List.suffix_cons '^' ds)).trans hcs
  · rw [openBracket_of_ne fun ds hds => hcaret ⟨ds, hds⟩] at h
    exact (openItems_suffix h).trans (skip_suffix v cs)

theorem openBracket_cut {x : Bool × List ClassNode}
    (h : openBracket v cs = .ok (x, d :: rest ++ tail)) :
    ∃ w, cs = w ++ tail ∧ openBracket v w = .ok (x, d :: rest) := by
  by_cases hcaret : ∃ ds, skip v cs = '^' :: ds
  · obtain ⟨ds, hds⟩ := hcaret
    rw [openBracket_caret hds] at h
    obtain ⟨u, hu, hopen⟩ := openItems_cut h
    obtain ⟨t, rfl, rfl⟩ := skip_cut hu
    obtain ⟨w, rfl, hw⟩ := skip_cut (List.cons_append .. ▸ hds)
    exact ⟨w, rfl, (openBracket_caret hw).trans hopen⟩
  · rw [openBracket_of_ne fun ds hds => hcaret ⟨ds, hds⟩] at h
    obtain ⟨u, hu, hopen⟩ := openItems_cut h
    obtain ⟨w, rfl, rfl⟩ := skip_cut hu
    refine ⟨w, rfl, ?_⟩
    rw [openBracket_of_ne fun ds hds => hcaret ⟨ds ++ tail, skip_append hds tail⟩]
    exact hopen

/-! ## Items of a class -/

theorem classAtom_cut {x : Atom} (h : classAtom v cs = .ok (x, rest ++ tail)) :
    ∃ w, cs = w ++ tail ∧ w ≠ [] ∧
      (classAtom v w = .ok (x, rest) ∨ x = .anchor (.word .boundary)) := by
  unfold classAtom at h
  split at h
  · cases h
  · obtain ⟨w, rfl, hw⟩ := escape_cut h
    exact ⟨'\\' :: w, rfl, nofun, hw.imp_right And.left⟩
  · rename_i c ds hc
    obtain ⟨rfl, rfl⟩ := Prod.mk.inj (Except.ok.inj h)
    refine ⟨c :: rest, rfl, nofun, .inl ?_⟩
    simp only [classAtom]

theorem classAtom_suffix {x : Atom} (h : classAtom v cs = .ok (x, rest)) :
    ∃ w, cs = w ++ rest ∧ w ≠ [] := by
  rw [← List.nil_append rest] at h
  obtain ⟨w, hcs, hw, -⟩ := classAtom_cut h
  exact ⟨w, hcs, hw⟩

theorem head?_append_iff (hd : d ∉ tail) : (cs ++ tail).head? = some d ↔ cs.head? = some d := by
  cases cs with
  | nil => exact iff_of_false (fun h => hd (List.mem_of_mem_head? h)) nofun
  | cons c cs => exact Iff.rfl

theorem head?_dropWhile_append_iff {p : Char → Bool} (hd : d ∉ tail) :
    ((cs ++ tail).dropWhile p).head? = some d ↔ (cs.dropWhile p).head? = some d := by
  rw [List.dropWhile_append]
  split_ifs with hnil
  · rw [List.isEmpty_iff.1 hnil]
    exact iff_of_false
      (fun h => hd ((List.dropWhile_suffix p).mem (List.mem_of_mem_head? h))) nofun
  · exact head?_append_iff hd

/-- The character after the next one, behind what is passed over in a verbose pattern. -/
theorem peekPast_cons (v : Bool) (c : Char) (cs : List Char) : peekPast v (c :: cs) =
    if v = true then
      match cs.dropWhile Text.isBlank with
      | '#' :: rest => (rest.dropWhile Text.isBlank).head?
      | rest => rest.head?
    else cs.head? := rfl

theorem peekPast_append_iff (hd : d ∉ tail) :
    peekPast v (c :: cs ++ tail) = some d ↔ peekPast v (c :: cs) = some d := by
  rw [List.cons_append, peekPast_cons, peekPast_cons]
  split_ifs
  · rw [List.dropWhile_append]
    cases hrest : cs.dropWhile Text.isBlank with
    | nil =>
      have hmem : ∀ {ds : List Char}, ds <:+ tail → ds.head? ≠ some d :=
        fun hds h => hd (hds.mem (List.mem_of_mem_head? h))
      refine iff_of_false (fun h => ?_) nofun
      have htail : tail.dropWhile Text.isBlank <:+ tail := List.dropWhile_suffix _
      simp only [List.isEmpty_nil, if_true] at h
      split at h
      · rename_i ds hds
        rw [hds] at htail
        exact hmem (((List.dropWhile_suffix _).trans (List.suffix_cons '#' ds)).trans htail) h
      · exact hmem htail h
    | cons e ds =>
      by_cases he : e = '#'
      · subst he
        exact head?_dropWhile_append_iff hd
      · simp [he]
  · exact head?_append_iff hd

/-- Whether what follows makes an item a range. -/
def MakesRange (v : Bool) (cs : List Char) : Prop :=
  cs.head? = some '-' ∧ peekPast v cs ≠ some ']' ∧ peekPast v cs ≠ some '-'

theorem not_makesRange_iff :
    (c ≠ '-' || peekPast v (c :: ds) == some ']' || peekPast v (c :: ds) == some '-') = true ↔
      ¬MakesRange v (c :: ds) := by
  simp [MakesRange, or_iff_not_imp_left]

theorem makesRange_append_iff (hbracket : ']' ∉ tail) (hdash : '-' ∉ tail) :
    MakesRange v (c :: ds ++ tail) ↔ MakesRange v (c :: ds) := by
  unfold MakesRange
  rw [Ne, Ne, Ne, Ne, peekPast_append_iff hbracket, peekPast_append_iff hdash]
  rfl

/-- An item of a class is an atom, or a range from one to another. -/
theorem classItem_eq_ok_iff : classItem v cs = .ok (item, rest) ↔
    ∃ first r c ds, classAtom v cs = .ok (first, r) ∧ skip v r = c :: ds ∧
      (¬MakesRange v (c :: ds) ∧ first.classItem = .ok item ∧ rest = c :: ds ∨
        MakesRange v (c :: ds) ∧ ∃ last, classAtom v (skip v ds) = .ok (last, rest) ∧
          ∃ lo hi, first.boundary = .ok lo ∧ last.boundary = .ok hi ∧ lo.char ≤ hi.char ∧
            item = .range lo hi) := by
  constructor
  · intro h
    obtain ⟨⟨first, r⟩, hfirst, h⟩ := bind_eq_ok.1 h
    simp only at h
    split at h
    · cases h
    · rename_i c ds hskip
      refine ⟨first, r, c, ds, hfirst, hskip, ?_⟩
      split_ifs at h with hrange
      · obtain ⟨a, ha, h⟩ := bind_eq_ok.1 h
        cases h
        exact .inl ⟨not_makesRange_iff.1 hrange, ha, rfl⟩
      · obtain ⟨⟨last, r'⟩, hlast, h⟩ := bind_eq_ok.1 h
        obtain ⟨lo, hlo, h⟩ := bind_eq_ok.1 h
        obtain ⟨hi, hhi, h⟩ := bind_eq_ok.1 h
        split_ifs at h with hle
        cases h
        have hmakes := not_not.1 (mt not_makesRange_iff.2 hrange)
        exact .inr ⟨hmakes, last, hlast, lo, hi, hlo, hhi, hle, rfl⟩
  · rintro ⟨first, r, c, ds, hfirst, hskip, h⟩
    refine bind_eq_ok.2 ⟨_, hfirst, ?_⟩
    simp only [hskip]
    rcases h with ⟨hrange, hitem, rfl⟩ | ⟨hrange, last, hlast, lo, hi, hlo, hhi, hle, rfl⟩
    · rw [if_pos (not_makesRange_iff.2 hrange), hitem]
      rfl
    · rw [if_neg (mt not_makesRange_iff.1 (not_not.2 hrange)), hlast]
      simp only [hlo, hhi, bind, Except.bind, if_pos hle]

theorem classItem_suffix (h : classItem v cs = .ok (item, rest)) :
    ∃ c ds, cs = c :: ds ∧ rest <:+ ds := by
  obtain ⟨first, r, c, ds, hfirst, hskip, hcase⟩ := classItem_eq_ok_iff.1 h
  obtain ⟨w, rfl, hw⟩ := classAtom_suffix hfirst
  obtain ⟨e, w, rfl⟩ := List.exists_cons_of_ne_nil hw
  have hr : c :: ds <:+ w ++ r := (hskip ▸ skip_suffix v r).trans (List.suffix_append w r)
  refine ⟨e, w ++ r, rfl, ?_⟩
  rcases hcase with ⟨-, -, rfl⟩ | ⟨-, last, hlast, -⟩
  · exact hr
  · obtain ⟨u, hu, -⟩ := classAtom_suffix hlast
    have hlater : rest <:+ ds := .trans ⟨u, hu.symm⟩ (skip_suffix v ds)
    exact (hlater.trans (List.suffix_cons c ds)).trans hr

theorem classItem_cut (hbracket : ']' ∉ tail) (hdash : '-' ∉ tail)
    (h : classItem v cs = .ok (item, d :: rest ++ tail)) :
    ∃ w, cs = w ++ tail ∧ classItem v w = .ok (item, d :: rest) := by
  obtain ⟨first, r, c, ds, hfirst, hskip, hcase⟩ := classItem_eq_ok_iff.1 h
  -- An anchor is no item and no end of a range, so the atoms keep to their parts.
  rcases hcase with ⟨hrange, hitem, hrest⟩ | ⟨hrange, last, hlast, lo, hi, hlo, hhi, hle, rfl⟩
  · rw [← hrest] at hskip hrange
    obtain ⟨u, rfl, hu⟩ := skip_cut hskip
    obtain ⟨w, rfl, -, hfirst | rfl⟩ := classAtom_cut hfirst
    · exact ⟨w, rfl, classItem_eq_ok_iff.2 ⟨first, u, d, rest, hfirst, hu,
        .inl ⟨mt (makesRange_append_iff hbracket hdash).2 hrange, hitem, rfl⟩⟩⟩
    · cases hitem
  · obtain ⟨x, hx, -, hlast | rfl⟩ := classAtom_cut hlast
    · obtain ⟨u, rfl, rfl⟩ := skip_cut hx
      obtain ⟨t, rfl, ht⟩ := skip_cut (List.cons_append .. ▸ hskip)
      obtain ⟨w, rfl, -, hfirst | rfl⟩ := classAtom_cut hfirst
      · exact ⟨w, rfl, classItem_eq_ok_iff.2 ⟨first, t, c, u, hfirst, ht,
          .inr ⟨(makesRange_append_iff hbracket hdash).1 hrange, last, hlast, lo, hi, hlo, hhi,
            hle, rfl⟩⟩⟩
      · cases hlo
    · cases hhi

/-! ## The class as a whole -/

namespace BracketState

/-- The reader before a longer text. -/
def append (s : BracketState) (tail : List Char) : BracketState := { s with rest := s.rest ++ tail }

theorem append_cancel (h : s.append tail = b.append tail) : s = b := by
  obtain ⟨hstack, hitems, hrest⟩ := BracketState.mk.inj h
  exact BracketState.mk.injEq .. ▸ ⟨hstack, hitems, List.append_cancel_right hrest⟩

theorem exists_append_of_skip (h : skip v s.rest = r ++ tail) :
    ∃ t : BracketState, s = t.append tail ∧ skip v t.rest = r := by
  obtain ⟨w, hrest, hw⟩ := skip_cut h
  exact ⟨{ s with rest := w }, by rw [append, ← hrest], hw⟩

/-- A step that goes on takes at least one character. -/
theorem step_more (h : s.step v = .ok (.inl b)) :
    ∃ c ds, skip v s.rest = c :: ds ∧ b.rest <:+ ds := by
  unfold step at h
  split at h
  · cases h
  · rename_i ds hskip
    refine ⟨_, ds, hskip, ?_⟩
    split at h
    · rename_i hposix
      cases h
      split_ifs at hposix
      exact posixClass?_suffix hposix
    · obtain ⟨⟨⟨negated, items⟩, r⟩, hopen, h⟩ := bind_eq_ok.1 h
      cases h
      exact openBracket_suffix hopen
  · rename_i ds hskip
    refine ⟨_, ds, hskip, ?_⟩
    split at h
    split at h
    · cases h
    · cases h
      exact List.suffix_rfl
    · cases h
  · rename_i ds hskip
    cases h
    exact ⟨_, _, hskip, List.suffix_cons _ ds⟩
  · rename_i ds hskip
    cases h
    exact ⟨_, _, hskip, List.suffix_cons _ ds⟩
  · rename_i ds hskip
    cases h
    exact ⟨_, _, hskip, List.suffix_cons _ ds⟩
  · obtain ⟨⟨item, r⟩, hitem, h⟩ := bind_eq_ok.1 h
    cases h
    obtain ⟨c, ds, hskip, hrest⟩ := classItem_suffix hitem
    exact ⟨c, ds, hskip, hrest⟩

theorem step_done (h : s.step v = .ok (.inr (node, rest))) :
    skip v s.rest = ']' :: rest ∧ ∃ negated inside, node = .bracketed negated inside := by
  unfold step at h
  split at h
  · cases h
  · split at h
    · cases h
    · obtain ⟨_, -, h⟩ := bind_eq_ok.1 h
      cases h
  · rename_i ds hskip
    split at h
    split at h
    · cases h
      exact ⟨hskip, _, _, rfl⟩
    · cases h
    · cases h
  · cases h
  · cases h
  · cases h
  · obtain ⟨_, -, h⟩ := bind_eq_ok.1 h
    cases h

theorem step_cut_done (h : s.step v = .ok (.inr (node, rest ++ tail))) :
    ∃ t : BracketState, s = t.append tail ∧ t.step v = .ok (.inr (node, rest)) := by
  obtain ⟨hskip, -⟩ := step_done h
  obtain ⟨t, rfl, ht⟩ := exists_append_of_skip (List.cons_append .. ▸ hskip)
  refine ⟨t, rfl, ?_⟩
  simp only [step, hskip] at h
  simp only [step, ht]
  split at h
  · rename_i hstack
    rw [append] at hstack
    cases h
    simp only [hstack]
    rfl
  · cases h
  · cases h

theorem posix_none
    (h : (if s.stack.isEmpty = true then none else posixClass? (cs ++ tail)) = none) :
    (if s.stack.isEmpty = true then none else posixClass? cs) = none := by
  split_ifs at h ⊢
  · rfl
  · cases hposix : posixClass? cs with
    | none => rfl
    | some out =>
      rw [posixClass?_append hposix] at h
      cases h

theorem operator_cut {kind : SetOperator} (hskip : skip v s.rest = c :: c :: ds)
    (hs : s.pushOperator kind ds = b.append tail)
    (hstep : ∀ t : BracketState, skip v t.rest = c :: c :: b.rest →
      t.step v = .ok (.inl (t.pushOperator kind b.rest))) :
    ∃ t : BracketState, s = t.append tail ∧ t.step v = .ok (.inl b) := by
  obtain rfl := congrArg BracketState.rest hs
  obtain ⟨t, rfl, ht⟩ := exists_append_of_skip (r := c :: c :: b.rest) hskip
  refine ⟨t, rfl, ?_⟩
  rw [hstep t ht, append_cancel (s := t.pushOperator kind b.rest) hs]

theorem step_cut_more (hbracket : ']' ∉ tail) (hdash : '-' ∉ tail) (hrest : b.rest = d :: rest)
    (h : s.step v = .ok (.inl (b.append tail))) :
    ∃ t : BracketState, s = t.append tail ∧ t.step v = .ok (.inl b) := by
  have hout {t : BracketState} (ht : t.append tail = b.append tail) :
      (.ok (.inl t) : Except Error (BracketState ⊕ (Node × List Char))) = .ok (.inl b) := by
    rw [append_cancel ht]
  unfold step at h
  split at h
  · cases h
  · rename_i ds hskip
    split at h
    · rename_i hposix
      have hs := Sum.inl.inj (Except.ok.inj h)
      obtain rfl := congrArg BracketState.rest hs
      split_ifs at hposix with hstack
      obtain ⟨w, rfl, hw⟩ := posixClass?_cut hposix
      obtain ⟨t, rfl, ht⟩ := exists_append_of_skip (List.cons_append .. ▸ hskip)
      have hstack' : ¬t.stack.isEmpty = true := hstack
      refine ⟨t, rfl, ?_⟩
      simp only [step, ht, hw, if_neg hstack']
      exact hout hs
    · rename_i hposix
      obtain ⟨⟨⟨negated, items⟩, r⟩, hopen, h⟩ := bind_eq_ok.1 h
      have hs := Sum.inl.inj (Except.ok.inj h)
      obtain rfl := congrArg BracketState.rest hs
      rw [append, hrest] at hopen
      obtain ⟨w, rfl, hw⟩ := openBracket_cut hopen
      obtain ⟨t, rfl, ht⟩ := exists_append_of_skip (List.cons_append .. ▸ hskip)
      have hposix' : (if t.stack.isEmpty = true then none else posixClass? w) = none :=
        posix_none hposix
      refine ⟨t, rfl, ?_⟩
      simp only [step, ht, hposix', hw, ← hrest]
      exact hout hs
  · rename_i ds hskip
    simp only at h
    split at h
    · cases h
    · rename_i hstack
      have hs := Sum.inl.inj (Except.ok.inj h)
      obtain rfl := congrArg BracketState.rest hs
      obtain ⟨t, rfl, ht⟩ := exists_append_of_skip (List.cons_append .. ▸ hskip)
      have hstack' : (closeOperator t.stack (.ofItems t.items.reverse)).1 = _ := hstack
      refine ⟨t, rfl, ?_⟩
      simp only [step, ht, hstack']
      exact hout hs
    · cases h
  · rename_i hskip
    exact operator_cut hskip (Sum.inl.inj (Except.ok.inj h)) fun t ht => by simp only [step, ht]
  · rename_i hskip
    exact operator_cut hskip (Sum.inl.inj (Except.ok.inj h)) fun t ht => by simp only [step, ht]
  · rename_i hskip
    exact operator_cut hskip (Sum.inl.inj (Except.ok.inj h)) fun t ht => by simp only [step, ht]
  · rename_i hopen hclose hinter hdiff hsymm
    obtain ⟨⟨item, r⟩, hitem, h⟩ := bind_eq_ok.1 h
    have hs := Sum.inl.inj (Except.ok.inj h)
    obtain rfl := congrArg BracketState.rest hs
    rw [append, hrest] at hitem
    obtain ⟨w, hskip, hw⟩ := classItem_cut hbracket hdash hitem
    obtain ⟨t, rfl, ht⟩ := exists_append_of_skip hskip
    refine ⟨t, rfl, ?_⟩
    rw [hskip] at hopen hclose hinter hdiff hsymm
    unfold step
    rw [ht]
    split
    · cases hw
    · exact (hopen _ rfl).elim
    · exact (hclose _ rfl).elim
    · exact (hinter _ rfl).elim
    · exact (hdiff _ rfl).elim
    · exact (hsymm _ rfl).elim
    · rw [hw, ← hrest]
      exact hout hs

/-- A class is complete behind a closing bracket. -/
theorem run_eq_ok (h : s.run v n = .ok (node, rest)) :
    ']' :: rest <:+ s.rest ∧ ∃ negated inside, node = .bracketed negated inside := by
  induction n generalizing s with
  | zero => cases h
  | succ n ih =>
    obtain ⟨out, hout, h⟩ := bind_eq_ok.1 h
    cases out with
    | inl b =>
      obtain ⟨c, ds, hskip, hb⟩ := step_more hout
      obtain ⟨hrest, hnode⟩ := ih h
      have hds : c :: ds <:+ s.rest := hskip ▸ skip_suffix v s.rest
      exact ⟨((hrest.trans hb).trans (List.suffix_cons c ds)).trans hds, hnode⟩
    | inr done =>
      cases h
      obtain ⟨hskip, hnode⟩ := step_done hout
      exact ⟨hskip ▸ skip_suffix v s.rest, hnode⟩

theorem run_cut {m : Nat} (hbracket : ']' ∉ tail) (hdash : '-' ∉ tail)
    (h : s.run v m = .ok (node, rest ++ tail)) :
    ∃ t : BracketState, s = t.append tail ∧
      ∀ n, t.rest.length < n → t.run v n = .ok (node, rest) := by
  induction m generalizing s with
  | zero => cases h
  | succ m ih =>
    obtain ⟨out, hout, h⟩ := bind_eq_ok.1 h
    cases out with
    | inl b =>
      -- The class still needs its closing bracket, and so the step left one in the text.
      obtain ⟨⟨u, hu⟩, -⟩ := run_eq_ok h
      obtain ⟨b, rfl, hrun⟩ := ih h
      have hb : u ++ ']' :: rest = b.rest := by
        rw [← List.cons_append, ← List.append_assoc] at hu
        exact List.append_cancel_right hu
      obtain ⟨d, r, hr⟩ : ∃ d r, b.rest = d :: r := List.exists_cons_of_ne_nil fun hnil =>
        List.cons_ne_nil _ _ (List.append_eq_nil_iff.1 (hb.trans hnil)).2
      obtain ⟨t, rfl, ht⟩ := step_cut_more hbracket hdash hr hout
      obtain ⟨c, ds, hskip, hrest⟩ := step_more ht
      have hlen := (hskip ▸ skip_suffix v t.rest : c :: ds <:+ t.rest).length_le
      have hshorter := hrest.length_le
      rw [List.length_cons] at hlen
      refine ⟨t, rfl, fun n hn => ?_⟩
      obtain ⟨n, rfl⟩ : ∃ k, n = k + 1 := ⟨n - 1, by omega⟩
      exact bind_eq_ok.2 ⟨_, ht, hrun n (by omega)⟩
    | inr done =>
      cases h
      obtain ⟨t, rfl, ht⟩ := step_cut_done hout
      refine ⟨t, rfl, fun n hn => ?_⟩
      obtain ⟨n, rfl⟩ : ∃ k, n = k + 1 := ⟨n - 1, by omega⟩
      exact bind_eq_ok.2 ⟨_, ht, rfl⟩

end BracketState

theorem bracket_eq_ok (h : bracket v cs = .ok (node, rest)) :
    ']' :: rest <:+ cs ∧ ∃ negated inside, node = .bracketed negated inside :=
  BracketState.run_eq_ok h

/-- **A class is read the same from a text that stops behind it.** -/
theorem bracket_cut (hbracket : ']' ∉ tail) (hdash : '-' ∉ tail)
    (h : bracket v cs = .ok (node, rest ++ tail)) :
    ∃ w, cs = w ++ tail ∧ bracket v w = .ok (node, rest) := by
  obtain ⟨t, ht, hrun⟩ := BracketState.run_cut hbracket hdash h
  obtain ⟨stack, items, w⟩ := t
  obtain ⟨rfl, rfl, rfl⟩ := BracketState.mk.inj ht
  exact ⟨w, rfl, hrun _ (Nat.lt_succ_self _)⟩

end Munch.Pattern
