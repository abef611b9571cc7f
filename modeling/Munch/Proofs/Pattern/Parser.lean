import Munch.Pattern.Meaning
import Munch.Proofs.Pattern.Bracket
import Munch.Proofs.Pattern.Denotation

/-!
# What the reader of a pattern does

One step of the reader adds to what is read, opens a group or a branch, or closes a group
(`State.Moves`).

**Theorem (`ordered_of_compile`).** A pattern that has a meaning denotes a regex with the bounds of
all repetitions in order.

A step that meets no closing parenthesis leaves every group open, and a pattern does not end inside
a group.
-/

namespace Munch.Pattern

/-! ## Nodes -/

mutual

/-- The bounds of all repetitions in the node are in order. -/
def Node.Ordered : Node → Prop
  | .rep body least most => body.Ordered ∧ ∀ m ∈ most, least ≤ m
  | .group _ body => body.Ordered
  | .alt branches => Node.OrderedAll branches
  | .seq items => Node.OrderedAll items
  | _ => True

def Node.OrderedAll : List Node → Prop
  | [] => True
  | n :: ns => n.Ordered ∧ Node.OrderedAll ns

end

theorem Node.orderedAll_iff {ns : List Node} :
    Node.OrderedAll ns ↔ ∀ n ∈ ns, n.Ordered := by
  induction ns with
  | nil => simp [Node.OrderedAll]
  | cons n ns ih => simp [Node.OrderedAll, ih]

theorem Node.ordered_ofItems {ns : List Node} (h : ∀ n ∈ ns, n.Ordered) :
    (Node.ofItems ns).Ordered := by
  match ns with
  | [] => trivial
  | [n] => exact h n (List.mem_singleton.2 rfl)
  | _ :: _ :: _ => exact Node.orderedAll_iff.2 h

theorem Node.ordered_ofBranches {ns : List Node} (h : ∀ n ∈ ns, n.Ordered) :
    (Node.ofBranches ns).Ordered := by
  match ns with
  | [] => trivial
  | [n] => exact h n (List.mem_singleton.2 rfl)
  | _ :: _ :: _ => exact Node.orderedAll_iff.2 h

theorem Atom.ordered_node (x : Atom) : x.node.Ordered := by cases x <;> trivial

end Munch.Pattern

namespace Munch.Regex

variable {rs : List Regex}

theorem ordered_seqAll (h : ∀ r ∈ rs, r.Ordered) : (seqAll rs).Ordered := by
  induction rs with
  | nil => trivial
  | cons r rs ih =>
    have hr := h r List.mem_cons_self
    have hrs := ih fun s hs => h s (List.mem_cons_of_mem r hs)
    cases rs with
    | nil => exact hr
    | cons s rs => exact ⟨hr, hrs⟩

theorem ordered_altAll (h : ∀ r ∈ rs, r.Ordered) : (altAll rs).Ordered := by
  induction rs with
  | nil => trivial
  | cons r rs ih =>
    have hr := h r List.mem_cons_self
    have hrs := ih fun s hs => h s (List.mem_cons_of_mem r hs)
    cases rs with
    | nil => exact hr
    | cons s rs => exact ⟨hr, hrs⟩

end Munch.Regex

namespace Munch.Pattern

variable {v : Bool} {c d : Char} {cs ds r rest tail : List Char} {n : Nat} {node : Node}
  {s b : State}

mutual

/-- The meaning of a node has the bounds that are written in it. -/
theorem Node.ordered_regex {f g : Flags} {r : Regex} :
    (n : Node) → n.Ordered → n.regex f = .ok (r, g) → r.Ordered
  | .empty, _, h => by
    cases h
    trivial
  | .flags _, _, h => by
    cases h
    trivial
  | .anchor _, _, h => by
    cases h
    trivial
  | .literal l, _, h => by
    obtain ⟨s, hs, h⟩ := bind_eq_ok.1 h
    cases h
    obtain ⟨_, -, hs⟩ := bind_eq_ok.1 hs
    cases hs
    trivial
  | .dot, _, h => by
    obtain ⟨s, hs, h⟩ := bind_eq_ok.1 h
    cases h
    unfold Flags.dot at hs
    split_ifs at hs <;> cases hs <;> trivial
  | .letter _ _, _, h => by
    obtain ⟨_, -, h⟩ := bind_eq_ok.1 h
    cases h
    trivial
  | .property _ _, _, h => by
    obtain ⟨_, -, h⟩ := bind_eq_ok.1 h
    cases h
    trivial
  | .bracketed _ _, _, h => by
    obtain ⟨_, -, h⟩ := bind_eq_ok.1 h
    obtain ⟨_, -, h⟩ := bind_eq_ok.1 h
    cases h
    trivial
  | .rep body _ _, hn, h => by
    obtain ⟨⟨s, _⟩, hs, h⟩ := bind_eq_ok.1 h
    cases h
    exact ⟨Node.ordered_regex body hn.1 hs, hn.2⟩
  | .group _ body, hn, h => by
    obtain ⟨⟨s, _⟩, hs, h⟩ := bind_eq_ok.1 h
    cases h
    exact Node.ordered_regex body hn hs
  | .alt branches, hn, h => by
    obtain ⟨⟨ss, _⟩, hs, h⟩ := bind_eq_ok.1 h
    cases h
    exact Regex.ordered_altAll (Node.ordered_regexAll branches hn hs)
  | .seq items, hn, h => by
    obtain ⟨⟨ss, _⟩, hs, h⟩ := bind_eq_ok.1 h
    cases h
    exact Regex.ordered_seqAll (Node.ordered_regexAll items hn hs)

theorem Node.ordered_regexAll {f g : Flags} {rs : List Regex} :
    (ns : List Node) → Node.OrderedAll ns → Node.regexAll f ns = .ok (rs, g) →
      ∀ r ∈ rs, r.Ordered
  | [], _, h => by
    cases h
    exact nofun
  | n :: ns, hn, h => by
    obtain ⟨⟨s, _⟩, hs, h⟩ := bind_eq_ok.1 h
    obtain ⟨⟨ss, _⟩, hss, h⟩ := bind_eq_ok.1 h
    cases h
    exact List.forall_mem_cons.2
      ⟨Node.ordered_regex n hn.1 hs, Node.ordered_regexAll ns hn.2 hss⟩

end

/-! ## Steps -/

theorem lastItem_eq_ok {body : Node} {items before : List Node}
    (h : lastItem items = .ok (body, before)) :
    items = body :: before := by
  unfold lastItem at h
  split at h
  · cases h
  · cases h
  · cases h
  · cases h
    rfl

theorem dropLazy_suffix (cs : List Char) : dropLazy cs <:+ cs := by
  unfold dropLazy
  split
  · exact List.suffix_cons '?' _
  · exact List.suffix_rfl

theorem dropLazy_cut (h : dropLazy cs = rest ++ tail) :
    ∃ w, cs = w ++ tail ∧ dropLazy w = rest := by
  unfold dropLazy at h
  split at h
  · exact ⟨'?' :: rest, congrArg _ h, rfl⟩
  · rename_i hlazy
    refine ⟨rest, h, ?_⟩
    cases rest with
    | nil => rfl
    | cons d rest =>
      have hd : ∀ ds, d :: rest = '?' :: ds → False := fun ds hds =>
        hlazy (ds ++ tail) (h.trans (congrArg (· ++ tail) hds))
      simp only [dropLazy]

theorem bounds_suffix {out : Nat × Option Nat} (h : bounds v cs = .ok (out, rest)) :
    rest <:+ skip v cs := by
  unfold bounds at h
  split at h
  · rename_i c ds hskip
    rw [hskip]
    have hfirst := decimal_suffix v (c :: ds)
    simp only at h
    split at h
    · cases h
    · rename_i r hr
      rw [hr] at hfirst
      have hr' := (skip_suffix v r).trans ((List.suffix_cons ',' r).trans hfirst)
      split at h
      · cases h
      · rename_i hbrace
        obtain ⟨least, -, h⟩ := bind_eq_ok.1 h
        cases h
        exact hbrace ▸ hr'
      · obtain ⟨least, -, h⟩ := bind_eq_ok.1 h
        obtain ⟨most, -, h⟩ := bind_eq_ok.1 h
        cases h
        exact (decimal_suffix ..).trans hr'
    · obtain ⟨n, -, h⟩ := bind_eq_ok.1 h
      cases h
      exact hfirst
  · cases h

theorem skip_decimal_cut {first : Except Error (Option Nat)} (hskip : skip v cs = c :: ds)
    (hfirst : decimal v (c :: ds) = (first, d :: rest ++ tail)) :
    ∃ w e es, cs = w ++ tail ∧ skip v w = e :: es ∧ decimal v (e :: es) = (first, d :: rest) := by
  obtain ⟨u, hu, hdec⟩ := decimal_cut hfirst
  cases u with
  | nil => cases hdec
  | cons e es =>
    obtain ⟨w, rfl, hw⟩ := skip_cut (hskip.trans hu)
    exact ⟨w, e, es, rfl, hw, hdec⟩

theorem bounds_cut {out : Nat × Option Nat} (h : bounds v cs = .ok (out, d :: rest ++ tail)) :
    ∃ w, cs = w ++ tail ∧ bounds v w = .ok (out, d :: rest) := by
  unfold bounds at h
  split at h
  · rename_i c ds hskip
    cases hfirst : decimal v (c :: ds) with
    | mk first r =>
      simp only [hfirst] at h
      split at h
      · cases h
      · rename_i r
        split at h
        · cases h
        · rename_i hbrace
          obtain ⟨least, hleast, h⟩ := bind_eq_ok.1 h
          obtain ⟨rfl, hrest⟩ := Prod.mk.inj (Except.ok.inj h)
          obtain ⟨rfl, rfl⟩ := List.cons.inj hrest
          obtain ⟨u, rfl, hu⟩ := skip_cut (List.cons_append .. ▸ hbrace)
          obtain ⟨w, e, es, rfl, hw, hdec⟩ :=
            skip_decimal_cut hskip (List.cons_append .. ▸ hfirst)
          refine ⟨w, rfl, ?_⟩
          unfold bounds
          rw [hw]
          simp only [hdec, hu]
          exact bind_eq_ok.2 ⟨least, hleast, rfl⟩
        · rename_i hnil hbrace
          obtain ⟨least, hleast, h⟩ := bind_eq_ok.1 h
          obtain ⟨most, hmost, h⟩ := bind_eq_ok.1 h
          obtain ⟨hout, hrest⟩ := Prod.mk.inj (Except.ok.inj h)
          obtain ⟨x, hx, hsecond⟩ := decimal_cut (Prod.ext rfl hrest)
          obtain ⟨u, rfl, hu⟩ := skip_cut hx
          obtain ⟨w, e, es, rfl, hw, hdec⟩ :=
            skip_decimal_cut hskip (List.cons_append .. ▸ hfirst)
          refine ⟨w, rfl, ?_⟩
          unfold bounds
          rw [hw]
          simp only [hdec, hu]
          split
          · cases (Prod.mk.inj hsecond).2
          · exact (hbrace _ hx).elim
          · refine bind_eq_ok.2 ⟨least, hleast, ?_⟩
            rw [hsecond]
            exact bind_eq_ok.2 ⟨most, hmost, by rw [hout]⟩
      · rename_i hnil hcomma
        obtain ⟨n, hn, h⟩ := bind_eq_ok.1 h
        obtain ⟨rfl, rfl⟩ := Prod.mk.inj (Except.ok.inj h)
        obtain ⟨w, e, es, rfl, hw, hdec⟩ := skip_decimal_cut hskip hfirst
        refine ⟨w, rfl, ?_⟩
        unfold bounds
        rw [hw]
        simp only [hdec]
        split
        · rename_i hrest
          cases hrest
        · rename_i hrest
          exact (hcomma _ (congrArg (· ++ tail) hrest)).elim
        · exact bind_eq_ok.2 ⟨n, hn, rfl⟩
  · cases h

/-- What a step adds to the reader, where the step takes `c` and leaves an end of `cs`. -/
inductive State.Moves (s : State) (cs : List Char) : Char → State → Prop
  | push {c : Char} {node : Node} {rest : List Char} (verbose : Bool) (hnode : node.Ordered)
      (hrest : rest <:+ cs) : s.Moves cs c ⟨s.stack, node :: s.items, verbose, s.names, rest⟩
  | copies {c : Char} {body : Node} {before : List Node} {least : Nat} {most : Option Nat}
      {rest : List Char} (hitems : s.items = body :: before) (hle : ∀ m ∈ most, least ≤ m)
      (hrest : rest <:+ cs) :
      s.Moves cs c { s with items := .rep body least most :: before, rest }
  | branch {c : Char} : s.Moves cs c (s.pushBranch cs)
  | group {c : Char} {rest : List Char} (names : List (List Char)) (setting : FlagSetting)
      (hrest : rest <:+ cs) : s.Moves cs c ({ s with names }.pushGroup setting rest)
  | close {b : State} (h : s.popGroup cs = .ok b) : s.Moves cs ')' b

/-- What opens a group with a name, after its angle bracket. -/
def State.nameGroup (s : State) (cs : List Char) : Except Error State := do
  let (name, rest) ← groupName true cs
  if name.isEmpty then .error .nameEmpty
  else if s.names.contains name then .error .nameDuplicate
  else .ok ({ s with names := name :: s.names }.pushGroup [] rest)

theorem State.moves_nameGroup (hds : ds <:+ cs) (h : s.nameGroup ds = .ok b) :
    s.Moves cs c b := by
  obtain ⟨⟨name, rest⟩, hread, h⟩ := bind_eq_ok.1 h
  simp only at h
  split_ifs at h
  cases h
  exact .group _ _ ((reads_groupName.suffix hread).trans hds)

theorem State.moves_openGroup (h : s.openGroup cs = .ok b) : s.Moves cs c b := by
  have hskip := skip_suffix s.verbose cs
  unfold openGroup at h
  split at h
  · cases h
  · cases h
  · cases h
  · cases h
  · rename_i hcons
    rw [hcons] at hskip
    exact moves_nameGroup (.trans ⟨['?', 'P', '<'], rfl⟩ hskip) h
  · rename_i hcons
    rw [hcons] at hskip
    exact moves_nameGroup (.trans ⟨['?', '<'], rfl⟩ hskip) h
  · rename_i ds _ _ _ _ _ _ hcons
    rw [hcons] at hskip
    obtain ⟨⟨⟨setting, close⟩, rest⟩, hread, h⟩ := bind_eq_ok.1 h
    have hrest := (reads_flags.suffix hread).trans ((List.suffix_cons '?' ds).trans hskip)
    simp only at h
    split_ifs at h
    · cases h
      exact .group _ _ hrest
    · cases h
      exact .push _ trivial hrest
  · cases h
    exact .group _ _ hskip

theorem State.moves_repeatSimple {least : Nat} {most : Option Nat} (hle : ∀ m ∈ most, least ≤ m)
    (h : s.repeatSimple least most cs = .ok b) : s.Moves cs c b := by
  obtain ⟨⟨body, before⟩, hlast, h⟩ := bind_eq_ok.1 h
  cases h
  exact .copies (lastItem_eq_ok hlast) hle (dropLazy_suffix cs)

theorem State.moves_repeatCounted (h : s.repeatCounted cs = .ok b) : s.Moves cs c b := by
  obtain ⟨⟨body, before⟩, hlast, h⟩ := bind_eq_ok.1 h
  obtain ⟨⟨⟨least, most⟩, rest⟩, hbounds, h⟩ := bind_eq_ok.1 h
  have hrest := (bounds_suffix hbounds).trans (skip_suffix ..)
  simp only at h
  split at h
  · rename_i rest
    split_ifs at h with hle
    cases h
    refine .copies (lastItem_eq_ok hlast) (by simpa [Option.all_eq_true] using hle) ?_
    exact (dropLazy_suffix _).trans ((skip_suffix ..).trans ((List.suffix_cons _ rest).trans hrest))
  · cases h

theorem State.moves_step (h : s.step c cs = .ok b) : s.Moves cs c b := by
  unfold step at h
  split at h
  · exact moves_openGroup h
  · exact .close h
  · cases h
    exact .branch
  · obtain ⟨⟨node, rest⟩, hnode, h⟩ := bind_eq_ok.1 h
    cases h
    obtain ⟨hrest, negated, inside, rfl⟩ := bracket_eq_ok hnode
    rcases List.suffix_cons_iff.1 hrest with hcons | hrest
    · cases hcons
    · exact .push _ trivial ((List.suffix_cons ']' rest).trans hrest)
  · exact moves_repeatSimple (by simp) h
  · exact moves_repeatSimple (by simp) h
  · exact moves_repeatSimple (by simp) h
  · exact moves_repeatCounted h
  · obtain ⟨⟨x, rest⟩, hx, h⟩ := bind_eq_ok.1 h
    cases h
    exact .push _ x.ordered_node (escape_suffix hx)
  · cases h
    exact .push _ trivial List.suffix_rfl
  · cases h
    exact .push _ trivial List.suffix_rfl
  · cases h
    exact .push _ trivial List.suffix_rfl
  · cases h
    exact .push _ trivial List.suffix_rfl

theorem State.popGroup_eq_ok_iff : s.popGroup cs = .ok b ↔ ∃ body around setting verbose stack,
    s.body = (body, .group around setting verbose :: stack) ∧
      b = ⟨stack, .group setting body :: around, verbose, s.names, cs⟩ := by
  unfold popGroup
  constructor
  · intro h
    split at h
    · rename_i hbody
      cases h
      exact ⟨_, _, _, _, _, hbody, rfl⟩
    · cases h
  · rintro ⟨body, around, setting, verbose, stack, hbody, rfl⟩
    rw [hbody]

theorem State.Moves.suffix (h : s.Moves cs c b) : b.rest <:+ cs := by
  cases h with
  | push _ _ hrest => exact hrest
  | copies _ _ hrest => exact hrest
  | branch =>
    unfold pushBranch
    split <;> exact List.suffix_rfl
  | group _ _ hrest => exact hrest
  | close hpop =>
    obtain ⟨_, _, _, _, _, -, rfl⟩ := popGroup_eq_ok_iff.1 hpop
    exact List.suffix_rfl

/-! ## Bounds in order -/

/-- What is read and left open has the bounds of all repetitions in order. -/
def Frame.Ordered : Frame → Prop
  | .group around _ _ => ∀ n ∈ around, n.Ordered
  | .alt branches => ∀ n ∈ branches, n.Ordered

structure State.Ordered (s : State) : Prop where
  items : ∀ n ∈ s.items, n.Ordered
  stack : ∀ f ∈ s.stack, f.Ordered

namespace State

theorem ordered_start (cs : List Char) : (start cs).Ordered := ⟨nofun, nofun⟩

theorem Ordered.branch (h : s.Ordered) : (Node.ofItems s.items.reverse).Ordered :=
  Node.ordered_ofItems fun n hn => h.items n (List.mem_reverse.1 hn)

theorem Ordered.body (h : s.Ordered) : s.body.1.Ordered ∧ ∀ f ∈ s.body.2, f.Ordered := by
  unfold State.body
  split
  · rename_i branches stack hstack
    have hframes := h.stack
    rw [hstack, List.forall_mem_cons] at hframes
    refine ⟨Node.ordered_ofBranches fun n hn => ?_, hframes.2⟩
    rcases List.mem_cons.1 (List.mem_reverse.1 hn) with rfl | hn
    · exact h.branch
    · exact hframes.1 n hn
  · exact ⟨h.branch, h.stack⟩

theorem Ordered.pushBranch (h : s.Ordered) (cs : List Char) : (s.pushBranch cs).Ordered := by
  unfold State.pushBranch
  split
  · rename_i branches stack hstack
    have hframes := h.stack
    rw [hstack, List.forall_mem_cons] at hframes
    exact ⟨nofun, List.forall_mem_cons.2 ⟨List.forall_mem_cons.2 ⟨h.branch, hframes.1⟩, hframes.2⟩⟩
  · exact ⟨nofun, List.forall_mem_cons.2 ⟨List.forall_mem_singleton.2 h.branch, h.stack⟩⟩

theorem Moves.ordered (h : s.Moves cs c b) (hs : s.Ordered) : b.Ordered := by
  cases h with
  | push _ hnode _ => exact ⟨List.forall_mem_cons.2 ⟨hnode, hs.items⟩, hs.stack⟩
  | copies hitems hle _ =>
    have hbody := hs.items
    rw [hitems, List.forall_mem_cons] at hbody
    exact ⟨List.forall_mem_cons.2 ⟨⟨hbody.1, hle⟩, hbody.2⟩, hs.stack⟩
  | branch => exact hs.pushBranch cs
  | group _ _ _ => exact ⟨nofun, List.forall_mem_cons.2 ⟨hs.items, hs.stack⟩⟩
  | close hpop =>
    obtain ⟨body, around, setting, verbose, stack, hbody, rfl⟩ := popGroup_eq_ok_iff.1 hpop
    obtain ⟨hnode, hframes⟩ := hs.body
    rw [hbody] at hnode hframes
    rw [List.forall_mem_cons] at hframes
    exact ⟨List.forall_mem_cons.2 ⟨hnode, hframes.1⟩, hframes.2⟩

theorem ordered_run (hs : s.Ordered) (h : s.run n = .ok b) : b.Ordered := by
  induction n generalizing s with
  | zero =>
    cases h
    exact hs
  | succ n ih =>
    unfold run at h
    split at h
    · cases h
      exact ⟨hs.items, hs.stack⟩
    · obtain ⟨t, hstep, h⟩ := bind_eq_ok.1 h
      exact ih ((moves_step hstep).ordered hs) h

theorem finish_eq_ok_iff : s.finish = .ok node ↔ s.body = (node, []) := by
  unfold finish
  constructor
  · intro h
    split at h
    · rename_i hbody
      cases h
      exact hbody
    · cases h
  · intro h
    rw [h]

end State

theorem ordered_of_parse (h : parse cs = .ok node) : node.Ordered := by
  obtain ⟨s, hrun, h⟩ := bind_eq_ok.1 h
  obtain ⟨body, hfinish, h⟩ := bind_eq_ok.1 h
  split_ifs at h
  cases h
  have hbody := (State.ordered_run (State.ordered_start cs) hrun).body.1
  rwa [State.finish_eq_ok_iff.1 hfinish] at hbody

/-- **The bounds of all repetitions of a pattern are in order.** -/
theorem ordered_of_compile {r : Regex} (h : compile cs = .ok r) : r.Ordered := by
  obtain ⟨node, hparse, h⟩ := bind_eq_ok.1 h
  obtain ⟨⟨r, f⟩, hmeaning, h⟩ := bind_eq_ok.1 h
  cases h
  exact node.ordered_regex (ordered_of_parse hparse) hmeaning

/-! ## Open groups -/

/-- Some group is open. -/
def State.Open (s : State) : Prop :=
  ∃ around setting verbose, Frame.group around setting verbose ∈ s.stack

namespace State

theorem not_finish_of_open (hs : s.Open) : s.finish ≠ .ok node := by
  intro h
  obtain ⟨around, setting, verbose, hmem⟩ := hs
  have hbody := congrArg Prod.snd (finish_eq_ok_iff.1 h)
  unfold body at hbody
  split at hbody
  · rename_i hstack
    obtain rfl := hbody
    rw [hstack] at hmem
    cases List.mem_singleton.1 hmem
  · rw [show s.stack = [] from hbody] at hmem
    cases hmem

theorem Moves.open (h : s.Moves cs c b) (hc : c ≠ ')') (hs : s.Open) : b.Open := by
  obtain ⟨around, setting, verbose, hmem⟩ := hs
  cases h with
  | push _ _ _ => exact ⟨around, setting, verbose, hmem⟩
  | copies _ _ _ => exact ⟨around, setting, verbose, hmem⟩
  | branch =>
    unfold Open pushBranch
    split
    · rename_i hstack
      rw [hstack] at hmem
      refine ⟨around, setting, verbose, ?_⟩
      rcases List.mem_cons.1 hmem with hframe | hframe
      · cases hframe
      · exact List.mem_cons_of_mem _ hframe
    · exact ⟨around, setting, verbose, List.mem_cons_of_mem _ hmem⟩
  | group _ _ _ => exact ⟨around, setting, verbose, List.mem_cons_of_mem _ hmem⟩
  | close => exact (hc rfl).elim

theorem open_run (hclose : ')' ∉ skip s.verbose s.rest) (hs : s.Open) (h : s.run n = .ok b) :
    b.Open := by
  induction n generalizing s with
  | zero =>
    cases h
    exact hs
  | succ n ih =>
    unfold run at h
    split at h
    · cases h
      exact hs
    · rename_i c cs hskip
      obtain ⟨t, hstep, h⟩ := bind_eq_ok.1 h
      rw [hskip] at hclose
      have hmove := moves_step hstep
      have hc : c ≠ ')' := fun hc => hclose (hc ▸ List.mem_cons_self)
      refine ih (fun hmem => hclose ?_) (hmove.open hc hs) h
      exact List.mem_cons_of_mem c (hmove.suffix.mem ((skip_suffix ..).mem hmem))

end State

end Munch.Pattern
