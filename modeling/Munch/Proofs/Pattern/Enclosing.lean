import Munch.Proofs.Pattern.Parser
import Munch.Pattern

/-!
# Patterns between anchors

The reader of `^(?:p)$` does inside the group what the reader of `p` does, as long as it stays there
(`State.inside`). It cannot leave the text of `p` inside a class, an escape, a count or a comment,
as then nothing is left to close the group.

**Theorem (`compile_anchored`).** If a pattern between its anchors has a meaning, then either the
pattern has a meaning of its own, which the anchors enclose, or it closes a group that it did not
open.
-/

namespace Munch.Pattern

variable {v : Bool} {c d : Char} {cs ds r rest tail : List Char} {m n : Nat} {node : Node}
  {s a b : State}

/-! ## Texts between anchors -/

/-- What stands behind a pattern between its anchors. -/
def closing : List Char := [')', '$']

theorem anchored_eq (source : String) :
    anchored source = '^' :: '(' :: '?' :: ':' :: (source.toList ++ closing) := by
  simp [anchored, closing]

theorem suffix_closing_cases (h : r <:+ cs ++ closing) : (∃ w, r = w ++ closing) ∨ ')' ∉ r := by
  rcases List.suffix_or_suffix_of_suffix h (List.suffix_append cs closing) with hshort | ⟨w, hw⟩
  · rcases List.suffix_cons_iff.1 hshort with hall | hlast
    · exact .inl ⟨[], hall⟩
    · have hdollar : ')' ∉ ['$'] := by decide
      exact .inr fun hmem => hdollar (hlast.mem hmem)
  · exact .inl ⟨w, hw.symm⟩

theorem skip_eq_of_append (h : skip v (cs ++ tail) = rest ++ tail) : skip v cs = rest := by
  obtain ⟨w, hw, h⟩ := skip_cut h
  rwa [List.append_cancel_right hw]

/-! ## Readers inside the anchors -/

/-- The group that holds a pattern between its anchors. -/
def wrapper : Frame := .group [.anchor .lineStart] [] false

/-- The node of a pattern between its anchors. -/
def enclosed (body : Node) : Node :=
  .seq [.anchor .lineStart, .group [] body, .anchor .lineEnd]

/-- The reader of a pattern, as part of the one that reads it between its anchors. -/
def State.inside (s : State) : State :=
  { s with stack := s.stack ++ [wrapper], rest := s.rest ++ closing }

/-! ## Readers that cannot go on -/

/-- However far it reads, the reader does not come to an end. -/
def State.Stuck (s : State) : Prop := ∀ n b node, s.run n = .ok b → b.finish ≠ .ok node

theorem State.stuck_of_open (hclose : ')' ∉ skip s.verbose s.rest) (hs : s.Open) : s.Stuck :=
  fun _ _ _ hrun => not_finish_of_open (open_run hclose hs hrun)

theorem State.open_inside (s : State) : s.inside.Open :=
  ⟨_, _, _, List.mem_append_right s.stack (List.mem_singleton.2 rfl)⟩

theorem bounds_of_suffix_closing {out : (Nat × Option Nat) × List Char}
    (h : skip v cs <:+ closing) : bounds v cs ≠ .ok out := by
  have hends : skip v cs = [')', '$'] ∨ skip v cs = ['$'] ∨ skip v cs = [] := by
    simpa [closing, List.suffix_cons_iff] using h
  unfold bounds
  rcases hends with hskip | hskip | hskip <;> rw [hskip] <;> cases v <;> exact nofun

theorem skip_brace (v : Bool) (cs : List Char) : skip v ('\x7b' :: cs) = '\x7b' :: cs := by
  cases v <;> rfl

/-- A brace with nothing of the pattern behind it opens no count between the anchors. -/
theorem State.stuck_of_bareBrace (h : BareBrace s.verbose s.rest) : s.inside.Stuck := by
  intro n b node hrun
  obtain ⟨ds, hrest, hds⟩ := h
  have hskip : skip s.verbose (ds ++ closing) <:+ closing := by
    rcases List.suffix_or_suffix_of_suffix (skip_suffix s.verbose (ds ++ closing))
        (List.suffix_append ds closing) with hshort | ⟨w, hw⟩
    · exact hshort
    · have hw' : skip s.verbose ds = w := skip_eq_of_append hw.symm
      rw [← hw, ← hw', hds]
      exact List.suffix_rfl
  cases n with
  | zero =>
    cases hrun
    exact not_finish_of_open s.open_inside
  | succ n =>
    have hbrace : skip s.inside.verbose s.inside.rest = '\x7b' :: (ds ++ closing) := by
      simp only [inside, hrest]
      exact skip_brace ..
    unfold run at hrun
    rw [hbrace] at hrun
    obtain ⟨_, hstep, -⟩ := bind_eq_ok.1 hrun
    obtain ⟨_, -, hcount⟩ := bind_eq_ok.1 hstep
    obtain ⟨_, hbounds, -⟩ := bind_eq_ok.1 hcount
    exact (bounds_of_suffix_closing hskip hbounds).elim

/-! ## Steps inside the anchors -/

namespace State

theorem body_inside (s : State) : s.inside.body = (s.body.1, s.body.2 ++ [wrapper]) := by
  obtain ⟨stack, items, verbose, names, rest⟩ := s
  match stack with
  | [] => rfl
  | .group .. :: _ => rfl
  | .alt _ :: _ => rfl

theorem pushBranch_inside (s : State) (cs : List Char) :
    s.inside.pushBranch (cs ++ closing) = (s.pushBranch cs).inside := by
  obtain ⟨stack, items, verbose, names, rest⟩ := s
  match stack with
  | [] => rfl
  | .group .. :: _ => rfl
  | .alt _ :: _ => rfl

/-- A parenthesis closes a group inside the anchors, or the one around the pattern. -/
theorem popGroup_inside_cases (h : s.inside.popGroup r = .ok b) :
    (∃ t : State, (∀ cs, s.popGroup cs = .ok { t with rest := cs }) ∧
        b = { t with stack := t.stack ++ [wrapper], rest := r }) ∨
      s.body.2 = [] ∧
        b = ⟨[], [.group [] s.body.1, .anchor .lineStart], false, s.names, r⟩ := by
  obtain ⟨body, around, setting, verbose, stack, hbody, rfl⟩ := popGroup_eq_ok_iff.1 h
  rw [body_inside] at hbody
  obtain ⟨rfl, hstack⟩ := Prod.mk.inj hbody
  cases hs : s.body.2 with
  | nil =>
    rw [hs] at hstack
    cases hstack
    exact .inr ⟨rfl, rfl⟩
  | cons f fs =>
    rw [hs, List.cons_append] at hstack
    obtain ⟨rfl, rfl⟩ := List.cons.inj hstack
    have hframes : s.body = (s.body.1, .group around setting verbose :: fs) := Prod.ext rfl hs
    refine .inl ⟨⟨fs, .group setting s.body.1 :: around, verbose, s.names, []⟩, fun cs => ?_, rfl⟩
    exact popGroup_eq_ok_iff.2 ⟨_, _, _, _, _, hframes, rfl⟩

theorem popGroup_inside (h : s.inside.popGroup (cs ++ closing) = .ok b) :
    (∃ t, s.popGroup cs = .ok t ∧ b = t.inside) ∨ s.popGroup cs = .error .groupUnopened := by
  rcases popGroup_inside_cases h with ⟨t, ht, rfl⟩ | ⟨hs, -⟩
  · exact .inl ⟨_, ht cs, rfl⟩
  · have hbody : s.body = (s.body.1, []) := Prod.ext rfl hs
    refine .inr ?_
    unfold popGroup
    rw [hbody]

theorem nameGroup_inside (h : s.inside.nameGroup ds = .ok b) (hrest : b.rest = rest ++ closing) :
    ∃ w t, ds = w ++ closing ∧ s.nameGroup w = .ok t ∧ b = t.inside := by
  obtain ⟨⟨name, r⟩, hread, h⟩ := bind_eq_ok.1 h
  simp only at h
  split_ifs at h with hempty hnames
  cases h
  obtain rfl : r = rest ++ closing := hrest
  obtain ⟨w, rfl, hw⟩ := reads_groupName.cut hread
  refine ⟨w, { s with names := name :: s.names }.pushGroup [] rest, rfl, ?_, rfl⟩
  have hnames' : ¬s.names.contains name = true := hnames
  unfold nameGroup
  simp only [hw, bind, Except.bind, if_neg hempty, if_neg hnames']

theorem openGroup_inside (h : s.inside.openGroup (cs ++ closing) = .ok b)
    (hrest : b.rest = rest ++ closing) : ∃ t, s.openGroup cs = .ok t ∧ b = t.inside := by
  unfold openGroup at h
  split at h
  · cases h
  · cases h
  · cases h
  · cases h
  · rename_i hskip
    obtain ⟨w, t, rfl, ht, rfl⟩ := nameGroup_inside h hrest
    have hcut : skip s.verbose cs = '?' :: 'P' :: '<' :: w := skip_eq_of_append hskip
    refine ⟨t, ?_, rfl⟩
    simp only [openGroup, hcut]
    exact ht
  · rename_i hequal hbang hskip
    obtain ⟨w, t, rfl, ht, rfl⟩ := nameGroup_inside h hrest
    have hcut : skip s.verbose cs = '?' :: '<' :: w := skip_eq_of_append hskip
    have hequal' ds (hw : w = '=' :: ds) := hequal _ (congrArg (· ++ closing) hw)
    have hbang' ds (hw : w = '!' :: ds) := hbang _ (congrArg (· ++ closing) hw)
    refine ⟨t, ?_, rfl⟩
    simp only [openGroup, hcut]
    exact ht
  · rename_i hequal hbang hbehind hnotBehind hnamed hname hskip
    obtain ⟨⟨⟨setting, close⟩, r⟩, hread, hgroup⟩ := bind_eq_ok.1 h
    obtain rfl : r = rest ++ closing := by
      simp only at hgroup
      split_ifs at hgroup <;> (cases hgroup; exact hrest)
    obtain ⟨w, rfl, hw⟩ := reads_flags.cut hread
    have hcut : skip s.verbose cs = '?' :: w := skip_eq_of_append hskip
    have hequal' ds (hw : w = '=' :: ds) := hequal _ (congrArg (· ++ closing) hw)
    have hbang' ds (hw : w = '!' :: ds) := hbang _ (congrArg (· ++ closing) hw)
    have hbehind' ds (hw : w = '<' :: '=' :: ds) := hbehind _ (congrArg (· ++ closing) hw)
    have hnotBehind' ds (hw : w = '<' :: '!' :: ds) := hnotBehind _ (congrArg (· ++ closing) hw)
    have hnamed' ds (hw : w = 'P' :: '<' :: ds) := hnamed _ (congrArg (· ++ closing) hw)
    have hname' ds (hw : w = '<' :: ds) := hname _ (congrArg (· ++ closing) hw)
    simp only [openGroup, hcut, hw]
    simp only at hgroup
    split_ifs at hgroup with hclose hnone
    · cases hgroup
      exact ⟨s.pushGroup setting rest, if_pos hclose, rfl⟩
    · cases hgroup
      exact ⟨_, (if_neg hclose).trans (if_neg hnone), rfl⟩
  · cases h
    rename_i hequal hbang hbehind hnotBehind hnamed hname hmark
    have hcut : skip s.verbose cs = rest := skip_eq_of_append hrest
    have hskip : skip s.inside.verbose (cs ++ closing) = rest ++ closing := hrest
    refine ⟨s.pushGroup [] rest, ?_, congrArg (s.inside.pushGroup []) hskip⟩
    unfold openGroup
    rw [hcut]
    split
    · exact (hequal _ hskip).elim
    · exact (hbang _ hskip).elim
    · exact (hbehind _ hskip).elim
    · exact (hnotBehind _ hskip).elim
    · exact (hnamed _ hskip).elim
    · exact (hname _ hskip).elim
    · exact (hmark _ hskip).elim
    · rfl

theorem repeatSimple_inside {least : Nat} {most : Option Nat}
    (h : s.inside.repeatSimple least most (cs ++ closing) = .ok b)
    (hrest : b.rest = rest ++ closing) :
    ∃ t, s.repeatSimple least most cs = .ok t ∧ b = t.inside := by
  obtain ⟨⟨body, before⟩, hlast, h⟩ := bind_eq_ok.1 h
  cases h
  obtain ⟨w, hw, hlazy⟩ := dropLazy_cut hrest
  obtain rfl := List.append_cancel_right hw
  refine ⟨{ s with items := .rep body least most :: before, rest }, ?_, ?_⟩
  · exact bind_eq_ok.2 ⟨_, hlast, by rw [hlazy]⟩
  · exact congrArg (State.mk _ _ _ _) hrest

theorem repeatCounted_inside (h : s.inside.repeatCounted (cs ++ closing) = .ok b)
    (hrest : b.rest = rest ++ closing) : ∃ t, s.repeatCounted cs = .ok t ∧ b = t.inside := by
  obtain ⟨⟨body, before⟩, hlast, h⟩ := bind_eq_ok.1 h
  obtain ⟨⟨⟨least, most⟩, r⟩, hbounds, h⟩ := bind_eq_ok.1 h
  simp only at h
  split at h
  · split_ifs at h with hle
    cases h
    obtain ⟨u, hu, hlazy⟩ := dropLazy_cut hrest
    obtain ⟨x, rfl, hx⟩ := skip_cut hu
    obtain ⟨w, hw, hcut⟩ := bounds_cut (List.cons_append .. ▸ hbounds)
    obtain rfl := List.append_cancel_right hw
    refine ⟨{ s with items := .rep body least most :: before, rest }, ?_, ?_⟩
    · have hcut' : bounds s.verbose cs = .ok ((least, most), '\x7d' :: x) := hcut
      have hx' : skip s.verbose x = u := hx
      refine bind_eq_ok.2 ⟨_, hlast, bind_eq_ok.2 ⟨_, hcut', ?_⟩⟩
      simp only [hle, if_true, hx', hlazy]
    · exact congrArg (State.mk _ _ _ _) hrest
  · cases h

theorem step_inside_of_rest (h : s.inside.step c (cs ++ closing) = .ok b)
    (hrest : b.rest = rest ++ closing) :
    (∃ t, s.step c cs = .ok t ∧ b = t.inside) ∨ s.step c cs = .error .groupUnopened ∨
      b.Stuck := by
  unfold step at h
  split at h
  · exact .inl (openGroup_inside h hrest)
  · exact (popGroup_inside h).imp_right .inl
  · cases h
    exact .inl ⟨_, rfl, pushBranch_inside s cs⟩
  · obtain ⟨⟨node, r⟩, hnode, h⟩ := bind_eq_ok.1 h
    cases h
    obtain rfl : r = rest ++ closing := hrest
    obtain ⟨w, hw, hcut⟩ := bracket_cut (by decide) (by decide) hnode
    obtain rfl : '[' :: cs = w := List.append_cancel_right (List.cons_append .. ▸ hw)
    exact .inl ⟨_, bind_eq_ok.2 ⟨_, hcut, rfl⟩, rfl⟩
  · exact .inl (repeatSimple_inside h hrest)
  · exact .inl (repeatSimple_inside h hrest)
  · exact .inl (repeatSimple_inside h hrest)
  · exact .inl (repeatCounted_inside h hrest)
  · obtain ⟨⟨x, r⟩, hx, h⟩ := bind_eq_ok.1 h
    cases h
    obtain rfl : r = rest ++ closing := hrest
    obtain ⟨w, hw, hcut | ⟨rfl, hbrace⟩⟩ := escape_cut hx
    · obtain rfl := List.append_cancel_right hw
      exact .inl ⟨_, bind_eq_ok.2 ⟨_, hcut, rfl⟩, rfl⟩
    · exact .inr (.inr (stuck_of_bareBrace (s := s.push (.anchor (.word .boundary)) rest) hbrace))
  · cases h
    exact .inl ⟨_, rfl, rfl⟩
  · cases h
    exact .inl ⟨_, rfl, rfl⟩
  · cases h
    exact .inl ⟨_, rfl, rfl⟩
  · cases h
    exact .inl ⟨s.push (.literal ⟨c, false⟩) cs, by simp only [step], rfl⟩

/-- A step inside the anchors is a step of the reader without them, unless this one closes a group
that is not open or that one comes to no end. -/
theorem step_inside (h : s.inside.step c (cs ++ closing) = .ok b) :
    (∃ t, s.step c cs = .ok t ∧ b = t.inside) ∨ s.step c cs = .error .groupUnopened ∨
      b.Stuck := by
  by_cases hc : c = ')'
  · obtain rfl := hc
    exact (popGroup_inside h).imp_right .inl
  rcases suffix_closing_cases (moves_step h).suffix with ⟨rest, hrest⟩ | hclose
  · exact step_inside_of_rest h hrest
  -- the step has taken the parenthesis behind the pattern, so the group around it stays open
  · refine .inr (.inr (stuck_of_open (fun hmem => ?_) ((moves_step h).open hc s.open_inside)))
    exact hclose ((skip_suffix ..).mem hmem)

/-! ## The whole pattern -/

/-- Behind the end of a pattern the group around it is closed, or a group inside stays open. -/
theorem finish_inside (hpop : s.inside.popGroup ['$'] = .ok a) (hrun : a.run (m + 1) = .ok b)
    (hfinish : b.finish = .ok node) : ∃ body, s.finish = .ok body ∧ node = enclosed body := by
  rcases popGroup_inside_cases hpop with ⟨t, -, rfl⟩ | ⟨hs, rfl⟩
  · refine (stuck_of_open ?_ ?_ _ _ _ hrun hfinish).elim
    · have hdollar : ')' ∉ ['$'] := by decide
      exact fun hmem => hdollar ((skip_suffix ..).mem hmem)
    · exact ⟨_, _, _, List.mem_append_right t.stack (List.mem_singleton.2 rfl)⟩
  · refine ⟨s.body.1, finish_eq_ok_iff.2 (Prod.ext rfl hs), ?_⟩
    cases m <;> cases hrun <;> exact (Except.ok.inj hfinish).symm

theorem run_of_skip_nil (hskip : skip s.verbose s.rest = []) :
    ∃ t, s.run n = .ok t ∧ t.finish = s.finish := by
  cases n with
  | zero => exact ⟨s, rfl, rfl⟩
  | succ n =>
    refine ⟨{ s with rest := [] }, ?_, rfl⟩
    unfold run
    rw [hskip]

/-- What the reader finds between the anchors, it finds without them, unless the pattern closes a
group that it did not open. -/
theorem run_inside (hm : s.rest.length + 2 ≤ m) (hn : s.rest.length ≤ n)
    (hfinish : b.finish = .ok node) (hrun : s.inside.run m = .ok b) :
    (∃ t body, s.run n = .ok t ∧ t.finish = .ok body ∧ node = enclosed body) ∨
      s.run n = .error .groupUnopened := by
  induction m generalizing s n with
  | zero => cases hm
  | succ m ih =>
    rcases suffix_closing_cases (skip_suffix s.verbose (s.rest ++ closing)) with ⟨w, hw⟩ | hclose
    · have hcut : skip s.verbose s.rest = w := skip_eq_of_append hw
      have hskip : skip s.inside.verbose s.inside.rest = w ++ closing := hw
      unfold run at hrun
      rw [hskip] at hrun
      cases w with
      | nil =>
        obtain ⟨a, hpop, hrun⟩ := bind_eq_ok.1 hrun
        obtain ⟨k, rfl⟩ : ∃ k, m = k + 1 := ⟨m - 1, by omega⟩
        obtain ⟨body, hbody, rfl⟩ := finish_inside hpop hrun hfinish
        obtain ⟨t, ht, hsame⟩ := run_of_skip_nil (n := n) hcut
        exact .inl ⟨t, body, ht, hsame.trans hbody, rfl⟩
      | cons c cs =>
        obtain ⟨a, hstep, hrun⟩ := bind_eq_ok.1 hrun
        have hlen : cs.length + 1 ≤ s.rest.length := (hcut ▸ skip_suffix ..).length_le
        obtain ⟨n, rfl⟩ := Nat.exists_eq_succ_of_ne_zero (Nat.ne_zero_of_lt (hlen.trans hn))
        have hnext : s.run (n + 1) = s.step c cs >>= fun t => t.run n := by
          rw [run, hcut]
        rcases step_inside hstep with ⟨t, ht, rfl⟩ | hunopened | hstuck
        · have hleft : t.rest.length ≤ cs.length := (moves_step ht).suffix.length_le
          rw [hnext, ht]
          exact ih (by omega) (by omega) hrun
        · exact .inr (by rw [hnext, hunopened]; rfl)
        · exact (hstuck m b node hrun hfinish).elim
    · exact (stuck_of_open hclose s.open_inside _ b node hrun hfinish).elim

end State

theorem depth_le_enclosed (body : Node) : body.depth ≤ (enclosed body).depth :=
  calc
    body.depth ≤ (Node.group [] body).depth := Nat.le_succ _
    _ ≤ Node.depthAll [.group [] body, .anchor .lineEnd] := Nat.le_max_left ..
    _ ≤ Node.depthAll [.anchor .lineStart, .group [] body, .anchor .lineEnd] := Nat.le_max_right ..
    _ ≤ (enclosed body).depth := Nat.le_succ _

theorem run_anchored (source : String) :
    (State.start (anchored source)).run (anchored source).length =
      (State.start source.toList).inside.run (source.toList.length + 4) := by
  have hlength : (anchored source).length = source.toList.length + 4 + 2 := by
    simp [anchored_eq, closing]
  rw [hlength, anchored_eq]
  rfl

theorem parse_anchored {source : String} (h : parse (anchored source) = .ok node) :
    (∃ body, parse source.toList = .ok body ∧ node = enclosed body) ∨
      parse source.toList = .error .groupUnopened := by
  obtain ⟨b, hrun, h⟩ := bind_eq_ok.1 h
  obtain ⟨whole, hfinish, h⟩ := bind_eq_ok.1 h
  split_ifs at h with hdepth
  cases h
  rw [run_anchored] at hrun
  rcases State.run_inside (n := source.toList.length) (by simp [State.start])
    (by simp [State.start]) hfinish hrun with ⟨t, body, ht, hbody, rfl⟩ | hunopened
  · refine .inl ⟨body, bind_eq_ok.2 ⟨t, ht, bind_eq_ok.2 ⟨body, hbody, ?_⟩⟩, rfl⟩
    exact if_pos ((depth_le_enclosed body).trans hdepth)
  · refine .inr ?_
    unfold parse
    rw [hunopened]
    rfl

theorem regex_enclosed (body : Node) :
    (enclosed body).regex {} = body.regex {} >>= fun m =>
      .ok (.seqAll [.look .textStart, m.1, .look .textEnd], {}) := by
  have hsetting : Flags.apply {} [] = {} := rfl
  simp only [enclosed, Node.regex, Node.regexAll, bind, Except.bind, hsetting]
  cases body.regex {} <;> rfl

/-- **A pattern whose anchored text has a meaning has one of its own, which the anchors enclose,
or closes a group that it did not open.** -/
theorem compile_anchored {source : String} {r : Regex} (h : compile (anchored source) = .ok r) :
    (∃ q, compile source.toList = .ok q ∧ r = .seqAll [.look .textStart, q, .look .textEnd]) ∨
      compile source.toList = .error .groupUnopened := by
  obtain ⟨node, hparse, h⟩ := bind_eq_ok.1 h
  obtain ⟨⟨r, f⟩, hmeaning, h⟩ := bind_eq_ok.1 h
  cases h
  rcases parse_anchored hparse with ⟨body, hbody, rfl⟩ | hunopened
  · refine .inl ?_
    rw [regex_enclosed] at hmeaning
    obtain ⟨⟨q, g⟩, hq, hmeaning⟩ := bind_eq_ok.1 hmeaning
    cases hmeaning
    exact ⟨q, bind_eq_ok.2 ⟨body, hbody, bind_eq_ok.2 ⟨(q, g), hq, rfl⟩⟩, rfl⟩
  · refine .inr ?_
    unfold compile
    rw [hunopened]
    rfl

end Munch.Pattern
