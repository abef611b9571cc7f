import Munch.Pattern.Search
import Mathlib.Data.List.Basic

/-!
# Matches inside a text

A **match** of a regex is a span of the text, which may be empty; assertions look at the characters
on either side of it. A search finds a match without going back in the text, and it may **restart**
behind some characters: it gives up what is under way there, unless a match has ended.

**Theorem (`Search.accepts_steps_start_iff`).** A search that restarts behind some characters finds
the matches that hold none of them.

**Theorem (`Regex.occursIn_iff`).** A regex occurs in a text if and only if it has a match there.

Both follow from what a search makes of the text ahead (`Search.accepts_steps_iff`): a match has
ended, or one that is under way goes on, or one begins later.

A search is **rooted** if the matches that may begin at the next place are under way in it. A rooted
search that is dead has no match to begin later, so it accepts no text.
-/

namespace Munch

/-! ## Matches -/

namespace Regex

variable {r a : Regex} {restarts : Char → Bool} {before : Option Char} {c : Char}
  {mid text : List Char}

/-- Whether the regex matches a span exactly, with `before` and `after` on its sides. -/
def spans (r : Regex) (before : Option Char) (mid : List Char) (after : Option Char) : Bool :=
  match mid with
  | [] => r.nullable ⟨before, after⟩
  | c :: cs => (r.residues before c).any fun a => a.spans (some c) cs after

/-- The regex has the match `mid` in the text. -/
def MatchIn (r : Regex) (mid text : List Char) : Prop :=
  ∃ pre post, pre ++ mid ++ post = text ∧ r.spans pre.getLast? mid post.head? = true

/-- A match begins right behind `before`, and holds no character at which a search restarts. -/
def Leads (restarts : Char → Bool) (r : Regex) (before : Option Char) (text : List Char) : Prop :=
  ∃ mid post, mid ++ post = text ∧ (∀ c ∈ mid, restarts c = false) ∧
    r.spans before mid post.head? = true

/-- Such a match begins behind a later character, where a match may begin. -/
def LeadsLater (restarts : Char → Bool) (r : Regex) (text : List Char) : Prop :=
  r.startsText = false ∧ ∃ pre c post, pre ++ c :: post = text ∧ r.Leads restarts (some c) post

theorem mem_fresh_iff : a ∈ r.fresh ↔ r.startsText = false ∧ a = r := by
  unfold fresh
  cases r.startsText <;> simp

theorem leads_nil_iff : r.Leads restarts before [] ↔ r.nullable ⟨before, none⟩ = true := by
  constructor
  · rintro ⟨mid, post, htext, -, hspans⟩
    obtain ⟨rfl, rfl⟩ := List.append_eq_nil_iff.1 htext
    exact hspans
  · exact fun h => ⟨[], [], rfl, nofun, h⟩

theorem leads_cons_iff :
    r.Leads restarts before (c :: text) ↔ r.nullable ⟨before, some c⟩ = true ∨
      restarts c = false ∧ ∃ a ∈ r.residues before c, a.Leads restarts (some c) text := by
  constructor
  · rintro ⟨mid, post, htext, hkeep, hspans⟩
    cases mid with
    | nil =>
      subst htext
      exact .inl hspans
    | cons d mid =>
      obtain ⟨rfl, htail⟩ := List.cons.inj htext
      obtain ⟨a, ha, hspans⟩ := List.any_eq_true.1 hspans
      exact .inr ⟨hkeep d List.mem_cons_self, a, ha, mid, post, htail,
        fun e he => hkeep e (List.mem_cons_of_mem d he), hspans⟩
  · rintro (hnull | ⟨hc, a, ha, mid, post, rfl, hkeep, hspans⟩)
    · exact ⟨[], c :: text, rfl, nofun, hnull⟩
    · exact ⟨c :: mid, post, rfl, List.forall_mem_cons.2 ⟨hc, hkeep⟩,
        List.any_eq_true.2 ⟨a, ha, hspans⟩⟩

theorem not_leadsLater_nil : ¬r.LeadsLater restarts [] := by
  rintro ⟨-, pre, c, post, htext, -⟩
  exact List.cons_ne_nil c post (List.append_eq_nil_iff.1 htext).2

theorem leadsLater_cons_iff :
    r.LeadsLater restarts (c :: text) ↔
      (∃ a ∈ r.fresh, a.Leads restarts (some c) text) ∨ r.LeadsLater restarts text := by
  simp only [mem_fresh_iff]
  constructor
  · rintro ⟨hstart, pre, d, post, htext, hleads⟩
    cases pre with
    | nil =>
      obtain ⟨rfl, rfl⟩ := List.cons.inj htext
      exact .inl ⟨r, ⟨hstart, rfl⟩, hleads⟩
    | cons e pre => exact .inr ⟨hstart, pre, d, post, (List.cons.inj htext).2, hleads⟩
  · rintro (⟨a, ⟨hstart, rfl⟩, hleads⟩ | ⟨hstart, pre, d, post, rfl, hleads⟩)
    · exact ⟨hstart, [], c, text, rfl, hleads⟩
    · exact ⟨hstart, c :: pre, d, post, rfl, hleads⟩

/-! ## Matches that begin at the start only -/

theorem nullable_eq_false_of_startsText (h : r.startsText = true) (c : Char)
    (after : Option Char) : r.nullable ⟨some c, after⟩ = false := by
  induction r with
  | empty | chars _ | rep => cases h
  | look a =>
    cases a with
    | textStart => rfl
    | _ => cases h
  | seq r s ihr _ => simp [nullable, ihr h]
  | alt r s ihr ihs =>
    obtain ⟨hr, hs⟩ := Bool.and_eq_true_iff.1 h
    simp [nullable, ihr hr, ihs hs]

theorem residues_eq_nil_of_startsText (h : r.startsText = true) (b c : Char) :
    r.residues (some b) c = [] := by
  induction r with
  | empty | chars _ | rep => cases h
  | look _ => rfl
  | seq r s ihr _ => simp [residues, ihr h, nullable_eq_false_of_startsText (r := r) h]
  | alt r s ihr ihs =>
    obtain ⟨hr, hs⟩ := Bool.and_eq_true_iff.1 h
    simp [residues, ihr hr, ihs hs]

theorem not_leads_of_startsText (h : r.startsText = true) : ¬r.Leads restarts (some c) text := by
  cases text with
  | nil => simp [leads_nil_iff, nullable_eq_false_of_startsText h]
  | cons d text =>
    simp [leads_cons_iff, nullable_eq_false_of_startsText h, residues_eq_nil_of_startsText h]

/-- A match in the text begins at its start or later. -/
theorem leads_or_leadsLater_iff :
    r.Leads restarts none text ∨ r.LeadsLater restarts text ↔
      ∃ mid, r.MatchIn mid text ∧ ∀ c ∈ mid, restarts c = false := by
  constructor
  · rintro (⟨mid, post, rfl, hkeep, hspans⟩ |
      ⟨-, pre, c, text', rfl, mid, post, rfl, hkeep, hspans⟩)
    · exact ⟨mid, ⟨[], post, rfl, hspans⟩, hkeep⟩
    · exact ⟨mid, ⟨pre ++ [c], post, by simp, by simpa using hspans⟩, hkeep⟩
  · rintro ⟨mid, ⟨pre, post, rfl, hspans⟩, hkeep⟩
    rcases List.eq_nil_or_concat' pre with rfl | ⟨pre, c, rfl⟩
    · exact .inl ⟨mid, post, rfl, hkeep, hspans⟩
    · rw [List.getLast?_concat] at hspans
      have hleads : r.Leads restarts (some c) (mid ++ post) := ⟨mid, post, rfl, hkeep, hspans⟩
      have hstart : r.startsText = false :=
        Bool.eq_false_iff.2 fun h => not_leads_of_startsText h hleads
      exact .inr ⟨hstart, pre, c, mid ++ post, by simp, hleads⟩

end Regex

/-! ## Searches -/

theorem Regex.mem_insertNew {a r : Regex} {rs : List Regex} :
    a ∈ r.insertNew rs ↔ a = r ∨ a ∈ rs := by
  unfold Regex.insertNew
  split_ifs with h
  · constructor
    · exact Or.inr
    · rintro (rfl | ha)
      · exact List.contains_iff_mem.1 h
      · exact ha
  · exact List.mem_cons

namespace Search

variable {r : Regex} {restarts : Char → Bool} {s : Search} {c : Char}

theorem mem_active_push {a : Regex} :
    a ∈ (s.push r c).active ↔ a ∈ r.fresh ∨ ∃ b ∈ s.active, a ∈ b.residues s.last c := by
  show a ∈ (s.active.flatMap (·.residues s.last c)).foldr Regex.insertNew r.fresh ↔ _
  rw [← List.mem_flatMap]
  induction s.active.flatMap (·.residues s.last c) with
  | nil => simp
  | cons b bs ih =>
    rw [List.foldr_cons, Regex.mem_insertNew, ih, List.mem_cons]
    exact or_left_comm

theorem found_push_iff :
    (s.push r c).found = true ↔
      s.found = true ∨ ∃ a ∈ s.active, a.nullable ⟨s.last, some c⟩ = true := by
  show (s.found || s.active.any (·.nullable ⟨s.last, some c⟩)) = true ↔ _
  rw [Bool.or_eq_true, List.any_eq_true]

theorem isDead_iff : s.isDead = true ↔ s.found = false ∧ s.active = [] := by
  simp [isDead]

theorem isDead_eq_false_of_found (h : s.found = true) : s.isDead = false := by
  simp [isDead, h]

/-- The matches that may begin at the next place are under way. -/
def Rooted (r : Regex) (s : Search) : Prop := r.fresh ⊆ s.active

theorem rooted_push (r : Regex) (s : Search) (c : Char) : (s.push r c).Rooted r :=
  fun _ ha => mem_active_push.2 (Or.inl ha)

theorem rooted_restart (r : Regex) (s : Search) : (s.restart r).Rooted r := fun _ ha => ha

theorem rooted_start (r : Regex) : (start r).Rooted r :=
  fun _ ha => List.mem_singleton.2 (Regex.mem_fresh_iff.1 ha).2

theorem isDead_restart (hroot : s.Rooted r) (h : s.isDead = true) :
    (s.restart r).isDead = true := by
  obtain ⟨hf, ha⟩ := isDead_iff.1 h
  exact isDead_iff.2 ⟨hf, List.subset_nil.1 (ha ▸ hroot)⟩

/-! ## Searches that restart -/

/-- Reads one character, and restarts behind it if it is one of `restarts` and no match has
ended. -/
def step (restarts : Char → Bool) (r : Regex) (s : Search) (c : Char) : Search :=
  if restarts c = true ∧ (s.push r c).found = false then (s.push r c).restart r else s.push r c

def steps (restarts : Char → Bool) (r : Regex) (s : Search) (cs : List Char) : Search :=
  cs.foldl (step restarts r) s

theorem step_of_found (h : (s.push r c).found = true) : s.step restarts r c = s.push r c :=
  if_neg fun hc => Bool.false_ne_true (hc.2.symm.trans h)

theorem step_of_restarts (hc : restarts c = true) (h : (s.push r c).found = false) :
    s.step restarts r c = (s.push r c).restart r := if_pos ⟨hc, h⟩

theorem step_of_not_restarts (hc : restarts c = false) : s.step restarts r c = s.push r c :=
  if_neg fun h => Bool.false_ne_true (hc.symm.trans h.1)

theorem rooted_step (restarts : Char → Bool) (r : Regex) (s : Search) (c : Char) :
    (s.step restarts r c).Rooted r := by
  unfold step
  split_ifs
  · exact rooted_restart ..
  · exact rooted_push ..

theorem steps_never (r : Regex) (s : Search) (cs : List Char) :
    s.steps (fun _ => false) r cs = s.pushAll r cs :=
  congrArg (List.foldl · s cs) (funext₂ fun _ _ => step_of_not_restarts rfl)

/-- **What a search makes of the text ahead.** -/
theorem accepts_steps_iff (text : List Char) :
    (s.steps restarts r text).accepts = true ↔
      s.found = true ∨ (∃ a ∈ s.active, a.Leads restarts s.last text) ∨
        r.LeadsLater restarts text := by
  induction text generalizing s with
  | nil =>
    show (s.found || s.active.any (·.nullable ⟨s.last, none⟩)) = true ↔ _
    simp only [Bool.or_eq_true, List.any_eq_true, Regex.leads_nil_iff, Regex.not_leadsLater_nil,
      or_false]
  | cons c text ih =>
    have hfound := found_push_iff (r := r) (s := s) (c := c)
    show ((s.step restarts r c).steps restarts r text).accepts = true ↔ _
    rw [ih]
    simp only [Regex.leads_cons_iff, Regex.leadsLater_cons_iff]
    cases hf : (s.push r c).found with
    | true =>
      rw [step_of_found hf]
      refine iff_of_true (.inl hf) ?_
      rcases hfound.1 hf with hs | ⟨a, ha, hnull⟩
      · exact .inl hs
      · exact .inr (.inl ⟨a, ha, .inl hnull⟩)
    | false =>
      have hs : s.found = false := Bool.eq_false_iff.2 fun h =>
        Bool.eq_false_iff.1 hf (hfound.2 (.inl h))
      have hnone : ∀ a ∈ s.active, a.nullable ⟨s.last, some c⟩ = false := fun a ha =>
        Bool.eq_false_iff.2 fun h => Bool.eq_false_iff.1 hf (hfound.2 (.inr ⟨a, ha, h⟩))
      cases hc : restarts c with
      | true =>
        rw [step_of_restarts hc hf]
        show (s.push r c).found = true ∨ (∃ a ∈ r.fresh, a.Leads restarts (some c) text) ∨ _ ↔ _
        simp +contextual [hf, hs, hnone]
      | false =>
        rw [step_of_not_restarts hc]
        show (s.push r c).found = true ∨
          (∃ a ∈ (s.push r c).active, a.Leads restarts (some c) text) ∨ _ ↔ _
        simp only [hf, hs, mem_active_push]
        constructor
        · rintro (h | ⟨a, ha | ⟨b, hb, ha⟩, hleads⟩ | hlater)
          · cases h
          · exact .inr (.inr (.inl ⟨a, ha, hleads⟩))
          · exact .inr (.inl ⟨b, hb, .inr ⟨trivial, a, ha, hleads⟩⟩)
          · exact .inr (.inr (.inr hlater))
        · rintro (h | ⟨b, hb, hnull | ⟨-, a, ha, hleads⟩⟩ | ⟨a, ha, hleads⟩ | hlater)
          · cases h
          · exact (Bool.eq_false_iff.1 (hnone b hb) hnull).elim
          · exact .inr (.inl ⟨a, .inr ⟨b, hb, ha⟩, hleads⟩)
          · exact .inr (.inl ⟨a, .inl ha, hleads⟩)
          · exact .inr (.inr hlater)

theorem accepts_steps_start_iff {text : List Char} :
    ((start r).steps restarts r text).accepts = true ↔
      ∃ mid, r.MatchIn mid text ∧ ∀ c ∈ mid, restarts c = false := by
  rw [accepts_steps_iff, ← Regex.leads_or_leadsLater_iff]
  simp [start]

/-- A rooted search that is dead accepts no text. -/
theorem accepts_steps_of_isDead (hroot : s.Rooted r) (h : s.isDead = true) (text : List Char) :
    (s.steps restarts r text).accepts = false := by
  obtain ⟨hf, ha⟩ := isDead_iff.1 h
  rw [Bool.eq_false_iff, Ne, accepts_steps_iff]
  rintro (hfound | ⟨a, hmem, -⟩ | ⟨hstart, -⟩)
  · exact Bool.false_ne_true (hf.symm.trans hfound)
  · exact List.not_mem_nil (ha ▸ hmem)
  · exact List.not_mem_nil (ha ▸ hroot (Regex.mem_fresh_iff.2 ⟨hstart, rfl⟩))

end Search

/-- **A regex occurs in a text if and only if it has a match there.** -/
theorem Regex.occursIn_iff {r : Regex} {text : List Char} :
    r.occursIn text = true ↔ ∃ mid, r.MatchIn mid text := by
  rw [occursIn, ← Search.steps_never, Search.accepts_steps_start_iff]
  simp

end Munch
