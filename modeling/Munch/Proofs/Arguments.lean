import Munch.Command.Arguments
import Munch.Proofs.Pattern.Reading

/-!
# Arguments without some options

Some options can be left out of the arguments. What is read then is what was read with them, except
for the part of the draft that these options set.

**What one argument does (`Takes`).** It ends the options, or it holds options, or it is the value
of the option before it, or it has a place. Else it is left, and the reading stops at it.

**Leaving out options (`without`).** An option is left out with its value, where the next argument
is one. Behind the end of the options nothing is left out.

**Theorem (`readAll_without`).** If arguments can be read, then so can those that are left, and what
is read is forgotten at most. For this, an option that is left out must change only what is
forgotten, and the other ones must not depend on it.

A value that is not attached is checked late, and it may be checked when an option is met that is
left out. So the two readers do not check the same at the same time; the one that has read more
options may be ahead by one value (`Tracks`).
-/

namespace Munch.Command

/-- All that an option can do to a draft has the property. -/
def Effect.All {σ : Type} (P : (σ → Except Stop σ) → Prop) : Effect σ → Prop
  | flag set => P set
  | value set => ∀ a, P (set a)

def Effect.takesValue {σ : Type} : Effect σ → Bool
  | flag _ => false
  | value _ => true

theorem Form.ofArgument_ne_letters_nil (a : String) : ofArgument a ≠ .letters [] := by
  unfold ofArgument
  split
  · exact nofun
  · split <;> exact nofun
  · exact nofun
  · exact nofun

namespace Reader

variable {σ : Type} {options : List (Opt σ)} {r r' r₁ : Reader σ} {as : List String} {a : String}

/-! ## What one argument does -/

/-- The form of an argument, which is plain where the options have ended. -/
def form (r : Reader σ) (a : String) : Form := if r.ended then .plain else .ofArgument a

theorem form_ne_letters_nil (r : Reader σ) (a : String) : r.form a ≠ .letters [] := by
  unfold form
  split
  · exact nofun
  · exact Form.ofArgument_ne_letters_nil a

/-- Reading an argument leads from one reader to another. -/
inductive Takes (options : List (Opt σ)) (r : Reader σ) (a : String) : Reader σ → Prop
  | ending (h : r.form a = .ending) : Takes options r a { r with ended := true, awaiting := none }
  | long {name : List Char} {value : Option (List Char)} {r₁ : Reader σ}
      (h : r.form a = .long name value) (hr : r.long options name value = .ok r₁) :
      Takes options r a r₁
  | letters {cs : List Char} {r₁ : Reader σ} (h : r.form a = .letters cs)
      (hr : r.letters options cs = .ok r₁) : Takes options r a r₁
  | value {set : Setter σ} (h : r.form a = .plain) (hset : r.awaiting = some set) :
      Takes options r a { r with pending := set a, awaiting := none }
  | place {place : Setter σ} {places : List (Setter σ)} {r₁ : Reader σ} (h : r.form a = .plain)
      (hset : r.awaiting = none) (hplaces : r.places = place :: places)
      (hr : r.settle = .ok r₁) : Takes options r a { r₁ with pending := place a, places }

/-- The argument has no place. -/
structure Leaves (r : Reader σ) (a : String) : Prop where
  form : r.form a = .plain
  awaiting : r.awaiting = none
  places : r.places = []

theorem scan_cons_eq_ok_iff {out : Reader σ × Option (String × List String)} :
    r.scan options (a :: as) = .ok out ↔
      (∃ r₁, Takes options r a r₁ ∧ r₁.scan options as = .ok out) ∨
        r.Leaves a ∧ out = (r, some (a, as)) := by
  rw [scan]
  constructor
  · intro h
    split at h
    · next hform => exact .inl ⟨_, .ending hform, h⟩
    · next hform =>
      obtain ⟨r₁, hr, h⟩ := bind_eq_ok.1 h
      exact .inl ⟨_, .long hform hr, h⟩
    · next hform =>
      obtain ⟨r₁, hr, h⟩ := bind_eq_ok.1 h
      exact .inl ⟨_, .letters hform hr, h⟩
    · next hform =>
      split at h
      · next hset => exact .inl ⟨_, .value hform hset, h⟩
      · next hset hplaces =>
        obtain ⟨r₁, hr, h⟩ := bind_eq_ok.1 h
        exact .inl ⟨_, .place hform hset hplaces hr, h⟩
      · next hset hplaces => exact .inr ⟨⟨hform, hset, hplaces⟩, (Except.ok.inj h).symm⟩
  · rintro (⟨r₁, htakes, h⟩ | ⟨⟨hform, hset, hplaces⟩, rfl⟩)
    · cases htakes with
      | ending hform =>
        simp only [form] at hform
        simp only [hform, h]
      | long hform hr =>
        simp only [form] at hform
        simp only [hform, hr, bind, Except.bind, h]
      | letters hform hr =>
        simp only [form] at hform
        simp only [hform, hr, bind, Except.bind, h]
      | value hform hset =>
        simp only [form] at hform
        simp only [hform, hset, h]
      | place hform hset hplaces hr =>
        simp only [form] at hform
        simp only [hform, hset, hplaces, hr, bind, Except.bind, h]
    · simp only [form] at hform
      simp only [hform, hset, hplaces]

/-! ## Pending values -/

/-- The pending value is never taken. -/
def Stuck (r : Reader σ) : Prop := ∀ d d', r.pending d ≠ .ok d'

theorem settle_eq_ok_iff :
    r.settle = .ok r₁ ↔ ∃ d, r.pending r.draft = .ok d ∧
      r₁ = { r with draft := d, pending := .ok, awaiting := none } := by
  rw [settle, bind_eq_ok]
  simp [eq_comm]

theorem apply_eq_ok_iff {f : σ → Except Stop σ} :
    r.apply f = .ok r₁ ↔ ∃ d d', r.pending r.draft = .ok d ∧ f d = .ok d' ∧
      r₁ = { r with draft := d', pending := .ok, awaiting := none } := by
  simp only [apply, bind_eq_ok, settle_eq_ok_iff]
  constructor
  · rintro ⟨_, ⟨d, hd, rfl⟩, d', hd', ⟨⟩⟩
    exact ⟨d, d', hd, hd', rfl⟩
  · rintro ⟨d, d', hd, hd', rfl⟩
    exact ⟨_, ⟨d, hd, rfl⟩, d', hd', rfl⟩

theorem await_eq_ok_iff {set : Setter σ} :
    r.await set = .ok r₁ ↔ ∃ d, r.pending r.draft = .ok d ∧
      r₁ = { r with
        draft := d, pending := fun _ => .error .invalidValue, awaiting := some set } := by
  simp only [await, bind_eq_ok, settle_eq_ok_iff]
  constructor
  · rintro ⟨_, ⟨d, hd, rfl⟩, ⟨⟩⟩
    exact ⟨d, hd, rfl⟩
  · rintro ⟨d, hd, rfl⟩
    exact ⟨_, ⟨d, hd, rfl⟩, rfl⟩

/-! ## Using an option -/

/-- An option is used with an attached value or without one. -/
inductive Uses (r : Reader σ) (o : Opt σ) : Option (List Char) → Reader σ → Prop
  | flag {set : σ → Except Stop σ} {r₁ : Reader σ} (h : o.effect = .flag set)
      (hr : r.apply set = .ok r₁) : Uses r o none r₁
  | attached {set : Setter σ} {v : List Char} {r₁ : Reader σ} (h : o.effect = .value set)
      (hr : r.apply (set (.ofList v)) = .ok r₁) : Uses r o (some v) r₁
  | awaited {set : Setter σ} {r₁ : Reader σ} (h : o.effect = .value set)
      (hr : r.await set = .ok r₁) : Uses r o none r₁

variable {o : Opt σ} {value : Option (List Char)}

theorem uses_flag_iff {set : σ → Except Stop σ} (h : o.effect = .flag set) :
    r.Uses o value r₁ ↔ value = none ∧ r.apply set = .ok r₁ := by
  constructor
  · intro huse
    cases huse with
    | flag h' hr =>
      cases h.symm.trans h'
      exact ⟨rfl, hr⟩
    | attached h' => cases h.symm.trans h'
    | awaited h' => cases h.symm.trans h'
  · rintro ⟨rfl, hr⟩
    exact .flag h hr

theorem uses_value_iff {set : Setter σ} (h : o.effect = .value set) :
    r.Uses o value r₁ ↔
      (match value with
        | none => r.await set
        | some v => r.apply (set (.ofList v))) = .ok r₁ := by
  constructor
  · intro huse
    cases huse with
    | flag h' => cases h.symm.trans h'
    | attached h' hr =>
      cases h.symm.trans h'
      exact hr
    | awaited h' hr =>
      cases h.symm.trans h'
      exact hr
  · intro hr
    cases value with
    | none => exact .awaited h hr
    | some v => exact .attached h hr

theorem long_eq_ok_iff {name : List Char} :
    r.long options name value = .ok r₁ ↔
      ∃ o, (options.find? fun o => o.word.toList = name) = some o ∧ r.Uses o value r₁ := by
  rw [long]
  cases options.find? fun o => o.word.toList = name with
  | none => simp
  | some o =>
    cases heffect : o.effect with
    | flag set => cases value <;> simp [heffect, uses_flag_iff heffect]
    | value set => cases value <;> simp [heffect, uses_value_iff heffect]

/-- What follows the letter of an option is its value, perhaps after an equals sign. -/
def attached : List Char → Option (List Char)
  | [] => none
  | '=' :: value => some value
  | value => some value

theorem letters_cons_of_value {c : Char} {cs : List Char} {set : Setter σ}
    (hfind : (options.find? fun o => o.letter = some c) = some o)
    (heffect : o.effect = .value set) :
    r.letters options (c :: cs) =
      match attached cs with
      | none => r.await set
      | some v => r.apply (set (.ofList v)) := by
  rw [letters]
  simp only [hfind, heffect]
  cases cs with
  | nil => rfl
  | cons d ds =>
    by_cases hd : d = '='
    · subst hd
      rfl
    · simp [attached, hd]

theorem letters_cons_eq_ok_iff {c : Char} {cs : List Char} :
    r.letters options (c :: cs) = .ok r₁ ↔
      ∃ o, (options.find? fun o => o.letter = some c) = some o ∧
        ((o.effect.takesValue = false ∧
            ∃ r₂, r.Uses o none r₂ ∧ r₂.letters options cs = .ok r₁) ∨
          o.effect.takesValue = true ∧ r.Uses o (attached cs) r₁) := by
  cases hfind : options.find? fun o => o.letter = some c with
  | none => simp [letters, hfind]
  | some o =>
    cases heffect : o.effect with
    | flag set =>
      rw [letters]
      simp only [hfind, heffect, bind_eq_ok]
      simp [heffect, Effect.takesValue, uses_flag_iff heffect]
    | value set =>
      rw [letters_cons_of_value hfind heffect]
      simp [heffect, Effect.takesValue, uses_value_iff heffect]

theorem Stuck.settle_ne (h : r.Stuck) : r.settle ≠ .ok r₁ := by
  intro hr
  obtain ⟨d, hd, -⟩ := settle_eq_ok_iff.1 hr
  exact h _ _ hd

theorem Stuck.apply_ne {f : σ → Except Stop σ} (h : r.Stuck) : r.apply f ≠ .ok r₁ := by
  intro hr
  obtain ⟨d, d', hd, -⟩ := apply_eq_ok_iff.1 hr
  exact h _ _ hd

theorem Stuck.await_ne {set : Setter σ} (h : r.Stuck) : r.await set ≠ .ok r₁ := by
  intro hr
  obtain ⟨d, hd, -⟩ := await_eq_ok_iff.1 hr
  exact h _ _ hd

theorem Uses.not_stuck (h : r.Uses o value r₁) : ¬r.Stuck := by
  intro hstuck
  cases h with
  | flag _ hr => exact hstuck.apply_ne hr
  | attached _ hr => exact hstuck.apply_ne hr
  | awaited _ hr => exact hstuck.await_ne hr

theorem Stuck.long_ne {name : List Char} (h : r.Stuck) : r.long options name value ≠ .ok r₁ := by
  intro hr
  obtain ⟨o, -, huse⟩ := long_eq_ok_iff.1 hr
  exact huse.not_stuck h

theorem Stuck.letters_ne {c : Char} {cs : List Char} (h : r.Stuck) :
    r.letters options (c :: cs) ≠ .ok r₁ := by
  intro hr
  obtain ⟨o, -, ⟨-, r₂, huse, -⟩ | ⟨-, huse⟩⟩ := letters_cons_eq_ok_iff.1 hr
  · exact huse.not_stuck h
  · exact huse.not_stuck h

/-- A reader that is stuck stays so, unless it waits for a value. -/
theorem Takes.stuck (h : Takes options r a r₁) (hstuck : r.Stuck) (hset : r.awaiting = none) :
    r₁.Stuck ∧ r₁.awaiting = none := by
  cases h with
  | ending => exact ⟨hstuck, rfl⟩
  | long _ hr => exact (hstuck.long_ne hr).elim
  | @letters cs _ hform hr =>
    cases cs with
    | nil => exact (form_ne_letters_nil r a hform).elim
    | cons c cs => exact (hstuck.letters_ne hr).elim
  | value _ hset' => cases hset.symm.trans hset'
  | place _ _ _ hr => exact (hstuck.settle_ne hr).elim

theorem stuck_of_scan {out : Option (String × List String)} (h : r.scan options as = .ok (r₁, out))
    (hstuck : r.Stuck) (hset : r.awaiting = none) : r₁.Stuck := by
  induction as generalizing r with
  | nil =>
    cases h
    exact hstuck
  | cons a as ih =>
    rcases scan_cons_eq_ok_iff.1 h with ⟨r₂, htakes, h⟩ | ⟨-, heq⟩
    · obtain ⟨hstuck₂, hset₂⟩ := htakes.stuck hstuck hset
      exact ih h hstuck₂ hset₂
    · cases heq
      exact hstuck

/-! ## Leaving out options -/

/-- Arguments without the options that are dropped; the first one is a value to leave out, too, if
it is said so. -/
def without (options : List (Opt σ)) (drops : Opt σ → Bool) : Bool → List String → List String
  | _, [] => []
  | true, _ :: as => without options drops false as
  | false, a :: as =>
    match Form.ofArgument a with
    | .ending => a :: as
    | .long name value =>
      match options.find? fun o => o.word.toList = name with
      | some o =>
        if drops o then without options drops (o.effect.takesValue && value.isNone) as
        else a :: without options drops false as
      | none => a :: without options drops false as
    | _ => a :: without options drops false as

variable (forget : σ → σ)

/-- The change does not depend on what is forgotten. -/
def Keeps (f : σ → Except Stop σ) : Prop := ∀ d d', f d = .ok d' → f (forget d) = .ok (forget d')

/-- The change is forgotten. -/
def Forgets (f : σ → Except Stop σ) : Prop := ∀ d d', f d = .ok d' → forget d' = forget d

/-- Options that are dropped change only what is forgotten, and the others do not depend on it. -/
structure Divides (options : List (Opt σ)) (drops : Opt σ → Bool) : Prop where
  kept : ∀ o ∈ options, drops o = false → o.effect.All (Keeps forget)
  dropped : ∀ o ∈ options, drops o = true → o.effect.All (Forgets forget) ∧ o.letter = none

/-- The reader `r` has read more options than `r'`. -/
structure Tracks (r r' : Reader σ) : Prop where
  places : r'.places = r.places
  ended : r'.ended = r.ended
  awaiting : r'.awaiting = r.awaiting
  pending : ∀ d, r.pending r.draft = .ok d → r'.pending r'.draft = .ok (forget d)
  waits : ∀ set, r.awaiting = some set →
    r.Stuck ∧ r'.draft = forget r.draft ∧ ∀ a, Keeps forget (set a)
  keeps_place : ∀ place ∈ r.places, ∀ a, Keeps forget (place a)

variable {forget} {drops : Opt σ → Bool}

theorem Tracks.awaiting_eq_none {d : σ} (h : Tracks forget r r') (hd : r.pending r.draft = .ok d) :
    r.awaiting = none := by
  cases hset : r.awaiting with
  | none => rfl
  | some set => exact ((h.waits set hset).1 _ _ hd).elim

/-- Readers that have just taken a value. -/
theorem Tracks.settled (h : Tracks forget r r') (d : σ) :
    Tracks forget { r with draft := d, pending := .ok, awaiting := none }
      { r' with draft := forget d, pending := .ok, awaiting := none } where
  places := h.places
  ended := h.ended
  awaiting := rfl
  pending := by rintro _ ⟨⟩; rfl
  waits := nofun
  keeps_place := h.keeps_place

theorem Tracks.settle (h : Tracks forget r r') (hr : r.settle = .ok r₁) :
    ∃ r₁', r'.settle = .ok r₁' ∧ Tracks forget r₁ r₁' := by
  obtain ⟨d, hd, rfl⟩ := settle_eq_ok_iff.1 hr
  exact ⟨_, settle_eq_ok_iff.2 ⟨_, h.pending _ hd, rfl⟩, h.settled d⟩

theorem Tracks.apply {f : σ → Except Stop σ} (h : Tracks forget r r') (hf : Keeps forget f)
    (hr : r.apply f = .ok r₁) : ∃ r₁', r'.apply f = .ok r₁' ∧ Tracks forget r₁ r₁' := by
  obtain ⟨d, d', hd, hd', rfl⟩ := apply_eq_ok_iff.1 hr
  exact ⟨_, apply_eq_ok_iff.2 ⟨_, _, h.pending _ hd, hf _ _ hd', rfl⟩, h.settled d'⟩

theorem Tracks.await {set : Setter σ} (h : Tracks forget r r') (hset : ∀ a, Keeps forget (set a))
    (hr : r.await set = .ok r₁) : ∃ r₁', r'.await set = .ok r₁' ∧ Tracks forget r₁ r₁' := by
  obtain ⟨d, hd, rfl⟩ := await_eq_ok_iff.1 hr
  refine ⟨_, await_eq_ok_iff.2 ⟨_, h.pending _ hd, rfl⟩, h.places, h.ended, rfl, nofun, ?_,
    h.keeps_place⟩
  rintro _ ⟨⟩
  exact ⟨nofun, rfl, hset⟩

/-- An option that is kept. -/
theorem Tracks.uses (h : Tracks forget r r') (hkeeps : o.effect.All (Keeps forget))
    (huse : r.Uses o value r₁) :
    ∃ r₁', r'.Uses o value r₁' ∧ Tracks forget r₁ r₁' := by
  cases huse with
  | flag heffect hr =>
    rw [heffect] at hkeeps
    obtain ⟨r₁', hr', htracks⟩ := h.apply hkeeps hr
    exact ⟨r₁', .flag heffect hr', htracks⟩
  | attached heffect hr =>
    rw [heffect] at hkeeps
    obtain ⟨r₁', hr', htracks⟩ := h.apply (hkeeps _) hr
    exact ⟨r₁', .attached heffect hr', htracks⟩
  | awaited heffect hr =>
    rw [heffect] at hkeeps
    obtain ⟨r₁', hr', htracks⟩ := h.await hkeeps hr
    exact ⟨r₁', .awaited heffect hr', htracks⟩

theorem Tracks.letters {cs : List Char} (h : Tracks forget r r')
    (hkeeps : ∀ o ∈ options, o.letter ≠ none → o.effect.All (Keeps forget))
    (hr : r.letters options cs = .ok r₁) :
    ∃ r₁', r'.letters options cs = .ok r₁' ∧ Tracks forget r₁ r₁' := by
  induction cs generalizing r r' with
  | nil =>
    cases hr
    exact ⟨r', rfl, h⟩
  | cons c cs ih =>
    obtain ⟨o, hfind, hcase⟩ := letters_cons_eq_ok_iff.1 hr
    have hletter : o.letter = some c := by simpa using List.find?_some hfind
    have hall := hkeeps o (List.mem_of_find?_eq_some hfind) (by simp [hletter])
    rcases hcase with ⟨htakes, r₂, huse, hr⟩ | ⟨htakes, huse⟩
    · obtain ⟨r₂', huse', htracks₂⟩ := h.uses hall huse
      obtain ⟨r₁', hr', htracks⟩ := ih htracks₂ hr
      exact ⟨r₁', letters_cons_eq_ok_iff.2 ⟨o, hfind, .inl ⟨htakes, r₂', huse', hr'⟩⟩, htracks⟩
    · obtain ⟨r₁', huse', htracks⟩ := h.uses hall huse
      exact ⟨r₁', letters_cons_eq_ok_iff.2 ⟨o, hfind, .inr ⟨htakes, huse'⟩⟩, htracks⟩

/-- The reader `r` waits for the value of an option that `r'` has not read. -/
structure Skips (forget : σ → σ) (r r' : Reader σ) : Prop where
  places : r'.places = r.places
  ended : r.ended = false ∧ r'.ended = false
  awaiting : r'.awaiting = none
  pending : r'.pending r'.draft = .ok (forget r.draft)
  stuck : r.Stuck
  waits : ∃ set, r.awaiting = some set ∧ ∀ a, Forgets forget (set a)
  keeps_place : ∀ place ∈ r.places, ∀ a, Keeps forget (place a)

/-- How the readers stand to each other, and whether the next argument is a value to leave out. -/
def Follows (forget : σ → σ) : Bool → Reader σ → Reader σ → Prop
  | false => Tracks forget
  | true => Skips forget

theorem Tracks.forgets {f : σ → Except Stop σ} (h : Tracks forget r r') (hf : Forgets forget f)
    (hr : r.apply f = .ok r₁) : Tracks forget r₁ r' := by
  obtain ⟨d, d', hd, hd', rfl⟩ := apply_eq_ok_iff.1 hr
  refine ⟨h.places, h.ended, h.awaiting.trans (h.awaiting_eq_none hd), ?_, nofun, h.keeps_place⟩
  rintro _ ⟨⟩
  rw [hf _ _ hd']
  exact h.pending _ hd

/-- An option that is dropped. -/
theorem Tracks.drop (h : Tracks forget r r') (hforgets : o.effect.All (Forgets forget))
    (hended : r.ended = false) (huse : r.Uses o value r₁) :
    Follows forget (o.effect.takesValue && value.isNone) r₁ r' := by
  cases huse with
  | flag heffect hr =>
    rw [heffect] at hforgets ⊢
    exact h.forgets hforgets hr
  | attached heffect hr =>
    rw [heffect] at hforgets ⊢
    exact h.forgets (hforgets _) hr
  | awaited heffect hr =>
    rw [heffect] at hforgets ⊢
    obtain ⟨d, hd, rfl⟩ := await_eq_ok_iff.1 hr
    exact ⟨h.places, ⟨hended, h.ended.trans hended⟩,
      h.awaiting.trans (h.awaiting_eq_none hd), h.pending _ hd, nofun, ⟨_, rfl, hforgets⟩,
      h.keeps_place⟩

/-- The arguments to be read, of which nothing is left out once the options have ended. -/
def rest (options : List (Opt σ)) (drops : Opt σ → Bool) (r : Reader σ) (skip : Bool)
    (as : List String) : List String :=
  if r.ended then as else without options drops skip as

theorem ofArgument_of_form {f : Form} (h : r.form a = f) (hf : f ≠ .plain) :
    r.ended = false ∧ Form.ofArgument a = f := by
  unfold form at h
  split at h
  · exact (hf h.symm).elim
  · next hended => exact ⟨by simpa using hended, h⟩

theorem rest_of_plain (h : r.form a = .plain) (as : List String) :
    r.rest options drops false (a :: as) = a :: r.rest options drops false as := by
  unfold form at h
  unfold rest
  split at h
  · next hended => simp [hended]
  · next hended => simp [hended, without, h]

/-- What an option leaves behind: nothing is pending, or its value is awaited. -/
theorem Uses.after (h : r.Uses o value r₁) :
    ∃ d, r₁ = { r with draft := d, pending := .ok, awaiting := none } ∨
      ∃ set, o.effect = .value set ∧ r₁ = { r with
        draft := d, pending := fun _ => .error .invalidValue, awaiting := some set } := by
  cases h with
  | flag _ hr =>
    obtain ⟨-, d, -, -, rfl⟩ := apply_eq_ok_iff.1 hr
    exact ⟨d, .inl rfl⟩
  | attached _ hr =>
    obtain ⟨-, d, -, -, rfl⟩ := apply_eq_ok_iff.1 hr
    exact ⟨d, .inl rfl⟩
  | awaited heffect hr =>
    obtain ⟨d, -, rfl⟩ := await_eq_ok_iff.1 hr
    exact ⟨d, .inr ⟨_, heffect, rfl⟩⟩

/-- To use an option does not end the options, and takes no place. -/
theorem Uses.frame (h : r.Uses o value r₁) : r₁.ended = r.ended ∧ r₁.places = r.places := by
  obtain ⟨d, rfl | ⟨set, -, rfl⟩⟩ := h.after
  · exact ⟨rfl, rfl⟩
  · exact ⟨rfl, rfl⟩

theorem frame_of_letters {cs : List Char} (h : r.letters options cs = .ok r₁) :
    r₁.ended = r.ended ∧ r₁.places = r.places := by
  induction cs generalizing r with
  | nil =>
    cases h
    exact ⟨rfl, rfl⟩
  | cons c cs ih =>
    obtain ⟨o, -, ⟨-, r₂, huse, h⟩ | ⟨-, huse⟩⟩ := letters_cons_eq_ok_iff.1 h
    · obtain ⟨hended, hplaces⟩ := ih h
      exact ⟨hended.trans huse.frame.1, hplaces.trans huse.frame.2⟩
    · exact huse.frame

/-- A value to leave out is left out. -/
theorem Skips.takes (h : Skips forget r r') (htakes : Takes options r a r₁)
    (hstuck : ¬(r₁.Stuck ∧ r₁.awaiting = none)) (as : List String) :
    Tracks forget r₁ r' ∧ r.rest options drops true (a :: as) = r₁.rest options drops false as := by
  obtain ⟨set, hset, hforgets⟩ := h.waits
  obtain ⟨hended, hended'⟩ := h.ended
  cases htakes with
  -- The value stays missing where the options end: no argument behind them can set it.
  | ending => exact (hstuck ⟨h.stuck, rfl⟩).elim
  | long _ hr => exact (h.stuck.long_ne hr).elim
  | @letters cs _ hform hr =>
    cases cs with
    | nil => exact (form_ne_letters_nil r a hform).elim
    | cons c cs => exact (h.stuck.letters_ne hr).elim
  | value _ hset' =>
    obtain rfl := Option.some.inj (hset.symm.trans hset')
    refine ⟨⟨h.places, hended'.trans hended.symm, h.awaiting, fun d hd => ?_, nofun, h.keeps_place⟩,
      by simp [rest, hended, without]⟩
    rw [hforgets _ _ _ hd]
    exact h.pending
  | place _ hset' => cases hset.symm.trans hset'

/-- One argument that is not a value to leave out: it is kept, or it is left out. -/
theorem Tracks.takes (h : Tracks forget r r') (hdivides : Divides forget options drops)
    (htakes : Takes options r a r₁) (as : List String) :
    (∃ r₁', Takes options r' a r₁' ∧ Tracks forget r₁ r₁' ∧
      r.rest options drops false (a :: as) = a :: r₁.rest options drops false as) ∨
    ∃ skip, Follows forget skip r₁ r' ∧
      r.rest options drops false (a :: as) = r₁.rest options drops skip as := by
  have hform : r'.form a = r.form a := by rw [form, form, h.ended]
  cases htakes with
  | ending hr =>
    obtain ⟨hended, harg⟩ := ofArgument_of_form hr nofun
    refine .inl ⟨_, .ending (hform.trans hr),
      ⟨h.places, rfl, rfl, h.pending, nofun, h.keeps_place⟩, ?_⟩
    simp [rest, hended, without, harg]
  | @long name value _ hr hlong =>
    obtain ⟨hended, harg⟩ := ofArgument_of_form hr nofun
    obtain ⟨o, hfind, huse⟩ := long_eq_ok_iff.1 hlong
    have hended₁ := huse.frame.1.trans hended
    have hmem := List.mem_of_find?_eq_some hfind
    cases hdrop : drops o with
    | true =>
      refine .inr ⟨_, h.drop (hdivides.dropped o hmem hdrop).1 hended huse, ?_⟩
      simp [rest, hended, hended₁, without, harg, hfind, hdrop]
    | false =>
      obtain ⟨r₁', huse', htracks⟩ := h.uses (hdivides.kept o hmem hdrop) huse
      have hlong' := long_eq_ok_iff.2 ⟨o, hfind, huse'⟩
      refine .inl ⟨r₁', .long (hform.trans hr) hlong', htracks, ?_⟩
      simp [rest, hended, hended₁, without, harg, hfind, hdrop]
  | letters hr hletters =>
    obtain ⟨hended, harg⟩ := ofArgument_of_form hr nofun
    have hkept : ∀ o ∈ options, o.letter ≠ none → o.effect.All (Keeps forget) := by
      intro o ho hletter
      cases hdrop : drops o with
      | true => exact (hletter (hdivides.dropped o ho hdrop).2).elim
      | false => exact hdivides.kept o ho hdrop
    obtain ⟨r₁', hletters', htracks⟩ := h.letters hkept hletters
    refine .inl ⟨r₁', .letters (hform.trans hr) hletters', htracks, ?_⟩
    simp [rest, hended, (frame_of_letters hletters).1.trans hended, without, harg]
  | @value set hr hset =>
    obtain ⟨-, hdraft, hkeeps⟩ := h.waits set hset
    refine .inl ⟨_, .value (hform.trans hr) (h.awaiting.trans hset),
      ⟨h.places, h.ended, rfl, fun d hd => ?_, nofun, h.keeps_place⟩, rest_of_plain hr as⟩
    show set a r'.draft = _
    rw [hdraft]
    exact hkeeps a _ _ hd
  | @place place places _ hr hset hplaces hsettle =>
    obtain ⟨d, hd, rfl⟩ := settle_eq_ok_iff.1 hsettle
    have hkeeps := h.keeps_place
    rw [hplaces] at hkeeps
    obtain ⟨hplace, hmore⟩ := List.forall_mem_cons.1 hkeeps
    have hsettle' := settle_eq_ok_iff.2 ⟨_, h.pending _ hd, rfl⟩
    exact .inl ⟨_,
      .place (hform.trans hr) (h.awaiting.trans hset) (h.places.trans hplaces) hsettle',
      ⟨rfl, h.ended, rfl, hplace a d, nofun, hmore⟩, rest_of_plain hr as⟩

/-- The arguments that are left are read as all of them are. -/
theorem Follows.scan {skip : Bool} (hdivides : Divides forget options drops)
    (h : Follows forget skip r r') (hscan : r.scan options as = .ok (r₁, none))
    (hstuck : ¬r₁.Stuck) :
    ∃ r₁', r'.scan options (r.rest options drops skip as) = .ok (r₁', none) ∧
      Tracks forget r₁ r₁' := by
  induction as generalizing skip r r' with
  | nil =>
    obtain rfl : r = r₁ := congrArg Prod.fst (Except.ok.inj hscan)
    cases skip with
    | true => exact (hstuck (Skips.stuck h)).elim
    | false =>
      have hnil : r.rest options drops false [] = [] := by simp [rest, without]
      rw [hnil]
      exact ⟨r', rfl, h⟩
  | cons a as ih =>
    rcases scan_cons_eq_ok_iff.1 hscan with ⟨r₂, htakes, hscan⟩ | ⟨-, ⟨⟩⟩
    cases skip with
    | true =>
      have hstuck₂ : ¬(r₂.Stuck ∧ r₂.awaiting = none) :=
        fun ⟨hs, hn⟩ => hstuck (stuck_of_scan hscan hs hn)
      obtain ⟨htracks, hrest⟩ := Skips.takes h htakes hstuck₂ as
      rw [hrest]
      exact ih (show Follows forget false r₂ r' from htracks) hscan
    | false =>
      rcases Tracks.takes h hdivides htakes as with
        ⟨r₂', htakes', htracks, hrest⟩ | ⟨skip, hfollows, hrest⟩
      · obtain ⟨r₁', hscan', htracks₁⟩ :=
          ih (show Follows forget false r₂ r₂' from htracks) hscan
        rw [hrest]
        exact ⟨r₁', scan_cons_eq_ok_iff.2 (.inl ⟨r₂', htakes', hscan'⟩), htracks₁⟩
      · rw [hrest]
        exact ih hfollows hscan

/-- **The arguments without the options that are dropped can be read if all of them can.** What is
read then is what was read, up to what is forgotten. -/
theorem readAll_without {draft d : σ} {places : List (Setter σ)}
    (hdivides : Divides forget options drops)
    (hplaces : ∀ place ∈ places, ∀ a, Keeps forget (place a))
    (hread : readAll options { draft, places } as = .ok d) :
    readAll options { draft := forget draft, places } (without options drops false as) =
      .ok (forget d) := by
  have hstart : Tracks forget { draft, places } { draft := forget draft, places } := by
    refine ⟨rfl, rfl, rfl, ?_, nofun, hplaces⟩
    rintro _ ⟨⟩
    rfl
  obtain ⟨⟨r₁, _ | _⟩, hscan, hread⟩ := bind_eq_ok.1 hread
  · obtain ⟨r₂, hsettle, hread⟩ := bind_eq_ok.1 hread
    cases hread
    obtain ⟨r₁', hscan', htracks⟩ :=
      Follows.scan hdivides (show Follows forget false _ _ from hstart) hscan
        fun hstuck => hstuck.settle_ne hsettle
    obtain ⟨d, hd, rfl⟩ := settle_eq_ok_iff.1 hsettle
    have hsettle' := settle_eq_ok_iff.2 ⟨_, htracks.pending _ hd, rfl⟩
    refine bind_eq_ok.2 ⟨_, hscan', bind_eq_ok.2 ⟨_, hsettle', rfl⟩⟩
  · cases hread

/-! ## Setters -/

section

variable {α : Type} {get : σ → Option α} {parse : String → Except Stop α} {put : σ → α → σ}

theorem keeps_once (hget : ∀ d, get (forget d) = get d)
    (hput : ∀ d a, forget (put d a) = put (forget d) a) (value : String) :
    Keeps forget (once get parse put value) := by
  intro d d' h
  rw [once] at h ⊢
  rw [hget]
  split at h
  · cases h
  · obtain ⟨a, ha, h⟩ := bind_eq_ok.1 h
    cases h
    rw [ha, hput]
    rfl

theorem forgets_once (hput : ∀ d a, forget (put d a) = forget d) (value : String) :
    Forgets forget (once get parse put value) := by
  intro d d' h
  rw [once] at h
  split at h
  · cases h
  · obtain ⟨a, ha, h⟩ := bind_eq_ok.1 h
    cases h
    exact hput d a

end

theorem keeps_flagOnce {get : σ → Bool} {put : σ → σ} (hget : ∀ d, get (forget d) = get d)
    (hput : ∀ d, forget (put d) = put (forget d)) :
    (flagOnce get put).All (Keeps forget) := by
  intro d d' h
  dsimp only at h ⊢
  rw [hget]
  split at h
  · cases h
  · next hset =>
    cases h
    rw [if_neg hset, hput]

theorem forgets_flagOnce {get : σ → Bool} {put : σ → σ} (hput : ∀ d, forget (put d) = forget d) :
    (flagOnce get put).All (Forgets forget) := by
  intro d d' h
  dsimp only at h
  split at h
  · cases h
  · cases h
    exact hput d

theorem keeps_help : (helpOption : Opt σ).effect.All (Keeps forget) := by
  intro d d' h
  cases h

/-! ## The word of a command -/

/-- An option that waits for its value is one of the options. -/
def Waits (options : List (Opt σ)) (r : Reader σ) : Prop :=
  ∀ set, r.awaiting = some set → ∃ o ∈ options, o.effect = .value set

theorem Uses.waits (h : r.Uses o value r₁) (ho : o ∈ options) : r₁.Waits options := by
  obtain ⟨d, rfl | ⟨set, heffect, rfl⟩⟩ := h.after
  · exact nofun
  · rintro _ ⟨⟩
    exact ⟨o, ho, heffect⟩

theorem waits_of_letters {cs : List Char} (h : r.letters options cs = .ok r₁)
    (hwaits : r.Waits options) : r₁.Waits options := by
  induction cs generalizing r with
  | nil =>
    cases h
    exact hwaits
  | cons c cs ih =>
    obtain ⟨o, hfind, ⟨-, r₂, huse, h⟩ | ⟨-, huse⟩⟩ := letters_cons_eq_ok_iff.1 h
    · exact ih h (huse.waits (List.mem_of_find?_eq_some hfind))
    · exact huse.waits (List.mem_of_find?_eq_some hfind)

theorem Takes.waits (h : Takes options r a r₁) (hwaits : r.Waits options)
    (hplaces : r.places = []) : r₁.Waits options ∧ r₁.places = [] := by
  cases h with
  | ending => exact ⟨nofun, hplaces⟩
  | long _ hr =>
    obtain ⟨o, hfind, huse⟩ := long_eq_ok_iff.1 hr
    exact ⟨huse.waits (List.mem_of_find?_eq_some hfind), huse.frame.2.trans hplaces⟩
  | letters _ hr => exact ⟨waits_of_letters hr hwaits, (frame_of_letters hr).2.trans hplaces⟩
  | value => exact ⟨nofun, hplaces⟩
  | place _ _ hplaces' => cases hplaces.symm.trans hplaces'

/-- A word that no option takes for its value is left where it stands first, and the arguments
behind it do not matter. -/
theorem scan_word {bs : List String} (hform : Form.ofArgument a = .plain)
    (hrefuses : ∀ o ∈ options, ∀ set, o.effect = .value set → ∀ d d', set a d ≠ .ok d')
    (hwaits : r.Waits options) (hplaces : r.places = [])
    (hscan : r.scan options as = .ok (r₁, some (a, bs))) (hstuck : ¬r₁.Stuck) :
    ∃ pre, as = pre ++ a :: bs ∧ a ∉ pre ∧
      ∀ bs', r.scan options (pre ++ a :: bs') = .ok (r₁, some (a, bs')) := by
  induction as generalizing r with
  | nil => cases hscan
  | cons b as ih =>
    rcases scan_cons_eq_ok_iff.1 hscan with ⟨r₂, htakes, hscan⟩ | ⟨hleaves, heq⟩
    · obtain ⟨hwaits₂, hplaces₂⟩ := htakes.waits hwaits hplaces
      obtain ⟨pre, rfl, hpre, hlocal⟩ := ih hwaits₂ hplaces₂ hscan
      refine ⟨b :: pre, rfl, ?_, fun bs' => scan_cons_eq_ok_iff.2 (.inl ⟨r₂, htakes, hlocal bs'⟩)⟩
      rw [List.mem_cons, not_or]
      refine ⟨?_, hpre⟩
      rintro rfl
      have hplain : r.form a = .plain := by
        unfold form
        split
        · rfl
        · exact hform
      cases htakes with
      | ending h => cases hplain.symm.trans h
      | long h => cases hplain.symm.trans h
      | letters h => cases hplain.symm.trans h
      -- As the value of an option the word is refused only later, but it is refused for sure.
      | value _ hset =>
        obtain ⟨o, ho, heffect⟩ := hwaits _ hset
        exact hstuck (stuck_of_scan hscan (hrefuses o ho _ heffect) rfl)
      | place _ _ hplaces' => cases hplaces.symm.trans hplaces'
    · cases heq
      exact ⟨[], rfl, List.not_mem_nil, fun bs' => scan_cons_eq_ok_iff.2 (.inr ⟨hleaves, rfl⟩)⟩

end Reader

/-! ## The options of `tokenize` that replace a part of the configuration -/

namespace TokenizeRequest

/-- A draft without what these options set. -/
def Draft.plain (d : Draft) : Draft :=
  { d with chunkSize := none, stepSize := none, flush := none, noTrim := false }

/-- A request without what these options ask for. -/
def plain (t : TokenizeRequest) : TokenizeRequest :=
  { t with chunkSize := none, stepSize := none, flush := none, noTrim := false }

def replaces (o : Opt Draft) : Bool :=
  ["chunk-size", "step-size", "flush", "no-trim"].contains o.word

/-- The arguments of `tokenize` without these options. -/
def withoutOverrides (as : List String) : List String := Reader.without options replaces false as

open Reader in
theorem divides : Divides Draft.plain options replaces where
  kept := by
    intro o ho hkept
    simp only [options, List.mem_cons, List.not_mem_nil, or_false] at ho
    rcases ho with rfl | rfl | rfl | rfl | rfl | rfl | rfl | rfl
    · exact keeps_once (fun _ => rfl) fun _ _ => rfl
    · exact absurd hkept (by decide)
    · exact absurd hkept (by decide)
    · exact absurd hkept (by decide)
    · exact absurd hkept (by decide)
    · exact keeps_flagOnce (fun _ => rfl) fun _ => rfl
    · exact keeps_flagOnce (fun _ => rfl) fun _ => rfl
    · exact keeps_help
  dropped := by
    intro o ho hdropped
    simp only [options, List.mem_cons, List.not_mem_nil, or_false] at ho
    rcases ho with rfl | rfl | rfl | rfl | rfl | rfl | rfl | rfl
    · exact absurd hdropped (by decide)
    · exact ⟨forgets_once fun _ _ => rfl, rfl⟩
    · exact ⟨forgets_once fun _ _ => rfl, rfl⟩
    · exact ⟨forgets_once fun _ _ => rfl, rfl⟩
    · exact ⟨forgets_flagOnce fun _ => rfl, rfl⟩
    · exact absurd hdropped (by decide)
    · exact absurd hdropped (by decide)
    · exact absurd hdropped (by decide)

theorem keeps_place : ∀ place ∈ places, ∀ a, Reader.Keeps Draft.plain (place a) := by
  intro place hplace
  simp only [places, List.mem_cons, List.not_mem_nil, or_false] at hplace
  rcases hplace with rfl | rfl
  · exact Reader.keeps_once (fun _ => rfl) fun _ _ => rfl
  · exact Reader.keeps_once (fun _ => rfl) fun _ _ => rfl

variable {environment : String → Option String} {as : List String} {t : TokenizeRequest}

theorem ofDraft_plain {d : Draft} (hchunk : environment "CHUNKLEX_CHUNK_SIZE" = none)
    (hstep : environment "CHUNKLEX_STEP_SIZE" = none) (h : ofDraft environment d = .ok t) :
    ofDraft environment d.plain = .ok t.plain := by
  obtain ⟨chunkSize, -, h⟩ := bind_eq_ok.1 h
  obtain ⟨stepSize, -, h⟩ := bind_eq_ok.1 h
  split at h
  · cases h
  · next hconflict =>
    split at h
    · cases h
    · next rules hrules =>
      cases h
      simp only [ofDraft, hchunk, hstep, sizeOr, Draft.plain, hrules, bind, Except.bind]
      rw [if_neg hconflict]
      rfl

/-- **Arguments of `tokenize` without these options ask for the same without them.** -/
theorem parse_withoutOverrides (hchunk : environment "CHUNKLEX_CHUNK_SIZE" = none)
    (hstep : environment "CHUNKLEX_STEP_SIZE" = none) (h : parse environment as = .ok t) :
    parse environment (withoutOverrides as) = .ok t.plain := by
  obtain ⟨d, hread, h⟩ := bind_eq_ok.1 h
  have hread' := Reader.readAll_without divides keeps_place hread
  exact bind_eq_ok.2 ⟨_, hread', ofDraft_plain hchunk hstep h⟩

end TokenizeRequest

namespace Arguments

variable {environment : String → Option String} {as : List String} {t : TokenizeRequest}

/-- Arguments of the program without the options that replace a part of the configuration. They
stand behind the first word `tokenize`. -/
def withoutOverrides (as : List String) : List String :=
  as.takeWhile (· ≠ "tokenize") ++
    match as.dropWhile (· ≠ "tokenize") with
    | [] => []
    | word :: rest => word :: TokenizeRequest.withoutOverrides rest

/-- No option takes the name of the command for its value. -/
theorem refuses_tokenize : ∀ o ∈ options, ∀ set, o.effect = .value set →
    ∀ d d', set "tokenize" d ≠ .ok d' := by
  intro o ho set heffect d d' h
  simp only [options, List.mem_cons, List.not_mem_nil, or_false] at ho
  rcases ho with rfl | rfl | rfl | rfl | rfl | rfl <;> cases heffect
  rw [once] at h
  split at h
  · cases h
  · obtain ⟨_, hword, -⟩ := bind_eq_ok.1 h
    cases hword

/-- Where the arguments of `tokenize` stand in those of the program. -/
theorem parse_tokenize {verbose : Nat} {style : Style}
    (h : parse environment as = .ok ⟨verbose, style, .tokenize t⟩) :
    ∃ pre rest, as = pre ++ "tokenize" :: rest ∧ "tokenize" ∉ pre ∧
      TokenizeRequest.parse environment rest = .ok t ∧
      ∀ rest' t', TokenizeRequest.parse environment rest' = .ok t' →
        parse environment (pre ++ "tokenize" :: rest') = .ok ⟨verbose, style, .tokenize t'⟩ := by
  obtain ⟨⟨r, _ | ⟨word, rest⟩⟩, hscan, h⟩ := bind_eq_ok.1 h
  · obtain ⟨r₁, -, h⟩ := bind_eq_ok.1 h
    cases h
  · dsimp only at h
    split at h
    · cases h
    · next hended =>
      split at h
      · next hword =>
        subst hword
        obtain ⟨t', hparse, h⟩ := bind_eq_ok.1 h
        obtain ⟨r₁, hsettle, h⟩ := bind_eq_ok.1 h
        cases h
        have hwaits : Reader.Waits options { draft := {} } := nofun
        obtain ⟨pre, rfl, hpre, hlocal⟩ := Reader.scan_word rfl refuses_tokenize hwaits rfl hscan
          fun hstuck => hstuck.settle_ne hsettle
        refine ⟨pre, rest, rfl, hpre, hparse, fun rest' t' hparse' => ?_⟩
        simp only [parse, hlocal, hended, hparse', hsettle, bind, Except.bind]
        rfl
      · split at h
        · obtain ⟨rules, -, h⟩ := bind_eq_ok.1 h
          obtain ⟨r₁, -, h⟩ := bind_eq_ok.1 h
          cases h
        · cases h

/-- **Arguments without these options ask for the same without them.** -/
theorem parse_withoutOverrides {verbose : Nat} {style : Style}
    (hchunk : environment "CHUNKLEX_CHUNK_SIZE" = none)
    (hstep : environment "CHUNKLEX_STEP_SIZE" = none)
    (h : parse environment as = .ok ⟨verbose, style, .tokenize t⟩) :
    parse environment (withoutOverrides as) = .ok ⟨verbose, style, .tokenize t.plain⟩ := by
  obtain ⟨pre, rest, rfl, hpre, hparse, hlocal⟩ := parse_tokenize h
  have hpass : ∀ a ∈ pre, decide (a ≠ "tokenize") = true :=
    fun a ha => decide_eq_true fun heq => hpre (heq ▸ ha)
  have hsplit : withoutOverrides (pre ++ "tokenize" :: rest) =
      pre ++ "tokenize" :: TokenizeRequest.withoutOverrides rest := by
    rw [withoutOverrides, List.takeWhile_append_of_pos hpass, List.dropWhile_append_of_pos hpass]
    simp
  rw [hsplit]
  exact hlocal _ _ (TokenizeRequest.parse_withoutOverrides hchunk hstep hparse)

example : withoutOverrides
    ["-q", "tokenize", "--chunk-size", "4", "r.json", "--flush=per-chunk", "--", "--no-trim"] =
    ["-q", "tokenize", "r.json", "--", "--no-trim"] := by
  decide +kernel

end Arguments

end Munch.Command
