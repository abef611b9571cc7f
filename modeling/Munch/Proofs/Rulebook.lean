import Munch.Pattern.Size
import Munch.Rulebook
import Munch.Proofs.Pattern.Probe
import Munch.Proofs.Pattern.Reading

/-!
# Which rule wins a text

A rule **fits** a text if its pattern, between its anchors, occurs in the text. The book decides
this with its pattern set, and so it must keep the set **coherent** with its rules; every book that
the operations lead to does, whatever the footprint of the patterns.

**Theorem (`Coherent.winner?_eq_find?`).** The winner of a text is the first rule that fits it.

**Theorem (`Coherent.fits_of_accepts`).** What the probe accepts, some rule fits; the converse may
fail.
-/

namespace Munch

/-- Whether the pattern of the rule occurs in the text. -/
def Rule.fits (r : Rule) (text : List Char) : Bool := r.pattern.regex.occursIn text

theorem Rule.fits_of_accepts {r : Rule} {text : List Char} (h : r.accepts text = true) :
    r.fits text = true := by
  unfold accepts Pattern.accepts at h
  split_ifs at h
  · exact h
  · obtain ⟨p, hp, hocc⟩ := PatternSet.exists_occursIn_of_accepts h
    obtain rfl : p = r.pattern := by simpa using hp
    exact hocc

namespace Rulebook

open Pattern (WithinLimit)

variable {b b' : Rulebook} {text : List Char}

/-- Whether some rule of the book fits the text. -/
def fits (b : Rulebook) (text : List Char) : Bool := b.rules.toList.any (·.fits text)

theorem fits_iff : b.fits text = true ↔ ∃ r ∈ b.rules, r.fits text = true := by
  simp only [fits, List.any_eq_true, Array.mem_toList_iff]

/-! ## Ignoring a rule -/

theorem ignore_fst (b : Rulebook) (name : String) :
    (b.ignore name).1 = b ∨ ∃ position, b.names.lookup (lowercase name) = some position ∧
      (b.ignore name).1 =
        { b with rules := b.rules.modify position fun r => { r with ignored := true } } := by
  unfold ignore ignore?
  cases hl : b.names.lookup (lowercase name) with
  | none => exact Or.inl rfl
  | some position => exact Or.inr ⟨position, rfl, rfl⟩

/-- Nothing of a rule but its flag changes if it is ignored. -/
theorem map_rules_ignore {α : Type} {f : Rule → α} (hf : ∀ r, f { r with ignored := true } = f r)
    (b : Rulebook) (name : String) :
    (b.ignore name).1.rules.toList.map f = b.rules.toList.map f := by
  rcases ignore_fst b name with hb | ⟨position, -, hb⟩
  · rw [hb]
  · rw [hb]
    show (b.rules.modify position _).toList.map f = b.rules.toList.map f
    rw [Array.toList_modify]
    apply List.ext_getElem?
    intro i
    simp only [List.getElem?_map, List.getElem?_modify]
    split_ifs <;> cases b.rules.toList[i]? <;> simp [hf]

/-- The pattern set of the book is that of its rules. -/
structure Coherent (b : Rulebook) : Prop where
  patterns : b.patterns.patterns.toList = b.rules.toList.map Rule.pattern

theorem Coherent.ignore (h : b.Coherent) (name : String) : (b.ignore name).1.Coherent := by
  refine ⟨?_⟩
  rw [map_rules_ignore fun _ => rfl, ← h.patterns]
  rcases ignore_fst b name with hb | ⟨position, -, hb⟩ <;> rw [hb]

/-! ## Reachable books -/

section

variable [Footprint]

/-- The books that the operations lead to. -/
inductive Reachable : Rulebook → Prop
  | empty : Reachable .empty
  | add {b b' : Rulebook} {e : RuleEntry} : Reachable b → b.add e = .ok b' → Reachable b'
  | ignore {b : Rulebook} (name : String) : Reachable b → Reachable (b.ignore name).1

/-- The book with the rule of an entry, or as it is if the rule is refused. -/
def offer (b : Rulebook) (e : RuleEntry) : Rulebook :=
  match b.add e with
  | .ok b' => b'
  | .error _ => b

theorem Reachable.offer (h : b.Reachable) (e : RuleEntry) : (b.offer e).Reachable := by
  unfold Rulebook.offer
  cases hadd : b.add e with
  | ok b' => exact h.add hadd
  | error _ => exact h

theorem add_eq_ok_offer {e : RuleEntry} (h : (b.add e).isOk = true) :
    b.add e = .ok (b.offer e) := by
  obtain ⟨b', hadd⟩ := isOk_iff.1 h
  rw [offer, hadd]

/-- The pattern is not too big for one set with those of the book. -/
def HasRoom (b : Rulebook) (p : Pattern) : Prop :=
  WithinLimit (b.rules.toList.map Rule.pattern ++ [p])

instance (b : Rulebook) (p : Pattern) : Decidable (b.HasRoom p) :=
  inferInstanceAs (Decidable (WithinLimit _))

/-- A rule is added if its key is free, and then if there is room for its pattern in the set. -/
theorem push_eq (b : Rulebook) (r : Rule) :
    b.push r =
      if b.clashes r then .error (.duplicateRule r.name r.pattern.source)
      else if b.HasRoom r.pattern then
        .ok { rules := b.rules.push r
              names := enterName b.names (lowercase r.name) b.rules.size
              patterns := ⟨(b.rules.push r).map Rule.pattern⟩ }
      else .error (.invalidPattern r.pattern.source .tooBig) := by
  have hpatterns : ((b.rules.push r).map Rule.pattern).toList =
      b.rules.toList.map Rule.pattern ++ [r.pattern] := by simp
  unfold push PatternSet.ofPatterns HasRoom
  simp only [hpatterns]
  by_cases hroom : WithinLimit (b.rules.toList.map Rule.pattern ++ [r.pattern]) <;> simp [hroom]

theorem push_eq_ok {r : Rule} :
    b.push r = .ok b' ↔
      b.clashes r = false ∧ b.HasRoom r.pattern ∧ b' =
        { rules := b.rules.push r
          names := enterName b.names (lowercase r.name) b.rules.size
          patterns := ⟨(b.rules.push r).map Rule.pattern⟩ } := by
  rw [push_eq]
  cases b.clashes r with
  | true => simp
  | false =>
    by_cases hroom : b.HasRoom r.pattern <;> simp [hroom, eq_comm]

theorem add_eq_ok {e : RuleEntry} :
    b.add e = .ok b' ↔ ∃ r, e.toRule = .ok r ∧ b.push r = .ok b' := bind_eq_ok

/-- The set is compiled for all rules anew. -/
theorem coherent_of_push {r : Rule} (hp : b.push r = .ok b') : b'.Coherent := by
  obtain ⟨-, -, rfl⟩ := push_eq_ok.1 hp
  exact ⟨Array.toList_map⟩

theorem Reachable.coherent (h : b.Reachable) : b.Coherent := by
  induction h with
  | empty => exact ⟨rfl⟩
  | add _ hadd _ =>
    obtain ⟨r, -, hpush⟩ := add_eq_ok.1 hadd
    exact coherent_of_push hpush
  | ignore name _ ih => exact ih.ignore name

end

/-- A book in which both rules match one letter, and the second is ignored. -/
def letters : Rulebook :=
  (Rulebook.empty.offer ⟨"a+", "run", false⟩).offer ⟨"a|b", "letter", true⟩

theorem reachable_letters : letters.Reachable := (Reachable.empty.offer _).offer _

/-- A book whose second rule matches the empty text inside a character. -/
def inside : Rulebook :=
  (Rulebook.empty.offer ⟨"(?s:.+)", "any", false⟩).offer ⟨"z)|(?-u:\\B)|(?:q", "inside", false⟩

theorem reachable_inside : inside.Reachable := (Reachable.empty.offer _).offer _

/-! ## Winners -/

namespace Coherent

theorem priority?_eq_findIdx? (h : b.Coherent) (text : List Char) :
    b.priority? text = b.rules.toList.findIdx? (·.fits text) := by
  show b.patterns.first? text = _
  rw [PatternSet.first?_eq_findIdx?, h.patterns, List.findIdx?_map]
  rfl

theorem isSome_priority? (h : b.Coherent) (text : List Char) :
    (b.priority? text).isSome = b.fits text := by
  rw [h.priority?_eq_findIdx?, List.findIdx?_isSome]
  rfl

/-- **The winner of a text is the first rule that fits it.** -/
theorem winner?_eq_find? (h : b.Coherent) (text : List Char) :
    b.winner? text = b.rules.toList.find? (·.fits text) := by
  show ((b.priority? text).bind fun i => b.rules[i]?) = _
  rw [h.priority?_eq_findIdx?]
  simp only [← Array.getElem?_toList]
  induction b.rules.toList with
  | nil => rfl
  | cons r rs ih =>
    rw [List.findIdx?_cons, List.find?_cons]
    cases r.fits text with
    | true => rfl
    | false =>
      rw [← ih]
      cases rs.findIdx? (·.fits text) <;> rfl

theorem mem_patterns_iff (h : b.Coherent) {p : Pattern} :
    p ∈ b.patterns.patterns ↔ ∃ r ∈ b.rules, r.pattern = p := by
  rw [← Array.mem_toList_iff, h.patterns, List.mem_map]
  simp only [Array.mem_toList_iff]

/-- What the probe of the book accepts, the probe of one of its rules accepts. -/
theorem exists_accepts_of_accepts (h : b.Coherent) (hacc : b.accepts text = true) :
    ∃ r ∈ b.rules, r.accepts text = true := by
  obtain ⟨q, hq, hqt⟩ := PatternSet.exists_accepts_of_accepts hacc
  obtain ⟨r, hr, rfl⟩ := h.mem_patterns_iff.1 hq
  exact ⟨r, hr, hqt⟩

/-- What the probe of the book accepts, some rule fits. -/
theorem fits_of_accepts (h : b.Coherent) (hacc : b.accepts text = true) : b.fits text = true := by
  obtain ⟨q, hq, hqt⟩ := PatternSet.exists_occursIn_of_accepts hacc
  obtain ⟨r, hr, rfl⟩ := h.mem_patterns_iff.1 hq
  exact fits_iff.2 ⟨r, hr, hqt⟩

theorem isSome_winner?_of_accepts (h : b.Coherent) (hacc : b.accepts text = true) :
    (b.winner? text).isSome = true := by
  rw [h.winner?_eq_find?, List.find?_isSome]
  exact List.any_eq_true.1 (h.fits_of_accepts hacc)

theorem accepts_eq_fits (h : b.Coherent)
    (hin : ∀ r ∈ b.rules, r.pattern.regex.nullableInside = false) (text : List Char) :
    b.accepts text = b.fits text := by
  have hin' : ∀ q ∈ b.patterns.patterns, q.regex.nullableInside = false := by
    intro q hq
    obtain ⟨r, hr, rfl⟩ := h.mem_patterns_iff.1 hq
    exact hin r hr
  show b.patterns.accepts text = _
  rw [PatternSet.accepts_of_not_nullableInside hin', h.patterns, List.any_map]
  rfl

end Coherent

end Rulebook

end Munch
