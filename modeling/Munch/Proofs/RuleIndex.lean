import Munch.Proofs.Rulebook
import Mathlib.Data.List.Induction

/-!
# A book is made of its rules

A book keeps an index of names and a pattern set beside its rules. Both can be made from the rules
again, whatever happened to the book before.

**Theorem (`Reachable.eq_ofRules`).** A reachable book is the one that its rules make up.

**Theorem (`ignore_eq`).** Ignoring a name goes to the first rule of the name.

**Theorem (`Reachable.compiled`).** Each rule of a reachable book is the one that its entry
describes.

**Theorem (`Reachable.roomInTurn`).** The patterns of a reachable book find room in turn: each of
them, together with those before it, is not too big for one set. So the rules can be added again.
-/

namespace Munch

section

variable [Footprint]

/-! ## Rules and their entries -/

theorem Pattern.ofSource_eq_ok {source : String} {p : Pattern} :
    ofSource source = .ok p ↔
      compile (anchored source) = .ok p.regex ∧ p.source = source ∧
        Footprint.alone p ≤ sizeLimit := by
  unfold ofSource
  cases compile (anchored source) with
  | error cause => simp [bind, Except.bind]
  | ok regex =>
    obtain ⟨source', regex'⟩ := p
    by_cases hroom : Footprint.alone ⟨source, regex⟩ ≤ sizeLimit <;>
      simp [bind, Except.bind, hroom] <;> grind

/-- The pattern is the one that its source stands for. -/
def Pattern.Compiled (p : Pattern) : Prop := Pattern.ofSource p.source = .ok p

theorem Pattern.source_of_ofSource {source : String} {p : Pattern} (h : ofSource source = .ok p) :
    p.source = source := by
  exact (ofSource_eq_ok.1 h).2.1

theorem Pattern.compiled_of_ofSource {source : String} {p : Pattern} (h : ofSource source = .ok p) :
    p.Compiled := by
  rw [Compiled, source_of_ofSource h, h]

/-- Patterns that are compiled differ in their sources. -/
theorem Pattern.Compiled.eq_of_source {p q : Pattern} (hp : p.Compiled) (hq : q.Compiled)
    (h : p.source = q.source) : p = q := by
  unfold Compiled at hp hq
  rw [h, hq] at hp
  exact (Except.ok.inj hp).symm

theorem RuleEntry.toRule_eq_ok {e : RuleEntry} {r : Rule} (h : e.toRule = .ok r) :
    r.entry = e ∧ r.pattern.Compiled := by
  unfold toRule at h
  split at h
  · rename_i p hp
    cases h
    exact ⟨by rw [Rule.entry, Pattern.source_of_ofSource hp], Pattern.compiled_of_ofSource hp⟩
  · cases h

theorem Rule.toRule_entry {r : Rule} (h : r.pattern.Compiled) : r.entry.toRule = .ok r := by
  show RuleEntry.toRule ⟨r.pattern.source, r.name, r.ignored⟩ = .ok r
  rw [RuleEntry.toRule, h]

/-! ## Room in a set -/

/-- Each of the patterns finds room in the set of those before it. -/
def Pattern.RoomInTurn (ps : List Pattern) : Prop :=
  ∀ part, part <+: ps → part ≠ [] → WithinLimit part

theorem Pattern.roomInTurn_nil : RoomInTurn [] :=
  fun _ hpart hne => (hne (List.prefix_nil.1 hpart)).elim

theorem Pattern.roomInTurn_concat_iff {ps : List Pattern} {p : Pattern} :
    RoomInTurn (ps ++ [p]) ↔ RoomInTurn ps ∧ WithinLimit (ps ++ [p]) := by
  constructor
  · intro h
    exact ⟨fun part hpart => h part (hpart.trans (List.prefix_append ..)),
      h _ (List.prefix_refl _) (by simp)⟩
  · rintro ⟨h, hlast⟩ part hpart hne
    rcases List.prefix_concat_iff.1 hpart with rfl | hpart
    · exact hlast
    · exact h part hpart hne

namespace Rulebook

variable {b b' : Rulebook}

theorem Reachable.compiled (h : b.Reachable) :
    ∀ p ∈ b.rules.toList.map Rule.pattern, p.Compiled := by
  induction h with
  | empty => exact nofun
  | add _ hadd ih =>
    obtain ⟨r, hr, hpush⟩ := add_eq_ok.1 hadd
    obtain ⟨-, -, rfl⟩ := push_eq_ok.1 hpush
    intro p hp
    rw [Array.toList_push, List.map_append, List.mem_append] at hp
    rcases hp with hp | hp
    · exact ih p hp
    · rw [List.mem_singleton.1 hp]
      exact (RuleEntry.toRule_eq_ok hr).2
  | ignore name _ ih =>
    rw [map_rules_ignore fun _ => rfl]
    exact ih

theorem Reachable.compiled_of_mem {r : Rule} (h : b.Reachable) (hr : r ∈ b.rules) :
    r.pattern.Compiled := h.compiled _ (List.mem_map_of_mem (Array.mem_toList_iff.2 hr))

/-- **The rules of a reachable book can be added again.** -/
theorem Reachable.roomInTurn (h : b.Reachable) :
    Pattern.RoomInTurn (b.rules.toList.map Rule.pattern) := by
  induction h with
  | empty => exact Pattern.roomInTurn_nil
  | add _ hadd ih =>
    obtain ⟨r, -, hpush⟩ := add_eq_ok.1 hadd
    obtain ⟨-, hroom, rfl⟩ := push_eq_ok.1 hpush
    rw [Array.toList_push, List.map_append]
    exact Pattern.roomInTurn_concat_iff.2 ⟨ih, hroom⟩
  | ignore name _ ih =>
    rw [map_rules_ignore fun _ => rfl]
    exact ih

end Rulebook

end

namespace Rulebook

variable {b b' : Rulebook}

/-! ## The index of names -/

/-- The index of some names. -/
def nameIndex (names : List String) : List (String × Nat) :=
  names.zipIdx.foldl (fun index (name, i) => enterName index (lowercase name) i) []

theorem nameIndex_concat (names : List String) (name : String) :
    nameIndex (names ++ [name]) = enterName (nameIndex names) (lowercase name) names.length := by
  unfold nameIndex
  rw [List.zipIdx_append, List.foldl_append, Nat.zero_add]
  rfl

theorem lookup_enterName (index : List (String × Nat)) (name key : String) (position : Nat) :
    (enterName index name position).lookup key =
      (index.lookup key).or (if name = key then some position else none) := by
  unfold enterName
  by_cases hkey : name = key
  · subst hkey
    cases hl : index.lookup name <;> simp [hl, List.lookup_append]
  · have hone : [(name, position)].lookup key = none := by
      rw [List.lookup_cons, beq_false_of_ne (Ne.symm hkey)]
      rfl
    cases index.lookup name <;> simp [hkey, List.lookup_append, hone]

/-- The index has the first place of each name. -/
theorem lookup_nameIndex (names : List String) (key : String) :
    (nameIndex names).lookup key = names.findIdx? fun name => lowercase name = key := by
  induction names using List.reverseRecOn with
  | nil => rfl
  | append_singleton names name ih =>
    rw [nameIndex_concat, lookup_enterName, List.findIdx?_append, ih]
    by_cases hkey : lowercase name = key <;> simp [hkey]

/-! ## Books from rules -/

/-- The book that the rules make up. -/
def ofRules (rules : Array Rule) : Rulebook where
  rules
  names := nameIndex (rules.toList.map Rule.name)
  patterns := ⟨rules.map Rule.pattern⟩

@[simp] theorem rules_ofRules (rules : Array Rule) : (ofRules rules).rules = rules := rfl

theorem ofRules_empty : ofRules #[] = .empty := by
  rw [ofRules, Array.map_empty]
  rfl

theorem ofRules_push (rules : Array Rule) (r : Rule) :
    ofRules (rules.push r) =
      { rules := rules.push r
        names := enterName (ofRules rules).names (lowercase r.name) rules.size
        patterns := ⟨(rules.push r).map Rule.pattern⟩ } := by
  have hnames : nameIndex ((rules.push r).toList.map Rule.name) =
      enterName (nameIndex (rules.toList.map Rule.name)) (lowercase r.name) rules.size := by
    rw [Array.toList_push, List.map_append, List.map_singleton, nameIndex_concat, List.length_map,
      Array.length_toList]
  show Rulebook.mk _ _ _ = _
  rw [hnames]
  rfl

/-- A rule that is not refused is made part of the book that the rules make up. -/
theorem push_ofRules [Footprint] (rules : Array Rule) (r : Rule) :
    (ofRules rules).push r =
      if (ofRules rules).clashes r then .error (.duplicateRule r.name r.pattern.source)
      else if (ofRules rules).HasRoom r.pattern then .ok (ofRules (rules.push r))
      else .error (.invalidPattern r.pattern.source .tooBig) := by
  rw [push_eq, ofRules_push]
  rfl

/-- Nothing but the rules changes if each rule keeps its name and its pattern. -/
theorem ofRules_congr {rules rules' : Array Rule}
    (hnames : rules'.toList.map Rule.name = rules.toList.map Rule.name)
    (hpatterns : rules'.toList.map Rule.pattern = rules.toList.map Rule.pattern) :
    ofRules rules' = { ofRules rules with rules := rules' } := by
  have hset : rules'.map Rule.pattern = rules.map Rule.pattern := by
    rw [← Array.toList_inj, Array.toList_map, Array.toList_map, hpatterns]
  rw [ofRules, hnames, hset]
  rfl

/-- **A reachable book is the one that its rules make up.** -/
theorem Reachable.eq_ofRules [Footprint] (h : b.Reachable) : b = ofRules b.rules := by
  induction h with
  | empty => exact ofRules_empty.symm
  | add _ hadd ih =>
    obtain ⟨r, -, hpush⟩ := add_eq_ok.1 hadd
    obtain ⟨-, -, rfl⟩ := push_eq_ok.1 hpush
    rw [ofRules_push, ← ih]
  | @ignore b name _ ih =>
    rw [ofRules_congr (map_rules_ignore (fun _ => rfl) b name)
      (map_rules_ignore (fun _ => rfl) b name), ← ih]
    rcases ignore_fst b name with hb | ⟨position, -, hb⟩ <;> rw [hb]

/-! ## Ignoring by name -/

/-- The position of the first rule of a name, in any case of letters. -/
def named? (b : Rulebook) (name : String) : Option Nat :=
  b.rules.toList.findIdx? fun r => lowercase r.name = lowercase name

/-- The book with the rule at a position ignored. -/
def ignoreAt (b : Rulebook) (i : Nat) : Rulebook :=
  { b with rules := b.rules.modify i fun r => { r with ignored := true } }

theorem exists_of_named {name : String} {i : Nat} (h : b.named? name = some i) :
    ∃ r, b.rules[i]? = some r ∧ lowercase r.name = lowercase name := by
  obtain ⟨hi, hname, -⟩ := List.findIdx?_eq_some_iff_getElem.1 h
  refine ⟨b.rules.toList[i], ?_, of_decide_eq_true hname⟩
  rw [← Array.getElem?_toList, List.getElem?_eq_getElem hi]

/-- The index leads to the first rule of a name. -/
theorem Reachable.lookup_names [Footprint] (h : b.Reachable) (name : String) :
    b.names.lookup (lowercase name) = b.named? name := by
  have hnames : b.names = nameIndex (b.rules.toList.map Rule.name) :=
    congrArg Rulebook.names h.eq_ofRules
  rw [hnames, lookup_nameIndex, List.findIdx?_map]
  rfl

theorem ignore?_eq [Footprint] (h : b.Reachable) (name : String) :
    b.ignore? name = (b.named? name).map b.ignoreAt := by
  rw [ignore?, h.lookup_names]
  cases b.named? name <;> rfl

/-- **Ignoring a name goes to the first rule of the name.** -/
theorem ignore_eq [Footprint] (h : b.Reachable) (name : String) :
    b.ignore name =
      match b.named? name with
      | some i => (b.ignoreAt i, [])
      | none => (b, [Log.unknownRule name]) := by
  rw [ignore, ignore?_eq h]
  cases b.named? name <;> rfl

end Rulebook

end Munch
