import Munch.Proofs.RuleKeys
import Munch.Proofs.Tokenizer

/-!
# Calls that are refused

Three **calls** change a tokenizer: they add a rule, ignore a name, or replace the configuration.
A call may be **refused**, and then answers with the reason.

**Theorem (`call_refused_iff`).** A rule is refused if its pattern does not compile, or else if a
rule has its pattern and its flag, or else if its pattern is too big for one set with those of the
book, and in no other case; a rule that is not refused is the last one. A configuration is refused
if and only if it is not valid. The calls that are refused can be left out of a history: the
tokenizer is the same, and so are the answers to the other calls.

So where patterns that compile are never too big together, the first two reasons are all there is.

A reachable book is the one that its rules make up. So the rules and the configuration are all there
is to a reachable tokenizer, and it is enough to say what a call makes of these.
-/

namespace Munch

open Pattern (ofSource)

namespace Tokenizer

/-! ## Replacing the configuration -/

section

variable {t t' : Tokenizer} {c : Config}

theorem reconfigure_eq_error_iff :
    (∃ cause, t.reconfigure c = .error (.invalidConfig cause)) ↔
      ¬(1 ≤ c.stepSize ∧ c.stepSize ≤ c.chunkSize) := by
  rw [← Config.check_eq_ok_iff, reconfigure]
  cases c.check <;> simp

theorem reconfigure_eq_ok_iff :
    t.reconfigure c = .ok t' ↔
      (1 ≤ c.stepSize ∧ c.stepSize ≤ c.chunkSize) ∧ t' = { t with config := c } := by
  rw [← Config.check_eq_ok_iff, reconfigure]
  cases c.check <;> simp [eq_comm]

end

end Tokenizer

section

variable [Footprint] {e : RuleEntry} {p : Pattern} {cause : Pattern.Error} {err : Error}

/-- The rule of an entry with its pattern. -/
def RuleEntry.rule (e : RuleEntry) (p : Pattern) : Rule := ⟨p, e.name, e.ignored⟩

theorem RuleEntry.toRule_of_ok (hp : ofSource e.pattern = .ok p) : e.toRule = .ok (e.rule p) := by
  rw [toRule, hp]
  rfl

theorem RuleEntry.toRule_of_error (hp : ofSource e.pattern = .error cause) :
    e.toRule = .error (.invalidPattern e.pattern cause) := by
  rw [toRule, hp]

namespace Rulebook

variable {b : Rulebook}

/-! ## Adding a rule -/

/-- A rule of the book has the pattern and the flag of the entry. -/
def Takes (b : Rulebook) (e : RuleEntry) : Prop :=
  ∃ r ∈ b.rules, r.pattern.source = e.pattern ∧ r.ignored = e.ignored

instance (b : Rulebook) (e : RuleEntry) : Decidable (b.Takes e) :=
  inferInstanceAs (Decidable (∃ r ∈ b.rules, _))

theorem clashes_rule_iff (hp : ofSource e.pattern = .ok p) :
    b.clashes (e.rule p) = true ↔ b.Takes e := by
  rw [← Bool.not_eq_false, clashes_eq_false_iff]
  simp only [Array.mem_toList_iff, ne_eq, not_forall, not_not, exists_prop]
  refine exists_congr fun s => and_congr_right fun _ => ?_
  rw [← Pattern.source_of_ofSource hp]
  exact Prod.ext_iff

theorem add_of_error (hp : ofSource e.pattern = .error cause) :
    b.add e = .error (.invalidPattern e.pattern cause) := by
  rw [add, RuleEntry.toRule_of_error hp]
  rfl

theorem add_of_takes (hp : ofSource e.pattern = .ok p) (ht : b.Takes e) :
    b.add e = .error (.duplicateRule e.name e.pattern) := by
  rw [add, RuleEntry.toRule_of_ok hp]
  refine (if_pos ((clashes_rule_iff hp).2 ht)).trans ?_
  rw [← Pattern.source_of_ofSource hp]
  rfl

theorem add_of_not_takes (h : b.Reachable) (hp : ofSource e.pattern = .ok p) (ht : ¬b.Takes e) :
    b.add e =
      if b.HasRoom p then .ok (ofRules (b.rules.push (e.rule p)))
      else .error (.invalidPattern e.pattern .tooBig) := by
  have hpush := push_ofRules b.rules (e.rule p)
  rw [← h.eq_ofRules, if_neg (mt (clashes_rule_iff hp).1 ht)] at hpush
  rw [add, RuleEntry.toRule_of_ok hp, ← Pattern.source_of_ofSource hp]
  exact hpush

end Rulebook

namespace Tokenizer

variable {t t' : Tokenizer} {c : Config}

/-! ## Changing a tokenizer -/

/-- Why adding a rule is refused: its pattern does not compile, or else a rule has its pattern and
its flag, or else its pattern is too big together with those of the book. -/
theorem add_eq_error_iff (h : t.Reachable) :
    t.add e = .error err ↔
      (∃ cause, ofSource e.pattern = .error cause ∧ err = .invalidPattern e.pattern cause) ∨
      ∃ p, ofSource e.pattern = .ok p ∧
        (t.rules.Takes e ∧ err = .duplicateRule e.name e.pattern ∨
          ¬t.rules.Takes e ∧ ¬t.rules.HasRoom p ∧ err = .invalidPattern e.pattern .tooBig) := by
  unfold add
  cases hp : ofSource e.pattern with
  | error cause => simp [Rulebook.add_of_error hp, bind, Except.bind, eq_comm]
  | ok p =>
    by_cases ht : t.rules.Takes e
    · simp [Rulebook.add_of_takes hp ht, ht, bind, Except.bind, eq_comm]
    · rw [Rulebook.add_of_not_takes h.sound.rules hp ht]
      by_cases hroom : t.rules.HasRoom p <;> simp [ht, hroom, bind, Except.bind, eq_comm]

/-- A rule that is not refused is the last one. -/
theorem add_eq_ok_iff (h : t.Reachable) :
    t.add e = .ok t' ↔
      ∃ p, ofSource e.pattern = .ok p ∧ ¬t.rules.Takes e ∧ t.rules.HasRoom p ∧
        t' = ⟨.ofRules (t.rules.rules.push (e.rule p)), t.config⟩ := by
  unfold add
  cases hp : ofSource e.pattern with
  | error cause => simp [Rulebook.add_of_error hp, bind, Except.bind]
  | ok p =>
    by_cases ht : t.rules.Takes e
    · simp [Rulebook.add_of_takes hp ht, ht, bind, Except.bind]
    · rw [Rulebook.add_of_not_takes h.sound.rules hp ht]
      by_cases hroom : t.rules.HasRoom p <;> simp [ht, hroom, bind, Except.bind, eq_comm]

/-- The rules and the configuration are all there is to a reachable tokenizer. -/
theorem Reachable.ext (h : t.Reachable) (h' : t'.Reachable)
    (hrules : t.rules.rules = t'.rules.rules) (hconfig : t.config = t'.config) : t = t' := by
  have hbook : t.rules = t'.rules := by
    rw [h.sound.rules.eq_ofRules, h'.sound.rules.eq_ofRules, hrules]
  obtain ⟨b, c⟩ := t
  obtain ⟨b', c'⟩ := t'
  exact congrArg₂ Tokenizer.mk hbook hconfig

/-! ## Histories -/

/-- A call that changes a tokenizer, or is refused. -/
inductive Call where
  | add (e : RuleEntry)
  | ignore (name : String)
  | reconfigure (c : Config)

/-- What a call makes of a tokenizer, with the lines that it logs. -/
def perform (t : Tokenizer) : Call → Except Error (Tokenizer × List Log.Line)
  | .add e => do .ok (← t.add e, [])
  | .ignore name => .ok (t.ignore name)
  | .reconfigure c => do .ok (← t.reconfigure c, [])

/-- The tokenizer after a call; one that is refused changes nothing. -/
def next (t : Tokenizer) (call : Call) : Tokenizer :=
  match t.perform call with
  | .ok (t', _) => t'
  | .error _ => t

/-- The lines that a call logs, or the reason why it is refused. -/
def answer (t : Tokenizer) (call : Call) : Except Error (List Log.Line) :=
  (t.perform call).map Prod.snd

/-- The tokenizer after some calls. -/
def after (t : Tokenizer) (calls : List Call) : Tokenizer := calls.foldl next t

/-- The answers to some calls. -/
def answers (t : Tokenizer) : List Call → List (Except Error (List Log.Line))
  | [] => []
  | call :: calls => t.answer call :: (t.next call).answers calls

/-- Those of some calls that are not refused. -/
def granted (t : Tokenizer) : List Call → List Call
  | [] => []
  | call :: calls =>
    if (t.answer call).isOk then call :: (t.next call).granted calls else t.granted calls

theorem Reachable.perform {call : Call} {lines : List Log.Line} (h : t.Reachable)
    (hp : t.perform call = .ok (t', lines)) : t'.Reachable := by
  cases call with
  | add e =>
    obtain ⟨_, hadd, hp⟩ := bind_eq_ok.1 hp
    cases hp
    exact h.add hadd
  | ignore name =>
    cases hp
    exact h.ignore name
  | reconfigure c =>
    obtain ⟨_, hr, hp⟩ := bind_eq_ok.1 hp
    cases hp
    exact h.reconfigure hr

theorem Reachable.next (h : t.Reachable) (call : Call) : (t.next call).Reachable := by
  unfold Tokenizer.next
  cases hp : t.perform call with
  | ok _ => exact h.perform hp
  | error _ => exact h

theorem Reachable.after (h : t.Reachable) (calls : List Call) : (t.after calls).Reachable := by
  induction calls generalizing t with
  | nil => exact h
  | cons call calls ih => exact ih (h.next call)

/-- A call that is refused changes nothing. -/
theorem next_eq_of_answer {call : Call} (h : t.answer call = .error err) : t.next call = t := by
  unfold answer at h
  unfold next
  cases hp : t.perform call with
  | ok _ =>
    rw [hp] at h
    cases h
  | error _ => rfl

/-- The calls that are refused can be left out. -/
theorem after_granted (t : Tokenizer) (calls : List Call) :
    t.after (t.granted calls) = t.after calls ∧
      t.answers (t.granted calls) = (t.answers calls).filter Except.isOk := by
  induction calls generalizing t with
  | nil => exact ⟨rfl, rfl⟩
  | cons call calls ih =>
    rw [granted, answers]
    cases ha : t.answer call with
    | error err =>
      obtain ⟨hafter, hanswers⟩ := ih t
      rw [next_eq_of_answer ha]
      refine ⟨?_, hanswers⟩
      show t.after (t.granted calls) = (t.next call).after calls
      rw [next_eq_of_answer ha, hafter]
    | ok lines =>
      obtain ⟨hafter, hanswers⟩ := ih (t.next call)
      refine ⟨hafter, ?_⟩
      show t.answer call :: (t.next call).answers ((t.next call).granted calls) = _
      rw [ha, hanswers]
      rfl

/-! ## Main results -/

/-- A call to the tokenizer is refused for its reasons only, and changes nothing then. -/
structure RefusesRightly (t : Tokenizer) : Prop where
  /-- Why a rule is refused. -/
  add_error (e : RuleEntry) (err : Error) : t.add e = .error err ↔
    (∃ cause, ofSource e.pattern = .error cause ∧ err = .invalidPattern e.pattern cause) ∨
    ∃ p, ofSource e.pattern = .ok p ∧
      (t.rules.Takes e ∧ err = .duplicateRule e.name e.pattern ∨
        ¬t.rules.Takes e ∧ ¬t.rules.HasRoom p ∧ err = .invalidPattern e.pattern .tooBig)
  /-- Any other rule is appended. -/
  add_ok (e : RuleEntry) (t' : Tokenizer) : t.add e = .ok t' ↔
    ∃ p, ofSource e.pattern = .ok p ∧ ¬t.rules.Takes e ∧ t.rules.HasRoom p ∧
      t' = ⟨.ofRules (t.rules.rules.push (e.rule p)), t.config⟩
  /-- Where there is always room, a rule is refused for its pattern or for a rule of the book. -/
  add_error_of_room (e : RuleEntry) (hroom : ∀ p, ofSource e.pattern = .ok p → t.rules.HasRoom p)
    (err : Error) : t.add e = .error err ↔
      (∃ cause, ofSource e.pattern = .error cause ∧ err = .invalidPattern e.pattern cause) ∨
      (∃ p, ofSource e.pattern = .ok p) ∧ t.rules.Takes e ∧
        err = .duplicateRule e.name e.pattern
  reconfigure_error (c : Config) : (∃ cause, t.reconfigure c = .error (.invalidConfig cause)) ↔
    ¬(1 ≤ c.stepSize ∧ c.stepSize ≤ c.chunkSize)
  reconfigure_ok (c : Config) (t' : Tokenizer) : t.reconfigure c = .ok t' ↔
    (1 ≤ c.stepSize ∧ c.stepSize ≤ c.chunkSize) ∧ t' = { t with config := c }
  config : 1 ≤ t.config.stepSize ∧ t.config.stepSize ≤ t.config.chunkSize
  /-- The rules and the configuration are all there is to the tokenizer. -/
  ext (t' : Tokenizer) : t'.Reachable → t.rules.rules = t'.rules.rules → t.config = t'.config →
    t = t'
  next_of_error (call : Call) (err : Error) : t.answer call = .error err → t.next call = t
  /-- The calls that are refused can be left out. -/
  after_granted (calls : List Call) : (t.after calls).Reachable ∧
    t.after (t.granted calls) = t.after calls ∧
    t.answers (t.granted calls) = (t.answers calls).filter Except.isOk

/-- **A call is refused for its reasons, and changes nothing then.** A rule is refused for its
pattern, for a rule in the book or for want of room, and a configuration if it is not valid. -/
theorem call_refused_iff (h : t.Reachable) : t.RefusesRightly where
  add_error _ _ := add_eq_error_iff h
  add_ok _ _ := add_eq_ok_iff h
  add_error_of_room e hroom err := by
    rw [add_eq_error_iff h]
    refine or_congr_right ⟨?_, ?_⟩
    · rintro ⟨p, hp, ⟨ht, herr⟩ | ⟨-, hno, -⟩⟩
      · exact ⟨⟨p, hp⟩, ht, herr⟩
      · exact (hno (hroom p hp)).elim
    · rintro ⟨⟨p, hp⟩, ht, herr⟩
      exact ⟨p, hp, .inl ⟨ht, herr⟩⟩
  reconfigure_error _ := reconfigure_eq_error_iff
  reconfigure_ok _ _ := reconfigure_eq_ok_iff
  config := Config.check_eq_ok_iff.1 h.sound.config
  ext _ h' := h.ext h'
  next_of_error _ _ := next_eq_of_answer
  after_granted calls := ⟨h.after calls, t.after_granted calls⟩

end Tokenizer

end

namespace Tokenizer

/-- What is refused depends on the flag of a rule, which may have been set since. -/
theorem call_refused_letters :
    letters.Reachable ∧
      letters.add ⟨"a+", "again", false⟩ = .error (.duplicateRule "again" "a+") ∧
      (letters.ignore "RUN").1.add ⟨"a+", "again", true⟩ =
        .error (.duplicateRule "again" "a+") ∧
      (∃ t', (letters.ignore "RUN").1.add ⟨"a+", "again", false⟩ = .ok t') ∧
      (∃ cause, letters.add ⟨"(", "open", false⟩ = .error (.invalidPattern "(" cause)) ∧
      ∃ cause, letters.reconfigure { chunkSize := 1, stepSize := 2 } =
        .error (.invalidConfig cause) := by
  have hrefuse := (call_refused_iff reachable_letters).add_error
  have hmarked := call_refused_iff (reachable_letters.ignore "RUN")
  obtain ⟨p, hp⟩ : ∃ p, ofSource "a+" = .ok p := isOk_iff.1 (by decide +kernel)
  have hroom : ∀ p, ofSource "a+" = .ok p → (letters.ignore "RUN").1.rules.HasRoom p := by
    intro p hp
    have hall : ((ofSource "a+").map fun p => decide ((letters.ignore "RUN").1.rules.HasRoom p)) =
        .ok true := by decide +kernel
    rw [hp] at hall
    exact of_decide_eq_true (Except.ok.inj hall)
  refine ⟨reachable_letters, (hrefuse _ _).2 (.inr ⟨p, hp, .inl ⟨by decide +kernel, rfl⟩⟩),
    (hmarked.add_error_of_room ⟨"a+", "again", true⟩ hroom _).2
      (.inr ⟨⟨p, hp⟩, by decide +kernel, rfl⟩),
    ⟨_, (hmarked.add_ok _ _).2 ⟨p, hp, by decide +kernel, hroom p hp, rfl⟩⟩, ?_,
    ((call_refused_iff reachable_letters).reconfigure_error _).2 (by decide +kernel)⟩
  cases hopen : ofSource "(" with
  | error cause => exact ⟨cause, (hrefuse _ _).2 (.inl ⟨cause, hopen, rfl⟩)⟩
  | ok _ => exact absurd (isOk_iff.2 ⟨_, hopen⟩) (by decide +kernel)

end Tokenizer

end Munch
