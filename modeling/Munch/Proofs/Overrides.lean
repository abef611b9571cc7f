import Munch.Proofs.Arguments
import Munch.Proofs.Program

/-!
# Options that stand for an edited rule file

Some options of `tokenize` replace a part of the configuration. The program does with them what it
does without them when the rule file is edited instead.

**Edited rule files (`Edits`).** What an option gives is replaced, and all the rest stays.

**Theorem (`program_override`).** With the options, the program leaves behind what it leaves behind
without them on the edited rule file, except for the time that is measured. Only the configuration
that results must be valid.

The two runs load the same tokenizer or fail in the same way, as the options have no other effect
than to adapt the rule file. So they read the same text, and their reports differ in the time alone.
-/

namespace Munch.Command

/-! ## Edited rule files -/

namespace TokenizeRequest

/-- The rule file `f'` is `f` with what the request gives in place of what `f` says. -/
structure Edits (t : TokenizeRequest) (f f' : RuleFile) : Prop where
  rules : f'.rules = f.rules
  ignore : f'.ignore = f.ignore
  chunkSize : f'.config.chunkSize = t.chunkSize.getD f.config.chunkSize
  stepSize : f'.config.stepSize = t.stepSize.getD f.config.stepSize
  flushPolicy : f'.config.flushPolicy = t.flush.getD f.config.flushPolicy
  trimInput : f'.config.trimInput = if t.noTrim then false else f.config.trimInput

variable {t : TokenizeRequest} {f f' : RuleFile}

theorem Edits.override_eq (h : t.Edits f f') : t.override f = f' := by
  obtain ⟨⟨chunkSize, stepSize, flushPolicy, trimInput⟩, rules, ignore⟩ := f'
  obtain ⟨rfl, rfl, rfl, rfl, rfl, rfl⟩ := h
  rw [override, overrideConfig]
  cases t.noTrim <;> simp

theorem override_plain (t : TokenizeRequest) (f : RuleFile) : t.plain.override f = f := by
  simp [override, overrideConfig, plain]

end TokenizeRequest

/-! ## Runs that differ in time -/

/-- The exits are the same except for the time in a report. -/
structure Exit.SameButTime (style : Style) (e e' : Exit) : Prop where
  code : e'.code = e.code
  stderr : e'.stderr = e.stderr
  stdout : e'.stdout = e.stdout ∨ ∃ (report : RunReport) (n n' : UInt64),
    e.stdout = { report with milliseconds := n }.render style ∧
      e'.stdout = { report with milliseconds := n' }.render style

/-- Outcomes of runs that take `n` and `n'` milliseconds. -/
inductive Outcome.Alike (style : Style) (n n' : UInt64) : Outcome → Outcome → Prop
  | failed (log : List Log.Line) (e : Error) : Alike style n n' ⟨log, .error e⟩ ⟨log, .error e⟩
  | reported (log : List Log.Line) (report : RunReport) :
      Alike style n n' ⟨log, .ok ({ report with milliseconds := n }.render style)⟩
        ⟨log, .ok ({ report with milliseconds := n' }.render style)⟩

namespace Outcome

variable {style : Style} {n n' : UInt64} {o o' : Outcome}

theorem Alike.exit (h : Alike style n n' o o') (level : Log.Level) :
    (o.exit level).SameButTime style (o'.exit level) := by
  cases h with
  | failed => exact ⟨rfl, rfl, .inl rfl⟩
  | reported log report => exact ⟨rfl, rfl, .inr ⟨report, n, n', rfl, rfl⟩⟩

theorem Alike.eq (h : Alike style n n o o') : o' = o := by
  cases h <;> rfl

end Outcome

namespace System

variable {s s' : System} {t : TokenizeRequest} {f : RuleFile} {style : Style} {verbose : Nat}

/-- The time that a run takes, in milliseconds. -/
def elapsed (s : System) : UInt64 := .ofNat (s.clock 1 - s.clock 0)

/-- Systems that load the same and have the same text come to the same end. -/
theorem outcome_alike [Footprint] {t' : TokenizeRequest}
    (hload : s'.load (.tokenize t') = s.load (.tokenize t))
    (hsource : s'.source t' = s.source t) (hrules : t'.rules = t.rules)
    (hreport : t'.report = t.report) :
    Outcome.Alike style s.elapsed s'.elapsed (s.outcome ⟨verbose, style, .tokenize t⟩)
      (s'.outcome ⟨verbose, style, .tokenize t'⟩) := by
  cases h : s.load (.tokenize t) with
  | error e =>
    rw [outcome_of_load_error h, outcome_of_load_error (hload.trans h)]
    exact .failed [] e
  | ok loaded =>
    obtain ⟨tokenizer, warnings⟩ := loaded
    have h' := hload.trans h
    rcases holds_or_unreadable (s.source t) with ⟨text, htext⟩ | ⟨cause, hcause⟩
    · rw [outcome_tokenize h htext, outcome_tokenize h' (hsource ▸ htext), hrules]
      rw [System.report, System.report, hreport]
      exact .reported _ (t.report tokenizer text)
    · rw [outcome_of_noText h hcause, outcome_of_noText h' (hsource ▸ hcause), hrules]
      exact .failed _ _

/-- The text does not come from the rule file. -/
theorem source_eq (hfiles : ∀ path, path ≠ t.rules → s'.file path = s.file path)
    (hinput : s'.input = s.input) (hother : t.input ≠ some t.rules) :
    s'.source t = s.source t := by
  unfold source
  split
  · rfl
  · next path _ hpath => exact hfiles path fun heq => hother (heq ▸ hpath)
  · exact hinput

/-- A tokenize request is answered if its rule file is valid once it is adapted, and has a text. -/
theorem exists_answers_iff [Footprint] (hread : s.Reads (.tokenize t) f) :
    (∃ out, s.Answers style (.tokenize t) out) ↔ f.Valid ∧ ∃ text, Holds (s.source t) text := by
  constructor
  · rintro ⟨_, hout⟩
    cases hout with
    | report hread' hload htext =>
      obtain rfl := hread'.unique hread
      exact ⟨Tokenizer.exists_ofRuleFile_iff.1 ⟨_, hload⟩, _, htext⟩
  · rintro ⟨hvalid, text, htext⟩
    obtain ⟨⟨tokenizer, warnings⟩, hload⟩ := Tokenizer.exists_ofRuleFile_iff.2 hvalid
    exact ⟨_, .report hread hload htext⟩

variable {environment : String → Option String} {as : List String} {f' : RuleFile}

/-- **The options stand for an edited rule file.** The system `s` holds a rule file, and `s'` holds
the edited one in its place; nothing else differs but the clock. -/
theorem program_override [Footprint] (s s' : System) {content doc : String}
    (hparse : Arguments.parse environment as = .ok ⟨verbose, style, .tokenize t⟩)
    (hchunk : environment "CHUNKLEX_CHUNK_SIZE" = none)
    (hstep : environment "CHUNKLEX_STEP_SIZE" = none)
    (hcontent : Holds (s.file t.rules) content) (hdecode : RuleFile.decoder.run content = .ok f)
    (hedits : t.Edits f f') (hdoc : Json.Written f'.toJson doc.toList)
    (hcontent' : Holds (s'.file t.rules) doc)
    (hfiles : ∀ path, path ≠ t.rules → s'.file path = s.file path)
    (hinput : s'.input = s.input) (hother : t.input ≠ some t.rules) :
    (s.program environment as).SameButTime style
        (s'.program environment (Arguments.withoutOverrides as)) ∧
      (s'.elapsed = s.elapsed →
        s'.program environment (Arguments.withoutOverrides as) = s.program environment as) ∧
      ((s.program environment as).code = 0 ↔ f'.Valid ∧ ∃ text, Holds (s.source t) text) := by
  have hparse' := Arguments.parse_withoutOverrides hchunk hstep hparse
  have hread : s.Reads (.tokenize t) f' := by
    have hread := Reads.intro (r := .tokenize t) hcontent hdecode
    rwa [Request.adapt, hedits.override_eq] at hread
  have hread' : s'.Reads (.tokenize t.plain) f' := by
    have hdecode' : RuleFile.decoder.run doc = .ok f' := by
      simpa using Json.Decoder.run_eq_ok f'.decodes hdoc
    have hread' := Reads.intro (r := .tokenize t.plain) hcontent' hdecode'
    rwa [Request.adapt, t.override_plain] at hread'
  have halike : Outcome.Alike style s.elapsed s'.elapsed
      (s.outcome ⟨verbose, style, .tokenize t⟩) (s'.outcome ⟨verbose, style, .tokenize t.plain⟩) :=
    outcome_alike (hread'.load.trans hread.load.symm) (source_eq hfiles hinput hother) rfl rfl
  refine ⟨?_, fun htime => ?_, ?_⟩
  · rw [program_eq hparse, program_eq hparse']
    exact halike.exit _
  · rw [htime] at halike
    rw [program_eq hparse, program_eq hparse', halike.eq]
    rfl
  · rw [code_program_eq_zero_iff hparse]
    exact exists_answers_iff hread

/-- A system with one rule file. -/
def holding (f : RuleFile) (clock : Nat → Nat) : System where
  file path := if path = "r.json" then .ok f.render.toUTF8 else .error .notFound
  input := .ok " aab".toUTF8
  clock

theorem holds_holding (f : RuleFile) (clock : Nat → Nat) :
    Holds ((holding f clock).file "r.json") f.render := rfl

theorem file_holding {path : String} (h : path ≠ "r.json") (f f' : RuleFile)
    (clock clock' : Nat → Nat) : (holding f clock).file path = (holding f' clock').file path := by
  simp [holding, h]

theorem input_holding (f f' : RuleFile) (clock clock' : Nat → Nat) :
    (holding f clock).input = (holding f' clock').input := rfl

theorem elapsed_holding (f f' : RuleFile) (clock : Nat → Nat) :
    (holding f clock).elapsed = (holding f' clock).elapsed := by
  simp only [elapsed, holding]

theorem written_render (f : RuleFile) : Json.Written f.toJson f.render.toList := by
  rw [RuleFile.render, Json.Value.pretty, String.toList_ofList]
  exact f.toJson.written_prettyChars 0

/-- A rule file with steps of one character. -/
def stepping : RuleFile :=
  { Tokenizer.letters.toRuleFile with config := { stepSize := 1, trimInput := false } }

/-- A rule file whose configuration is not valid. -/
def stepless : RuleFile := { Tokenizer.letters.toRuleFile with config := { stepSize := 0 } }

/-- The second rule file as an option breaks the first one. -/
def broken : RuleFile :=
  { Tokenizer.letters.toRuleFile with config := { stepSize := 0, trimInput := false } }

/-- Options repair a configuration, and an option breaks one, as editing the file does. -/
theorem program_override_holding :
    (((holding stepless id).program (fun _ => none)
          ["tokenize", "--step-size", "1", "--no-trim", "r.json"]).code = 0 ∧
      ((holding stepless id).program (fun _ => none)
          ["tokenize", "--step-size", "1", "--no-trim", "r.json"]).SameButTime {}
        ((holding stepping (5 * ·)).program (fun _ => none) ["tokenize", "r.json"])) ∧
    ((holding stepping id).program (fun _ => none)
          ["tokenize", "r.json", "--step-size=0", "a"]).code ≠ 0 ∧
      (holding broken id).program (fun _ => none) ["tokenize", "r.json", "a"] =
        (holding stepping id).program (fun _ => none)
          ["tokenize", "r.json", "--step-size=0", "a"] := by
  constructor
  · let t : TokenizeRequest := { rules := "r.json", stepSize := some 1, noTrim := true }
    have hparse : Arguments.parse (fun _ => none)
        ["tokenize", "--step-size", "1", "--no-trim", "r.json"] = .ok ⟨0, {}, .tokenize t⟩ := by
      decide +kernel
    have hrest : Arguments.withoutOverrides
        ["tokenize", "--step-size", "1", "--no-trim", "r.json"] = ["tokenize", "r.json"] := by
      decide +kernel
    have hother : t.input ≠ some t.rules := by decide
    have hedits : t.Edits stepless stepping := ⟨rfl, rfl, rfl, rfl, rfl, rfl⟩
    obtain ⟨hsame, -, hcode⟩ := program_override (holding stepless id) (holding stepping (5 * ·))
      hparse rfl rfl (holds_holding _ _) (RuleFile.run_render _) hedits (written_render _)
      (holds_holding _ _) (fun _ h => file_holding h ..) (input_holding ..) hother
    rw [hrest] at hsame
    have htext : Holds ((holding stepless id).source t) " aab" := rfl
    exact ⟨hcode.2 ⟨⟨rfl, valid_toRuleFile_letters.rules⟩, _, htext⟩, hsame⟩
  · let t : TokenizeRequest := { rules := "r.json", text := "a", stepSize := some 0 }
    have hparse : Arguments.parse (fun _ => none) ["tokenize", "r.json", "--step-size=0", "a"] =
        .ok ⟨0, {}, .tokenize t⟩ := by
      decide +kernel
    have hrest : Arguments.withoutOverrides ["tokenize", "r.json", "--step-size=0", "a"] =
        ["tokenize", "r.json", "a"] := by
      decide +kernel
    have hother : t.input ≠ some t.rules := by decide
    have hedits : t.Edits stepping broken := ⟨rfl, rfl, rfl, rfl, rfl, rfl⟩
    obtain ⟨-, heq, hcode⟩ := program_override (holding stepping id) (holding broken id)
      hparse rfl rfl (holds_holding _ _) (RuleFile.run_render _) hedits (written_render _)
      (holds_holding _ _) (fun _ h => file_holding h ..) (input_holding ..) hother
    rw [hrest] at heq
    refine ⟨fun hzero => ?_, heq (elapsed_holding ..)⟩
    exact absurd (hcode.1 hzero).1.config (by decide)

end System

end Munch.Command
