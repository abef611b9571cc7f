import Munch.Command.Program
import Munch.Proofs.Loading
import Munch.Proofs.RuleFile

/-!
# All or nothing

The program either prints its whole output and exits with 0, or it prints nothing and exits with 1.
Everything that can fail comes before the output: the rule file is read, decoded, adapted to the
request and loaded, and then the text is read.

**Systems.** The program runs on a system whose files and standard input are bytes and do not change
meanwhile; the clock does.

**Failures (`System.Fails`).** A request fails for the first of the following that applies: its rule
file cannot be read as text, or it is malformed, or it is refused, or there is no text to tokenize.
It is refused for its configuration, or else for its first rule that does not compile, repeats an
earlier one, or is too big together with the earlier ones.

**Answers (`System.Answers`).** Else it is answered by a listing or by a report.

**Theorem (`program_exit`).** The program exits with 1 if and only if the request fails; then the
one stream is empty, and the other holds log lines and the message of the failure. It exits with 0
if and only if the request is answered; then the one stream holds just the answer, and the other
holds log lines alone.
-/

namespace Munch

/-! ## Content that is text -/

/-- What a file or a stream holds is a text in UTF-8. -/
def Holds (content : Except IoError ByteArray) (text : String) : Prop := content = .ok text.toUTF8

/-- Why a file or a stream cannot be read as a text. -/
inductive Unreadable : Except IoError ByteArray → IoError → Prop
  | failed (cause : IoError) : Unreadable (.error cause) cause
  | invalid {bytes : ByteArray} (h : ∀ text : String, text.toUTF8 ≠ bytes) :
      Unreadable (.ok bytes) .invalidUtf8

section

variable {content : Except IoError ByteArray} {text : String} {cause : IoError}

theorem textOfBytes_toUTF8 (text : String) : textOfBytes text.toUTF8 = .ok text := by
  have hvalid : text.toUTF8.IsValidUTF8 := text.isValidUTF8
  have hread : String.fromUTF8? text.toUTF8 = some text := dif_pos hvalid
  rw [textOfBytes, hread]

theorem textOfBytes_of_invalid {bytes : ByteArray} (h : ∀ text : String, text.toUTF8 ≠ bytes) :
    textOfBytes bytes = .error .invalidUtf8 := by
  have hinvalid : ¬bytes.IsValidUTF8 := fun hvalid => h (.ofByteArray bytes hvalid) rfl
  have hread : String.fromUTF8? bytes = none := dif_neg hinvalid
  simp [textOfBytes, hread]

theorem Holds.read (h : Holds content text) : (content >>= textOfBytes) = .ok text := by
  rw [h]
  exact textOfBytes_toUTF8 text

theorem Holds.unique {text' : String} (h : Holds content text) (h' : Holds content text') :
    text = text' := Except.ok.inj (h.read.symm.trans h'.read)

theorem Unreadable.read (h : Unreadable content cause) :
    (content >>= textOfBytes) = .error cause := by
  cases h with
  | failed cause => rfl
  | invalid h => exact textOfBytes_of_invalid h

theorem holds_or_unreadable (content : Except IoError ByteArray) :
    (∃ text, Holds content text) ∨ ∃ cause, Unreadable content cause := by
  cases content with
  | error cause => exact .inr ⟨cause, .failed cause⟩
  | ok bytes =>
    by_cases htext : ∃ text : String, text.toUTF8 = bytes
    · obtain ⟨text, rfl⟩ := htext
      exact .inl ⟨text, rfl⟩
    · push Not at htext
      exact .inr ⟨_, .invalid htext⟩

end

namespace Command

/-! ## Exits -/

namespace Outcome

variable {o : Outcome}

theorem exit_of_error {e : Error} (h : o.output = .error e) (level : Log.Level) :
    o.exit level = ⟨1, "",
      unlines ((Log.upTo level o.log).map Log.Line.render ++ ["Error: " ++ e.message])⟩ := by
  simp only [exit, exitCode, stdout, stderr, h]

theorem exit_of_ok {out : String} (h : o.output = .ok out) (level : Log.Level) :
    o.exit level = ⟨0, out, unlines ((Log.upTo level o.log).map Log.Line.render)⟩ := by
  simp only [exit, exitCode, stdout, stderr, h, List.append_nil]

theorem code_exit_eq_one_iff {level : Log.Level} :
    (o.exit level).code = 1 ↔ ∃ e, o.output = .error e := by
  cases h : o.output with
  | error e => simp [exit_of_error h]
  | ok out => simp [exit_of_ok h]

theorem code_exit_eq_zero_iff {level : Log.Level} :
    (o.exit level).code = 0 ↔ ∃ out, o.output = .ok out := by
  cases h : o.output with
  | error e => simp [exit_of_error h]
  | ok out => simp [exit_of_ok h]

end Outcome

/-! ## Systems -/

/-- A system whose files and standard input stay as they are. -/
structure System where
  /-- The bytes of the file at a path. -/
  file : String → Except IoError ByteArray
  /-- The bytes of the standard input. -/
  input : Except IoError ByteArray
  /-- The readings of the clock in milliseconds, in order. -/
  clock : Nat → Nat

/-- The rule file of a request, by its path. -/
def Request.rules : Request → String
  | tokenize t => t.rules
  | check rules => rules

/-- A rule file as a request takes it; `check` takes it as it is. -/
def Request.adapt : Request → RuleFile → RuleFile
  | tokenize t, f => t.override f
  | check _, f => f

namespace System

/-- A host that counts the readings of the clock. -/
def host (s : System) : Host (StateM Nat) where
  file path := pure (s.file path >>= textOfBytes)
  input := pure (s.input >>= textOfBytes)
  now := modifyGet fun n => (s.clock n, n + 1)

@[simp] theorem host_file (s : System) (path : String) :
    s.host.file path = pure (s.file path >>= textOfBytes) := rfl

/-- The bytes of the text to be tokenized. -/
def source (s : System) (t : TokenizeRequest) : Except IoError ByteArray :=
  match t.text, t.input with
  | some text, _ => .ok text.toUTF8
  | none, some path => s.file path
  | none, none => s.input

/-- The report on a text, with the time between two readings of the clock. -/
def report (s : System) (t : TokenizeRequest) (tokenizer : Tokenizer) (text : String) : RunReport :=
  { t.report tokenizer text with milliseconds := .ofNat (s.clock 1 - s.clock 0) }

/-- The rule file of a request is read, decoded and adapted. -/
inductive Reads (s : System) (r : Request) : RuleFile → Prop
  | intro {content : String} {f : RuleFile} (hread : Holds (s.file r.rules) content)
      (hdecode : RuleFile.decoder.run content = .ok f) : Reads s r (r.adapt f)

theorem Reads.unique {s : System} {r : Request} {f f' : RuleFile} (h : s.Reads r f)
    (h' : s.Reads r f') : f = f' := by
  obtain ⟨hread, hdecode⟩ := h
  obtain ⟨hread', hdecode'⟩ := h'
  obtain rfl := hread.unique hread'
  rw [Except.ok.inj (hdecode.symm.trans hdecode')]

section

variable [Footprint]

/-- What a run of the program leaves behind. -/
def program (s : System) (environment : String → Option String) (as : List String) : Exit :=
  ((Command.program s.host environment as).run 0).1

def outcome (s : System) (a : Arguments) : Outcome := ((a.run s.host).run 0).1

/-- Why a request fails. -/
inductive Fails (s : System) : Request → Error → Prop
  | unreadable {r : Request} {cause : IoError} (h : Unreadable (s.file r.rules) cause) :
      Fails s r (.io cause)
  | malformed {r : Request} {content : String} {fault : Json.Fault}
      (hread : Holds (s.file r.rules) content)
      (h : RuleFile.decoder.run content = .error fault) : Fails s r (.json fault)
  | refused {r : Request} {f : RuleFile} {err : Error} (hread : s.Reads r f) (h : f.Refused err) :
      Fails s r err
  | noText {t : TokenizeRequest} {f : RuleFile} {cause : IoError}
      (hread : s.Reads (.tokenize t) f) (hvalid : f.Valid) (h : Unreadable (s.source t) cause) :
      Fails s (.tokenize t) (.io cause)

/-- The answer to a request in a style. -/
inductive Answers (s : System) (style : Style) : Request → String → Prop
  | listing {path : String} {f : RuleFile} {tokenizer : Tokenizer} {warnings : List Log.Line}
      (hread : s.Reads (.check path) f)
      (hload : Tokenizer.ofRuleFile f = .ok (tokenizer, warnings)) :
      Answers s style (.check path) ((listing path tokenizer).render style)
  | report {t : TokenizeRequest} {f : RuleFile} {tokenizer : Tokenizer} {warnings : List Log.Line}
      {text : String} (hread : s.Reads (.tokenize t) f)
      (hload : Tokenizer.ofRuleFile f = .ok (tokenizer, warnings))
      (htext : Holds (s.source t) text) :
      Answers s style (.tokenize t) ((s.report t tokenizer text).render style)

variable {s : System} {r : Request}

/-- A request fails or is answered. -/
theorem fails_or_answers (s : System) (style : Style) (r : Request) :
    (∃ e, s.Fails r e) ∨ ∃ out, s.Answers style r out := by
  rcases holds_or_unreadable (s.file r.rules) with ⟨content, hcontent⟩ | ⟨cause, hcause⟩
  · cases hdecode : RuleFile.decoder.run content with
    | error fault => exact .inl ⟨_, .malformed hcontent hdecode⟩
    | ok f =>
      have hread : s.Reads r (r.adapt f) := .intro hcontent hdecode
      rcases (r.adapt f).valid_or_refused with hvalid | ⟨err, hrefused⟩
      · obtain ⟨⟨tokenizer, warnings⟩, hload⟩ := Tokenizer.exists_ofRuleFile_iff.2 hvalid
        cases r with
        | check path => exact .inr ⟨_, .listing hread hload⟩
        | tokenize t =>
          rcases holds_or_unreadable (s.source t) with ⟨text, htext⟩ | ⟨cause, hcause⟩
          · exact .inr ⟨_, .report hread hload htext⟩
          · exact .inl ⟨_, .noText hread hvalid hcause⟩
      · exact .inl ⟨err, .refused hread hrefused⟩
  · exact .inl ⟨_, .unreadable hcause⟩

/-! ## Outcomes -/

/-- The tokenizer for a request, with the warnings. -/
def load (s : System) (r : Request) : Except Error (Tokenizer × List Log.Line) := do
  Tokenizer.ofRuleFile (r.adapt (← RuleFile.ofContent (s.file r.rules >>= textOfBytes)))

theorem Reads.load {f : RuleFile} (h : s.Reads r f) : s.load r = Tokenizer.ofRuleFile f := by
  obtain ⟨hread, hdecode⟩ := h
  rw [System.load, hread.read, RuleFile.ofContent, RuleFile.parse, hdecode]
  rfl

variable {style : Style} {verbose : Nat} {tokenizer : Tokenizer} {warnings : List Log.Line}

theorem outcome_of_load_error {a : Arguments} {e : Error} (h : s.load a.request = .error e) :
    s.outcome a = ⟨[], .error e⟩ := by
  obtain ⟨verbose, style, request⟩ := a
  cases request with
  | tokenize t =>
    have hload : t.tokenizer (s.file t.rules >>= textOfBytes) = .error e := h
    simp only [outcome, Arguments.run, TokenizeRequest.run, TokenizeRequest.reported, host_file,
      pure_bind, hload]
    rfl
  | check path =>
    have hload : Tokenizer.ofContent (s.file path >>= textOfBytes) = .error e := h
    simp only [outcome, Arguments.run, check, host_file, pure_bind, hload]
    rfl

theorem outcome_check {path : String} (h : s.load (.check path) = .ok (tokenizer, warnings)) :
    s.outcome ⟨verbose, style, .check path⟩ =
      ⟨warnings, .ok ((listing path tokenizer).render style)⟩ := by
  have hload : Tokenizer.ofContent (s.file path >>= textOfBytes) = .ok (tokenizer, warnings) := h
  simp only [outcome, Arguments.run, check, host_file, pure_bind, hload]
  rfl

variable {t : TokenizeRequest}

omit [Footprint] in
theorem readText_host (s : System) (t : TokenizeRequest) :
    t.readText s.host = pure (s.source t >>= textOfBytes) := by
  obtain ⟨rules, text, input, chunkSize, stepSize, flush, noTrim, trace, stats⟩ := t
  cases text with
  | some text =>
    have hread : (Except.ok text.toUTF8 >>= textOfBytes) = .ok text := textOfBytes_toUTF8 text
    simp only [TokenizeRequest.readText, source, hread]
  | none => cases input <;> rfl

theorem outcome_of_noText {cause : IoError} (h : s.load (.tokenize t) = .ok (tokenizer, warnings))
    (htext : Unreadable (s.source t) cause) :
    s.outcome ⟨verbose, style, .tokenize t⟩ =
      ⟨warnings ++ [Log.rulesLoaded tokenizer.rules.size t.rules], .error (.io cause)⟩ := by
  have hload : t.tokenizer (s.file t.rules >>= textOfBytes) = .ok (tokenizer, warnings) := h
  have hread : t.readText s.host = pure (.error cause) := by rw [readText_host, htext.read]
  simp only [outcome, Arguments.run, TokenizeRequest.run, TokenizeRequest.reported, host_file,
    hread, pure_bind, hload]
  rfl

theorem outcome_tokenize {text : String} (h : s.load (.tokenize t) = .ok (tokenizer, warnings))
    (htext : Holds (s.source t) text) :
    s.outcome ⟨verbose, style, .tokenize t⟩ =
      ⟨warnings ++ [Log.rulesLoaded tokenizer.rules.size t.rules] ++ tokenizer.log text.toList,
        .ok ((s.report t tokenizer text).render style)⟩ := by
  have hload : t.tokenizer (s.file t.rules >>= textOfBytes) = .ok (tokenizer, warnings) := h
  have hread : t.readText s.host = pure (.ok text) := by rw [readText_host, htext.read]
  simp only [outcome, Arguments.run, TokenizeRequest.run, TokenizeRequest.reported, host_file,
    hread, pure_bind, hload]
  rfl

theorem Fails.output {a : Arguments} {e : Error} (h : s.Fails a.request e) :
    (s.outcome a).output = .error e := by
  obtain ⟨verbose, style, request⟩ := a
  cases h with
  | unreadable h =>
    rw [outcome_of_load_error]
    rw [load, h.read]
    rfl
  | malformed hread h =>
    rw [outcome_of_load_error]
    rw [load, hread.read, RuleFile.ofContent, RuleFile.parse, h]
    rfl
  | refused hread h =>
    rw [outcome_of_load_error]
    exact hread.load.trans (Tokenizer.ofRuleFile_of_refused h)
  | noText hread hvalid h =>
    obtain ⟨⟨tokenizer, warnings⟩, hload⟩ := Tokenizer.exists_ofRuleFile_iff.2 hvalid
    rw [outcome_of_noText (hread.load.trans hload) h]

theorem Answers.output {a : Arguments} {out : String} (h : s.Answers a.style a.request out) :
    (s.outcome a).output = .ok out := by
  obtain ⟨verbose, style, request⟩ := a
  cases h with
  | listing hread hload => rw [outcome_check (hread.load.trans hload)]
  | report hread hload htext => rw [outcome_tokenize (hread.load.trans hload) htext]

theorem output_eq_error_iff {a : Arguments} {e : Error} :
    (s.outcome a).output = .error e ↔ s.Fails a.request e := by
  refine ⟨fun h => ?_, Fails.output⟩
  rcases fails_or_answers s a.style a.request with ⟨e', he'⟩ | ⟨out, hout⟩
  · cases he'.output.symm.trans h
    exact he'
  · cases hout.output.symm.trans h

theorem output_eq_ok_iff {a : Arguments} {out : String} :
    (s.outcome a).output = .ok out ↔ s.Answers a.style a.request out := by
  refine ⟨fun h => ?_, Answers.output⟩
  rcases fails_or_answers s a.style a.request with ⟨e, he⟩ | ⟨out', hout'⟩
  · cases he.output.symm.trans h
  · cases hout'.output.symm.trans h
    exact hout'

/-! ## Runs of the program -/

/-- The lines of the log that are shown. -/
def logged (s : System) (a : Arguments) : List String :=
  (Log.upTo (logLevel a.verbosity) (s.outcome a).log).map Log.Line.render

variable {a : Arguments} {environment : String → Option String} {as : List String}

theorem program_eq (hparse : Arguments.parse environment as = .ok a) :
    s.program environment as = (s.outcome a).exit (logLevel a.verbosity) := by
  simp only [program, Command.program, hparse]
  rfl

theorem program_of_fails {e : Error} (hparse : Arguments.parse environment as = .ok a)
    (h : s.Fails a.request e) :
    s.program environment as = ⟨1, "", unlines (s.logged a ++ ["Error: " ++ e.message])⟩ := by
  rw [program_eq hparse]
  exact Outcome.exit_of_error h.output _

theorem program_of_answers {out : String} (hparse : Arguments.parse environment as = .ok a)
    (h : s.Answers a.style a.request out) :
    s.program environment as = ⟨0, out, unlines (s.logged a)⟩ := by
  rw [program_eq hparse]
  exact Outcome.exit_of_ok h.output _

theorem code_program_eq_one_iff (hparse : Arguments.parse environment as = .ok a) :
    (s.program environment as).code = 1 ↔ ∃ e, s.Fails a.request e := by
  rw [program_eq hparse, Outcome.code_exit_eq_one_iff]
  simp only [output_eq_error_iff]

theorem code_program_eq_zero_iff (hparse : Arguments.parse environment as = .ok a) :
    (s.program environment as).code = 0 ↔ ∃ out, s.Answers a.style a.request out := by
  rw [program_eq hparse, Outcome.code_exit_eq_zero_iff]
  simp only [output_eq_ok_iff]

/-- How the program exits on a request. -/
structure AllOrNothing (s : System) (a : Arguments) (exit : Exit) : Prop where
  code : exit.code = 0 ∨ exit.code = 1
  fails_iff : exit.code = 1 ↔ ∃ e, s.Fails a.request e
  /-- There is one failure that goes before all others. -/
  unique (e e' : Error) (h : s.Fails a.request e) (h' : s.Fails a.request e') : e' = e
  failure (e : Error) (h : s.Fails a.request e) :
    exit = ⟨1, "", unlines (s.logged a ++ ["Error: " ++ e.message])⟩
  answers_iff : exit.code = 0 ↔ ∃ out, s.Answers a.style a.request out
  answer (out : String) (h : s.Answers a.style a.request out) :
    exit = ⟨0, out, unlines (s.logged a)⟩

/-- **The program prints all of its answer, or else its first failure and no answer.** -/
theorem program_exit (s : System) (hparse : Arguments.parse environment as = .ok a) :
    s.AllOrNothing a (s.program environment as) where
  code := by
    rcases fails_or_answers s a.style a.request with hfails | hanswers
    · exact .inr ((code_program_eq_one_iff hparse).2 hfails)
    · exact .inl ((code_program_eq_zero_iff hparse).2 hanswers)
  fails_iff := code_program_eq_one_iff hparse
  unique _ _ h h' := Except.error.inj (h'.output.symm.trans h.output)
  failure _ h := program_of_fails hparse h
  answers_iff := code_program_eq_zero_iff hparse
  answer _ h := program_of_answers hparse h

end

/-- A system with one rule file, where the standard input is a byte that begins no character. -/
def oneFile : System where
  file path := if path = "rules.json" then .ok Tokenizer.letters.toRuleFile.render.toUTF8
    else .error .notFound
  input := .ok ⟨#[0xff]⟩
  clock n := n

theorem valid_toRuleFile_letters : Tokenizer.letters.toRuleFile.Valid :=
  Tokenizer.exists_ofRuleFile_iff.1 (isOk_iff.1 (by decide +kernel))

theorem reads_oneFile {r : Request} (h : r.rules = "rules.json") :
    oneFile.Reads r (r.adapt Tokenizer.letters.toRuleFile) := by
  have hfile : Holds (oneFile.file r.rules) Tokenizer.letters.toRuleFile.render := by
    rw [h]
    rfl
  exact .intro hfile (RuleFile.run_render _)

/-- There is no text to tokenize, but the rules can be listed. -/
theorem program_exit_oneFile :
    (∃ a, Arguments.parse (fun _ => none) ["-q", "tokenize", "rules.json"] = .ok a ∧
      oneFile.program (fun _ => none) ["-q", "tokenize", "rules.json"] =
        ⟨1, "", "Error: I/O error: stream did not contain valid UTF-8\n"⟩) ∧
    ∃ a, Arguments.parse (fun _ => none) ["-f", "csv", "check", "rules.json"] = .ok a ∧
      oneFile.program (fun _ => none) ["-f", "csv", "check", "rules.json"] =
        ⟨0, "priority,name,pattern,ignored\n0,run,a+,false\n1,letter,a|b,true\n", ""⟩ := by
  obtain ⟨t, -, hentries, hconfig, hload⟩ := Tokenizer.ofRuleFile_of_valid valid_toRuleFile_letters
  constructor
  · let t : TokenizeRequest := { rules := "rules.json" }
    have hparse : Arguments.parse (fun _ => none) ["-q", "tokenize", "rules.json"] =
        .ok ⟨0, { quiet := true }, .tokenize t⟩ := by
      decide +kernel
    have hno : ∀ text : String, text.toUTF8 ≠ ⟨#[0xff]⟩ := by
      intro text h
      have hvalid : ByteArray.IsValidUTF8 ⟨#[0xff]⟩ := h ▸ text.isValidUTF8
      revert hvalid
      decide +kernel
    have hread : oneFile.Reads (.tokenize t) Tokenizer.letters.toRuleFile := reads_oneFile rfl
    have hfails : oneFile.Fails (.tokenize t) (.io .invalidUtf8) :=
      .noText hread valid_toRuleFile_letters (.invalid hno)
    have hlog : oneFile.logged ⟨0, { quiet := true }, .tokenize t⟩ = [] := by
      rw [logged, outcome_of_noText (hread.load.trans hload) (.invalid hno)]
      rfl
    refine ⟨_, hparse, ?_⟩
    rw [(program_exit oneFile hparse).failure _ hfails, hlog]
    rfl
  · have hparse : Arguments.parse (fun _ => none) ["-f", "csv", "check", "rules.json"] =
        .ok ⟨0, { format := .csv }, .check "rules.json"⟩ := by
      decide +kernel
    have hread : oneFile.Reads (.check "rules.json") Tokenizer.letters.toRuleFile :=
      reads_oneFile rfl
    have hlog : oneFile.logged ⟨0, { format := .csv }, .check "rules.json"⟩ = [] := by
      rw [logged, outcome_check (hread.load.trans hload)]
      rfl
    have hlist : listing "rules.json" t =
        ⟨"rules.json", Tokenizer.letters.config, Tokenizer.letters.rules.entries⟩ := by
      rw [listing, hentries, hconfig]
      rfl
    refine ⟨_, hparse, ?_⟩
    rw [(program_exit oneFile hparse).answer _ (.listing hread hload), hlog]
    show Exit.mk 0 ((listing "rules.json" t).render _) _ = _
    rw [hlist]
    decide +kernel

/-- A system where each file is one of rules that are too big together. -/
def heavyFile : System where
  file _ := .ok Tokenizer.heavy.render.toUTF8
  input := .ok "".toUTF8
  clock n := n

/-- The file can be read, its configuration is valid, each of its rules compiles, and they are
distinct; but they are too big together. -/
theorem program_heavyFile :
    Arguments.parse (fun _ => none) ["check", "r.json"] = .ok ⟨0, {}, .check "r.json"⟩ ∧
      heavyFile.Reads (.check "r.json") Tokenizer.heavy ∧
      Tokenizer.heavy.config.check = .ok () ∧
      (∀ e ∈ Tokenizer.heavy.rules, ∃ p, Pattern.ofSource e.pattern = .ok p) ∧
      (Tokenizer.heavy.rules.Pairwise fun d e => d.key ≠ e.key) ∧
      heavyFile.program (fun _ => none) ["check", "r.json"] =
        ⟨1, "", "Error: Invalid pattern (b{240000}): " ++
          "Compiled regex exceeds size limit of 10485760 bytes.\n"⟩ := by
  have hparse : Arguments.parse (fun _ => none) ["check", "r.json"] =
      .ok ⟨0, {}, .check "r.json"⟩ := by
    decide +kernel
  have hfile : Holds (heavyFile.file "r.json") Tokenizer.heavy.render := rfl
  have hread : heavyFile.Reads (.check "r.json") Tokenizer.heavy :=
    .intro hfile (RuleFile.run_render _)
  have hrefused := Tokenizer.refused_heavy
  have hload := hread.load.trans (Tokenizer.ofRuleFile_of_refused hrefused)
  have hlog : heavyFile.logged ⟨0, {}, .check "r.json"⟩ = [] := by
    rw [logged, outcome_of_load_error (a := ⟨0, {}, .check "r.json"⟩) hload]
    rfl
  refine ⟨hparse, hread, rfl, Tokenizer.compiles_heavy, Tokenizer.distinct_heavy, ?_⟩
  rw [program_of_fails hparse (.refused hread hrefused), hlog]
  decide +kernel

end System

end Command

end Munch
