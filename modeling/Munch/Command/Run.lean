import Munch.Command.Arguments
import Munch.Pattern.Size
import Munch.Report.Listing
import Munch.Report.Run

/-!
# Running a command

A command reads from its **host**, and ends with log lines and either its whole output or the first
error. It exits with 0 and its output on the one stream, or with 1 and nothing there; log lines and
the error go to the other stream.
-/

namespace Munch.Command

/-- What a command can ask of the system it runs on. -/
structure Host (m : Type → Type) where
  /-- Reads the file at a path. -/
  file : String → m (Except IoError String)
  /-- Reads the standard input to its end. -/
  input : m (Except IoError String)
  /-- The time in milliseconds. -/
  now : m Nat

structure Outcome where
  log : List Log.Line
  output : Except Error String

namespace Outcome

def exitCode (o : Outcome) : Nat :=
  match o.output with
  | .ok _ => 0
  | .error _ => 1

def stdout (o : Outcome) : String :=
  match o.output with
  | .ok text => text
  | .error _ => ""

/-- The log lines up to a level, and the error. -/
def stderr (o : Outcome) (level : Log.Level) : String :=
  unlines <| (Log.upTo level o.log).map Log.Line.render ++
    match o.output with
    | .ok _ => []
    | .error e => ["Error: " ++ e.message]

end Outcome

/-- The level of the log that a verbosity asks for. -/
def logLevel : Nat → Log.Level
  | 0 => .error
  | 1 => .warn
  | 2 => .info
  | 3 => .debug
  | _ => .trace

/-- The outcome of a command that ends with its log and a report, or with an error. -/
def Outcome.ofReport (style : Style) (result : List Log.Line × Except Error RunReport) : Outcome :=
  ⟨result.1, result.2.map (·.render style)⟩

variable [Footprint] {m : Type → Type} [Monad m]

/-! ## Tokenizing -/

namespace TokenizeRequest

/-- A configuration with the parts replaced that the request gives. -/
def overrideConfig (t : TokenizeRequest) (c : Config) : Config where
  chunkSize := t.chunkSize.getD c.chunkSize
  stepSize := t.stepSize.getD c.stepSize
  flushPolicy := t.flush.getD c.flushPolicy
  trimInput := c.trimInput && !t.noTrim

/-- A rule file with the parts of its configuration replaced that the request gives. -/
def override (t : TokenizeRequest) (f : RuleFile) : RuleFile :=
  { f with config := t.overrideConfig f.config }

/-- The tokenizer for the content of the rule file, with the warnings. -/
def tokenizer (t : TokenizeRequest) (content : Except IoError String) :
    Except Error (Tokenizer × List Log.Line) := do
  Tokenizer.ofRuleFile (t.override (← RuleFile.ofContent content))

/-- The text: the argument, else the file, else the standard input. -/
def readText (t : TokenizeRequest) (host : Host m) : m (Except IoError String) :=
  match t.text, t.input with
  | some text, _ => pure (.ok text)
  | none, some path => host.file path
  | none, none => host.input

/-- The report on a text, as far as it was asked for. -/
def report (t : TokenizeRequest) (tokenizer : Tokenizer) (text : String) : RunReport :=
  if t.trace then
    let (segments, stats) := tokenizer.trace text.toList
    { tokens := (segments.filter Segment.delivers).map Segment.token
      segments := some segments
      stats := if t.stats then some stats else none }
  else
    let (tokens, stats) := tokenizer.tokenize text.toList
    { tokens, stats := if t.stats then some stats else none }

/-- The log of a request, and its report before it is rendered. -/
def reported (t : TokenizeRequest) (host : Host m) :
    m (List Log.Line × Except Error RunReport) := do
  match t.tokenizer (← host.file t.rules) with
  | .error e => pure ([], .error e)
  | .ok (tokenizer, warnings) =>
    let loaded := warnings ++ [Log.rulesLoaded tokenizer.rules.size t.rules]
    match ← t.readText host with
    | .error cause => pure (loaded, .error (.io cause))
    | .ok text =>
      let start ← host.now
      let report := t.report tokenizer text
      let finish ← host.now
      pure (loaded ++ tokenizer.log text.toList,
        .ok { report with milliseconds := .ofNat (finish - start) })

def run (t : TokenizeRequest) (style : Style) (host : Host m) : m Outcome :=
  Outcome.ofReport style <$> t.reported host

end TokenizeRequest

/-! ## Checking -/

/-- The listing of a tokenizer's rules. -/
def listing (path : String) (t : Tokenizer) : Listing where
  path
  config := t.config
  rules := t.rules.entries

def check (rules : String) (style : Style) (host : Host m) : m Outcome := do
  match Tokenizer.ofContent (← host.file rules) with
  | .error e => pure { log := [], output := .error e }
  | .ok (tokenizer, warnings) =>
    pure { log := warnings, output := .ok ((listing rules tokenizer).render style) }

def Arguments.run (a : Arguments) (host : Host m) : m Outcome :=
  match a.request with
  | .tokenize t => t.run a.style host
  | .check rules => check rules a.style host

end Munch.Command
