import Munch.Command.Reader
import Munch.Report.Style
import Munch.RuleFile

/-!
# The arguments of the program

The program has two commands: `tokenize` reads a rule file and a text, and `check` reads a rule file
alone. Options for the output stand before the command, and those of `tokenize` after it. The two
sizes can also be given in the environment, where an option goes before them.
-/

namespace Munch.Command

/-- What `tokenize` is asked for. -/
structure TokenizeRequest where
  /-- The path of the rule file. -/
  rules : String
  text : Option String := none
  /-- The path of a file that holds the text. -/
  input : Option String := none
  chunkSize : Option UInt64 := none
  stepSize : Option UInt64 := none
  flush : Option FlushPolicy := none
  noTrim : Bool := false
  trace : Bool := false
  stats : Bool := false
deriving DecidableEq, Repr

inductive Request where
  | tokenize (t : TokenizeRequest)
  /-- Lists the rules of a rule file, given by its path. -/
  | check (rules : String)
deriving DecidableEq, Repr

structure Arguments where
  /-- How often more output was asked for, up to 255 times. -/
  verbose : Nat := 0
  style : Style := {}
  request : Request
deriving DecidableEq, Repr

/-- How much is logged: nothing but errors if the program is quiet, and warnings by default. -/
def Arguments.verbosity (a : Arguments) : Nat :=
  if a.style.quiet then 0 else max 1 a.verbose

/-! ## Values -/

def path (s : String) : Except Stop String := if s.isEmpty then .error .invalidValue else .ok s

/-- A value that is one of several words. -/
def wordOf {α : Type} (choices : List (String × α)) (s : String) : Except Stop α :=
  match choices.lookup s with
  | some a => .ok a
  | none => .error .invalidValue

/-- The number that decimal digits denote. -/
def natOfDigits (cs : List Char) : Nat := cs.foldl (fun n c => 10 * n + (c.toNat - '0'.toNat)) 0

/-- A number of 64 bits in decimal digits, perhaps after a plus sign. -/
def size (s : String) : Except Stop UInt64 :=
  let digits := match s.toList with
    | '+' :: cs => cs
    | cs => cs
  if digits.isEmpty || digits.any (fun c => !c.isDigit) then .error .invalidNumber
  else if natOfDigits digits < UInt64.size then .ok (.ofNat (natOfDigits digits))
  else .error .invalidNumber

def helpOption {σ : Type} : Opt σ :=
  { word := "help", letter := some 'h', effect := .flag fun _ => .error .help }

/-! ## The arguments of `tokenize` -/

namespace TokenizeRequest

structure Draft where
  rules : Option String := none
  text : Option String := none
  input : Option String := none
  chunkSize : Option UInt64 := none
  stepSize : Option UInt64 := none
  flush : Option FlushPolicy := none
  noTrim : Bool := false
  trace : Bool := false
  stats : Bool := false

def options : List (Opt Draft) := [
  { word := "input", letter := some 'i'
    effect := .value (once (·.input) path fun d a => { d with input := some a }) },
  { word := "chunk-size"
    effect := .value (once (·.chunkSize) size fun d a => { d with chunkSize := some a }) },
  { word := "step-size"
    effect := .value (once (·.stepSize) size fun d a => { d with stepSize := some a }) },
  { word := "flush"
    effect := .value
      (once (·.flush) (wordOf FlushPolicy.choices) fun d a => { d with flush := some a }) },
  { word := "no-trim", effect := flagOnce (·.noTrim) fun d => { d with noTrim := true } },
  { word := "trace", effect := flagOnce (·.trace) fun d => { d with trace := true } },
  { word := "stats", effect := flagOnce (·.stats) fun d => { d with stats := true } },
  helpOption]

def places : List (Setter Draft) := [
  once (·.rules) path fun d a => { d with rules := some a },
  once (·.text) .ok fun d a => { d with text := some a }]

/-- A size, which the environment gives if no option does. -/
def sizeOr (fallback : Option String) : Option UInt64 → Except Stop (Option UInt64)
  | some n => .ok (some n)
  | none =>
    match fallback with
    | some s => do .ok (some (← size s))
    | none => .ok none

def ofDraft (environment : String → Option String) (d : Draft) : Except Stop TokenizeRequest := do
  let chunkSize ← sizeOr (environment "CHUNKLEX_CHUNK_SIZE") d.chunkSize
  let stepSize ← sizeOr (environment "CHUNKLEX_STEP_SIZE") d.stepSize
  if d.text.isSome && d.input.isSome then .error .conflict
  else match d.rules with
    | none => .error .missingArgument
    | some rules =>
      .ok { rules, text := d.text, input := d.input, chunkSize, stepSize, flush := d.flush
            noTrim := d.noTrim, trace := d.trace, stats := d.stats }

def parse (environment : String → Option String) (as : List String) :
    Except Stop TokenizeRequest := do
  ofDraft environment (← Reader.readAll options { draft := {}, places } as)

end TokenizeRequest

/-! ## The arguments of `check` -/

namespace Check

def places : List (Setter (Option String)) := [once id path fun _ a => some a]

/-- The path of the rule file. -/
def parse (as : List String) : Except Stop String := do
  match ← Reader.readAll [helpOption] { draft := none, places } as with
  | some rules => .ok rules
  | none => .error .missingArgument

end Check

/-! ## All arguments -/

/-- The words that stand for a command. -/
def commandWords : List String := ["tokenize", "check", "help"]

namespace Arguments

structure Draft where
  verbose : Nat := 0
  quiet : Bool := false
  format : Option Format := none
  pretty : Bool := false
deriving DecidableEq

def options : List (Opt Draft) := [
  { word := "verbose", letter := some 'v'
    effect := .flag fun d => .ok { d with verbose := min 255 (d.verbose + 1) } },
  { word := "quiet", letter := some 'q'
    effect := flagOnce (·.quiet) fun d => { d with quiet := true } },
  { word := "format", letter := some 'f'
    effect := .value
      (once (·.format) (wordOf Format.choices) fun d a => { d with format := some a }) },
  { word := "pretty", effect := flagOnce (·.pretty) fun d => { d with pretty := true } },
  helpOption,
  { word := "version", letter := some 'V', effect := .flag fun _ => .error .version }]

def ofDraft (d : Draft) (request : Request) : Arguments where
  verbose := d.verbose
  style := { format := d.format.getD .human, pretty := d.pretty, quiet := d.quiet }
  request

/-- The stop at which the words after `help` arrive: at most one, the name of a command. -/
def helpFor : List String → Stop
  | [] => .help
  | [word] => if commandWords.contains word then .help else .unknownCommand
  | _ => .unknownCommand

/-- Reads the arguments of the program, without its name. The faults of a command go before those of
a value that is still pending when the command is met. -/
def parse (environment : String → Option String) (as : List String) : Except Stop Arguments := do
  match ← Reader.scan options { draft := {} } as with
  | (r, none) =>
    .error (if (← r.settle).draft = {} then .nothingGiven else .missingCommand)
  | (r, some (word, as)) =>
    if r.ended then
      .error (if commandWords.contains word then .unknownArgument else .unknownCommand)
    else if word = "tokenize" then
      let t ← TokenizeRequest.parse environment as
      .ok (ofDraft (← r.settle).draft (.tokenize t))
    else if word = "check" then
      let rules ← Check.parse as
      .ok (ofDraft (← r.settle).draft (.check rules))
    else .error (if word = "help" then helpFor as else .unknownCommand)

end Arguments

end Munch.Command
