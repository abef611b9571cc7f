import Munch.Json.Decoder
import Munch.Json.Value
import Munch.Tokenizer

/-!
# Rule files

A **rule file** is a tokenizer written down: a configuration, rules in order of priority and the
names of rules to ignore. In JSON, configuration and ignored names may be left out, and so may any
part of the configuration; what is left out has its default.
-/

namespace Munch

structure RuleFile where
  config : Config := {}
  rules : List RuleEntry := []
  ignore : List String := []
deriving DecidableEq, Repr

/-! ## Configurations in JSON -/

namespace FlushPolicy

def choices : List (String × FlushPolicy) :=
  [("per-chunk", perChunk), ("end-of-stream", endOfStream)]

def name : FlushPolicy → String
  | perChunk => "per-chunk"
  | endOfStream => "end-of-stream"

def decoder : Json.Decoder FlushPolicy := .choice choices

end FlushPolicy

namespace Config

structure Draft where
  chunkSize : Option UInt64 := none
  stepSize : Option UInt64 := none
  flushPolicy : Option FlushPolicy := none
  trimInput : Option Bool := none

def record : Json.Record Config where
  Draft := Draft
  name := "TokenizerConfig"
  fields := [
    .ofOption "chunk_size" (·.chunkSize) (fun d a => { d with chunkSize := some a })
      (.word64 "usize") true,
    .ofOption "step_size" (·.stepSize) (fun d a => { d with stepSize := some a })
      (.word64 "usize") true,
    .ofOption "flush_policy" (·.flushPolicy) (fun d a => { d with flushPolicy := some a })
      FlushPolicy.decoder true,
    .ofOption "trim_input" (·.trimInput) (fun d a => { d with trimInput := some a }) .bool true]
  empty := {}
  finish d :=
    let default : Config := {}
    .ok { chunkSize := d.chunkSize.getD default.chunkSize
          stepSize := d.stepSize.getD default.stepSize
          flushPolicy := d.flushPolicy.getD default.flushPolicy
          trimInput := d.trimInput.getD default.trimInput }

def decoder : Json.Decoder Config := .record record

def toJson (c : Config) : Json.Value :=
  .object [("chunk_size", .number c.chunkSize.toNat), ("step_size", .number c.stepSize.toNat),
    ("flush_policy", .string c.flushPolicy.name), ("trim_input", .bool c.trimInput)]

end Config

/-! ## Rules in JSON -/

namespace RuleEntry

structure Draft where
  pattern : Option String := none
  name : Option String := none
  ignored : Option Bool := none

def record : Json.Record RuleEntry where
  Draft := Draft
  name := "RuleSpec"
  fields := [
    .ofOption "pattern" (·.pattern) (fun d a => { d with pattern := some a }) .string false,
    .ofOption "name" (·.name) (fun d a => { d with name := some a }) .string false,
    .ofOption "ignored" (·.ignored) (fun d a => { d with ignored := some a }) .bool true]
  empty := {}
  finish d := do
    let pattern ← Json.required "pattern" d.pattern
    let name ← Json.required "name" d.name
    .ok { pattern, name, ignored := d.ignored.getD false }

def decoder : Json.Decoder RuleEntry := .record record

def toJson (r : RuleEntry) : Json.Value :=
  .object [("pattern", .string r.pattern), ("name", .string r.name), ("ignored", .bool r.ignored)]

end RuleEntry

/-! ## Rule files in JSON -/

namespace RuleFile

structure Draft where
  config : Option Config := none
  rules : Option (List RuleEntry) := none
  ignore : Option (List String) := none

def record : Json.Record RuleFile where
  Draft := Draft
  name := "RuleFile"
  fields := [
    .ofOption "config" (·.config) (fun d a => { d with config := some a }) Config.decoder true,
    .ofOption "rules" (·.rules) (fun d a => { d with rules := some a }) (.list RuleEntry.decoder)
      false,
    .ofOption "ignore" (·.ignore) (fun d a => { d with ignore := some a }) (.list .string) true]
  empty := {}
  finish d := do
    let rules ← Json.required "rules" d.rules
    .ok { config := d.config.getD {}, rules, ignore := d.ignore.getD [] }

def decoder : Json.Decoder RuleFile := .record record

def toJson (f : RuleFile) : Json.Value :=
  .object [("config", f.config.toJson), ("rules", .list (f.rules.map RuleEntry.toJson)),
    ("ignore", .list (f.ignore.map .string))]

/-- Reads a rule file. -/
def parse (text : String) : Except Error RuleFile :=
  match decoder.run text with
  | .ok f => .ok f
  | .error fault => .error (.json fault)

/-- Reads the content of a file as a rule file, if the file can be read. -/
def ofContent : Except IoError String → Except Error RuleFile
  | .ok text => parse text
  | .error cause => .error (.io cause)

/-- Writes a rule file, in the pretty form. -/
def render (f : RuleFile) : String := f.toJson.pretty

end RuleFile

/-! ## Tokenizers from rule files -/

namespace Tokenizer

/-- Adds rules in order. -/
def addAll [Footprint] (t : Tokenizer) : List RuleEntry → Except Error Tokenizer
  | [] => .ok t
  | r :: rs => do (← t.add r).addAll rs

/-- Ignores the rules of several names in turn, with a warning for each name that no rule has. -/
def ignoreAll (t : Tokenizer) : List String → Tokenizer × List Log.Line
  | [] => (t, [])
  | name :: names =>
    let (t, lines) := t.ignore name
    let (t, more) := t.ignoreAll names
    (t, lines ++ more)

/-- The tokenizer that a rule file describes, with the warnings for names that no rule has. -/
def ofRuleFile [Footprint] (f : RuleFile) : Except Error (Tokenizer × List Log.Line) := do
  let t ← ofConfig f.config
  let t ← t.addAll f.rules
  .ok (t.ignoreAll f.ignore)

/-- The tokenizer that a text describes as a rule file. -/
def ofJson [Footprint] (text : String) : Except Error (Tokenizer × List Log.Line) := do
  ofRuleFile (← RuleFile.parse text)

/-- The tokenizer that the content of a file describes, if the file can be read. -/
def ofContent [Footprint] (content : Except IoError String) :
    Except Error (Tokenizer × List Log.Line) := do
  ofRuleFile (← RuleFile.ofContent content)

/-- A tokenizer as a rule file; ignored rules are marked, and no names are left to ignore. -/
def toRuleFile (t : Tokenizer) : RuleFile := { config := t.config, rules := t.rules.entries }

end Tokenizer

end Munch
