import Munch.BlockStream
import Munch.Lexer

/-!
# Tokenizers

A **tokenizer** is a rulebook with a configuration. It streams a text to a fresh lexer in chunks and
steps, flushes as the configuration says, and once more at the end.
-/

namespace Munch

structure Tokenizer where
  rules : Rulebook := .empty
  config : Config := {}

namespace Tokenizer

/-! ## Building -/

/-- A tokenizer without rules. -/
def ofConfig (c : Config) : Except Error Tokenizer :=
  match c.check with
  | .ok () => .ok { config := c }
  | .error cause => .error (.invalidConfig cause)

/-- Replaces the configuration by a valid one. -/
def reconfigure (t : Tokenizer) (c : Config) : Except Error Tokenizer :=
  match c.check with
  | .ok () => .ok { t with config := c }
  | .error cause => .error (.invalidConfig cause)

/-- Adds a rule, with the lowest priority so far. -/
def add [Footprint] (t : Tokenizer) (e : RuleEntry) : Except Error Tokenizer := do
  .ok { t with rules := ← t.rules.add e }

/-- Ignores the first rule of a name, with a warning if there is none. -/
def ignore (t : Tokenizer) (name : String) : Tokenizer × List Log.Line :=
  let (rules, lines) := t.rules.ignore name
  ({ t with rules }, lines)

/-! ## Running -/

/-- The chunks of a text. -/
def chunks (t : Tokenizer) (text : List Char) : List (List Char) :=
  (BlockStream.ofText t.config.chunkSize.toNat text t.config.trimInput).toList

/-- The steps of a chunk. -/
def steps (t : Tokenizer) (chunk : List Char) : List (List Char) :=
  (BlockStream.ofText t.config.stepSize.toNat chunk).toList

/-- Reads one chunk step by step, and flushes after it if the configuration says so. -/
def runChunk (t : Tokenizer) (s : Lexer × Transcript) (chunk : List Char) : Lexer × Transcript :=
  let (lexer, out) :=
    (t.steps chunk).foldl (fun (l, out) step => l.read t.rules step out) (s.1, s.2.addChunk)
  match t.config.flushPolicy with
  | .perChunk => lexer.flush t.rules out
  | .endOfStream => (lexer, out)

/-- Streams a text into a transcript. -/
def run (t : Tokenizer) (text : List Char) (out : Transcript) : Transcript :=
  let (lexer, out) := (t.chunks text).foldl t.runChunk ({}, out)
  (lexer.flush t.rules out).2

/-- The tokens delivered for a text, in order, and the counters of the run. -/
def tokenize (t : Tokenizer) (text : List Char) : List Token × Stats :=
  let out := t.run text .plain
  (out.tokens.toList, out.stats)

def tokens (t : Tokenizer) (text : List Char) : List Token := (t.tokenize text).1

/-- How every part of a text was resolved, and the counters of the run. -/
def trace (t : Tokenizer) (text : List Char) : List Segment × Stats :=
  let out := t.run text .full
  (out.segments.toList, out.stats)

/-! ## Logging -/

/-- What is logged while a text is streamed. -/
def log (t : Tokenizer) (text : List Char) : List Log.Line :=
  let chunkLines (chunk : List Char) : List Log.Line :=
    Log.chunk (Text.byteSize chunk) :: (t.steps chunk).map fun s => Log.step (Text.quoted s)
  Log.started (Text.byteSize (t.config.streamed text)) t.rules.size ::
    (t.chunks text).flatMap chunkLines ++ [Log.finished (t.tokenize text).2]

end Tokenizer

end Munch
