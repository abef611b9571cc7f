import Munch.Token

/-!
# Log lines

A **log line** has a level and a text. Whoever runs a tokenizer chooses the least level to be shown.
-/

namespace Munch.Log

inductive Level where
  | error
  | warn
  | info
  | debug
  | trace
deriving DecidableEq, Repr

namespace Level

/-- The levels in order; a higher rank says more. -/
def rank : Level → Nat
  | error => 0
  | warn => 1
  | info => 2
  | debug => 3
  | trace => 4

def name : Level → String
  | error => "ERROR"
  | warn => "WARN"
  | info => "INFO"
  | debug => "DEBUG"
  | trace => "TRACE"

end Level

structure Line where
  level : Level
  text : String
deriving DecidableEq, Repr

namespace Line

def render (l : Line) : String := s!"[{l.level.name}] {l.text}"

end Line

/-- The lines that are shown up to a level. -/
def upTo (level : Level) (lines : List Line) : List Line :=
  lines.filter fun l => l.level.rank ≤ level.rank

/-! ## What is logged -/

/-- No rule has the name that was to be ignored. -/
def unknownRule (name : String) : Line := ⟨.warn, s!"Could not find token {name} in the rules list"⟩

def rulesLoaded (count : Nat) (path : String) : Line :=
  ⟨.info, s!"Loaded {count} rules from {path}"⟩

def started (bytes rules : Nat) : Line := ⟨.debug, s!"Tokenizing {bytes} bytes with {rules} rules"⟩

def chunk (bytes : Nat) : Line := ⟨.trace, s!"Processing chunk of {bytes} bytes"⟩

/-- A step; its text is given in quotes. -/
def step (quoted : String) : Line := ⟨.trace, s!"Feeding step {quoted}"⟩

def finished (s : Stats) : Line :=
  ⟨.debug, s!"Tokenization finished: TokenizeStats \x7b emitted: {s.emitted}, " ++
    s!"ignored: {s.ignored}, unknown: {s.unknown}, dropped: {s.dropped}, chunks: {s.chunks} \x7d"⟩

end Munch.Log
