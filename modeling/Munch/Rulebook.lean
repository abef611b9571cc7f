import Munch.Error
import Munch.Log
import Munch.Pattern.Probe
import Munch.Rule

/-!
# Rulebooks

A **rulebook** holds rules in order of priority: of the rules that match a text, the first one wins.
Beside the rules it keeps the set of their patterns, which decides a text in one pass, and an index
from names in lower case to the first rule of that name. No rule can be added with the key of
another. The set is compiled anew for each rule that is added, and a rule for which that fails is
not added either.
-/

namespace Munch

structure Rulebook where
  rules : Array Rule
  /-- Each name in lower case with the position of the first rule that has it. -/
  names : List (String × Nat)
  patterns : PatternSet

/-- The rule that an entry describes. -/
def RuleEntry.toRule [Footprint] (e : RuleEntry) : Except Error Rule :=
  match Pattern.ofSource e.pattern with
  | .ok p => .ok ⟨p, e.name, e.ignored⟩
  | .error cause => .error (.invalidPattern e.pattern cause)

namespace Rulebook

def empty : Rulebook := ⟨#[], [], .empty⟩

def size (b : Rulebook) : Nat := b.rules.size

/-- The rules as they are written down. -/
def entries (b : Rulebook) : List RuleEntry := b.rules.toList.map Rule.entry

/-! ## Adding rules -/

/-- Whether a rule has the same key as one in the book. -/
def clashes (b : Rulebook) (r : Rule) : Bool := b.rules.any fun s => s.key = r.key

/-- Enters a name in the index, unless it is there. -/
def enterName (names : List (String × Nat)) (name : String) (position : Nat) :
    List (String × Nat) :=
  match names.lookup name with
  | some _ => names
  | none => names ++ [(name, position)]

/-- Appends a rule, with the lowest priority so far. It is refused if its key is taken, or else if
its pattern is too big together with those of the book. -/
def push [Footprint] (b : Rulebook) (r : Rule) : Except Error Rulebook :=
  if b.clashes r then .error (.duplicateRule r.name r.pattern.source)
  else
    let rules := b.rules.push r
    match PatternSet.ofPatterns (rules.map Rule.pattern) with
    | .ok patterns =>
      .ok { rules, names := enterName b.names (lowercase r.name) b.rules.size, patterns }
    | .error cause => .error (.invalidPattern r.pattern.source cause)

/-- Appends the rule that an entry describes. -/
def add [Footprint] (b : Rulebook) (e : RuleEntry) : Except Error Rulebook := do b.push (← e.toRule)

/-! ## Ignoring rules -/

/-- Ignores the first rule of a name, in any case of letters; `none` if no rule has the name. -/
def ignore? (b : Rulebook) (name : String) : Option Rulebook := do
  let position ← b.names.lookup (lowercase name)
  some { b with rules := b.rules.modify position fun r => { r with ignored := true } }

/-- As `ignore?`, with a warning if no rule has the name. -/
def ignore (b : Rulebook) (name : String) : Rulebook × List Log.Line :=
  match b.ignore? name with
  | some b => (b, [])
  | none => (b, [Log.unknownRule name])

/-! ## Matching -/

/-- The priority of the rule that wins a text: its position in the book. A text may have a winner
that a probe misses. -/
def priority? (b : Rulebook) (text : List Char) : Option Nat := b.patterns.first? text

/-- The rule that wins a text. -/
def winner? (b : Rulebook) (text : List Char) : Option Rule := do b.rules[← b.priority? text]?

/-- Whether a probe finds that some rule matches the text. -/
def accepts (b : Rulebook) (text : List Char) : Bool := b.patterns.accepts text

end Rulebook

end Munch
