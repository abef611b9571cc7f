import Munch.Pattern.Probe

/-!
# Rules

A **rule** gives the name of the tokens that its pattern matches. Matches of an **ignored** rule are
consumed and not delivered. Two rules clash if they have the same **key**: pattern and ignored flag.
-/

namespace Munch

structure Rule where
  pattern : Pattern
  name : String
  ignored : Bool := false
deriving DecidableEq, Repr

/-- A rule as it is written down. -/
structure RuleEntry where
  pattern : String
  name : String
  ignored : Bool := false
deriving DecidableEq, Repr

namespace Rule

/-- What makes two rules clash; the name has no part in it. -/
def key (r : Rule) : String × Bool := (r.pattern.source, r.ignored)

/-- Whether the rule matches a text. -/
def accepts (r : Rule) (text : List Char) : Bool := r.pattern.accepts text

def entry (r : Rule) : RuleEntry := ⟨r.pattern.source, r.name, r.ignored⟩

def display (r : Rule) : String :=
  s!"{r.name} ({r.pattern.source})" ++ if r.ignored then " [ignored]" else ""

end Rule

end Munch
