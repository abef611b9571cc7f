import Munch.Pattern.Meaning
import Munch.Pattern.Search

/-!
# Patterns

A **pattern** is a regular expression that a caller wrote. It is put between anchors before it is
read, so that it has to match a text from end to end. The anchors are added as text: a pattern that
closes their group and opens another, such as `a)|(?:b`, is legal, and then matches inside a text.

**Size.** The engine that runs patterns compiles them, and refuses what takes up more than
`Pattern.sizeLimit` bytes. How many bytes that are is up to the engine: it is the **footprint** of
the patterns, and all that is proved holds of any footprint.
-/

namespace Munch

/-- A pattern as it was written, and the regex that it denotes between its anchors. -/
structure Pattern where
  source : String
  regex : Regex
deriving DecidableEq, Repr

/-- How many bytes compiled patterns take up. -/
class Footprint where
  /-- The bytes of a pattern by itself. -/
  alone : Pattern → Nat
  /-- The bytes of the set of some patterns. -/
  together : List Pattern → Nat

namespace Pattern

/-- The source between anchors. -/
def anchored (source : String) : List Char :=
  "^(?:".toList ++ source.toList ++ ")$".toList

/-- The pattern of a source. It is refused if it is malformed, has no meaning, or is too big. -/
def ofSource [Footprint] (source : String) : Except Error Pattern := do
  let pattern : Pattern := ⟨source, ← compile (anchored source)⟩
  if Footprint.alone pattern ≤ sizeLimit then .ok pattern else .error .tooBig

/-- The patterns are not too big for one set. -/
def WithinLimit [Footprint] (patterns : List Pattern) : Prop :=
  Footprint.together patterns ≤ sizeLimit

instance [Footprint] (patterns : List Pattern) : Decidable (WithinLimit patterns) :=
  inferInstanceAs (Decidable (_ ≤ _))

end Pattern

end Munch
