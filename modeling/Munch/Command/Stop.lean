/-!
# Arguments that do not lead to a command

Reading the arguments of the program **stops** at the first fault, or where help or the version is
asked for.
-/

namespace Munch.Command

inductive Stop where
  | help
  | version
  /-- There is no argument at all. -/
  | nothingGiven
  | missingCommand
  | unknownCommand
  | unknownArgument
  /-- An option is repeated, or two arguments exclude each other. -/
  | conflict
  /-- A value is missing, empty where it must not be, or not one of the words to choose from. -/
  | invalidValue
  /-- A number is malformed or too large. -/
  | invalidNumber
  /-- A value is given to an option that takes none. -/
  | unexpectedValue
  | missingArgument
deriving DecidableEq, Repr

namespace Stop

/-- Help and version are no failures. -/
def exitCode : Stop → Nat
  | help => 0
  | version => 0
  | _ => 2

end Stop

end Munch.Command
