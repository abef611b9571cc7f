import Munch.Command.Stop

/-!
# What the program says about itself

The program names its version where it is asked for. The wording of help, and of what is wrong with
arguments that lead to no command, is left out.
-/

namespace Munch.Command

def version : String := "chunklex 0.1.0"

namespace Stop

def stdout : Stop → String
  | version => Command.version ++ "\n"
  | _ => ""

def stderr (_ : Stop) : String := ""

end Stop

end Munch.Command
