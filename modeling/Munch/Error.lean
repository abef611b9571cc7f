import Munch.Config
import Munch.Json.Fault
import Munch.Pattern.Error

/-!
# Errors

Everything that can go wrong before a text is tokenized, with its wording. Tokenizing itself does
not fail: text that no rule matches becomes unknown tokens.
-/

namespace Munch

/-- Why a file or a stream cannot be read as text. -/
inductive IoError where
  | notFound
  | isDirectory
  | invalidUtf8
  /-- A reason given in words. -/
  | other (reason : String)
deriving DecidableEq, Repr

def IoError.message : IoError → String
  | notFound => "No such file or directory (os error 2)"
  | isDirectory => "Is a directory (os error 21)"
  | invalidUtf8 => "stream did not contain valid UTF-8"
  | other reason => reason

/-- The text that a file or a stream of bytes holds. -/
def textOfBytes (bytes : ByteArray) : Except IoError String :=
  match String.fromUTF8? bytes with
  | some text => .ok text
  | none => .error .invalidUtf8

inductive Error where
  /-- A rule with the same pattern and ignored flag exists. -/
  | duplicateRule (name pattern : String)
  | invalidPattern (pattern : String) (cause : Pattern.Error)
  | invalidConfig (cause : Config.Error)
  | io (cause : IoError)
  | json (cause : Json.Fault)
deriving DecidableEq, Repr

namespace Error

def message : Error → String
  | duplicateRule name pattern => s!"Rule for {name} with value ({pattern}) already exists"
  | invalidPattern pattern cause => s!"Invalid pattern ({pattern}): {cause.message}"
  | invalidConfig cause => s!"Invalid configuration: {cause.message}"
  | io cause => s!"I/O error: {cause.message}"
  | json cause => s!"JSON error: {cause.message}"

def isDuplicate : Error → Bool
  | duplicateRule .. => true
  | _ => false

end Error

end Munch
