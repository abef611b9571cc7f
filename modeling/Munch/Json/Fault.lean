import Munch.Text.Quoted

/-!
# Why a JSON text is refused

A **fault** is either one of the written form, or one of meaning: the text is JSON so far, but does
not describe a value of the type that is wanted. The first fault from left to right is the one
reported.

**Wording.** The line and the column of a fault, which stand at the end of its message, are left
out.
-/

namespace Munch.Json

/-- What stands where another type of value is wanted. -/
inductive Found where
  | null
  | boolean (b : Bool)
  | integer (n : Int)
  | float (text : String)
  | string (text : String)
  | sequence
  | map
deriving DecidableEq, Repr

inductive Fault where
  | eofInValue
  | eofInList
  | eofInObject
  | eofInString
  | expectedColon
  | expectedListEnd
  | expectedObjectEnd
  | expectedIdent
  | expectedValue
  | invalidEscape
  | invalidNumber
  | numberOutOfRange
  | controlCharacter
  | keyNotString
  | loneSurrogate
  | unfinishedPair
  | trailingComma
  | trailingCharacters
  | invalidType (found : Found) (expected : String)
  | invalidValue (found : Found) (expected : String)
  | invalidLength (length : Nat) (expected : String)
  | missingField (name : String)
  | duplicateField (name : String)
  | unknownVariant (name : String) (known : List String)
deriving DecidableEq, Repr

def Found.message : Found → String
  | null => "null"
  | boolean b => s!"boolean \u0060{b}\u0060"
  | integer n => s!"integer \u0060{n}\u0060"
  | float text => s!"floating point \u0060{text}\u0060"
  | string text => s!"string {Text.quoted text.toList}"
  | sequence => "sequence"
  | map => "map"

/-- The names of a choice: one, two joined by `or`, or a list of more. -/
def oneOf (names : List String) : String :=
  match names.map fun n => s!"\u0060{n}\u0060" with
  | [a, b] => s!"{a} or {b}"
  | [a] => a
  | names => "one of " ++ ", ".intercalate names

namespace Fault

def message : Fault → String
  | eofInValue => "EOF while parsing a value"
  | eofInList => "EOF while parsing a list"
  | eofInObject => "EOF while parsing an object"
  | eofInString => "EOF while parsing a string"
  | expectedColon => "expected \u0060:\u0060"
  | expectedListEnd => "expected \u0060,\u0060 or \u0060]\u0060"
  | expectedObjectEnd => "expected \u0060,\u0060 or \u0060\x7d\u0060"
  | expectedIdent => "expected ident"
  | expectedValue => "expected value"
  | invalidEscape => "invalid escape"
  | invalidNumber => "invalid number"
  | numberOutOfRange => "number out of range"
  | controlCharacter => "control character (\\u0000-\\u001F) found while parsing a string"
  | keyNotString => "key must be a string"
  | loneSurrogate => "lone leading surrogate in hex escape"
  | unfinishedPair => "unexpected end of hex escape"
  | trailingComma => "trailing comma"
  | trailingCharacters => "trailing characters"
  | invalidType found expected => s!"invalid type: {found.message}, expected {expected}"
  | invalidValue found expected => s!"invalid value: {found.message}, expected {expected}"
  | invalidLength length expected => s!"invalid length {length}, expected {expected}"
  | missingField name => s!"missing field \u0060{name}\u0060"
  | duplicateField name => s!"duplicate field \u0060{name}\u0060"
  | unknownVariant name known => s!"unknown variant \u0060{name}\u0060, expected {oneOf known}"

end Fault

end Munch.Json
