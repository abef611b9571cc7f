import Munch.Unicode.Classes

/-!
# Quoted text

Logs and listings show a text **quoted**: between double quotes, with a backslash before quotes and
backslashes, letters for the common controls, and the code point of any other character that does
not print on its own.
-/

namespace Munch.Text

/-- The digits of `n` to base sixteen, in lower case. -/
def hexDigits (n : Nat) : List Char := Nat.toDigits 16 n

/-- One character as it stands in quoted text. -/
def quotedChar (c : Char) : List Char :=
  if c = '"' then ['\\', '"']
  else if c = '\\' then ['\\', '\\']
  else if c = '\n' then ['\\', 'n']
  else if c = '\r' then ['\\', 'r']
  else if c = '\t' then ['\\', 't']
  else if c = '\x00' then ['\\', '0']
  else if Unicode.isPlain c then [c]
  else ['\\', 'u', '\x7b'] ++ hexDigits c.toNat ++ ['\x7d']

def quoted (cs : List Char) : String := .ofList ('"' :: cs.flatMap quotedChar ++ ['"'])

end Munch.Text
