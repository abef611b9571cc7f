/-!
# Writing JSON

A **value** is JSON as it is written: an object keeps its members in order. It has a compact and a
pretty form; the pretty form puts each item on a line of its own, two columns further in than what
holds it.
-/

namespace Munch.Json

inductive Value where
  | null
  | bool (b : Bool)
  | number (n : Nat)
  | string (s : String)
  | list (items : List Value)
  | object (members : List (String × Value))

/-! ## Strings -/

/-- The digit of a number below sixteen. -/
def hexDigit (n : Nat) : Char := (Nat.toDigits 16 n).headD '0'

/-- One character as it stands in a string: quotes, backslashes and controls are escaped. -/
def escapedChar (c : Char) : List Char :=
  if c = '"' then ['\\', '"']
  else if c = '\\' then ['\\', '\\']
  else if 0x20 ≤ c.toNat then [c]
  else if c = '\x08' then ['\\', 'b']
  else if c = '\x0c' then ['\\', 'f']
  else if c = '\n' then ['\\', 'n']
  else if c = '\r' then ['\\', 'r']
  else if c = '\t' then ['\\', 't']
  else ['\\', 'u', '0', '0', hexDigit (c.toNat / 16), hexDigit (c.toNat % 16)]

def quote (s : String) : List Char := '"' :: s.toList.flatMap escapedChar ++ ['"']

namespace Value

/-! ## The compact form -/

mutual

def compactChars : Value → List Char
  | null => "null".toList
  | bool b => (toString b).toList
  | number n => (toString n).toList
  | string s => quote s
  | list items => '[' :: compactItems items ++ [']']
  | object members => '\x7b' :: compactMembers members ++ ['\x7d']

def compactItems : List Value → List Char
  | [] => []
  | [v] => v.compactChars
  | v :: vs => v.compactChars ++ ',' :: compactItems vs

def compactMembers : List (String × Value) → List Char
  | [] => []
  | [(k, v)] => quote k ++ ':' :: v.compactChars
  | (k, v) :: ms => quote k ++ ':' :: v.compactChars ++ ',' :: compactMembers ms

end

def compact (v : Value) : String := .ofList v.compactChars

/-! ## The pretty form -/

/-- The beginning of a line, `depth` levels in. -/
def newLine (depth : Nat) : List Char := '\n' :: List.replicate (2 * depth) ' '

mutual

/-- The pretty form of a value that stands `depth` levels in. -/
def prettyChars (depth : Nat) : Value → List Char
  | list (v :: vs) => '[' :: prettyItems (depth + 1) (v :: vs) ++ newLine depth ++ [']']
  | object (m :: ms) =>
    '\x7b' :: prettyMembers (depth + 1) (m :: ms) ++ newLine depth ++ ['\x7d']
  | v => v.compactChars

def prettyItems (depth : Nat) : List Value → List Char
  | [] => []
  | [v] => newLine depth ++ v.prettyChars depth
  | v :: vs => newLine depth ++ v.prettyChars depth ++ ',' :: prettyItems depth vs

def prettyMembers (depth : Nat) : List (String × Value) → List Char
  | [] => []
  | [(k, v)] => newLine depth ++ quote k ++ ':' :: ' ' :: v.prettyChars depth
  | (k, v) :: ms =>
    newLine depth ++ quote k ++ ':' :: ' ' :: v.prettyChars depth ++ ',' :: prettyMembers depth ms

end

def pretty (v : Value) : String := .ofList (v.prettyChars 0)

end Value

end Munch.Json
