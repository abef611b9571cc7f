import Munch.Json.Fault

/-!
# Words and strings in JSON

Readers for the words `null`, `true` and `false` and for strings. An escape of four digits names a
UTF-16 unit; two of them make up a character outside the basic plane.
-/

namespace Munch.Json

/-- Drops the blanks that may stand between the parts of a text. -/
def dropBlanks (cs : List Char) : List Char :=
  cs.dropWhile fun c => c = ' ' || c = '\n' || c = '\t' || c = '\r'

/-- Passes the letters of a word. -/
def word : List Char → List Char → Except Fault (List Char)
  | [], cs => .ok cs
  | _ :: _, [] => .error .eofInValue
  | w :: ws, c :: cs => if c = w then word ws cs else .error .expectedIdent

/-! ## Strings -/

/-- The character that a backslash and a letter stand for. -/
def escaped? (c : Char) : Option Char :=
  match c with
  | '"' => some '"'
  | '\\' => some '\\'
  | '/' => some '/'
  | 'b' => some '\x08'
  | 'f' => some '\x0c'
  | 'n' => some '\n'
  | 'r' => some '\r'
  | 't' => some '\t'
  | _ => none

/-- The value of four hexadecimal digits. -/
def unit? (a b c d : Char) : Option Nat := do
  let a ← CharSet.hexValue? a
  let b ← CharSet.hexValue? b
  let c ← CharSet.hexValue? c
  let d ← CharSet.hexValue? d
  some (((a * 16 + b) * 16 + c) * 16 + d)

/-- What is wrong with digits of an escape: four bytes may be missing, or be no digits. -/
def unitFault (cs : List Char) : Fault :=
  if Text.byteSize cs < 4 then .eofInString else .invalidEscape

def isLead (n : Nat) : Bool := 0xD800 ≤ n && n ≤ 0xDBFF

def isTrail (n : Nat) : Bool := 0xDC00 ≤ n && n ≤ 0xDFFF

/-- The character of a surrogate pair. -/
def pairChar (lead trail : Nat) : Char :=
  Char.ofNat ((lead - 0xD800) * 0x400 + (trail - 0xDC00) + 0x10000)

/-- A string after its opening quote; `acc` holds the characters so far, latest first. -/
def stringBody (acc : List Char) : List Char → Except Fault (List Char × List Char)
  | [] => .error .eofInString
  | '"' :: cs => .ok (acc.reverse, cs)
  | '\\' :: 'u' :: a :: b :: c :: d :: cs =>
    match unit? a b c d with
    | none => .error (unitFault (a :: b :: c :: d :: cs))
    | some n =>
      if isTrail n then .error .loneSurrogate
      else if !isLead n then stringBody (Char.ofNat n :: acc) cs
      else
        match cs with
        | '\\' :: 'u' :: a :: b :: c :: d :: cs =>
          match unit? a b c d with
          | none => .error (unitFault (a :: b :: c :: d :: cs))
          | some m =>
            if isTrail m then stringBody (pairChar n m :: acc) cs else .error .loneSurrogate
        | '\\' :: 'u' :: cs => .error (unitFault cs)
        | [] | ['\\'] => .error .eofInString
        | _ => .error .unfinishedPair
  | '\\' :: 'u' :: cs => .error (unitFault cs)
  | ['\\'] => .error .eofInString
  | '\\' :: e :: cs =>
    match escaped? e with
    | some c => stringBody (c :: acc) cs
    | none => .error .invalidEscape
  | c :: cs => if c.toNat < 0x20 then .error .controlCharacter else stringBody (c :: acc) cs

/-- Passes a string after its opening quote; its surrogates need not pair up. -/
def skipString : List Char → Except Fault (List Char)
  | [] => .error .eofInString
  | '"' :: cs => .ok cs
  | '\\' :: 'u' :: a :: b :: c :: d :: cs =>
    if (unit? a b c d).isSome then skipString cs else .error (unitFault (a :: b :: c :: d :: cs))
  | '\\' :: 'u' :: cs => .error (unitFault cs)
  | ['\\'] => .error .eofInString
  | '\\' :: e :: cs => if (escaped? e).isSome then skipString cs else .error .invalidEscape
  | c :: cs => if c.toNat < 0x20 then .error .controlCharacter else skipString cs

end Munch.Json
