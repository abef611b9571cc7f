import Munch.Decimal
import Munch.Json.Fault

/-!
# Numbers in JSON

A number without fraction or exponent is an integer if it fits into 64 bits, and a floating-point
number otherwise; minus zero is one too. The **significand** of such a number is cut off where it no
longer fits into 64 bits. It is then scaled by powers of ten in floating point, so that the last
digit may be off.
-/

namespace Munch.Json

inductive Number where
  | natural (n : Nat)
  /-- Minus `n`. -/
  | negative (n : Nat)
  | float (x : Float)

/-- The value of a decimal digit. -/
def digit? (c : Char) : Option Nat :=
  if '0' ≤ c ∧ c ≤ '9' then some (c.toNat - '0'.toNat) else none

/-- Adds digits to a significand for as long as it fits into 64 bits, and counts them. -/
def takeDigits (significand count : Nat) : List Char → Nat × Nat × List Char
  | [] => (significand, count, [])
  | c :: cs =>
    match digit? c with
    | some d =>
      if 10 * significand + d < UInt64.size then takeDigits (10 * significand + d) (count + 1) cs
      else (significand, count, c :: cs)
    | none => (significand, count, c :: cs)

def isDigit (c : Char) : Bool := (digit? c).isSome

def startsWithDigit : List Char → Bool
  | c :: _ => isDigit c
  | [] => false

/-- `x * 10 ^ e`, in at most a few floating-point operations; `none` if the result is too large. -/
def scale (x : Float) (e : Int) : Nat → Option Float
  | 0 => some 0
  | n + 1 =>
    if e.natAbs ≤ 308 then
      if 0 ≤ e then
        let y := x * Float.ofScientific 1 false e.natAbs
        if y.isInf then none else some y
      else some (x / Float.ofScientific 1 false e.natAbs)
    else if x == 0 then some x
    else if 0 ≤ e then none
    else scale (x / Float.ofScientific 1 false 308) (e + 308) n

/-- The floating-point number with the given sign, significand and exponent. -/
def floatOf (minus : Bool) (significand : Nat) (e : Int) : Except Fault Number :=
  match scale significand.toUInt64.toFloat e 4 with
  | some x => .ok (.float (if minus then -x else x))
  | none => .error .numberOutOfRange

/-- An exponent, after its letter. -/
def exponent (minus : Bool) (significand : Nat) (e : Int) (cs : List Char) :
    Except Fault (Number × List Char) := do
  let (down, cs) :=
    match cs with
    | '+' :: cs => (false, cs)
    | '-' :: cs => (true, cs)
    | cs => (false, cs)
  match cs with
  | [] => .error .eofInValue
  | c :: _ =>
    if !isDigit c then .error .invalidNumber
    else
      let n := (cs.takeWhile isDigit).foldl (fun n c => 10 * n + (digit? c).getD 0) 0
      let x ← floatOf minus significand (if down then e - n else e + n)
      .ok (x, cs.dropWhile isDigit)

/-- What may follow the digits of a floating-point number. -/
def exponentOrEnd (minus : Bool) (significand : Nat) (e : Int) (cs : List Char) :
    Except Fault (Number × List Char) :=
  match cs with
  | 'e' :: cs | 'E' :: cs => exponent minus significand e cs
  | cs => do
    let x ← floatOf minus significand e
    .ok (x, cs)

/-- A fraction, after its point. -/
def fraction (minus : Bool) (significand : Nat) (e : Int) (cs : List Char) :
    Except Fault (Number × List Char) :=
  let (significand, count, rest) := takeDigits significand 0 cs
  if startsWithDigit rest then
    exponentOrEnd minus significand (e - count) (rest.dropWhile isDigit)
  else if count = 0 then .error (if rest.isEmpty then .eofInValue else .invalidNumber)
  else exponentOrEnd minus significand (e - count) rest

/-- What may follow an integer that fits into 64 bits. -/
def afterInteger (minus : Bool) (significand : Nat) (cs : List Char) :
    Except Fault (Number × List Char) :=
  match cs with
  | '.' :: cs => fraction minus significand 0 cs
  | 'e' :: cs | 'E' :: cs => exponent minus significand 0 cs
  | cs =>
    if !minus then .ok (.natural significand, cs)
    else if 0 < significand ∧ significand ≤ Nat.pow 2 63 then .ok (.negative significand, cs)
    else do
      let x ← floatOf true significand 0
      .ok (x, cs)

/-- A number, after its sign. -/
def number (minus : Bool) (cs : List Char) : Except Fault (Number × List Char) :=
  match cs with
  | [] => .error .eofInValue
  | '0' :: cs => if startsWithDigit cs then .error .invalidNumber else afterInteger minus 0 cs
  | c :: _ =>
    if !isDigit c then .error .invalidNumber
    else
      let (significand, _, rest) := takeDigits 0 0 cs
      if startsWithDigit rest then
        let dropped := (rest.takeWhile isDigit).length
        match rest.dropWhile isDigit with
        | '.' :: rest => fraction minus significand dropped rest
        | rest => exponentOrEnd minus significand dropped rest
      else afterInteger minus significand rest

/-- How a number is described where another type is wanted. -/
def Number.found : Number → Found
  | natural n => .integer n
  | negative n => .integer (-n)
  | float x => .float (Decimal.ofFloat x)

/-! ## Numbers that are passed over -/

/-- Passes an exponent, after its letter. -/
def skipExponent (cs : List Char) : Except Fault (List Char) :=
  let cs :=
    match cs with
    | '+' :: cs | '-' :: cs => cs
    | cs => cs
  if startsWithDigit cs then .ok (cs.dropWhile isDigit) else .error .invalidNumber

/-- Passes what may follow the digits before a point. -/
def skipFraction (cs : List Char) : Except Fault (List Char) :=
  match cs with
  | '.' :: cs =>
    if !startsWithDigit cs then .error .invalidNumber
    else match cs.dropWhile isDigit with
      | 'e' :: cs | 'E' :: cs => skipExponent cs
      | cs => .ok cs
  | 'e' :: cs | 'E' :: cs => skipExponent cs
  | cs => .ok cs

/-- Passes a number of any size, after its sign. -/
def skipNumber (cs : List Char) : Except Fault (List Char) :=
  match cs with
  | '0' :: cs => if startsWithDigit cs then .error .invalidNumber else skipFraction cs
  | cs => if startsWithDigit cs then skipFraction (cs.dropWhile isDigit) else .error .invalidNumber

end Munch.Json
