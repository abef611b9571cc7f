import Munch.Json.Literal
import Munch.Json.Number

/-!
# Values that are passed over

A member that no type asks for is passed over, whatever its value; the value must still be JSON. It
may nest to any depth, so the reader keeps a stack of the lists and objects that are open.
-/

namespace Munch.Json

/-- A list or an object that is open. -/
inductive Bracket where
  | list
  | object
deriving DecidableEq, Repr

namespace Bracket

def close : Bracket → Char
  | list => ']'
  | object => '\x7d'

def eof : Bracket → Fault
  | list => .eofInList
  | object => .eofInObject

def expectedEnd : Bracket → Fault
  | list => .expectedListEnd
  | object => .expectedObjectEnd

end Bracket

/-- What has to come next. -/
inductive Awaited where
  | value
  /-- The first item of the innermost list or object, or its end. -/
  | first
  /-- A comma and another item, or the end. -/
  | next
deriving DecidableEq, Repr

/-- A reader that passes over a value. -/
structure Skipper where
  awaited : Awaited
  stack : List Bracket
  rest : List Char

namespace Skipper

/-- Passes the key and colon that come before a value in an object. -/
def key (cs : List Char) : Except Fault (List Char) :=
  match dropBlanks cs with
  | [] => .error .eofInObject
  | '"' :: cs => do
    match dropBlanks (← skipString cs) with
    | [] => .error .eofInObject
    | ':' :: cs => .ok cs
    | _ => .error .expectedColon
  | _ => .error .keyNotString

/-- Begins the next item of the innermost list or object. -/
def item (b : Bracket) (stack : List Bracket) (cs : List Char) : Except Fault Skipper :=
  match b with
  | .list => .ok ⟨.value, .list :: stack, cs⟩
  | .object => do .ok ⟨.value, .object :: stack, ← key cs⟩

/-- Passes the beginning of a value, or all of one that does not nest. -/
def value (stack : List Bracket) (cs : List Char) : Except Fault Skipper :=
  match dropBlanks cs with
  | [] => .error .eofInValue
  | 'n' :: cs => do .ok ⟨.next, stack, ← word "ull".toList cs⟩
  | 't' :: cs => do .ok ⟨.next, stack, ← word "rue".toList cs⟩
  | 'f' :: cs => do .ok ⟨.next, stack, ← word "alse".toList cs⟩
  | '-' :: cs => do .ok ⟨.next, stack, ← skipNumber cs⟩
  | '"' :: cs => do .ok ⟨.next, stack, ← skipString cs⟩
  | '[' :: cs => .ok ⟨.first, .list :: stack, cs⟩
  | '\x7b' :: cs => .ok ⟨.first, .object :: stack, cs⟩
  | c :: cs =>
    if isDigit c then do .ok ⟨.next, stack, ← skipNumber (c :: cs)⟩ else .error .expectedValue

/-- One step. -/
def step (s : Skipper) : Except Fault Skipper :=
  match s.awaited, s.stack with
  | .value, stack => value stack s.rest
  | _, [] => .ok s
  | awaited, b :: stack =>
    match dropBlanks s.rest with
    | [] => .error b.eof
    | c :: cs =>
      if c = b.close then .ok ⟨.next, stack, cs⟩
      else if awaited = .first then item b stack (c :: cs)
      else if c = ',' then item b stack cs
      else .error b.expectedEnd

/-- Steps until nothing is open. Two steps pass at least one character, so twice the number of
characters bounds the number of steps. -/
def run : Nat → Skipper → Except Fault (List Char)
  | 0, s => .ok s.rest
  | n + 1, s => if s.awaited = .next ∧ s.stack.isEmpty then .ok s.rest else do run n (← s.step)

end Skipper

/-- Passes over a value. -/
def skipValue (cs : List Char) : Except Fault (List Char) :=
  Skipper.run (2 * cs.length + 2) ⟨.value, [], cs⟩

end Munch.Json
