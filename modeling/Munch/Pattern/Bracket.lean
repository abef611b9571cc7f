import Munch.Pattern.Lexeme

/-!
# Reading bracketed classes

A bracketed class such as `[a-z&&[^aeiou]]` nests, and its set operators bind alike and to the left.
The reader keeps a stack with an entry for each bracket that is open and for each operator that
waits for its right side.
-/

namespace Munch.Pattern

/-- What a class reader has left open. -/
inductive BracketFrame where
  /-- A bracket, with the items before it in the class around it, latest first. -/
  | opened (around : List ClassNode) (negated : Bool)
  | waiting (kind : SetOperator) (left : ClassNode)

/-- The reader of a class: open brackets and operators, the items read so far (latest first) and the
characters that are left. -/
structure BracketState where
  stack : List BracketFrame
  items : List ClassNode
  rest : List Char

/-! ## Parts of a class -/

def namedClass? (name : List Char) : Option NamedClass :=
  match String.ofList name with
  | "alnum" => some .alnum
  | "alpha" => some .alpha
  | "ascii" => some .ascii
  | "blank" => some .blank
  | "cntrl" => some .cntrl
  | "digit" => some .digit
  | "graph" => some .graph
  | "lower" => some .lower
  | "print" => some .print
  | "punct" => some .punct
  | "space" => some .space
  | "upper" => some .upper
  | "word" => some .word
  | "xdigit" => some .xdigit
  | _ => none

/-- A class such as `[:alpha:]` or `[:^alpha:]`, after its opening bracket. -/
def posixClass? (cs : List Char) : Option (ClassNode × List Char) := do
  let ':' :: cs := cs | none
  let (negated, cs) :=
    match cs with
    | '^' :: cs => (true, cs)
    | cs => (false, cs)
  let (name, rest) := cs.span (· ≠ ':')
  let ':' :: ']' :: rest := rest | none
  let kind ← namedClass? name
  some (.named kind negated, rest)

/-- What opens a class, after its bracket: a caret negates it, and dashes, or else a closing
bracket, that come first are literal. -/
def openBracket (verbose : Bool) (cs : List Char) :
    Except Error ((Bool × List ClassNode) × List Char) :=
  let dash : ClassNode := .literal ⟨'-', false⟩
  let (negated, cs) :=
    match skip verbose cs with
    | '^' :: cs => (true, skip verbose cs)
    | cs => (false, cs)
  let (dashes, rest) := takeRun verbose (· = '-') false cs
  match dashes, rest with
  | _, [] => .error .classUnclosed
  | [], ']' :: rest =>
    match skip verbose rest with
    | [] => .error .classUnclosed
    | rest => .ok ((negated, [.literal ⟨']', false⟩]), rest)
  | dashes, rest => .ok ((negated, dashes.map fun _ => dash), rest)

/-- A single character or escape in a class. -/
def classAtom (verbose : Bool) : List Char → Except Error (Atom × List Char)
  | [] => .error .classUnclosed
  | '\\' :: cs => escape verbose cs
  | c :: cs => .ok (.literal ⟨c, false⟩, cs)

def Atom.classItem : Atom → Except Error ClassNode
  | .literal l => .ok (.literal l)
  | .letter kind negated => .ok (.letter kind negated)
  | .property name negated => .ok (.property name negated)
  | .dot | .anchor _ => .error .escapeInClass

def Atom.boundary : Atom → Except Error Literal
  | .literal l => .ok l
  | _ => .error .rangeBoundary

/-- The character after the next one, past blanks and the mark of one comment. -/
def peekPast (verbose : Bool) (cs : List Char) : Option Char :=
  if verbose then
    match cs.tail.dropWhile Text.isBlank with
    | '#' :: rest => (rest.dropWhile Text.isBlank).head?
    | rest => rest.head?
  else cs.tail.head?

/-- An item of a class: a character, an escape or a range. -/
def classItem (verbose : Bool) (cs : List Char) : Except Error (ClassNode × List Char) := do
  let (first, rest) ← classAtom verbose cs
  match skip verbose rest with
  | [] => .error .classUnclosed
  | c :: rest =>
    let next := peekPast verbose (c :: rest)
    if c ≠ '-' || next == some ']' || next == some '-' then
      let item ← first.classItem
      .ok (item, c :: rest)
    else
      let (last, rest) ← classAtom verbose (skip verbose rest)
      let lo ← first.boundary
      let hi ← last.boundary
      if lo.char ≤ hi.char then .ok (.range lo hi, rest) else .error .rangeReversed

/-! ## The class as a whole -/

/-- Takes in the operator that waits for `right`, if one does. -/
def closeOperator (stack : List BracketFrame) (right : ClassNode) :
    List BracketFrame × ClassNode :=
  match stack with
  | .waiting kind left :: stack => (stack, .op kind left right)
  | stack => (stack, right)

def BracketState.pushOperator (s : BracketState) (kind : SetOperator) (rest : List Char) :
    BracketState :=
  let (stack, left) := closeOperator s.stack (.ofItems s.items.reverse)
  ⟨.waiting kind left :: stack, [], rest⟩

/-- One step of the reader: the class is complete, or there is more to read. -/
def BracketState.step (verbose : Bool) (s : BracketState) :
    Except Error (BracketState ⊕ (Node × List Char)) :=
  match skip verbose s.rest with
  | [] => .error .classUnclosed
  | '[' :: cs =>
    match if s.stack.isEmpty then none else posixClass? cs with
    | some (item, rest) => .ok (.inl { s with items := item :: s.items, rest := rest })
    | none => do
      let ((negated, items), rest) ← openBracket verbose cs
      .ok (.inl ⟨.opened s.items negated :: s.stack, items, rest⟩)
  | ']' :: cs =>
    let (stack, inside) := closeOperator s.stack (.ofItems s.items.reverse)
    match stack with
    | [.opened _ negated] => .ok (.inr (.bracketed negated inside, cs))
    | .opened around negated :: stack =>
      .ok (.inl ⟨stack, .bracketed negated inside :: around, cs⟩)
    | _ => .error .classUnclosed
  | '&' :: '&' :: cs => .ok (.inl (s.pushOperator .inter cs))
  | '-' :: '-' :: cs => .ok (.inl (s.pushOperator .diff cs))
  | '~' :: '~' :: cs => .ok (.inl (s.pushOperator .symmDiff cs))
  | cs => do
    let (item, rest) ← classItem verbose cs
    .ok (.inl { s with items := item :: s.items, rest := rest })

/-- Reads on until the class is complete. Each step takes at least one character, so the number of
characters bounds the number of steps. -/
def BracketState.run (verbose : Bool) : Nat → BracketState → Except Error (Node × List Char)
  | 0, _ => .error .classUnclosed
  | n + 1, s => do
    match ← s.step verbose with
    | .inl s => s.run verbose n
    | .inr done => .ok done

/-- A bracketed class, which begins with its opening bracket. -/
def bracket (verbose : Bool) (cs : List Char) : Except Error (Node × List Char) :=
  BracketState.run verbose (cs.length + 1) ⟨[], [], cs⟩

end Munch.Pattern
