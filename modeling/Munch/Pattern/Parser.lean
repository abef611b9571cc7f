import Munch.Pattern.Bracket

/-!
# Reading patterns

The reader takes a pattern part by part, from left to right, and stops at the first fault. It keeps
a stack with an entry for each open group and for each alternation under way, so a pattern may nest
to any depth; `parse` then refuses one that nests deeper than `nestLimit`.
-/

namespace Munch.Pattern

/-- What a pattern reader has left open. -/
inductive Frame where
  /-- A group, with the items before it (latest first) and the verbose flag outside it. -/
  | group (around : List Node) (setting : FlagSetting) (verbose : Bool)
  /-- An alternation, with its branches so far, latest first. -/
  | alt (branches : List Node)

/-- The reader of a pattern: open groups and alternations, the items of the sequence under way
(latest first), the verbose flag, the names of groups and the characters that are left. -/
structure State where
  stack : List Frame
  items : List Node
  verbose : Bool
  names : List (List Char)
  rest : List Char

/-! ## Groups and alternations -/

/-- Ends the branch under way and begins another. -/
def State.pushBranch (s : State) (rest : List Char) : State :=
  let branch := Node.ofItems s.items.reverse
  match s.stack with
  | .alt branches :: stack =>
    { s with stack := .alt (branch :: branches) :: stack, items := [], rest }
  | stack => { s with stack := .alt [branch] :: stack, items := [], rest }

/-- Begins a group. -/
def State.pushGroup (s : State) (setting : FlagSetting) (rest : List Char) : State :=
  { s with
    stack := .group s.items setting s.verbose :: s.stack
    items := []
    verbose := (setting.lookup .verbose).getD s.verbose
    rest }

/-- The node of the innermost open group or of the whole pattern, and the stack around it. -/
def State.body (s : State) : Node × List Frame :=
  let last := Node.ofItems s.items.reverse
  match s.stack with
  | .alt branches :: stack => (.ofBranches (last :: branches).reverse, stack)
  | stack => (last, stack)

/-- Ends the innermost group. -/
def State.popGroup (s : State) (rest : List Char) : Except Error State :=
  match s.body with
  | (body, .group around setting verbose :: stack) =>
    .ok { s with stack, items := .group setting body :: around, verbose, rest }
  | _ => .error .groupUnopened

/-- What an opening parenthesis begins: a group, or a setting of flags for the rest of the group
around it. -/
def State.openGroup (s : State) (cs : List Char) : Except Error State :=
  let name (cs : List Char) : Except Error State := do
    let (name, rest) ← groupName true cs
    if name.isEmpty then .error .nameEmpty
    else if s.names.contains name then .error .nameDuplicate
    else .ok ({ s with names := name :: s.names }.pushGroup [] rest)
  match skip s.verbose cs with
  | '?' :: '=' :: _ | '?' :: '!' :: _ | '?' :: '<' :: '=' :: _ | '?' :: '<' :: '!' :: _ =>
    .error .lookAround
  | '?' :: 'P' :: '<' :: cs => name cs
  | '?' :: '<' :: cs => name cs
  | '?' :: cs => do
    let ((setting, close), rest) ← flags [] false false cs
    if close = ':' then .ok (s.pushGroup setting rest)
    else if setting.isEmpty then .error .repeatNothing
    else
      .ok { s with
        items := .flags setting :: s.items
        verbose := (setting.lookup .verbose).getD s.verbose
        rest }
  | cs => .ok (s.pushGroup [] cs)

/-! ## Repetitions -/

/-- The last item of a sequence, if it can be repeated, and the items before it. -/
def lastItem : List Node → Except Error (Node × List Node)
  | [] | .empty :: _ | .flags _ :: _ => .error .repeatNothing
  | n :: ns => .ok (n, ns)

/-- Passes the question mark that makes a repetition reluctant; this changes no answer of ours. -/
def dropLazy : List Char → List Char
  | '?' :: cs => cs
  | cs => cs

/-- Repeats the last item, by an operator without a count. -/
def State.repeatSimple (s : State) (least : Nat) (most : Option Nat) (rest : List Char) :
    Except Error State := do
  let (body, before) ← lastItem s.items
  .ok { s with items := .rep body least most :: before, rest := dropLazy rest }

/-- The bounds of a counted repetition, after its opening brace. -/
def bounds (verbose : Bool) (cs : List Char) : Except Error ((Nat × Option Nat) × List Char) := do
  let needed (n : Except Error (Option Nat)) : Except Error Nat := do
    match ← n with
    | some n => .ok n
    | none => .error .countNotDecimal
  let cs@(_ :: _) := skip verbose cs | .error .countUnclosed
  let (first, rest) := decimal verbose cs
  match rest with
  | [] => .error .countUnclosed
  | ',' :: rest =>
    match skip verbose rest with
    | [] => .error .countUnclosed
    | '\x7d' :: rest => do
      let least ← needed first
      .ok ((least, none), '\x7d' :: rest)
    | rest => do
      let least ← needed first
      let (second, rest) := decimal verbose rest
      let most ← needed second
      .ok ((least, some most), rest)
  | rest => do
    let n ← needed first
    .ok ((n, some n), rest)

/-- Repeats the last item, by counts in braces. -/
def State.repeatCounted (s : State) (cs : List Char) : Except Error State := do
  let (body, before) ← lastItem s.items
  let ((least, most), rest) ← bounds s.verbose cs
  let '\x7d' :: rest := rest | .error .countUnclosed
  if most.all (least ≤ ·) then
    .ok { s with items := .rep body least most :: before, rest := dropLazy (skip s.verbose rest) }
  else .error .countReversed

/-! ## The pattern as a whole -/

def Atom.node : Atom → Node
  | .literal l => .literal l
  | .dot => .dot
  | .anchor a => .anchor a
  | .letter kind negated => .letter kind negated
  | .property name negated => .property name negated

def State.push (s : State) (node : Node) (rest : List Char) : State :=
  { s with items := node :: s.items, rest }

/-- Reads the next part, which begins with `c`. -/
def State.step (s : State) (c : Char) (cs : List Char) : Except Error State :=
  match c with
  | '(' => s.openGroup cs
  | ')' => s.popGroup cs
  | '|' => .ok (s.pushBranch cs)
  | '[' => do
    let (node, rest) ← bracket s.verbose (c :: cs)
    .ok (s.push node rest)
  | '?' => s.repeatSimple 0 (some 1) cs
  | '*' => s.repeatSimple 0 none cs
  | '+' => s.repeatSimple 1 none cs
  | '\x7b' => s.repeatCounted cs
  | '\\' => do
    let (atom, rest) ← escape s.verbose cs
    .ok (s.push atom.node rest)
  | '.' => .ok (s.push .dot cs)
  | '^' => .ok (s.push (.anchor .lineStart) cs)
  | '$' => .ok (s.push (.anchor .lineEnd) cs)
  | c => .ok (s.push (.literal ⟨c, false⟩) cs)

/-- Reads on to the end of the pattern. Each step takes at least one character, so the number of
characters bounds the number of steps. -/
def State.run : Nat → State → Except Error State
  | 0, s => .ok s
  | n + 1, s =>
    match skip s.verbose s.rest with
    | [] => .ok { s with rest := [] }
    | c :: cs => do
      let s ← s.step c cs
      s.run n

/-- The node of the whole pattern, once all of it is read. -/
def State.finish (s : State) : Except Error Node :=
  match s.body with
  | (body, []) => .ok body
  | (_, _ :: _) => .error .groupUnclosed

/-- The reader before a text. -/
def State.start (cs : List Char) : State := ⟨[], [], false, [], cs⟩

/-- How deep a pattern may nest. -/
def nestLimit : Nat := 250

/-- Reads a pattern. -/
def parse (cs : List Char) : Except Error Node := do
  let s ← (State.start cs).run cs.length
  let node ← s.finish
  if node.depth ≤ nestLimit then .ok node else .error .nestLimit

end Munch.Pattern
