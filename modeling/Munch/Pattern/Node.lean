import Munch.Pattern.Regex

/-!
# Written patterns

A **node** is a part of a pattern as it is written, before its flags are applied: a literal, a
class, a repetition, a group and so on. The **depth** of a node counts the groups, classes,
repetitions, alternations and sequences that lie within one another.
-/

namespace Munch.Pattern

/-! ## Leaves -/

/-- A character; `byte` marks one written as `\x` with two digits, which names a byte where Unicode
is switched off. -/
structure Literal where
  char : Char
  byte : Bool := false
deriving DecidableEq, Repr

/-- The classes with a letter of their own. -/
inductive LetterClass where
  | digit
  | blank
  | word
deriving DecidableEq, Repr

/-- The position assertions as they are written; flags decide how `lineStart` and `lineEnd` read. -/
inductive Anchor where
  | lineStart
  | lineEnd
  | textStart
  | textEnd
  | word (edge : WordEdge)
deriving DecidableEq, Repr

/-- A class chosen by the name of a property, or by a property and its value; `unequal` marks one
of the characters that have any other value. -/
structure PropertyName where
  name : String
  value : Option String := none
  unequal : Bool := false
deriving DecidableEq, Repr

inductive Flag where
  | caseInsensitive
  | multiLine
  | dotAll
  | swapGreed
  | unicode
  | crlf
  | verbose
deriving DecidableEq, Repr

/-- A list of flags, each switched on or off. -/
abbrev FlagSetting := List (Flag × Bool)

/-- The classes written as `[:name:]`. -/
inductive NamedClass where
  | alnum
  | alpha
  | ascii
  | blank
  | cntrl
  | digit
  | graph
  | lower
  | print
  | punct
  | space
  | upper
  | word
  | xdigit
deriving DecidableEq, Repr

inductive SetOperator where
  | inter
  | diff
  | symmDiff
deriving DecidableEq, Repr

/-! ## Bracketed classes -/

/-- The inside of a bracketed class. -/
inductive ClassNode where
  | empty
  | literal (l : Literal)
  | range (first last : Literal)
  | named (kind : NamedClass) (negated : Bool)
  | letter (kind : LetterClass) (negated : Bool)
  | property (name : PropertyName) (negated : Bool)
  | bracketed (negated : Bool) (inside : ClassNode)
  | union (items : List ClassNode)
  | op (kind : SetOperator) (left right : ClassNode)
deriving Repr

/-! ## Nodes -/

inductive Node where
  | empty
  | flags (setting : FlagSetting)
  | literal (l : Literal)
  | dot
  | anchor (a : Anchor)
  | letter (kind : LetterClass) (negated : Bool)
  | property (name : PropertyName) (negated : Bool)
  | bracketed (negated : Bool) (inside : ClassNode)
  | rep (body : Node) (least : Nat) (most : Option Nat)
  | group (setting : FlagSetting) (body : Node)
  | alt (branches : List Node)
  | seq (items : List Node)
deriving Repr

/-- A sequence of items; one item stands for itself. -/
def Node.ofItems : List Node → Node
  | [] => .empty
  | [n] => n
  | ns => .seq ns

/-- An alternation of branches; one branch stands for itself. -/
def Node.ofBranches : List Node → Node
  | [] => .empty
  | [n] => n
  | ns => .alt ns

def ClassNode.ofItems : List ClassNode → ClassNode
  | [] => .empty
  | [n] => n
  | ns => .union ns

/-! ## Depth -/

mutual

def ClassNode.depth : ClassNode → Nat
  | .bracketed _ inside => inside.depth + 1
  | .union items => ClassNode.depthAll items + 1
  | .op _ left right => max left.depth right.depth + 1
  | _ => 0

def ClassNode.depthAll : List ClassNode → Nat
  | [] => 0
  | n :: ns => max n.depth (ClassNode.depthAll ns)

end

mutual

def Node.depth : Node → Nat
  | .bracketed _ inside => inside.depth + 1
  | .rep body _ _ => body.depth + 1
  | .group _ body => body.depth + 1
  | .alt branches => Node.depthAll branches + 1
  | .seq items => Node.depthAll items + 1
  | _ => 0

def Node.depthAll : List Node → Nat
  | [] => 0
  | n :: ns => max n.depth (Node.depthAll ns)

end

end Munch.Pattern
