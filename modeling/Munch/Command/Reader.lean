import Munch.Command.Stop

/-!
# Reading options

A **reader** goes through arguments from left to right and collects them in a draft. An option is a
word after two dashes or a letter after one; letters can be joined. A value is attached to its
option, as in `--name=value`, `-nvalue` and `-n=value`, or it is the next argument. An argument that
begins with a dash is never such a value, but a single dash is. Two dashes on their own end the
options.

A value that is not attached is checked late: when the next option or positional argument is met, or
at the end. So a fault in the form of the arguments can hide a fault in a value before it.
-/

namespace Munch.Command

/-- Takes a value into a draft. -/
abbrev Setter (σ : Type) := String → σ → Except Stop σ

inductive Effect (σ : Type) where
  /-- The option takes no value. -/
  | flag (set : σ → Except Stop σ)
  | value (set : Setter σ)

/-- An option, by its word and perhaps a letter. -/
structure Opt (σ : Type) where
  word : String
  letter : Option Char := none
  effect : Effect σ

/-! ## Setters -/

/-- Takes a value that can be given once. -/
def once {σ α : Type} (get : σ → Option α) (parse : String → Except Stop α) (put : σ → α → σ) :
    Setter σ := fun value s =>
  match get s with
  | some _ => .error .conflict
  | none => do .ok (put s (← parse value))

/-- Takes a flag that can be given once. -/
def flagOnce {σ : Type} (get : σ → Bool) (put : σ → σ) : Effect σ :=
  .flag fun s => if get s then .error .conflict else .ok (put s)

/-! ## The forms of arguments -/

inductive Form where
  | plain
  /-- It ends the options. -/
  | ending
  | long (name : List Char) (value : Option (List Char))
  | letters (cs : List Char)
deriving DecidableEq, Repr

def Form.ofArgument (a : String) : Form :=
  match a.toList with
  | ['-', '-'] => .ending
  | '-' :: '-' :: cs =>
    match cs.span (· ≠ '=') with
    | (name, _ :: value) => .long name (some value)
    | (name, []) => .long name none
  | '-' :: c :: cs => .letters (c :: cs)
  | _ => .plain

/-! ## The reader -/

structure Reader (σ : Type) where
  draft : σ
  /-- The positional arguments that can still follow. -/
  places : List (Setter σ) := []
  /-- What the last value does to the draft, if it has not been checked yet. -/
  pending : σ → Except Stop σ := .ok
  /-- The option that waits for its value. -/
  awaiting : Option (Setter σ) := none
  /-- Whether the options have ended. -/
  ended : Bool := false

namespace Reader

variable {σ : Type}

/-- Checks the value that is pending. -/
def settle (r : Reader σ) : Except Stop (Reader σ) := do
  .ok { r with draft := ← r.pending r.draft, pending := .ok, awaiting := none }

/-- Applies an attached value or a flag at once. -/
def apply (r : Reader σ) (f : σ → Except Stop σ) : Except Stop (Reader σ) := do
  let r ← r.settle
  .ok { r with draft := ← f r.draft }

/-- Waits for the value of an option. It is a fault if there is none. -/
def await (r : Reader σ) (set : Setter σ) : Except Stop (Reader σ) := do
  .ok { ← r.settle with pending := fun _ => .error .invalidValue, awaiting := some set }

/-- Takes an option given by its word. -/
def long (options : List (Opt σ)) (r : Reader σ) (name : List Char) (value : Option (List Char)) :
    Except Stop (Reader σ) :=
  match options.find? fun o => o.word.toList = name with
  | none => .error .unknownArgument
  | some o =>
    match o.effect, value with
    | .flag set, none => r.apply set
    | .flag _, some _ => .error .unexpectedValue
    | .value set, none => r.await set
    | .value set, some value => r.apply (set (.ofList value))

/-- Takes options given by their letters; what follows the letter of one with a value is its value.
-/
def letters (options : List (Opt σ)) (r : Reader σ) : List Char → Except Stop (Reader σ)
  | [] => .ok r
  | c :: cs =>
    match options.find? fun o => o.letter = some c with
    | none => .error .unknownArgument
    | some o =>
      match o.effect, cs with
      | .flag set, cs => do letters options (← r.apply set) cs
      | .value set, [] => r.await set
      | .value set, '=' :: value => r.apply (set (.ofList value))
      | .value set, value => r.apply (set (.ofList value))

/-- Reads arguments up to the first one that has no place, which is given back with those after it.
-/
def scan (options : List (Opt σ)) (r : Reader σ) :
    List String → Except Stop (Reader σ × Option (String × List String))
  | [] => .ok (r, none)
  | a :: as =>
    match if r.ended then .plain else Form.ofArgument a with
    | .ending => scan options { r with ended := true, awaiting := none } as
    | .long name value => do scan options (← r.long options name value) as
    | .letters cs => do scan options (← r.letters options cs) as
    | .plain =>
      match r.awaiting, r.places with
      | some set, _ => scan options { r with pending := set a, awaiting := none } as
      | none, place :: places => do
        scan options { ← r.settle with pending := place a, places } as
      | none, [] => .ok (r, some (a, as))

/-- Reads arguments that must all have a place. -/
def readAll (options : List (Opt σ)) (r : Reader σ) (as : List String) : Except Stop σ := do
  match ← r.scan options as with
  | (r, none) => .ok (← r.settle).draft
  | (_, some _) => .error .unknownArgument

end Reader

end Munch.Command
