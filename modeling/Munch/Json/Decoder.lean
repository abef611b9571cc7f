import Munch.Json.Skip

/-!
# Reading values of a type

A **decoder** reads a value of a type from the beginning of a JSON text and gives back the text
after it. It follows the type, so that a value of another type is refused where it stands.

**Records.** A record may be written as an object with its fields in any order, or as a list with
its fields in their order. A field may be absent from an object if it has a default; in a list,
absent fields must have defaults and come last. Members of other names are passed over.
-/

namespace Munch.Json

/-- Reads a value of type `α`. -/
abbrev Decoder (α : Type) := List Char → Except Fault (α × List Char)

/-! ## Values of another type -/

/-- The fault of a value that begins with `c`, where a value of another type is wanted. -/
def wrongType (expected : String) (c : Char) (cs : List Char) : Fault :=
  let found : Except Fault Found :=
    match c with
    | 'n' => do let _ ← word "ull".toList cs; .ok .null
    | 't' => do let _ ← word "rue".toList cs; .ok (.boolean true)
    | 'f' => do let _ ← word "alse".toList cs; .ok (.boolean false)
    | '-' => do let (n, _) ← number true cs; .ok n.found
    | '"' => do let (s, _) ← stringBody [] cs; .ok (.string (.ofList s))
    | '[' => .ok .sequence
    | '\x7b' => .ok .map
    | c =>
      if isDigit c then do
        let (n, _) ← number false (c :: cs)
        .ok n.found
      else .error .expectedValue
  match found with
  | .ok found => .invalidType found expected
  | .error fault => fault

namespace Decoder

/-! ## Simple values -/

def bool : Decoder Bool := fun cs =>
  match dropBlanks cs with
  | [] => .error .eofInValue
  | 't' :: cs => do .ok (true, ← word "rue".toList cs)
  | 'f' :: cs => do .ok (false, ← word "alse".toList cs)
  | c :: cs => .error (wrongType "a boolean" c cs)

/-- A string, where `expected` names what the string stands for. -/
def stringFor (expected : String) : Decoder String := fun cs =>
  match dropBlanks cs with
  | [] => .error .eofInValue
  | '"' :: cs => do
    let (s, rest) ← stringBody [] cs
    .ok (.ofList s, rest)
  | c :: cs => .error (wrongType expected c cs)

def string : Decoder String := stringFor "a string"

/-- A natural number of 64 bits, where `expected` names its type. -/
def word64 (expected : String) : Decoder UInt64 := fun cs => do
  let take (minus : Bool) (cs : List Char) : Except Fault (UInt64 × List Char) := do
    match ← number minus cs with
    | (.natural n, rest) => .ok (.ofNat n, rest)
    | (.negative n, _) => .error (.invalidValue (.integer (-n)) expected)
    | (.float x, _) => .error (.invalidType (.float (Decimal.ofFloat x)) expected)
  match dropBlanks cs with
  | [] => .error .eofInValue
  | '-' :: cs => take true cs
  | c :: cs => if isDigit c then take false (c :: cs) else .error (wrongType expected c cs)

/-- The value `null`. -/
def unit : Decoder Unit := fun cs =>
  match dropBlanks cs with
  | [] => .error .eofInValue
  | 'n' :: cs => do .ok ((), ← word "ull".toList cs)
  | c :: cs => .error (wrongType "unit" c cs)

/-- A value, or `null` for none. -/
def option {α : Type} (d : Decoder α) : Decoder (Option α) := fun cs =>
  match dropBlanks cs with
  | 'n' :: cs => do .ok (none, ← word "ull".toList cs)
  | cs => do
    let (a, rest) ← d cs
    .ok (some a, rest)

/-! ## Choices -/

/-- One of several names, each with its value. -/
def variantName {α : Type} (choices : List (String × α)) : Decoder α := fun cs => do
  let (name, rest) ← stringFor "variant identifier" cs
  match choices.lookup name with
  | some a => .ok (a, rest)
  | none => .error (.unknownVariant name (choices.map (·.1)))

/-- The name that an object of a choice must begin with. -/
def variantKey {α : Type} (choices : List (String × α)) : Decoder α := fun cs =>
  match dropBlanks cs with
  | [] => .error .eofInObject
  | '"' :: cs => variantName choices ('"' :: cs)
  | '\x7d' :: _ => .error .expectedValue
  | _ => .error .keyNotString

/-- A choice, written as its name or as an object that maps its name to `null`. -/
def choice {α : Type} (choices : List (String × α)) : Decoder α := fun cs =>
  match dropBlanks cs with
  | [] => .error .eofInValue
  | '"' :: cs => variantName choices ('"' :: cs)
  | '\x7b' :: cs => do
    let (a, rest) ← variantKey choices cs
    match dropBlanks rest with
    | [] => .error .eofInObject
    | ':' :: rest => do
      let (_, rest) ← unit rest
      match dropBlanks rest with
      | '\x7d' :: rest => .ok (a, rest)
      | [] => .error .eofInObject
      | _ => .error .expectedValue
    | _ => .error .expectedColon
  | _ => .error .expectedValue

/-! ## Lists -/

/-- The text of the next item of a list, or `none` at the end of the list, which is left standing.
-/
def nextItem (first : Bool) (cs : List Char) : Except Fault (Option (List Char)) :=
  match dropBlanks cs with
  | [] => .error .eofInList
  | ']' :: _ => .ok none
  | ',' :: cs =>
    if first then .ok (some (',' :: cs))
    else match dropBlanks cs with
      | [] => .error .eofInValue
      | ']' :: _ => .error .trailingComma
      | cs => .ok (some cs)
  | cs => if first then .ok (some cs) else .error .expectedListEnd

/-- Passes the end of a list. -/
def endList (cs : List Char) : Except Fault (List Char) :=
  match dropBlanks cs with
  | [] => .error .eofInList
  | ']' :: cs => .ok cs
  | ',' :: cs =>
    match dropBlanks cs with
    | ']' :: _ => .error .trailingComma
    | _ => .error .trailingCharacters
  | _ => .error .trailingCharacters

/-- The items of a list up to its end; `acc` holds those so far, latest first. Each item takes at
least one character, so the number of characters bounds the number of items. -/
def items {α : Type} (d : Decoder α) : Nat → Bool → List α → Decoder (List α)
  | 0, _, acc, cs => .ok (acc.reverse, cs)
  | n + 1, first, acc, cs => do
    match ← nextItem first cs with
    | none => .ok (acc.reverse, cs)
    | some cs =>
      let (a, rest) ← d cs
      items d n false (a :: acc) rest

def list {α : Type} (d : Decoder α) : Decoder (List α) := fun cs =>
  match dropBlanks cs with
  | [] => .error .eofInValue
  | '[' :: cs => do
    let (as, rest) ← items d (cs.length + 1) true [] cs
    .ok (as, ← endList rest)
  | c :: cs => .error (wrongType "a sequence" c cs)

/-! ## Records -/

end Decoder

/-- A field of a record that is read into a draft of type `σ`. -/
structure Field (σ : Type) where
  name : String
  /-- Whether the draft has the field. -/
  isSet : σ → Bool
  /-- Reads the field into the draft. -/
  read : σ → Decoder σ
  /-- Whether a list may end before the field. -/
  hasDefault : Bool := false

/-- A field that the draft holds as an option; `put` sets it. -/
def Field.ofOption {σ α : Type} (name : String) (get : σ → Option α) (put : σ → α → σ)
    (d : Decoder α) (hasDefault : Bool) : Field σ where
  name
  isSet s := (get s).isSome
  read s cs := do
    let (a, rest) ← d cs
    .ok (put s a, rest)
  hasDefault

/-- The value of a field that must be present. -/
def required {α : Type} (name : String) : Option α → Except Fault α
  | some a => .ok a
  | none => .error (.missingField name)

/-- How a record of type `α` is read: its name, its fields in order, the empty draft, and the record
that a draft makes, or the first field that it lacks. -/
structure Record (α : Type) where
  Draft : Type
  name : String
  fields : List (Field Draft)
  empty : Draft
  finish : Draft → Except Fault α

namespace Decoder

/-- The text of the next member of an object, or `none` at the end, which is left standing. -/
def nextMember (first : Bool) (cs : List Char) : Except Fault (Option (List Char)) :=
  match dropBlanks cs with
  | [] => .error .eofInObject
  | '\x7d' :: _ => .ok none
  | ',' :: cs =>
    if first then .error .keyNotString
    else match dropBlanks cs with
      | [] => .error .eofInValue
      | '"' :: cs => .ok (some cs)
      | '\x7d' :: _ => .error .trailingComma
      | _ => .error .keyNotString
  | c :: cs =>
    if !first then .error .expectedObjectEnd
    else if c = '"' then .ok (some cs)
    else .error .keyNotString

/-- Passes the colon before a member's value. -/
def colon (cs : List Char) : Except Fault (List Char) :=
  match dropBlanks cs with
  | [] => .error .eofInObject
  | ':' :: cs => .ok cs
  | _ => .error .expectedColon

/-- A member after the quote that opens its key. -/
def member {σ : Type} (fields : List (Field σ)) (draft : σ) : Decoder σ := fun cs => do
  let (key, rest) ← stringBody [] cs
  match fields.find? fun f => f.name == String.ofList key with
  | some f =>
    if f.isSet draft then .error (.duplicateField f.name) else f.read draft (← colon rest)
  | none => do .ok (draft, ← skipValue (← colon rest))

/-- The members of an object up to its end. Each takes at least one character. -/
def members {σ : Type} (fields : List (Field σ)) : Nat → Bool → σ → Decoder σ
  | 0, _, draft, cs => .ok (draft, cs)
  | n + 1, first, draft, cs => do
    match ← nextMember first cs with
    | none => .ok (draft, cs)
    | some cs =>
      let (draft, rest) ← member fields draft cs
      members fields n false draft rest

/-- The fields of a record in their order, from position `index` on; `first` says that no item of
the list has been read. -/
def positional {σ : Type} (expected : String) (index : Nat) (first : Bool) (draft : σ) :
    List (Field σ) → Decoder σ
  | [], cs => .ok (draft, cs)
  | f :: fs, cs => do
    match ← nextItem first cs with
    | some cs =>
      let (draft, rest) ← f.read draft cs
      positional expected (index + 1) false draft fs rest
    | none =>
      if f.hasDefault then positional expected (index + 1) first draft fs cs
      else .error (.invalidLength index expected)

/-- Passes the end of an object. -/
def endObject (cs : List Char) : Except Fault (List Char) :=
  match dropBlanks cs with
  | [] => .error .eofInObject
  | '\x7d' :: cs => .ok cs
  | ',' :: _ => .error .trailingComma
  | _ => .error .trailingCharacters

def record {α : Type} (r : Record α) : Decoder α := fun cs =>
  match dropBlanks cs with
  | [] => .error .eofInValue
  | '[' :: cs => do
    let expected := s!"struct {r.name} with {r.fields.length} elements"
    let (draft, rest) ← positional expected 0 true r.empty r.fields cs
    let a ← r.finish draft
    .ok (a, ← endList rest)
  | '\x7b' :: cs => do
    let (draft, rest) ← members r.fields (cs.length + 1) true r.empty cs
    let a ← r.finish draft
    .ok (a, ← endObject rest)
  | c :: cs => .error (wrongType s!"struct {r.name}" c cs)

/-! ## Whole texts -/

/-- Reads a text that holds one value and nothing else. -/
def run {α : Type} (d : Decoder α) (text : String) : Except Fault α := do
  let (a, rest) ← d text.toList
  if (dropBlanks rest).isEmpty then .ok a else .error .trailingCharacters

end Decoder

end Munch.Json
