import Munch.Pattern.Parser
import Munch.Unicode.Case

/-!
# The meaning of written patterns

A node becomes a regex under **flags**. A setting of flags holds from where it stands to the end of
the group around it, so the meaning of a node also says which flags hold after it.

**Without Unicode.** Where the Unicode flag is off, classes range over ASCII, and what could match a
byte that is no character of its own is refused: a byte above `0x7F`, a dot, or a negated class.
-/

namespace Munch.Pattern

/-- The flags that bear on the meaning of a pattern. -/
structure Flags where
  caseInsensitive : Bool := false
  multiLine : Bool := false
  dotAll : Bool := false
  unicode : Bool := true
  crlf : Bool := false
deriving DecidableEq, Repr

namespace Flags

def set (f : Flags) (flag : Flag) (on : Bool) : Flags :=
  match flag with
  | .caseInsensitive => { f with caseInsensitive := on }
  | .multiLine => { f with multiLine := on }
  | .dotAll => { f with dotAll := on }
  | .unicode => { f with unicode := on }
  | .crlf => { f with crlf := on }
  | .swapGreed | .verbose => f

def apply (f : Flags) (setting : FlagSetting) : Flags :=
  setting.foldl (fun f s => f.set s.1 s.2) f

end Flags

/-! ## Classes -/

/-- The ASCII characters of a named class. -/
def NamedClass.set (kind : NamedClass) : CharSet :=
  let ranges : List CharRange :=
    match kind with
    | alnum => [⟨0x30, 0x39⟩, ⟨0x41, 0x5A⟩, ⟨0x61, 0x7A⟩]
    | alpha => [⟨0x41, 0x5A⟩, ⟨0x61, 0x7A⟩]
    | ascii => [⟨0x00, 0x7F⟩]
    | blank => [⟨0x09, 0x09⟩, ⟨0x20, 0x20⟩]
    | cntrl => [⟨0x00, 0x1F⟩, ⟨0x7F, 0x7F⟩]
    | digit => [⟨0x30, 0x39⟩]
    | graph => [⟨0x21, 0x7E⟩]
    | lower => [⟨0x61, 0x7A⟩]
    | print => [⟨0x20, 0x7E⟩]
    | punct => [⟨0x21, 0x2F⟩, ⟨0x3A, 0x40⟩, ⟨0x5B, 0x60⟩, ⟨0x7B, 0x7E⟩]
    | space => [⟨0x09, 0x0D⟩, ⟨0x20, 0x20⟩]
    | upper => [⟨0x41, 0x5A⟩]
    | word => [⟨0x30, 0x39⟩, ⟨0x41, 0x5A⟩, ⟨0x5F, 0x5F⟩, ⟨0x61, 0x7A⟩]
    | xdigit => [⟨0x30, 0x39⟩, ⟨0x41, 0x46⟩, ⟨0x61, 0x66⟩]
  ⟨ranges⟩

/-- The set with letters of the other case, where the flags ask for them. -/
def Flags.fold (f : Flags) (s : CharSet) : CharSet :=
  if !f.caseInsensitive then s else if f.unicode then s.foldCase else s.foldAsciiCase

/-- The set or, if `negated`, all other characters; these are bytes where Unicode is off. -/
def Flags.negate (f : Flags) (negated : Bool) (s : CharSet) : Except Error CharSet :=
  if !negated then .ok s else if f.unicode then .ok s.compl else .error .invalidUtf8

def LetterClass.set (kind : LetterClass) (unicode : Bool) : CharSet :=
  match kind with
  | digit => if unicode then Unicode.digits else Unicode.asciiDigits
  | blank => if unicode then Text.blanks else Unicode.asciiBlanks
  | word => if unicode then Unicode.wordChars else Unicode.asciiWordChars

/-- The class of a letter; it holds every letter's other case already. -/
def Flags.letterSet (f : Flags) (kind : LetterClass) (negated : Bool) : Except Error CharSet :=
  f.negate negated (kind.set f.unicode)

def PropertyName.set (p : PropertyName) : Except Error CharSet :=
  let found :=
    match p.value with
    | none => Unicode.byName p.name
    | some value => Unicode.byValue p.name value
  match found with
  | .ok s => .ok s
  | .error .propertyNotFound => .error .propertyNotFound
  | .error .valueNotFound => .error .propertyValueNotFound

/-- The class of a property; a negated class of unequal values is a class of equal ones. -/
def Flags.propertySet (f : Flags) (p : PropertyName) (negated : Bool) : Except Error CharSet :=
  if f.unicode then do f.negate (negated != p.unequal) (f.fold (← p.set))
  else .error .unicodeNotAllowed

/-- The character of a literal; where Unicode is off, a literal may be a byte instead. -/
def Flags.literalChar (f : Flags) (l : Literal) : Except Error Char :=
  if !f.unicode && l.byte && 0x7F < l.char.toNat then .error .invalidUtf8 else .ok l.char

/-- The character of a literal in a class, which is ASCII where Unicode is off. -/
def Flags.classChar (f : Flags) (l : Literal) : Except Error Char := do
  let c ← f.literalChar l
  if !f.unicode && 0x7F < c.toNat then .error .unicodeNotAllowed else .ok c

def SetOperator.apply (kind : SetOperator) (a b : CharSet) : CharSet :=
  match kind with
  | inter => a.inter b
  | diff => a.diff b
  | symmDiff => a.symmDiff b

mutual

/-- The characters of the inside of a class. The sides of an operator take in letters of the other
case before it is applied. -/
def ClassNode.set (f : Flags) : ClassNode → Except Error CharSet
  | .empty => .ok .empty
  | .literal l => do .ok (.singleton (← f.classChar l))
  | .range first last => do
    let lo ← f.classChar first
    let hi ← f.classChar last
    .ok (.range lo.toNat hi.toNat)
  | .named kind negated => f.negate negated (f.fold kind.set)
  | .letter kind negated => f.letterSet kind negated
  | .property name negated => f.propertySet name negated
  | .bracketed negated inside => do f.negate negated (f.fold (← inside.set f))
  | .union items => ClassNode.setAll f items
  | .op kind left right => do
    let left ← left.set f
    let right ← right.set f
    .ok (kind.apply (f.fold left) (f.fold right))

def ClassNode.setAll (f : Flags) : List ClassNode → Except Error CharSet
  | [] => .ok .empty
  | n :: ns => do
    let s ← n.set f
    let t ← ClassNode.setAll f ns
    .ok (s.union t)

end

/-! ## Nodes -/

def Flags.literal (f : Flags) (l : Literal) : Except Error Regex := do
  let c ← f.literalChar l
  .ok (.chars (f.fold (.singleton c)))

/-- Any character, but for the ends of lines unless the flags include them. -/
def Flags.dot (f : Flags) : Except Error Regex :=
  if !f.unicode then .error .invalidUtf8
  else if f.dotAll then .ok (.chars .full)
  else if f.crlf then .ok (.chars (CharSet.ofRanges [⟨0x0A, 0x0A⟩, ⟨0x0D, 0x0D⟩]).compl)
  else .ok (.chars (CharSet.singleton '\n').compl)

def Flags.anchor (f : Flags) : Anchor → Assertion
  | .lineStart => if !f.multiLine then .textStart else if f.crlf then .anyLineStart else .lineStart
  | .lineEnd => if !f.multiLine then .textEnd else if f.crlf then .anyLineEnd else .lineEnd
  | .textStart => .textStart
  | .textEnd => .textEnd
  | .word edge => .word edge !f.unicode

mutual

/-- The meaning of a node under `f`, and the flags that hold after it. -/
def Node.regex (f : Flags) : Node → Except Error (Regex × Flags)
  | .empty => .ok (.empty, f)
  | .flags setting => .ok (.empty, f.apply setting)
  | .literal l => do .ok (← f.literal l, f)
  | .dot => do .ok (← f.dot, f)
  | .anchor a => .ok (.look (f.anchor a), f)
  | .letter kind negated => do .ok (.chars (← f.letterSet kind negated), f)
  | .property name negated => do .ok (.chars (← f.propertySet name negated), f)
  | .bracketed negated inside => do
    .ok (.chars (← f.negate negated (f.fold (← inside.set f))), f)
  | .rep body least most => do
    let (r, f) ← body.regex f
    .ok (.rep r least most, f)
  | .group setting body => do
    let (r, _) ← body.regex (f.apply setting)
    .ok (r, f)
  | .alt branches => do
    let (rs, f) ← Node.regexAll f branches
    .ok (.altAll rs, f)
  | .seq items => do
    let (rs, f) ← Node.regexAll f items
    .ok (.seqAll rs, f)

/-- The meanings of nodes in turn, each under the flags that hold after the one before it. -/
def Node.regexAll (f : Flags) : List Node → Except Error (List Regex × Flags)
  | [] => .ok ([], f)
  | n :: ns => do
    let (r, f) ← n.regex f
    let (rs, f) ← Node.regexAll f ns
    .ok (r :: rs, f)

end

/-- The regex that a pattern denotes, searched for anywhere in a text. -/
def compile (cs : List Char) : Except Error Regex := do
  let node ← parse cs
  let (r, _) ← node.regex {}
  .ok r

end Munch.Pattern
