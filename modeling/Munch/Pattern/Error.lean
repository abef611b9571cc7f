/-!
# Why a pattern is refused

The causes for which a pattern has no meaning, each with its wording. Most of them are faults of the
written form; `nestLimit` is found once the whole pattern has been read, and the causes behind it
once the pattern is given its meaning. A pattern that has a meaning may still be too big, by itself
or together with others.

**Wording.** A fault of the written form is shown by its last line alone: the picture of the pattern
with a mark under the place of the fault, which stands above that line, is left out.
-/

namespace Munch.Pattern

inductive Error where
  | escapeInClass
  | rangeReversed
  | rangeBoundary
  | classUnclosed
  | decimalInvalid
  | hexEmpty
  | hexNotScalar
  | hexDigitInvalid
  | escapeUnfinished
  | escapeUnknown
  | flagDangling
  | flagDuplicate
  | flagNegatedTwice
  | flagUnfinished
  | flagUnknown
  | nameDuplicate
  | nameEmpty
  | nameInvalid
  | nameUnclosed
  | groupUnclosed
  | groupUnopened
  | countReversed
  | countNotDecimal
  | countUnclosed
  | repeatNothing
  | edgeUnclosed
  | edgeUnknown
  | edgeOrCountUnfinished
  | propertyInvalid
  | backreference
  | lookAround
  | nestLimit
  | unicodeNotAllowed
  | invalidUtf8
  | propertyNotFound
  | propertyValueNotFound
  /-- The compiled form takes up more than `sizeLimit` bytes. -/
  | tooBig
  /-- A reason given in words. -/
  | other (reason : String)
deriving DecidableEq, Repr

/-- The bytes that a compiled pattern may take up, and so may all patterns of a set together. -/
def sizeLimit : Nat := 10 * 1024 * 1024

namespace Error

def message : Error → String
  | escapeInClass => "invalid escape sequence found in character class"
  | rangeReversed => "invalid character class range, the start must be <= the end"
  | rangeBoundary => "invalid range boundary, must be a literal"
  | classUnclosed => "unclosed character class"
  | decimalInvalid => "decimal literal invalid"
  | hexEmpty => "hexadecimal literal empty"
  | hexNotScalar => "hexadecimal literal is not a Unicode scalar value"
  | hexDigitInvalid => "invalid hexadecimal digit"
  | escapeUnfinished => "incomplete escape sequence, reached end of pattern prematurely"
  | escapeUnknown => "unrecognized escape sequence"
  | flagDangling => "dangling flag negation operator"
  | flagDuplicate => "duplicate flag"
  | flagNegatedTwice => "flag negation operator repeated"
  | flagUnfinished => "expected flag but got end of regex"
  | flagUnknown => "unrecognized flag"
  | nameDuplicate => "duplicate capture group name"
  | nameEmpty => "empty capture group name"
  | nameInvalid => "invalid capture group character"
  | nameUnclosed => "unclosed capture group name"
  | groupUnclosed => "unclosed group"
  | groupUnopened => "unopened group"
  | countReversed => "invalid repetition count range, the start must be <= the end"
  | countNotDecimal => "repetition quantifier expects a valid decimal"
  | countUnclosed => "unclosed counted repetition"
  | repeatNothing => "repetition operator missing expression"
  | edgeUnclosed =>
    "special word boundary assertion is either unclosed or contains an invalid character"
  | edgeUnknown =>
    "unrecognized special word boundary assertion, valid choices are: start, end, " ++
      "start-half or end-half"
  | edgeOrCountUnfinished =>
    "found either the beginning of a special word boundary or a bounded repetition on a \\b " ++
      "with an opening brace, but no closing brace"
  | propertyInvalid => "invalid Unicode character class"
  | backreference => "backreferences are not supported"
  | lookAround => "look-around, including look-ahead and look-behind, is not supported"
  | nestLimit => "exceed the maximum number of nested parentheses/brackets (250)"
  | unicodeNotAllowed => "Unicode not allowed here"
  | invalidUtf8 => "pattern can match invalid UTF-8"
  | propertyNotFound => "Unicode property not found"
  | propertyValueNotFound => "Unicode property value not found"
  | tooBig => s!"Compiled regex exceeds size limit of {sizeLimit} bytes."
  | other reason => reason

end Error

end Munch.Pattern
