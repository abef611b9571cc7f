import Munch.Pattern

/-!
# The size of compiled patterns

The footprint that the program runs with. A pattern is compiled to **states**, of which each reads a
byte, makes a choice or checks a place. A class of characters beyond ASCII is read by the bytes of
its characters: it is divided into sequences of byte ranges, and sequences that begin alike share
their first states. A repetition takes its body as often as it is counted.

It is an estimate of what an engine takes up: groups are not counted, nor what an engine saves by
rewriting a pattern first.
-/

namespace Munch

namespace CharSet

/-- The code points that are written in the same number of bytes: how many bytes follow the first
one, the least and the greatest code point, and what is added to the leading digit. Surrogates have
no bytes. -/
def byteLengths : List (Nat × Nat × Nat × Nat) :=
  [(0, 0x00, 0x7F, 0x00), (1, 0x80, 0x7FF, 0xC0), (2, 0x800, 0xD7FF, 0xE0),
    (2, 0xE000, 0xFFFF, 0xE0), (3, 0x10000, 0x10FFFF, 0xF0)]

/-- Divides the numbers from `lo` to `hi` into sequences of ranges, one for each of their digits in
base 64, of which `k` follow the leading one. -/
def digitRanges : Nat → Nat → Nat → List (List (Nat × Nat))
  | 0, lo, hi => [[(lo, hi)]]
  | k + 1, lo, hi =>
    let unit := Nat.pow 64 (k + 1)
    let first := lo / unit
    let last := hi / unit
    if first = last then (digitRanges k (lo % unit) (hi % unit)).map ((first, first) :: ·)
    else
      -- The first and the last leading digit may have only a part of what can follow.
      let low :=
        if lo % unit = 0 then []
        else (digitRanges k (lo % unit) (unit - 1)).map ((first, first) :: ·)
      let high :=
        if hi % unit = unit - 1 then []
        else (digitRanges k 0 (hi % unit)).map ((last, last) :: ·)
      let first := if lo % unit = 0 then first else first + 1
      let last := if hi % unit = unit - 1 then last + 1 else last
      let whole :=
        if first < last then [(first, last - 1) :: List.replicate (k + 1) (0, 63)] else []
      low ++ whole ++ high

/-- The sequences of byte ranges in which the characters are written, in ascending order. -/
def byteRanges (s : CharSet) : List (List (Nat × Nat)) :=
  s.ranges.flatMap fun r =>
    byteLengths.flatMap fun (k, least, greatest, lead) =>
      let lo := max r.lo least
      let hi := min r.hi greatest
      let leading := lead * Nat.pow 64 k
      if lo ≤ hi then digitRanges k (lo + leading) (hi + leading) else []

/-- How many ranges of a sequence lie behind those with which the one before it begins as well. -/
def newRanges : List (Nat × Nat) → List (Nat × Nat) → Nat
  | r :: before, s :: ranges => if r = s then newRanges before ranges else ranges.length + 1
  | _, ranges => ranges.length

end CharSet

namespace Footprint

/-- The bytes of a state. -/
def state : Nat := 32

/-- The bytes of a way from one state to another. -/
def edge : Nat := 4

/-- The bytes of a class of characters. One character is read byte by byte, and ASCII in one state.
-/
def ofChars (s : CharSet) : Nat :=
  let sequences := s.byteRanges
  let states := (([] :: sequences).zipWith CharSet.newRanges sequences).foldl (· + ·) 0
  if s.ranges.length = 1 && s.ranges.all fun r => r.lo = r.hi then state * states
  else if s.isAscii then 2 * state + 2 * edge * s.ranges.length
  else state * (2 + states) + edge * sequences.length

/-- The bytes of a regex. The branches of an alternation, of which it may be one, have their choice
in common. -/
def ofRegex (branch : Bool) : Regex → Nat
  | .empty => (if branch then edge else 0) + state
  | .chars s => (if branch then edge else 0) + ofChars s
  | .look _ => (if branch then edge else 0) + state
  | .seq r s => (if branch then edge else 0) + ofRegex false r + ofRegex false s
  | .alt r s => (if branch then 0 else 2 * state) + ofRegex true r + ofRegex true s
  | .rep r least most =>
    let body := ofRegex false r
    let choice := state + 2 * edge
    (if branch then edge else 0) +
      match most with
      | none => max least 1 * body + choice
      | some most =>
        if most = least then least * body
        else least * body + state + (most - least) * (body + choice)

/-- Patterns in a set are branches of one choice, and each ends with a state of its own. -/
def ofRegexes (rs : List Regex) : Nat :=
  rs.foldl (fun n r => n + edge + ofRegex false r + state) (3 * state)

/-- The footprint that the program runs with. -/
instance ofStates : Footprint where
  alone p := ofRegexes [p.regex]
  together ps := ofRegexes (ps.map Pattern.regex)

end Footprint

end Munch
