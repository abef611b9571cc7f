/-!
# Sets of characters

A **character set** is a list of ranges of code points, in ascending order and with gaps between
them. `CharSet.ofRanges` brings any list of ranges into that form; the set operations go through it.
-/

namespace Munch

/-- The code points from `lo` to `hi`, both included. -/
structure CharRange where
  lo : Nat
  hi : Nat
deriving DecidableEq, Repr

/-- A set of characters, as ascending ranges with gaps between them. -/
structure CharSet where
  ranges : List CharRange
deriving DecidableEq, Repr

namespace CharSet

/-! ## Membership -/

/-- Looks `n` up in ascending ranges, and stops at the first range above it. -/
def inRanges (n : Nat) : List CharRange → Bool
  | [] => false
  | r :: rs => if n < r.lo then false else n ≤ r.hi || inRanges n rs

def contains (s : CharSet) (c : Char) : Bool := inRanges c.toNat s.ranges

instance : Membership Char CharSet := ⟨fun s c => s.contains c = true⟩

instance (c : Char) (s : CharSet) : Decidable (c ∈ s) := inferInstanceAs (Decidable (_ = true))

/-! ## Construction -/

/-- Joins ranges that overlap or touch; `cur` is the range under way. -/
def joinFrom (cur : CharRange) : List CharRange → List CharRange
  | [] => [cur]
  | r :: rs =>
    if r.lo ≤ cur.hi + 1 then joinFrom ⟨cur.lo, max cur.hi r.hi⟩ rs else cur :: joinFrom r rs

/-- The set of the code points in any of the given ranges; a range with `hi < lo` is empty. -/
def ofRanges (rs : List CharRange) : CharSet :=
  match (rs.filter fun r => r.lo ≤ r.hi).mergeSort fun a b => a.lo ≤ b.lo with
  | [] => ⟨[]⟩
  | r :: rs => ⟨joinFrom r rs⟩

def empty : CharSet := ⟨[]⟩

def range (lo hi : Nat) : CharSet := ofRanges [⟨lo, hi⟩]

def singleton (c : Char) : CharSet := ⟨[⟨c.toNat, c.toNat⟩]⟩

/-- The greatest code point. -/
def top : Nat := 0x10FFFF

def full : CharSet := ⟨[⟨0, top⟩]⟩

def ascii : CharSet := ⟨[⟨0, 0x7F⟩]⟩

/-! ## Operations -/

def union (a b : CharSet) : CharSet := ofRanges (a.ranges ++ b.ranges)

/-- The gaps between ascending ranges, from `next` on. -/
def gapsFrom (next : Nat) : List CharRange → List CharRange
  | [] => [⟨next, top⟩]
  | r :: rs => ⟨next, r.lo - 1⟩ :: gapsFrom (r.hi + 1) rs

/-- All characters that are not in the set. -/
def compl (s : CharSet) : CharSet :=
  match s.ranges with
  | ⟨0, hi⟩ :: rs => ofRanges (gapsFrom (hi + 1) rs)
  | rs => ofRanges (gapsFrom 0 rs)

def inter (a b : CharSet) : CharSet := (union a.compl b.compl).compl

def diff (a b : CharSet) : CharSet := a.inter b.compl

def symmDiff (a b : CharSet) : CharSet := (a.union b).diff (a.inter b)

def isAscii (s : CharSet) : Bool := s.ranges.all fun r => r.hi ≤ 0x7F

/-! ## Written form -/

/-- The value of a hexadecimal digit, upper or lower case. -/
def hexValue? (c : Char) : Option Nat :=
  if '0' ≤ c ∧ c ≤ '9' then some (c.toNat - '0'.toNat)
  else if 'A' ≤ c ∧ c ≤ 'F' then some (c.toNat - 'A'.toNat + 10)
  else if 'a' ≤ c ∧ c ≤ 'f' then some (c.toNat - 'a'.toNat + 10)
  else none

/-- Reads ranges such as `41-5A 61-7A B5`; `lo` is set between a dash and the next blank, and `n` is
the number under way. -/
def readRanges (lo : Option Nat) (n : Nat) : List Char → List CharRange
  | [] => [⟨lo.getD n, n⟩]
  | ' ' :: cs => ⟨lo.getD n, n⟩ :: readRanges none 0 cs
  | '-' :: cs => readRanges (some n) 0 cs
  | c :: cs => readRanges lo (16 * n + (hexValue? c).getD 0) cs

/-- The set written as lines of hexadecimal ranges, in any order. -/
def ofHex (lines : List String) : CharSet :=
  ofRanges (lines.flatMap fun l => readRanges none 0 l.toList)

end CharSet

namespace Unicode

/-- A named set of code points. -/
structure PropertyRow where
  names : List String
  ranges : List String

def PropertyRow.set (r : PropertyRow) : CharSet := .ofHex r.ranges

end Unicode

end Munch
