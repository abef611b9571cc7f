import Munch.Text.Blank
import Munch.Unicode.Addition
import Munch.Unicode.Lookup

/-!
# Classes of characters

The sets that patterns, names and reports use often: digits, word characters, letters and printable
characters. Each test decides ASCII characters on its own, without the tables. Digits and word
characters are those that patterns know; the other classes take in the additions to the standard.
-/

namespace Munch.Unicode

/-! ## Digits and word characters -/

def digits : CharSet := setOf categories "Nd"

def alphabetic : CharSet := setOf properties "Alphabetic"

/-- The characters of words: letters, marks, decimal digits, connectors and joiners. -/
def wordChars : CharSet :=
  .ofRanges (alphabetic.ranges ++ (categorySet ["Mn", "Mc", "Me", "Nd", "Pc"]).ranges ++
    (setOf properties "Join_Control").ranges)

def asciiDigits : CharSet := ⟨[⟨0x30, 0x39⟩]⟩

def asciiBlanks : CharSet := ⟨[⟨0x09, 0x0D⟩, ⟨0x20, 0x20⟩]⟩

def asciiWordChars : CharSet := ⟨[⟨0x30, 0x39⟩, ⟨0x41, 0x5A⟩, ⟨0x5F, 0x5F⟩, ⟨0x61, 0x7A⟩]⟩

def isAsciiWord (c : Char) : Bool := asciiWordChars.contains c

def isWord (c : Char) : Bool :=
  if c.toNat < 0x80 then isAsciiWord c else wordChars.contains c

/-! ## Letters and numbers -/

/-- A set of the patterns' tables together with the additions of the given name. -/
def extended (s : CharSet) (name : String) : CharSet := s.union (setOf additions name)

def letters : CharSet := extended alphabetic "Alphabetic"

def numbers : CharSet := extended (categorySet ["Nd", "Nl", "No"]) "Number"

def isAlphabetic (c : Char) : Bool :=
  if c.toNat < 0x80 then c.isAlpha else letters.contains c

def isAlphanumeric (c : Char) : Bool :=
  if c.toNat < 0x80 then c.isAlphanum else letters.contains c || numbers.contains c

/-! ## Printing -/

/-- Controls, separators, characters without a shape and code points without a character of their
own. -/
def unprintable : CharSet :=
  .ofRanges ((categorySet ["Cc", "Cf", "Co", "Zs", "Zl", "Zp"]).ranges ++
    (setOf properties "Default_Ignorable_Code_Point").ranges ++
    (extended assigned "Assigned").compl.ranges)

/-- Marks that join the character before them. The two halfwidth voicing marks do so as well, but
have a width of their own. -/
def graphemeExtend : CharSet :=
  (extended (setOf properties "Grapheme_Extend") "Grapheme_Extend").diff (.range 0xFF9E 0xFF9F)

/-- Whether a character may stand for itself in quoted text. -/
def isPlain (c : Char) : Bool :=
  if c.toNat < 0x80 then 0x20 ≤ c.toNat && c.toNat < 0x7F
  else !graphemeExtend.contains c && !unprintable.contains c

end Munch.Unicode
