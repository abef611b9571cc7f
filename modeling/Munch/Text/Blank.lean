import Munch.Unicode.CharSet

/-!
# Blank characters

A character is **blank** if it has the White_Space property: the ASCII blanks, the next-line and
no-break spaces, and the spaces and separators of other writing systems. Zero-width characters and
the byte order mark are not blank. `trim` removes the blanks at both ends of a text.
-/

namespace Munch.Text

/-- All blank characters. -/
def blanks : CharSet :=
  ⟨[⟨0x09, 0x0D⟩, ⟨0x20, 0x20⟩, ⟨0x85, 0x85⟩, ⟨0xA0, 0xA0⟩, ⟨0x1680, 0x1680⟩, ⟨0x2000, 0x200A⟩,
    ⟨0x2028, 0x2029⟩, ⟨0x202F, 0x202F⟩, ⟨0x205F, 0x205F⟩, ⟨0x3000, 0x3000⟩]⟩

def isBlank (c : Char) : Bool := blanks.contains c

/-- The text without the blanks at its end. -/
def trimEnd (cs : List Char) : List Char := (cs.reverse.dropWhile isBlank).reverse

/-- The text without the blanks at its start and end. -/
def trim (cs : List Char) : List Char := trimEnd (cs.dropWhile isBlank)

/-- The text, trimmed if that is asked for. -/
def trimIf (trim : Bool) (cs : List Char) : List Char := if trim then Text.trim cs else cs

/-- The number of bytes that the text takes in UTF-8. -/
def byteSize (cs : List Char) : Nat := cs.foldl (fun n c => n + c.utf8Size) 0

end Munch.Text
