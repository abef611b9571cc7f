/-!
# Padded text

Columns of a listing are filled up with spaces to a width in characters. Text that is wider than its
column is not cut.
-/

namespace Munch.Text

/-- The text at the left of a column. -/
def padRight (width : Nat) (s : String) : String :=
  s ++ .ofList (List.replicate (width - s.length) ' ')

/-- The text at the right of a column. -/
def padLeft (width : Nat) (s : String) : String :=
  .ofList (List.replicate (width - s.length) ' ') ++ s

end Munch.Text
