import Munch.Json.Decoder
import Munch.Json.Value

/-!
# Styles of output

A report is written for a reader, as JSON or as comma-separated values. JSON has a compact and a
pretty form; a quiet listing for a reader has no heading.
-/

namespace Munch

inductive Format where
  | human
  | json
  | csv
deriving DecidableEq, Repr

namespace Format

def name : Format → String
  | human => "human"
  | json => "json"
  | csv => "csv"

def choices : List (String × Format) := [human, json, csv].map fun f => (f.name, f)

def decoder : Json.Decoder Format := .choice choices

end Format

structure Style where
  format : Format := .human
  /-- Whether JSON is written in its pretty form. -/
  pretty : Bool := false
  quiet : Bool := false
deriving DecidableEq, Repr

/-- Text of several lines, each with its end. -/
def unlines (lines : List String) : String := .join (lines.map (· ++ "\n"))

/-- A JSON value on its own, followed by the end of the line. -/
def Style.document (s : Style) (v : Json.Value) : String :=
  (if s.pretty then v.pretty else v.compact) ++ "\n"

end Munch
