/-!
# Comma-separated values

A table is written as one line for each record, with commas between the fields. A field that holds a
comma, a quote or a line break stands between quotes, and each quote in it is written twice.
-/

namespace Munch.Csv

/-- Whether a field could be misread without quotes around it. -/
def needsQuotes (field : List Char) : Bool :=
  field.any fun c => c = ',' || c = '"' || c = '\n' || c = '\r'

def field (cs : List Char) : List Char :=
  if needsQuotes cs then '"' :: cs.flatMap (fun c => if c = '"' then ['"', '"'] else [c]) ++ ['"']
  else cs

/-- The fields of one record, without the end of the line. -/
def record : List String → List Char
  | [] => []
  | [f] => field f.toList
  | f :: fs => field f.toList ++ ',' :: record fs

/-- A table, each record on a line. -/
def render (records : List (List String)) : String :=
  .ofList (records.flatMap fun r => record r ++ ['\n'])

end Munch.Csv
