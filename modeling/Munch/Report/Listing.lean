import Munch.Csv
import Munch.Report.Style
import Munch.RuleFile
import Munch.Text.Padded

/-!
# Listings of rules

A **rule listing** shows the rules that a rule file leads to, in order of priority, under the path
of the file and its configuration.
-/

namespace Munch

structure Listing where
  path : String
  config : Config
  rules : List RuleEntry
deriving DecidableEq, Repr

namespace Listing

/-! ## JSON -/

structure Draft where
  path : Option String := none
  config : Option Config := none
  rules : Option (List RuleEntry) := none

def record : Json.Record Listing where
  Draft := Draft
  name := "RuleListing"
  fields := [
    .ofOption "path" (·.path) (fun d a => { d with path := some a }) .string false,
    .ofOption "config" (·.config) (fun d a => { d with config := some a }) Config.decoder false,
    .ofOption "rules" (·.rules) (fun d a => { d with rules := some a }) (.list RuleEntry.decoder)
      false]
  empty := {}
  finish d := do
    let path ← Json.required "path" d.path
    let config ← Json.required "config" d.config
    let rules ← Json.required "rules" d.rules
    .ok { path, config, rules }

def decoder : Json.Decoder Listing := .record record

def toJson (l : Listing) : Json.Value :=
  .object [("path", .string l.path), ("config", l.config.toJson),
    ("rules", .list (l.rules.map RuleEntry.toJson))]

end Listing

/-! ## Listings -/

/-- The policy as a reader sees it. -/
def FlushPolicy.title : FlushPolicy → String
  | perChunk => "PerChunk"
  | endOfStream => "EndOfStream"

namespace Listing

def heading (l : Listing) : List String :=
  [s!"Rules from {l.path}",
    s!"chunk size: {l.config.chunkSize}, step size: {l.config.stepSize}, " ++
      s!"flush: {l.config.flushPolicy.title}, trim: {l.config.trimInput}",
    ""]

/-- A rule as a line for a reader, after its place in the order of priority. -/
def ruleLine (r : RuleEntry) (priority : Nat) : String :=
  Text.padLeft 3 (toString priority) ++ "  " ++ Text.padRight 16 r.name ++ " " ++ r.pattern ++
    if r.ignored then " [ignored]" else ""

/-- The listing as lines for a reader. -/
def lines (l : Listing) (quiet : Bool) : List String :=
  (if quiet then [] else l.heading) ++ l.rules.zipIdx.map fun (r, i) => ruleLine r i

/-- The listing as a table with a header. -/
def table (l : Listing) : List (List String) :=
  ["priority", "name", "pattern", "ignored"] :: l.rules.zipIdx.map fun (r, i) =>
    [toString i, r.name, r.pattern, toString r.ignored]

def render (l : Listing) (style : Style) : String :=
  match style.format with
  | .human => unlines (l.lines style.quiet)
  | .json => style.document l.toJson
  | .csv => Csv.render l.table

end Listing

end Munch
