import Munch.Csv
import Munch.Report.Style
import Munch.Text.Padded
import Munch.Text.Quoted
import Munch.Token.Codec

/-!
# Reports of a run

A **run report** holds the tokens of a text. If they were asked for, it also holds the segments,
which are then listed in place of the tokens, and the statistics.
-/

namespace Munch

structure RunReport where
  tokens : List Token
  segments : Option (List Segment) := none
  stats : Option Stats := none
  /-- How long the run took. -/
  milliseconds : UInt64 := 0
deriving DecidableEq, Repr

namespace RunReport

/-! ## JSON -/

structure Draft where
  tokens : Option (List Token) := none
  /-- The segments as they were read, which may be `null`. -/
  segments : Option (Option (List Segment)) := none
  /-- The statistics as they were read, which may be `null`. -/
  stats : Option (Option Stats) := none
  milliseconds : Option UInt64 := none

def record : Json.Record RunReport where
  Draft := Draft
  name := "TokenizeResult"
  fields := [
    .ofOption "tokens" (·.tokens) (fun d a => { d with tokens := some a }) (.list Token.decoder)
      false,
    .ofOption "segments" (·.segments) (fun d a => { d with segments := some a })
      (.option (.list Segment.decoder)) false,
    .ofOption "stats" (·.stats) (fun d a => { d with stats := some a }) (.option Stats.decoder)
      false,
    .ofOption "duration_ms" (·.milliseconds) (fun d a => { d with milliseconds := some a })
      (.word64 "u64") false]
  empty := {}
  finish d := do
    let tokens ← Json.required "tokens" d.tokens
    let milliseconds ← Json.required "duration_ms" d.milliseconds
    .ok { tokens, segments := d.segments.join, stats := d.stats.join, milliseconds }

def decoder : Json.Decoder RunReport := .record record

/-- Segments and statistics have a member only if the report holds them. -/
def toJson (r : RunReport) : Json.Value :=
  .object <|
    [("tokens", .list (r.tokens.map Token.toJson))] ++
    (r.segments.map fun ss => ("segments", .list (ss.map Segment.toJson))).toList ++
    (r.stats.map fun s => ("stats", s.toJson)).toList ++
    [("duration_ms", .number r.milliseconds.toNat)]

end RunReport

/-! ## Listings -/

/-- The label of a segment in listings. -/
def Resolution.label : Resolution → String
  | emitted => "token"
  | ignored => "ignored"
  | unknown => "unknown"
  | dropped => "dropped"

/-- A segment as a line for a reader: label, name or a dash, and the quoted text. -/
def Segment.line (s : Segment) : String :=
  Text.padRight 8 s.kind.label ++ " " ++ Text.padRight 16 (s.name.getD "-") ++ " " ++
    Text.quoted s.text.toList

/-- Statistics as lines for a reader. -/
def Stats.lines (s : Stats) (milliseconds : UInt64) : List String :=
  ["", "Statistics:", s!"  Tokens:   {s.emitted}", s!"  Unknown:  {s.unknown}",
    s!"  Ignored:  {s.ignored}", s!"  Dropped:  {s.dropped}", s!"  Chunks:   {s.chunks}",
    s!"  Time:     {milliseconds} ms"]

namespace RunReport

/-- The report as lines for a reader. -/
def lines (r : RunReport) : List String :=
  (match r.segments with
    | some segments => segments.map Segment.line
    | none => r.tokens.map Token.display) ++
  match r.stats with
  | some stats => stats.lines r.milliseconds
  | none => []

/-- The report as a table with a header; statistics are left out. -/
def table (r : RunReport) : List (List String) :=
  match r.segments with
  | some segments =>
    ["kind", "name", "text"] :: segments.map fun s => [s.kind.label, s.name.getD "", s.text]
  | none => ["name", "text"] :: r.tokens.map fun t => [t.name, t.text]

def render (r : RunReport) (style : Style) : String :=
  match style.format with
  | .human => unlines r.lines
  | .json => style.document r.toJson
  | .csv => Csv.render r.table

end RunReport

end Munch
