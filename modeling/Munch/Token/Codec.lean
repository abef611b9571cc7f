import Munch.Json.Decoder
import Munch.Json.Value
import Munch.Token

/-!
# Tokens and segments in JSON

Tokens, segments and statistics are written as records. A segment without a name has `null` for it;
when it is read, the name may also be absent from an object.
-/

namespace Munch

/-! ## Tokens -/

namespace Token

structure Draft where
  text : Option String := none
  name : Option String := none

def record : Json.Record Token where
  Draft := Draft
  name := "Token"
  fields := [
    .ofOption "text" (·.text) (fun d a => { d with text := some a }) .string false,
    .ofOption "name" (·.name) (fun d a => { d with name := some a }) .string false]
  empty := {}
  finish d := do
    let text ← Json.required "text" d.text
    let name ← Json.required "name" d.name
    .ok { text, name }

def decoder : Json.Decoder Token := .record record

def toJson (t : Token) : Json.Value := .object [("text", .string t.text), ("name", .string t.name)]

end Token

/-! ## Segments -/

namespace Resolution

def name : Resolution → String
  | emitted => "emitted"
  | ignored => "ignored"
  | unknown => "unknown"
  | dropped => "dropped"

def choices : List (String × Resolution) :=
  [emitted, ignored, unknown, dropped].map fun k => (k.name, k)

def decoder : Json.Decoder Resolution := .choice choices

end Resolution

namespace Segment

structure Draft where
  text : Option String := none
  /-- The name as it was read, which may be `null`. -/
  name : Option (Option String) := none
  kind : Option Resolution := none

def record : Json.Record Segment where
  Draft := Draft
  name := "Segment"
  fields := [
    .ofOption "text" (·.text) (fun d a => { d with text := some a }) .string false,
    .ofOption "name" (·.name) (fun d a => { d with name := some a }) (.option .string) false,
    .ofOption "kind" (·.kind) (fun d a => { d with kind := some a }) Resolution.decoder false]
  empty := {}
  finish d := do
    let text ← Json.required "text" d.text
    let kind ← Json.required "kind" d.kind
    .ok { text, name := d.name.join, kind }

def decoder : Json.Decoder Segment := .record record

def toJson (s : Segment) : Json.Value :=
  .object [("text", .string s.text), ("name", (s.name.map .string).getD .null),
    ("kind", .string s.kind.name)]

end Segment

/-! ## Statistics -/

namespace Stats

structure Draft where
  emitted : Option UInt64 := none
  ignored : Option UInt64 := none
  unknown : Option UInt64 := none
  dropped : Option UInt64 := none
  chunks : Option UInt64 := none

def record : Json.Record Stats where
  Draft := Draft
  name := "TokenizeStats"
  fields := [
    .ofOption "emitted" (·.emitted) (fun d a => { d with emitted := some a }) (.word64 "usize")
      false,
    .ofOption "ignored" (·.ignored) (fun d a => { d with ignored := some a }) (.word64 "usize")
      false,
    .ofOption "unknown" (·.unknown) (fun d a => { d with unknown := some a }) (.word64 "usize")
      false,
    .ofOption "dropped" (·.dropped) (fun d a => { d with dropped := some a }) (.word64 "usize")
      false,
    .ofOption "chunks" (·.chunks) (fun d a => { d with chunks := some a }) (.word64 "usize") false]
  empty := {}
  finish d := do
    let emitted ← Json.required "emitted" d.emitted
    let ignored ← Json.required "ignored" d.ignored
    let unknown ← Json.required "unknown" d.unknown
    let dropped ← Json.required "dropped" d.dropped
    let chunks ← Json.required "chunks" d.chunks
    .ok { emitted := emitted.toNat, ignored := ignored.toNat, unknown := unknown.toNat
          dropped := dropped.toNat, chunks := chunks.toNat }

def decoder : Json.Decoder Stats := .record record

def toJson (s : Stats) : Json.Value :=
  .object [("emitted", .number s.emitted), ("ignored", .number s.ignored),
    ("unknown", .number s.unknown), ("dropped", .number s.dropped), ("chunks", .number s.chunks)]

end Stats

end Munch
