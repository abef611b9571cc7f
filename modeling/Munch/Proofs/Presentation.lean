import Munch.RuleFile
import Munch.Proofs.Json.Edit
import Mathlib.Logic.Relation

/-!
# How a rule file is presented

A rule file may be written in many ways: with other blanks, with its members in another order, with
members that mean nothing to it, and with or without what has its default anyway. A text of a rule
file is **rewritten** (`RuleFile.Rewrites`) if its blanks change or if the JSON that it holds is
edited in such a way, in the rule file itself, in its configuration or in one of its rules.

**Theorem (`RuleFile.parse_eq_ok_iff`).** A text reads as a rule file if and only if it is a
document of a tree that means the rule file (`RuleFile.Denotes`).

**Theorem (`RuleFile.parse_rewrites`).** A text that reads as a rule file still does so after any
number of rewritings.

Each type in a rule file is a record that is laid out. So it means what its fields mean, and a field
does not see an edit.
-/

namespace Munch

open Json (Tree Means Layout Optional Required Document)

/-! ## Configurations -/

namespace FlushPolicy

/-- The tree is the name of the policy. -/
def Denotes (t : Tree) (p : FlushPolicy) : Prop := t.Names p.name

theorem lookup_choices {name : String} {p : FlushPolicy} :
    choices.lookup name = some p ↔ name = p.name := by
  constructor
  · intro h
    simp only [choices, List.lookup_cons, List.lookup_nil] at h
    split at h
    · rename_i hname
      cases h
      exact eq_of_beq hname
    · split at h
      · rename_i hname
        cases h
        exact eq_of_beq hname
      · cases h
  · rintro rfl
    cases p <;> rfl

theorem means : Means decoder Denotes := by
  refine (Json.Decoder.means_choice choices).congr fun t p => ?_
  simp only [lookup_choices, exists_eq_right, Denotes]

theorem strict : Json.Strict decoder := Json.Decoder.strict_choice _

end FlushPolicy

namespace Config

def layout : Layout record where
  slots := [
    { name := "chunk_size", Content := UInt64, get := (·.chunkSize)
      put := fun d a => { d with chunkSize := some a }, decoder := .word64 "usize"
      hasDefault := true, Denotes := fun t n => t.IsNat n.toNat
      means := Json.Decoder.means_word64 _, strict := Json.Decoder.strict_word64 _ },
    { name := "step_size", Content := UInt64, get := (·.stepSize)
      put := fun d a => { d with stepSize := some a }, decoder := .word64 "usize"
      hasDefault := true, Denotes := fun t n => t.IsNat n.toNat
      means := Json.Decoder.means_word64 _, strict := Json.Decoder.strict_word64 _ },
    { name := "flush_policy", Content := FlushPolicy, get := (·.flushPolicy)
      put := fun d a => { d with flushPolicy := some a }, decoder := FlushPolicy.decoder
      hasDefault := true, Denotes := FlushPolicy.Denotes, means := FlushPolicy.means
      strict := FlushPolicy.strict },
    { name := "trim_input", Content := Bool, get := (·.trimInput)
      put := fun d a => { d with trimInput := some a }, decoder := .bool, hasDefault := true
      Denotes := fun t b => t = .bool b, means := Json.Decoder.means_bool
      strict := Json.Decoder.strict_bool }]
  fields_eq := rfl
  apart := by
    simp only [List.pairwise_cons, List.forall_mem_cons, List.not_mem_nil, false_implies,
      implies_true, List.Pairwise.nil, and_true]
    refine ⟨⟨?_, ?_, ?_⟩, ⟨?_, ?_⟩, ?_⟩ <;> exact ⟨by decide, fun _ _ => rfl, fun _ _ => rfl⟩
  get_put b hb s a := by
    simp only [List.mem_cons, List.not_mem_nil, or_false] at hb
    rcases hb with rfl | rfl | rfl | rfl <;> rfl
  get_empty b hb := by
    simp only [List.mem_cons, List.not_mem_nil, or_false] at hb
    rcases hb with rfl | rfl | rfl | rfl <;> rfl
  ext := by
    simp only [List.forall_mem_cons, List.not_mem_nil, false_implies, implies_true, and_true]
    rintro ⟨⟩ ⟨⟩ ⟨⟨⟩, ⟨⟩, ⟨⟩, ⟨⟩⟩
    rfl
  needed := by
    simp only [List.forall_mem_cons, List.not_mem_nil, false_implies, implies_true, and_true,
      Bool.true_eq_false]

/-- The tree means the configuration. -/
structure Denotes (t : Tree) (c : Config) : Prop where
  isRecord : t.IsRecord layout.names
  chunkSize : Optional (fun t (n : UInt64) => t.IsNat n.toNat) 256
    (t.values layout.names "chunk_size") c.chunkSize
  stepSize : Optional (fun t (n : UInt64) => t.IsNat n.toNat) 32
    (t.values layout.names "step_size") c.stepSize
  flushPolicy : Optional FlushPolicy.Denotes .perChunk
    (t.values layout.names "flush_policy") c.flushPolicy
  trimInput : Optional (fun t b => t = .bool b) true
    (t.values layout.names "trim_input") c.trimInput

theorem denotes_iff {t : Tree} {c : Config} : layout.Denotes t c ↔ Denotes t c := by
  constructor
  · rintro ⟨hrecord, s, ⟨⟩, hslots⟩
    simp only [layout, List.forall_mem_cons, List.not_mem_nil, false_implies, implies_true,
        and_true] at hslots
    obtain ⟨hchunk, hstep, hflush, htrim⟩ := hslots
    exact ⟨hrecord, Json.optional_iff.2 ⟨_, hchunk, rfl⟩, Json.optional_iff.2 ⟨_, hstep, rfl⟩,
      Json.optional_iff.2 ⟨_, hflush, rfl⟩, Json.optional_iff.2 ⟨_, htrim, rfl⟩⟩
  · rintro ⟨hrecord, hchunk, hstep, hflush, htrim⟩
    obtain ⟨chunk, hchunk, hchunk'⟩ := Json.optional_iff.1 hchunk
    obtain ⟨step, hstep, hstep'⟩ := Json.optional_iff.1 hstep
    obtain ⟨flush, hflush, hflush'⟩ := Json.optional_iff.1 hflush
    obtain ⟨trim, htrim, htrim'⟩ := Json.optional_iff.1 htrim
    refine ⟨hrecord, ⟨chunk, step, flush, trim⟩, ?_, ?_⟩
    · simp only [record, hchunk', hstep', hflush', htrim']
    · simp only [layout, List.forall_mem_cons, List.not_mem_nil, false_implies, implies_true,
        and_true]
      exact ⟨hchunk, hstep, hflush, htrim⟩

theorem means : Means decoder Denotes := layout.means_record.congr fun _ _ => denotes_iff

theorem strict : Json.Strict decoder := layout.strict_record

/-- The tree means the default of the field. -/
def IsDefault (name : String) (t : Tree) : Prop :=
  name = "chunk_size" ∧ t.IsNat 256 ∨ name = "step_size" ∧ t.IsNat 32 ∨
    name = "flush_policy" ∧ t.Names "per-chunk" ∨ name = "trim_input" ∧ t = .bool true

/-- An edit of a configuration. -/
def Edit : Tree → Tree → Prop := Tree.Edit layout.names IsDefault fun _ _ _ => False

/-- **An edit of a configuration does not show in what it means.** -/
theorem Denotes.edit {t t' : Tree} {c : Config} (h : Denotes t c) (hedit : Edit t t') :
    Denotes t' c where
  isRecord := hedit.isRecord h.isRecord
  chunkSize := by
    refine h.chunkSize.revise ?_ nofun ?_ (hedit.revises (by decide))
    · simp [IsDefault]
    · exact fun t a b => (Json.Decoder.means_word64 "usize").unique
  stepSize := by
    refine h.stepSize.revise ?_ nofun ?_ (hedit.revises (by decide))
    · simp [IsDefault]
    · exact fun t a b => (Json.Decoder.means_word64 "usize").unique
  flushPolicy := by
    refine h.flushPolicy.revise ?_ nofun ?_ (hedit.revises (by decide))
    · simp [IsDefault, FlushPolicy.Denotes, FlushPolicy.name]
    · exact fun t a b => FlushPolicy.means.unique
  trimInput := by
    refine h.trimInput.revise ?_ nofun ?_ (hedit.revises (by decide))
    · simp [IsDefault]
    · exact fun t a b => Json.Decoder.means_bool.unique

end Config

/-! ## Rules -/

namespace RuleEntry

theorem finish_eq_ok_iff {s : Draft} {r : RuleEntry} :
    record.finish s = .ok r ↔
      s.pattern = some r.pattern ∧ s.name = some r.name ∧ s.ignored.getD false = r.ignored := by
  show (Json.required "pattern" s.pattern >>= fun pattern =>
    Json.required "name" s.name >>= fun name =>
      .ok ⟨pattern, name, s.ignored.getD false⟩) = Except.ok r ↔ _
  simp only [bind_eq_ok, Json.required_eq_ok_iff, Except.ok.injEq]
  constructor
  · rintro ⟨pattern, hpattern, name, hname, rfl⟩
    exact ⟨hpattern, hname, rfl⟩
  · rintro ⟨hpattern, hname, hignored⟩
    exact ⟨_, hpattern, _, hname, by rw [hignored]⟩

def layout : Layout record where
  slots := [
    { name := "pattern", Content := String, get := (·.pattern)
      put := fun d a => { d with pattern := some a }, decoder := .string, hasDefault := false
      Denotes := Tree.IsText, means := Json.Decoder.means_string
      strict := Json.Decoder.strict_string },
    { name := "name", Content := String, get := (·.name)
      put := fun d a => { d with name := some a }, decoder := .string, hasDefault := false
      Denotes := Tree.IsText, means := Json.Decoder.means_string
      strict := Json.Decoder.strict_string },
    { name := "ignored", Content := Bool, get := (·.ignored)
      put := fun d a => { d with ignored := some a }, decoder := .bool, hasDefault := true
      Denotes := fun t b => t = .bool b, means := Json.Decoder.means_bool
      strict := Json.Decoder.strict_bool }]
  fields_eq := rfl
  apart := by
    simp only [List.pairwise_cons, List.forall_mem_cons, List.not_mem_nil, false_implies,
      implies_true, List.Pairwise.nil, and_true]
    refine ⟨⟨?_, ?_⟩, ?_⟩ <;> exact ⟨by decide, fun _ _ => rfl, fun _ _ => rfl⟩
  get_put b hb s a := by
    simp only [List.mem_cons, List.not_mem_nil, or_false] at hb
    rcases hb with rfl | rfl | rfl <;> rfl
  get_empty b hb := by
    simp only [List.mem_cons, List.not_mem_nil, or_false] at hb
    rcases hb with rfl | rfl | rfl <;> rfl
  ext := by
    simp only [List.forall_mem_cons, List.not_mem_nil, false_implies, implies_true, and_true]
    rintro ⟨⟩ ⟨⟩ ⟨⟨⟩, ⟨⟩, ⟨⟩⟩
    rfl
  needed b hb hdefault s r hnone h := by
    obtain ⟨hpattern, hname, -⟩ := finish_eq_ok_iff.1 h
    simp only [List.mem_cons, List.not_mem_nil, or_false] at hb
    rcases hb with rfl | rfl | rfl
    · cases hnone.symm.trans hpattern
    · cases hnone.symm.trans hname
    · cases hdefault

/-- The tree means the rule. -/
structure Denotes (t : Tree) (r : RuleEntry) : Prop where
  isRecord : t.IsRecord layout.names
  pattern : Required Tree.IsText (t.values layout.names "pattern") r.pattern
  name : Required Tree.IsText (t.values layout.names "name") r.name
  ignored : Optional (fun t b => t = .bool b) false (t.values layout.names "ignored") r.ignored

theorem denotes_iff {t : Tree} {r : RuleEntry} : layout.Denotes t r ↔ Denotes t r := by
  constructor
  · rintro ⟨hrecord, s, hfinish, hslots⟩
    obtain ⟨hpattern, hname, hignored⟩ := finish_eq_ok_iff.1 hfinish
    simp only [layout, List.forall_mem_cons, List.not_mem_nil, false_implies, implies_true,
      and_true, hpattern, hname] at hslots
    exact ⟨hrecord, Json.required_iff.2 hslots.1, Json.required_iff.2 hslots.2.1,
      Json.optional_iff.2 ⟨_, hslots.2.2, hignored⟩⟩
  · rintro ⟨hrecord, hpattern, hname, hignored⟩
    obtain ⟨ignored, hignored, hignored'⟩ := Json.optional_iff.1 hignored
    refine ⟨hrecord, ⟨some r.pattern, some r.name, ignored⟩, ?_, ?_⟩
    · exact finish_eq_ok_iff.2 ⟨rfl, rfl, hignored'⟩
    · simp only [layout, List.forall_mem_cons, List.not_mem_nil, false_implies, implies_true,
        and_true]
      exact ⟨Json.required_iff.1 hpattern, Json.required_iff.1 hname, hignored⟩

theorem means : Means decoder Denotes := layout.means_record.congr fun _ _ => denotes_iff

theorem strict : Json.Strict decoder := layout.strict_record

/-- The tree means the default of the field. -/
def IsDefault (name : String) (t : Tree) : Prop := name = "ignored" ∧ t = .bool false

/-- An edit of a rule. -/
def Edit : Tree → Tree → Prop := Tree.Edit layout.names IsDefault fun _ _ _ => False

/-- **An edit of a rule does not show in what it means.** -/
theorem Denotes.edit {t t' : Tree} {r : RuleEntry} (h : Denotes t r) (hedit : Edit t t') :
    Denotes t' r where
  isRecord := hedit.isRecord h.isRecord
  pattern := h.pattern.revise (by simp [IsDefault]) nofun (hedit.revises (by decide))
  name := h.name.revise (by simp [IsDefault]) nofun (hedit.revises (by decide))
  ignored := by
    refine h.ignored.revise ?_ nofun ?_ (hedit.revises (by decide))
    · simp [IsDefault]
    · exact fun t a b => Json.Decoder.means_bool.unique

end RuleEntry

/-! ## Rule files -/

namespace RuleFile

theorem finish_eq_ok_iff {s : Draft} {f : RuleFile} :
    record.finish s = .ok f ↔
      s.config.getD {} = f.config ∧ s.rules = some f.rules ∧ s.ignore.getD [] = f.ignore := by
  show (Json.required "rules" s.rules >>= fun rules =>
    .ok ⟨s.config.getD {}, rules, s.ignore.getD []⟩) = Except.ok f ↔ _
  simp only [bind_eq_ok, Json.required_eq_ok_iff, Except.ok.injEq]
  constructor
  · rintro ⟨rules, hrules, rfl⟩
    exact ⟨rfl, hrules, rfl⟩
  · rintro ⟨hconfig, hrules, hignore⟩
    exact ⟨_, hrules, by rw [hconfig, hignore]⟩

/-- The tree is a list that means the rules. -/
def DenotesRules (t : Tree) (rules : List RuleEntry) : Prop :=
  ∃ ts, t = .list ts ∧ List.Forall₂ RuleEntry.Denotes ts rules

/-- The tree is a list that means the names. -/
def DenotesNames (t : Tree) (names : List String) : Prop :=
  ∃ ts, t = .list ts ∧ List.Forall₂ Tree.IsText ts names

def layout : Layout record where
  slots := [
    { name := "config", Content := Config, get := (·.config)
      put := fun d a => { d with config := some a }, decoder := Config.decoder
      hasDefault := true, Denotes := Config.Denotes, means := Config.means
      strict := Config.strict },
    { name := "rules", Content := List RuleEntry, get := (·.rules)
      put := fun d a => { d with rules := some a }, decoder := .list RuleEntry.decoder
      hasDefault := false, Denotes := DenotesRules
      means := Json.Decoder.means_list RuleEntry.means
      strict := Json.Decoder.strict_list RuleEntry.strict },
    { name := "ignore", Content := List String, get := (·.ignore)
      put := fun d a => { d with ignore := some a }, decoder := .list .string, hasDefault := true
      Denotes := DenotesNames, means := Json.Decoder.means_list Json.Decoder.means_string
      strict := Json.Decoder.strict_list Json.Decoder.strict_string }]
  fields_eq := rfl
  apart := by
    simp only [List.pairwise_cons, List.forall_mem_cons, List.not_mem_nil, false_implies,
      implies_true, List.Pairwise.nil, and_true]
    refine ⟨⟨?_, ?_⟩, ?_⟩ <;> exact ⟨by decide, fun _ _ => rfl, fun _ _ => rfl⟩
  get_put b hb s a := by
    simp only [List.mem_cons, List.not_mem_nil, or_false] at hb
    rcases hb with rfl | rfl | rfl <;> rfl
  get_empty b hb := by
    simp only [List.mem_cons, List.not_mem_nil, or_false] at hb
    rcases hb with rfl | rfl | rfl <;> rfl
  ext := by
    simp only [List.forall_mem_cons, List.not_mem_nil, false_implies, implies_true, and_true]
    rintro ⟨⟩ ⟨⟩ ⟨⟨⟩, ⟨⟩, ⟨⟩⟩
    rfl
  needed b hb hdefault s f hnone h := by
    obtain ⟨-, hrules, -⟩ := finish_eq_ok_iff.1 h
    simp only [List.mem_cons, List.not_mem_nil, or_false] at hb
    rcases hb with rfl | rfl | rfl
    · cases hdefault
    · cases hnone.symm.trans hrules
    · cases hdefault

/-- The tree means the rule file. -/
structure Denotes (t : Tree) (f : RuleFile) : Prop where
  isRecord : t.IsRecord layout.names
  config : Optional Config.Denotes {} (t.values layout.names "config") f.config
  rules : Required DenotesRules (t.values layout.names "rules") f.rules
  ignore : Optional DenotesNames [] (t.values layout.names "ignore") f.ignore

theorem denotes_iff {t : Tree} {f : RuleFile} : layout.Denotes t f ↔ Denotes t f := by
  constructor
  · rintro ⟨hrecord, s, hfinish, hslots⟩
    obtain ⟨hconfig, hrules, hignore⟩ := finish_eq_ok_iff.1 hfinish
    simp only [layout, List.forall_mem_cons, List.not_mem_nil, false_implies, implies_true,
      and_true, hrules] at hslots
    exact ⟨hrecord, Json.optional_iff.2 ⟨_, hslots.1, hconfig⟩, Json.required_iff.2 hslots.2.1,
      Json.optional_iff.2 ⟨_, hslots.2.2, hignore⟩⟩
  · rintro ⟨hrecord, hconfig, hrules, hignore⟩
    obtain ⟨config, hconfig, hconfig'⟩ := Json.optional_iff.1 hconfig
    obtain ⟨ignore, hignore, hignore'⟩ := Json.optional_iff.1 hignore
    refine ⟨hrecord, ⟨config, some f.rules, ignore⟩, ?_, ?_⟩
    · exact finish_eq_ok_iff.2 ⟨hconfig', rfl, hignore'⟩
    · simp only [layout, List.forall_mem_cons, List.not_mem_nil, false_implies, implies_true,
        and_true]
      exact ⟨hconfig, Json.required_iff.1 hrules, hignore⟩

theorem means : Means decoder Denotes := layout.means_record.congr fun _ _ => denotes_iff

theorem strict : Json.Strict decoder := layout.strict_record

theorem run_eq_ok_iff {text : String} {f : RuleFile} :
    decoder.run text = .ok f ↔ parse text = .ok f := by
  rw [parse]
  cases decoder.run text <;> simp

/-- **The texts of rule files are the documents of the trees that mean one.** -/
theorem parse_eq_ok_iff {text : String} {f : RuleFile} :
    parse text = .ok f ↔ ∃ t, Document t text ∧ Denotes t f := by
  rw [← run_eq_ok_iff, strict.run_eq_ok_iff means]

/-- **What a document reads as depends on its tree alone.** -/
theorem parse_document {t : Tree} {text : String} {f : RuleFile} (h : Document t text) :
    parse text = .ok f ↔ Denotes t f := by
  rw [← run_eq_ok_iff, means.run_eq_ok_iff h]

/-! ## Rewritings -/

/-- The tree means the default of the field. -/
def IsDefault (name : String) (t : Tree) : Prop :=
  name = "config" ∧ Config.Denotes t {} ∨ name = "ignore" ∧ t = .list []

/-- One of the rules is edited. -/
inductive EditRule : Tree → Tree → Prop
  | rule {before after : List Tree} {t t' : Tree} : RuleEntry.Edit t t' →
      EditRule (.list (before ++ t :: after)) (.list (before ++ t' :: after))

/-- The configuration is edited, or one of the rules. -/
def EditField (name : String) (t t' : Tree) : Prop :=
  name = "config" ∧ Config.Edit t t' ∨ name = "rules" ∧ EditRule t t'

/-- An edit of a rule file. -/
def Edit : Tree → Tree → Prop := Tree.Edit layout.names IsDefault EditField

theorem DenotesRules.edit {t t' : Tree} {rules : List RuleEntry} (h : DenotesRules t rules)
    (hedit : EditRule t t') : DenotesRules t' rules := by
  obtain ⟨_, rfl, hts⟩ := h
  cases hedit with
  | @rule before after t t' hedit =>
    refine ⟨_, rfl, ?_⟩
    induction before generalizing rules with
    | nil =>
      cases hts with
      | cons hr hrs => exact .cons (hr.edit hedit) hrs
    | cons u before ih =>
      cases hts with
      | cons hr hrs => exact .cons hr (ih hrs)

/-- **An edit of a rule file does not show in what it means.** -/
theorem Denotes.edit {t t' : Tree} {f : RuleFile} (h : Denotes t f) (hedit : Edit t t') :
    Denotes t' f where
  isRecord := hedit.isRecord h.isRecord
  config := by
    refine h.config.revise ?_ ?_ ?_ (hedit.revises (by decide))
    · simp [IsDefault]
    · rintro t t' c (⟨-, hedit⟩ | ⟨hname, -⟩) hc
      · exact hc.edit hedit
      · contradiction
    · exact fun t a b => Config.means.unique
  rules := by
    refine h.rules.revise ?_ ?_ (hedit.revises (by decide))
    · simp [IsDefault]
    · rintro t t' rules (⟨hname, -⟩ | ⟨-, hedit⟩) hrules
      · contradiction
      · exact hrules.edit hedit
  ignore := by
    refine h.ignore.revise ?_ ?_ ?_ (hedit.revises (by decide))
    · simp [IsDefault, DenotesNames]
    · simp [EditField]
    · exact fun t a b => (Json.Decoder.means_list Json.Decoder.means_string).unique

/-- A text of a rule file is written in another way. -/
inductive Rewrites : String → String → Prop
  /-- Other blanks. -/
  | blanks {t : Tree} {text text' : String} : Document t text → Document t text' →
      Rewrites text text'
  | edit {t t' : Tree} {text text' : String} : Edit t t' → Document t text → Document t' text' →
      Rewrites text text'

theorem parse_rewrite {text text' : String} {f : RuleFile} (hparse : parse text = .ok f)
    (h : Rewrites text text') : parse text' = .ok f := by
  cases h with
  | blanks htext htext' => exact (parse_document htext').2 ((parse_document htext).1 hparse)
  | edit hedit htext htext' =>
    have hmeans := (parse_document htext).1 hparse
    exact (parse_document htext').2 (hmeans.edit hedit)

/-- **A text that reads as a rule file holds a tree that means it, and still reads as the rule file
after any number of rewritings.** -/
theorem parse_rewrites {text : String} {f : RuleFile} (hparse : parse text = .ok f) :
    (∃ t, Document t text ∧ Denotes t f) ∧
      ∀ text', Relation.ReflTransGen Rewrites text text' → parse text' = .ok f := by
  refine ⟨parse_eq_ok_iff.1 hparse, fun text' h => ?_⟩
  induction h with
  | refl => exact hparse
  | tail _ hstep ih => exact parse_rewrite ih hstep

/-- A rule file with one rule. -/
def bare : Json.Value :=
  .object [("rules", .list [.object [("pattern", .string "a+"), ("name", .string "run")]])]

/-- The same with a flag in the rule and its members in another order, with a configuration, and
with a note. -/
def dressed : Json.Value :=
  .object [("note", .list [.null]), ("config", .object [("step_size", .number 32)]),
    ("rules", .list [
      .object [("name", .string "run"), ("pattern", .string "a+"), ("ignored", .bool false)]])]

/-- The flag and the configuration say what holds anyway. -/
theorem parse_rewrites_dressed :
    parse bare.compact = .ok { rules := [⟨"a+", "run", false⟩] } ∧
      Relation.ReflTransGen Rewrites bare.compact dressed.pretty ∧
      parse dressed.pretty = .ok { rules := [⟨"a+", "run", false⟩] } := by
  have hparse : parse bare.compact = .ok { rules := [⟨"a+", "run", false⟩] } := by rfl
  let flagged : Json.Value := .object [("rules", .list [
    .object [("pattern", .string "a+"), ("name", .string "run"), ("ignored", .bool false)]])]
  let turned : Json.Value := .object [("rules", .list [
    .object [("name", .string "run"), ("pattern", .string "a+"), ("ignored", .bool false)]])]
  let noted : Json.Value := .object [("note", .list [.null]), ("rules", .list [
    .object [("name", .string "run"), ("pattern", .string "a+"), ("ignored", .bool false)]])]
  have hflag : Edit bare.tree flagged.tree := by
    refine @Tree.Edit.member _ _ _ [] [] _ "rules" _ _ rfl (.inr ⟨rfl, @EditRule.rule [] [] _ _ ?_⟩)
    refine @Tree.Edit.addDefault _ _ _ [_, _] [] _ "ignored" _ rfl ⟨rfl, rfl⟩ ?_
    decide
  have hturn : Edit flagged.tree turned.tree := by
    refine @Tree.Edit.member _ _ _ [] [] _ "rules" _ _ rfl (.inr ⟨rfl, @EditRule.rule [] [] _ _ ?_⟩)
    exact .permute (.swap ..)
  have hnote : Edit turned.tree noted.tree :=
    @Tree.Edit.addOther _ _ _ [] [_] _ "note" _ rfl (by decide)
  have hconfig : Edit noted.tree dressed.tree := by
    refine @Tree.Edit.addDefault _ _ _ [_] [_] _ "config" _ rfl (.inl ⟨rfl, ?_⟩) ?_
    · exact (Config.means.run_eq_ok_iff (Json.document_compact _)).1 rfl
    · decide
  have hedit : ∀ {v w : Json.Value}, Edit v.tree w.tree → Rewrites v.compact w.compact :=
    fun h => .edit h (Json.document_compact _) (Json.document_compact _)
  have hrewrites : Relation.ReflTransGen Rewrites bare.compact dressed.pretty :=
    ((((Relation.ReflTransGen.single (hedit hflag)).tail (hedit hturn)).tail (hedit hnote)).tail
      (hedit hconfig)).tail (.blanks (Json.document_compact _) (Json.document_pretty _))
  exact ⟨hparse, hrewrites, (parse_rewrites hparse).2 _ hrewrites⟩

end RuleFile

end Munch
