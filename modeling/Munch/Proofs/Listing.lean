import Munch.Proofs.Report

/-!
# Listings as rule files

A listing in JSON has the members of a rule file, except for the names to ignore, and one more, the
path. To read it as a rule file is to pass over the path and to have no names left to ignore; their
rules are marked already.

**Theorem (`program_listing`).** The listing that the program prints as JSON is a rule file with the
configuration and the rules of the tokenizer. It loads if and only if no two of the rules have the
same pattern and flag, and then what it loads is the tokenizer itself.

The rules may clash although those of the file do not, since a name that is ignored may give a rule
the key of another one.
-/

namespace Munch

open Json.Decoder

/-! ## Reading a listing -/

namespace Listing

/-- The rule file that a listing is. -/
def toRuleFile (l : Listing) : RuleFile := { config := l.config, rules := l.rules }

theorem decodes_toRuleFile (l : Listing) : Json.Decodes RuleFile.decoder l.toJson l.toRuleFile := by
  have hrules : List.Forall₂ (Json.Decodes RuleEntry.decoder) (l.rules.map RuleEntry.toJson)
      l.rules := by
    rw [List.forall₂_map_left_iff, List.forall₂_same]
    exact fun r _ => r.decodes
  have hfinish : RuleFile.record.finish ⟨l.config, l.rules, none⟩ = .ok l.toRuleFile := rfl
  refine decodes_record ?_ hfinish
  exact
    .skip rfl <|
    .cons rfl rfl (decodes_ofOption l.config.decodes _) <|
    .cons rfl rfl (decodes_ofOption (decodes_list hrules) _) (.nil _)

/-- A listing that is written as JSON is read as a rule file. -/
theorem parse_document (l : Listing) (style : Style) :
    RuleFile.parse (style.document l.toJson) = .ok l.toRuleFile := by
  obtain ⟨doc, hdoc, hwritten⟩ := style.exists_document l.toJson
  have hline : doc ++ "\n" = .ofList (doc.toList ++ ['\n']) := by simp
  have hread : RuleFile.decoder.run (.ofList (doc.toList ++ ['\n'])) = .ok l.toRuleFile :=
    run_append_eq_ok l.decodes_toRuleFile hwritten (Json.blank_newLine 0)
  rw [hdoc, hline, RuleFile.parse, hread]

end Listing

/-! ## Loading a listing -/

namespace Tokenizer

section

variable [Footprint] {t t' : Tokenizer}

/-- Reachable tokenizers with the same entries are the same. -/
theorem Reachable.ext_entries (h : t.Reachable) (h' : t'.Reachable)
    (hentries : t.rules.entries = t'.rules.entries) (hconfig : t.config = t'.config) : t = t' := by
  have hread : ∀ {t : Tokenizer}, t.Reachable →
      t.rules.entries.map RuleEntry.toRule = t.rules.rules.toList.map Except.ok := by
    intro t h
    rw [Rulebook.entries, List.map_map]
    refine List.map_congr_left fun r hr => ?_
    exact Rule.toRule_entry (h.sound.rules.compiled_of_mem (Array.mem_toList_iff.1 hr))
  have hrules := (hread h).symm.trans ((congrArg _ hentries).trans (hread h'))
  refine h.ext h' (Array.toList_inj.1 ?_) hconfig
  exact List.map_injective_iff.2 (fun _ _ => Except.ok.inj) hrules

/-- The rules of a tokenizer load if and only if they have distinct keys, and load nothing else than
the tokenizer. -/
theorem ofRuleFile_toRuleFile_iff (h : t.Reachable) :
    ((∃ loaded, ofRuleFile t.toRuleFile = .ok loaded) ↔
      t.rules.entries.Pairwise fun d e => d.key ≠ e.key) ∧
    ∀ loaded, ofRuleFile t.toRuleFile = .ok loaded → loaded = (t, []) := by
  refine ⟨⟨fun hload => ?_, fun hdistinct => ?_⟩, fun loaded hload => ?_⟩
  · exact (exists_ofRuleFile_iff.1 hload).rules.distinct
  · refine exists_ofRuleFile_iff.2 ⟨h.sound.config, fun e he => ?_, hdistinct, fun ps hps => ?_⟩
    · obtain ⟨r, hr, rfl⟩ := List.mem_map.1 he
      exact ⟨r.pattern, h.sound.rules.compiled_of_mem (Array.mem_toList_iff.1 hr)⟩
    · rw [hps.unique h.sound.rules.havePatterns]
      exact h.sound.rules.roomInTurn
  · have hvalid := exists_ofRuleFile_iff.1 ⟨_, hload⟩
    obtain ⟨t₁, ht₁, hentries, hconfig, hload₁⟩ := ofRuleFile_of_valid hvalid
    rw [ht₁.ext_entries h hentries hconfig] at hload₁
    exact Except.ok.inj (hload.symm.trans hload₁)

end

end Tokenizer

/-! ## What the program prints -/

namespace Command.System

section

variable [Footprint]

/-- The output of `check` for a rule file at a path is a rule file itself: the one of the content
`content` is read as `f` and loads the tokenizer `t`, which the output describes. -/
structure Relists (s : System) (path output content : String) (f : RuleFile) (t : Tokenizer)
    (warnings : List Log.Line) : Prop where
  holds : Holds (s.file path) content
  parsed : RuleFile.parse content = .ok f
  loaded : Tokenizer.ofRuleFile f = .ok (t, warnings)
  config : t.config = f.config
  entries : t.rules.entries = RuleEntry.ignoring f.rules f.ignore
  /-- The flags are those that the names led to, and no names are left to ignore. -/
  listed : RuleFile.parse output =
    .ok { config := t.config, rules := t.rules.entries, ignore := [] }
  loads_iff : (∃ loaded, Tokenizer.ofJson output = .ok loaded) ↔
    t.rules.entries.Pairwise fun d e => (d.pattern, d.ignored) ≠ (e.pattern, e.ignored)
  /-- What the output loads is the tokenizer itself. -/
  reload (t' : Tokenizer) (lines : List Log.Line) : Tokenizer.ofJson output = .ok (t', lines) →
    t' = t ∧ lines = [] ∧ ∀ text, t'.trace text = t.trace text

variable {a : Arguments} {environment : String → Option String} {as : List String} {path : String}

/-- **What `check` prints as JSON is a rule file of the same tokenizer.** Its rules are those of the
file, with the flags that they have once the names are ignored, and no names are left to ignore. If
no two of them have the same pattern and flag, what they load is the very tokenizer, which traces
each text as it did. -/
theorem program_listing (s : System) (hparse : Arguments.parse environment as = .ok a)
    (hformat : a.style.format = .json) (hrequest : a.request = .check path)
    (hexit : (s.program environment as).code = 0) :
    ∃ content f t warnings,
      s.Relists path (s.program environment as).stdout content f t warnings := by
  obtain ⟨out, hout⟩ := (code_program_eq_zero_iff hparse).1 hexit
  have hprogram := program_of_answers hparse hout
  rw [hrequest] at hout
  cases hout with
  | @listing _ f t warnings hread hload =>
    obtain ⟨hcontent, hdecode⟩ := hread
    rename_i content f
    obtain ⟨-, hconfig, hentries⟩ := Tokenizer.loaded_of_ofRuleFile hload
    have hlisted : RuleFile.parse (s.program environment as).stdout = .ok t.toRuleFile := by
      rw [hprogram, Listing.render, hformat]
      exact (listing path t).parse_document a.style
    have hjson : Tokenizer.ofJson (s.program environment as).stdout =
        Tokenizer.ofRuleFile t.toRuleFile := by
      rw [Tokenizer.ofJson, hlisted]
      rfl
    obtain ⟨hloads, hloaded⟩ := Tokenizer.ofRuleFile_toRuleFile_iff (.ofRuleFile hload)
    refine ⟨content, f, t, warnings, {
      holds := hcontent
      parsed := by rw [RuleFile.parse, hdecode]
      loaded := hload
      config := hconfig
      entries := hentries
      listed := hlisted
      loads_iff := hjson ▸ hloads
      reload := fun t' lines hload' => ?_ }⟩
    obtain ⟨rfl, rfl⟩ := Prod.mk.inj (hloaded _ (hjson ▸ hload'))
    exact ⟨rfl, rfl, fun _ => rfl⟩

end

/-- A rule file whose ignored names leave its rules apart. -/
def apart : RuleFile := { Tokenizer.cased with ignore := ["REST", "word"] }

/-- A system with that rule file, and one with the same rules that come to clash. -/
def casedFiles : System where
  file path := .ok (if path = "apart.json" then apart else Tokenizer.cased).render.toUTF8
  input := .ok "".toUTF8
  clock n := n

/-- The rules of both files are listed with their flags, but only those that are apart load. -/
theorem program_listing_casedFiles :
    (∃ t, Tokenizer.ofJson (casedFiles.program (fun _ => none)
          ["-f", "json", "--pretty", "check", "apart.json"]).stdout = .ok (t, []) ∧
        t.rules.entries = [⟨"a+", "run", false⟩, ⟨"b", "Run", false⟩, ⟨"a+", "rest", true⟩]) ∧
      RuleFile.parse (casedFiles.program (fun _ => none)
          ["-f", "json", "check", "clash.json"]).stdout =
        .ok { rules := [⟨"a+", "run", true⟩, ⟨"b", "Run", false⟩, ⟨"a+", "rest", true⟩] } ∧
      ∀ loaded, Tokenizer.ofJson (casedFiles.program (fun _ => none)
          ["-f", "json", "check", "clash.json"]).stdout ≠ .ok loaded := by
  have hvalid : Tokenizer.cased.Valid :=
    Tokenizer.exists_ofRuleFile_iff.1 (isOk_iff.1 (by decide +kernel))
  have hvalid' : apart.Valid := ⟨hvalid.config, hvalid.rules⟩
  constructor
  · have hparse : Arguments.parse (fun _ => none)
        ["-f", "json", "--pretty", "check", "apart.json"] =
        .ok ⟨0, { format := .json, pretty := true }, .check "apart.json"⟩ := by
      decide +kernel
    have hfile : Holds (casedFiles.file "apart.json") apart.render := rfl
    obtain ⟨⟨_, _⟩, hload⟩ := Tokenizer.exists_ofRuleFile_iff.2 hvalid'
    have hexit := (code_program_eq_zero_iff hparse).2
      ⟨_, .listing (.intro hfile (RuleFile.run_render _)) hload⟩
    obtain ⟨content, f, t, warnings, h⟩ := program_listing casedFiles hparse rfl rfl hexit
    obtain rfl := h.holds.unique hfile
    obtain rfl := Except.ok.inj (h.parsed.symm.trans (RuleFile.parse_render _))
    have hrules : t.rules.entries =
        [⟨"a+", "run", false⟩, ⟨"b", "Run", false⟩, ⟨"a+", "rest", true⟩] :=
      h.entries.trans (by decide +kernel)
    have hloads := h.loads_iff
    rw [hrules] at hloads
    obtain ⟨⟨t', lines⟩, hload'⟩ := hloads.2 (by decide)
    obtain ⟨rfl, rfl, -⟩ := h.reload _ _ hload'
    exact ⟨_, hload', hrules⟩
  · have hparse : Arguments.parse (fun _ => none) ["-f", "json", "check", "clash.json"] =
        .ok ⟨0, { format := .json }, .check "clash.json"⟩ := by
      decide +kernel
    have hfile : Holds (casedFiles.file "clash.json") Tokenizer.cased.render := rfl
    obtain ⟨⟨_, _⟩, hload⟩ := Tokenizer.exists_ofRuleFile_iff.2 hvalid
    have hexit := (code_program_eq_zero_iff hparse).2
      ⟨_, .listing (.intro hfile (RuleFile.run_render _)) hload⟩
    obtain ⟨content, f, t, warnings, h⟩ := program_listing casedFiles hparse rfl rfl hexit
    obtain rfl := h.holds.unique hfile
    obtain rfl := Except.ok.inj (h.parsed.symm.trans (RuleFile.parse_render _))
    have hrules : t.rules.entries =
        [⟨"a+", "run", true⟩, ⟨"b", "Run", false⟩, ⟨"a+", "rest", true⟩] :=
      h.entries.trans (by decide +kernel)
    have hlisted := h.listed
    have hloads := h.loads_iff
    rw [hrules] at hlisted hloads
    rw [h.config] at hlisted
    exact ⟨hlisted, fun loaded hload => absurd (hloads.1 ⟨loaded, hload⟩) (by decide)⟩

end Command.System

end Munch
