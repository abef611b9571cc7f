import Mathlib.Algebra.BigOperators.Group.List.Basic
import Munch.Proofs.BlockStream
import Munch.Proofs.Program

/-!
# Reports read back

A report is written as one JSON value. Segments and statistics have a member only if they were asked
for, a segment without a name has `null` for it, and the counters are numbers of 64 bits.

**Theorem (`decodes`).** A report reads back from all written forms of its value if its counters fit
into 64 bits.

**Theorem (`fits_trace`).** The counters of a run fit if the number of characters of the text does.
For each segment and each chunk takes at least one character.

**Theorem (`program_json`).** When the program exits with 0 and writes JSON, what it prints is one
value and the end of the line. It reads back as the tokens of the text, with the segments and the
statistics if and only if they were asked for.
-/

namespace Munch

open Json.Decoder

/-! ## Tokens and segments -/

theorem Token.decodes (t : Token) : Json.Decodes decoder t.toJson t := by
  have hfinish : record.finish ⟨t.text, t.name⟩ = .ok t := rfl
  refine decodes_record ?_ hfinish
  exact
    .cons rfl rfl (decodes_ofOption (decodes_string t.text) _) <|
    .cons rfl rfl (decodes_ofOption (decodes_string t.name) _) (.nil _)

theorem Resolution.decodes (k : Resolution) : Json.Decodes decoder (.string k.name) k :=
  decodes_choice (by cases k <;> decide)

theorem Segment.decodes (s : Segment) : Json.Decodes decoder s.toJson s := by
  have hname : Json.Decodes (option .string) ((s.name.map .string).getD .null) s.name := by
    cases s.name with
    | none => exact decodes_option_none _
    | some name => exact decodes_option_some (decodes_string name) nofun
  have hfinish : record.finish ⟨some s.text, some s.name, some s.kind⟩ = .ok s := rfl
  refine decodes_record ?_ hfinish
  exact
    .cons rfl rfl (decodes_ofOption (decodes_string s.text) _) <|
    .cons rfl rfl (decodes_ofOption hname _) <|
    .cons rfl rfl (decodes_ofOption s.kind.decodes _) (.nil _)

/-! ## Statistics -/

namespace Stats

/-- All counters fit into 64 bits. -/
structure Fits (s : Stats) : Prop where
  counter : ∀ k, s.counter k < UInt64.size
  chunks : s.chunks < UInt64.size

theorem exists_toNat {n : Nat} (h : n < UInt64.size) : ∃ w : UInt64, w.toNat = n :=
  ⟨.ofNat n, UInt64.toNat_ofNat_of_lt' h⟩

theorem decodes {s : Stats} (h : s.Fits) : Json.Decodes decoder s.toJson s := by
  obtain ⟨emitted, ignored, unknown, dropped, chunks⟩ := s
  obtain ⟨emitted, rfl⟩ := exists_toNat (h.counter .emitted)
  obtain ⟨ignored, rfl⟩ := exists_toNat (h.counter .ignored)
  obtain ⟨unknown, rfl⟩ := exists_toNat (h.counter .unknown)
  obtain ⟨dropped, rfl⟩ := exists_toNat (h.counter .dropped)
  obtain ⟨chunks, rfl⟩ := exists_toNat h.chunks
  have hfinish : record.finish ⟨emitted, ignored, unknown, dropped, chunks⟩ =
      .ok ⟨emitted.toNat, ignored.toNat, unknown.toNat, dropped.toNat, chunks.toNat⟩ := rfl
  refine decodes_record ?_ hfinish
  exact
    .cons rfl rfl (decodes_ofOption (decodes_word64 _ emitted) _) <|
    .cons rfl rfl (decodes_ofOption (decodes_word64 _ ignored) _) <|
    .cons rfl rfl (decodes_ofOption (decodes_word64 _ unknown) _) <|
    .cons rfl rfl (decodes_ofOption (decodes_word64 _ dropped) _) <|
    .cons rfl rfl (decodes_ofOption (decodes_word64 _ chunks) _) (.nil _)

end Stats

/-! ## Reports -/

namespace RunReport

variable {tokens : List Token} {segments : Option (List Segment)} {stats : Option Stats}

theorem fills_segments (tokens : List Token) (segments : Option (List Segment)) :
    Fills record.fields (⟨tokens, none, none, none⟩ : Draft)
      (segments.map fun ss => ("segments", Json.Value.list (ss.map Segment.toJson))).toList
      ⟨tokens, segments.map some, none, none⟩ := by
  cases segments with
  | none => exact .nil _
  | some ss =>
    have hlist : List.Forall₂ (Json.Decodes Segment.decoder) (ss.map Segment.toJson) ss := by
      rw [List.forall₂_map_left_iff, List.forall₂_same]
      exact fun s _ => s.decodes
    exact .cons rfl rfl (decodes_ofOption (decodes_option_some (decodes_list hlist) nofun) _)
      (.nil _)

theorem fills_stats (tokens : List Token) (segments : Option (Option (List Segment)))
    (hfits : ∀ s ∈ stats, s.Fits) :
    Fills record.fields (⟨tokens, segments, none, none⟩ : Draft)
      (stats.map fun s => ("stats", s.toJson)).toList
      ⟨tokens, segments, stats.map some, none⟩ := by
  cases stats with
  | none => exact .nil _
  | some s =>
    exact .cons rfl rfl
      (decodes_ofOption (decodes_option_some (Stats.decodes (hfits s rfl)) nofun) _) (.nil _)

/-- **A report reads back from all its written forms if its counters fit.** -/
theorem decodes (r : RunReport) (h : ∀ s ∈ r.stats, s.Fits) : Json.Decodes decoder r.toJson r := by
  obtain ⟨tokens, segments, stats, milliseconds⟩ := r
  have hlist : List.Forall₂ (Json.Decodes Token.decoder) (tokens.map Token.toJson) tokens := by
    rw [List.forall₂_map_left_iff, List.forall₂_same]
    exact fun t _ => t.decodes
  have htokens : Fills record.fields record.empty
      [("tokens", Json.Value.list (tokens.map Token.toJson))] ⟨tokens, none, none, none⟩ :=
    .cons rfl rfl (decodes_ofOption (decodes_list hlist) _) (.nil _)
  have hmilliseconds : Fills record.fields ⟨tokens, segments.map some, stats.map some, none⟩
      [("duration_ms", .number milliseconds.toNat)]
      ⟨tokens, segments.map some, stats.map some, milliseconds⟩ :=
    .cons rfl rfl (decodes_ofOption (decodes_word64 _ milliseconds) _) (.nil _)
  have hfinish : record.finish ⟨tokens, segments.map some, stats.map some, milliseconds⟩ =
      .ok ⟨tokens, segments, stats, milliseconds⟩ := by
    cases segments <;> cases stats <;> rfl
  refine decodes_record ?_ hfinish
  exact ((htokens.append (fills_segments tokens segments)).append
    (fills_stats tokens _ h)).append hmilliseconds

end RunReport

/-! ## The counters of a run -/

theorem length_le_length_flatten {α : Type} {parts : List (List α)} (h : ∀ p ∈ parts, p ≠ []) :
    parts.length ≤ parts.flatten.length := by
  have hpos : ∀ n ∈ parts.map List.length, 1 ≤ n := by
    intro n hn
    obtain ⟨p, hp, rfl⟩ := List.mem_map.1 hn
    exact List.length_pos_of_ne_nil (h p hp)
  have hle := List.length_le_sum_of_one_le _ hpos
  rwa [List.length_map, ← List.length_flatten] at hle

theorem Config.length_streamed_le (c : Config) (text : List Char) :
    (c.streamed text).length ≤ text.length := by
  unfold streamed Text.trimIf Text.trim Text.trimEnd
  split
  · have hstart := (text.dropWhile_sublist Text.isBlank).length_le
    have hend := ((text.dropWhile Text.isBlank).reverse.dropWhile_sublist Text.isBlank).length_le
    rw [List.length_reverse] at hend ⊢
    exact hend.trans hstart
  · exact Nat.le_refl _

namespace Tokenizer

variable [Footprint] {t : Tokenizer}

theorem length_trace_le (h : t.Sound) (text : List Char) :
    (t.trace text).1.length ≤ text.length := by
  have hfit : ∀ p, t.rules.accepts p = true → t.rules.fits p = true := h.fits_of_accepts
  have hchars : (t.trace text).1.flatMap Segment.chars = t.config.streamed text := by
    rw [trace_fst h, rescan, Rulebook.chars_flatMap_rescanAll hfit, flatten_parts h]
  have hne : ∀ p ∈ (t.trace text).1.map Segment.chars, p ≠ [] := by
    intro p hp
    obtain ⟨s, hs, rfl⟩ := List.mem_map.1 hp
    rw [trace_fst h] at hs
    exact (Rulebook.makes_of_mem_flatMap_rescanAll hs).chars_ne_nil
  have hle := length_le_length_flatten hne
  rw [List.length_map, ← List.flatMap_def, hchars] at hle
  exact hle.trans (t.config.length_streamed_le text)

theorem length_chunks_le (h : t.Sound) (text : List Char) :
    (t.chunks text).length ≤ text.length := by
  have hne : ∀ chunk ∈ t.chunks text, chunk ≠ [] := by
    intro chunk hchunk
    rw [chunks, BlockStream.toList_eq_slices h.chunkSize_pos] at hchunk
    exact (ne_nil_and_length_le_of_mem_slices h.chunkSize_pos hchunk).1
  have hle := length_le_length_flatten hne
  rw [flatten_chunks h] at hle
  exact hle.trans (t.config.length_streamed_le text)

/-- **The counters of a run do not exceed the length of the text.** -/
theorem fits_trace (h : t.Sound) {text : List Char} (htext : text.length < UInt64.size) :
    (t.trace text).2.Fits := by
  constructor
  · intro k
    rw [counter_trace h]
    exact (List.countP_le_length.trans (length_trace_le h text)).trans_lt htext
  · rw [trace_eq h]
    exact (length_chunks_le h text).trans_lt htext

end Tokenizer

/-! ## Documents -/

/-- A document is one written form of the value and the end of the line. -/
theorem Style.exists_document (style : Style) (v : Json.Value) :
    ∃ doc, style.document v = doc ++ "\n" ∧ Json.Written v doc.toList := by
  refine ⟨_, rfl, ?_⟩
  split
  · simpa [Json.Value.pretty] using v.written_prettyChars 0
  · simpa [Json.Value.compact] using v.written_compactChars

/-- A report reads back from its document, with or without the end of the line. -/
theorem RunReport.run_document {r : RunReport} {doc : String} (h : ∀ s ∈ r.stats, s.Fits)
    (hdoc : Json.Written r.toJson doc.toList) :
    decoder.run doc = .ok r ∧ decoder.run (doc ++ "\n") = .ok r := by
  have hline : doc ++ "\n" = .ofList (doc.toList ++ ['\n']) := by simp
  constructor
  · simpa using run_eq_ok (r.decodes h) hdoc
  · rw [hline]
    exact run_append_eq_ok (r.decodes h) hdoc (Json.blank_newLine 0)

namespace Command

/-! ## What the program prints -/

namespace TokenizeRequest

/-- The report holds the tokens of a text, and what else the request asks for. -/
structure Reports (t : TokenizeRequest) (tokenizer : Tokenizer) (text : List Char) (r : RunReport) :
    Prop where
  tokens : r.tokens = (tokenizer.tokenize text).1
  segments : r.segments = if t.trace then some (tokenizer.trace text).1 else none
  stats : r.stats = if t.stats then some (tokenizer.tokenize text).2 else none

/-- The names of the members of a report. -/
def memberNames (t : TokenizeRequest) : List String :=
  ["tokens"] ++ (if t.trace then ["segments"] else []) ++ (if t.stats then ["stats"] else []) ++
    ["duration_ms"]

variable {t : TokenizeRequest} {tokenizer : Tokenizer} {text : List Char} {r : RunReport}

theorem Reports.exists_members (h : t.Reports tokenizer text r) :
    ∃ members, r.toJson = .object members ∧ members.map Prod.fst = t.memberNames := by
  refine ⟨_, rfl, ?_⟩
  rw [h.segments, h.stats, memberNames]
  cases t.trace <;> cases t.stats <;> rfl

theorem Reports.fits_stats [Footprint] (h : t.Reports tokenizer text r) (hsound : tokenizer.Sound)
    (hsize : t.stats = true → text.length < UInt64.size) : ∀ stats ∈ r.stats, stats.Fits := by
  rw [h.stats, Tokenizer.stats_tokenize hsound]
  cases hstats : t.stats with
  | false => exact nofun
  | true =>
    rintro stats ⟨⟩
    exact Tokenizer.fits_trace hsound (hsize hstats)

end TokenizeRequest

namespace System

variable {s : System} {t : TokenizeRequest}

theorem reports_report [Footprint] {tokenizer : Tokenizer} (h : tokenizer.Sound) (text : String) :
    t.Reports tokenizer text.toList (s.report t tokenizer text) := by
  unfold report TokenizeRequest.report
  cases htrace : t.trace with
  | false => exact ⟨rfl, by simp [htrace], rfl⟩
  | true =>
    refine ⟨?_, by simp [htrace], ?_⟩
    · exact (Tokenizer.tokens_eq h _).symm
    · rw [Tokenizer.stats_tokenize h]
      rfl

variable {a : Arguments} {environment : String → Option String} {as : List String}

/-- **What the program prints as JSON reads back as the report on the text.** Where statistics are
asked for, the text must be one that 64 bits can count, as every text in memory is. -/
theorem program_json [Footprint] (s : System) (hparse : Arguments.parse environment as = .ok a)
    (hformat : a.style.format = .json) (hrequest : a.request = .tokenize t)
    (hsize : t.stats = true → ∀ text, Holds (s.source t) text → text.length < UInt64.size)
    (hexit : (s.program environment as).code = 0) :
    ∃ content f tokenizer warnings text doc report members,
      Holds (s.file t.rules) content ∧ RuleFile.decoder.run content = .ok f ∧
      Tokenizer.ofRuleFile (t.override f) = .ok (tokenizer, warnings) ∧
      Holds (s.source t) text ∧ t.Reports tokenizer text.toList report ∧
      (s.program environment as).stdout = doc ++ "\n" ∧
      Json.Written (.object members) doc.toList ∧ members.map Prod.fst = t.memberNames ∧
      RunReport.decoder.run doc = .ok report ∧
      RunReport.decoder.run (doc ++ "\n") = .ok report := by
  obtain ⟨out, hout⟩ := (code_program_eq_zero_iff hparse).1 hexit
  have hprogram := program_of_answers hparse hout
  rw [hrequest] at hout
  cases hout with
  | @report _ f tokenizer warnings text hread hload htext =>
    obtain ⟨hcontent, hdecode⟩ := hread
    have hsound : tokenizer.Sound := Tokenizer.sound_of_ofRuleFile hload
    have hreports : t.Reports tokenizer text.toList (s.report t tokenizer text) :=
      reports_report hsound text
    obtain ⟨members, hmembers, hnames⟩ := hreports.exists_members
    obtain ⟨doc, hdoc, hwritten⟩ := a.style.exists_document (s.report t tokenizer text).toJson
    have hfits := hreports.fits_stats hsound fun hstats => by
      rw [String.length_toList]
      exact hsize hstats text htext
    obtain ⟨hrun, hline⟩ := RunReport.run_document hfits hwritten
    have hstdout : (s.program environment as).stdout = doc ++ "\n" := by
      rw [hprogram, RunReport.render, hformat]
      exact hdoc
    exact ⟨_, _, tokenizer, warnings, text, doc, _, members, hcontent, hdecode, hload, htext,
      hreports, hstdout, hmembers ▸ hwritten, hnames, hrun, hline⟩

/-- A request for all there is, on a text with an ignored letter and an unknown one. -/
def everything : TokenizeRequest where
  rules := "rules.json"
  text := some "aabé"
  trace := true
  stats := true

/-- The arguments for that request, with the answer in the pretty form. -/
def everythingArgs : List String :=
  ["-f", "json", "--pretty", "tokenize", "--trace", "--stats", "rules.json", "aabé"]

/-- The report reads back with the segments and the statistics. -/
theorem program_json_oneFile :
    (oneFile.program (fun _ => none) everythingArgs).code = 0 ∧
    ∃ doc report,
      (oneFile.program (fun _ => none) everythingArgs).stdout = doc ++ "\n" ∧
      RunReport.decoder.run doc = .ok report ∧
      report.tokens = [⟨"aa", "run"⟩, ⟨"é", "_unknown_"⟩] ∧
      report.segments = some [⟨"aa", "run", .emitted⟩, ⟨"b", "letter", .ignored⟩,
        ⟨"é", "_unknown_", .unknown⟩] ∧
      report.stats = some { emitted := 1, ignored := 1, unknown := 1, chunks := 2 } := by
  have hparse : Arguments.parse (fun _ => none) everythingArgs =
      .ok ⟨0, { format := .json, pretty := true }, .tokenize everything⟩ := by
    decide +kernel
  have htext : Holds (oneFile.source everything) "aabé" := rfl
  obtain ⟨t, -, -, -, hload⟩ := Tokenizer.ofRuleFile_of_valid valid_toRuleFile_letters
  have hread : oneFile.Reads (.tokenize everything) Tokenizer.letters.toRuleFile :=
    reads_oneFile rfl
  have hexit := (code_program_eq_zero_iff hparse).2 ⟨_, .report hread hload htext⟩
  have hsize : ∀ text, Holds (oneFile.source everything) text → text.length < UInt64.size := by
    intro text h
    rw [h.unique htext]
    decide +kernel
  obtain ⟨content, f, tokenizer, warnings, text, doc, report, members, hcontent, hdecode, hbuild,
    htext', hreports, hstdout, -, -, hrun, -⟩ :=
    program_json oneFile hparse rfl rfl (fun _ => hsize) hexit
  refine ⟨hexit, doc, report, hstdout, hrun, ?_⟩
  -- The file and the text are the ones that the system holds.
  have hfile : Holds (oneFile.file everything.rules) Tokenizer.letters.toRuleFile.render := rfl
  obtain rfl := hcontent.unique hfile
  obtain rfl := Except.ok.inj (hdecode.symm.trans (RuleFile.run_render _))
  obtain rfl := htext'.unique htext
  have hresult : (Tokenizer.ofRuleFile (everything.override Tokenizer.letters.toRuleFile)).map
      (fun loaded => (loaded.1.tokenize "aabé".toList, (loaded.1.trace "aabé".toList).1)) =
      .ok (([⟨"aa", "run"⟩, ⟨"é", "_unknown_"⟩],
          { emitted := 1, ignored := 1, unknown := 1, chunks := 2 }),
        [⟨"aa", "run", .emitted⟩, ⟨"b", "letter", .ignored⟩, ⟨"é", "_unknown_", .unknown⟩]) := by
    decide +kernel
  rw [hbuild] at hresult
  obtain ⟨hstats, hsegments⟩ := Prod.mk.inj (Except.ok.inj hresult)
  rw [hreports.tokens, hreports.segments, hreports.stats, hstats, hsegments]
  exact ⟨rfl, rfl, rfl⟩

end System

end Command

end Munch
