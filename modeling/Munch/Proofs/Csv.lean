import Mathlib.Data.List.TakeWhile
import Munch.Proofs.Report

/-!
# Tables read back

A table of comma-separated values has one line for each record, with commas between the fields. A
field is **bare**, and then holds no comma, quote or line break, or it stands between quotes, and
then may hold any text in which each quote is written twice.

**Theorem (`read_eq_some_iff`).** A text is read as a table if and only if the table can be written
so. As the reader is a function, no text stands for two tables.

**Theorem (`read_render`).** A table that is rendered reads back, whatever its fields hold, if each
record has a field.

**Theorem (`program_csv`).** What the program prints as a table reads back as the header and a
record for each segment, token or rule, in order.
-/

namespace Munch.Csv

/-! ## How tables are written -/

/-- The character may stand in a bare field. -/
def Plain (c : Char) : Prop := c ≠ ',' ∧ c ≠ '"' ∧ c ≠ '\n' ∧ c ≠ '\r'

instance (c : Char) : Decidable (Plain c) := inferInstanceAs (Decidable (_ ∧ _ ∧ _ ∧ _))

/-- A field as it stands between quotes. -/
inductive Doubled : List Char → List Char → Prop
  | nil : Doubled [] []
  | quote {cs text : List Char} (h : Doubled cs text) : Doubled ('"' :: cs) ('"' :: '"' :: text)
  | other {c : Char} {cs text : List Char} (hc : c ≠ '"') (h : Doubled cs text) :
      Doubled (c :: cs) (c :: text)

inductive FieldText : String → List Char → Prop
  | bare {f : String} (h : ∀ c ∈ f.toList, Plain c) : FieldText f f.toList
  | quoted {f : String} {text : List Char} (h : Doubled f.toList text) :
      FieldText f ('"' :: (text ++ ['"']))

/-- A record without the end of its line. -/
inductive RecordText : List String → List Char → Prop
  | last {f : String} {text : List Char} (h : FieldText f text) : RecordText [f] text
  | cons {f : String} {fs : List String} {text more : List Char} (h : FieldText f text)
      (hmore : RecordText fs more) : RecordText (f :: fs) (text ++ ',' :: more)

inductive TableText : List (List String) → List Char → Prop
  | nil : TableText [] []
  | cons {r : List String} {rs : List (List String)} {text more : List Char} (h : RecordText r text)
      (hmore : TableText rs more) : TableText (r :: rs) (text ++ '\n' :: more)

/-! ## Reading -/

/-- The rest of a field behind its first quote, and what follows the last one. -/
def readDoubled : List Char → Option (List Char × List Char)
  | [] => none
  | '"' :: '"' :: cs => (readDoubled cs).map fun (field, rest) => ('"' :: field, rest)
  | '"' :: cs => some ([], cs)
  | c :: cs => (readDoubled cs).map fun (field, rest) => (c :: field, rest)

def readField : List Char → Option (List Char × List Char)
  | '"' :: cs => readDoubled cs
  | cs => some (cs.takeWhile (Plain ·), cs.dropWhile (Plain ·))

variable {text rest cs field : List Char}

theorem doubled_of_readDoubled (h : readDoubled text = some (field, rest)) :
    ∃ body, text = body ++ '"' :: rest ∧ Doubled field body := by
  fun_induction readDoubled text generalizing field with
  | case1 => cases h
  | case2 cs ih =>
    obtain ⟨⟨field, rest⟩, hread, heq⟩ := Option.map_eq_some_iff.1 h
    cases heq
    obtain ⟨body, rfl, hbody⟩ := ih hread
    exact ⟨'"' :: '"' :: body, rfl, hbody.quote⟩
  | case3 cs hcs =>
    cases h
    exact ⟨[], rfl, .nil⟩
  | case4 c cs hc hcs ih =>
    obtain ⟨⟨field, rest⟩, hread, heq⟩ := Option.map_eq_some_iff.1 h
    cases heq
    obtain ⟨body, rfl, hbody⟩ := ih hread
    exact ⟨c :: body, rfl, hbody.other hcs⟩

theorem fieldText_of_readField (h : readField cs = some (field, rest)) :
    ∃ text, cs = text ++ rest ∧ FieldText (.ofList field) text := by
  unfold readField at h
  split at h
  · obtain ⟨body, rfl, hbody⟩ := doubled_of_readDoubled h
    refine ⟨'"' :: (body ++ ['"']), by simp, .quoted ?_⟩
    rwa [String.toList_ofList]
  · obtain ⟨rfl, rfl⟩ := Prod.mk.inj (Option.some.inj h)
    have hbare := FieldText.bare (f := .ofList (cs.takeWhile (Plain ·)))
    rw [String.toList_ofList] at hbare
    refine ⟨_, List.takeWhile_append_dropWhile.symm, hbare fun c hc => ?_⟩
    simpa using List.mem_takeWhile_imp hc

/-- Reading goes on behind the comma or the line break that ends a field. -/
theorem length_lt_of_readField {c : Char} (h : readField cs = some (field, c :: rest)) :
    rest.length < cs.length := by
  obtain ⟨text, rfl, -⟩ := fieldText_of_readField h
  rw [List.length_append, List.length_cons]
  omega

/-- The first record and the lines behind it. -/
def readRecord (cs : List Char) : Option (List String × List Char) :=
  match _h : readField cs with
  | some (field, ',' :: rest) => (readRecord rest).map fun (fs, rest) => (.ofList field :: fs, rest)
  | some (field, '\n' :: rest) => some ([.ofList field], rest)
  | _ => none
termination_by cs.length
decreasing_by exact length_lt_of_readField _h

theorem recordText_of_readRecord {r : List String} (h : readRecord cs = some (r, rest)) :
    ∃ text, cs = text ++ '\n' :: rest ∧ RecordText r text := by
  fun_induction readRecord cs generalizing r with
  | case1 cs field rest' hfield ih =>
    obtain ⟨⟨fs, rest⟩, hread, heq⟩ := Option.map_eq_some_iff.1 h
    cases heq
    obtain ⟨text, rfl, htext⟩ := fieldText_of_readField hfield
    obtain ⟨more, rfl, hmore⟩ := ih hread
    exact ⟨text ++ ',' :: more, by simp, .cons htext hmore⟩
  | case2 cs field rest' hfield =>
    cases h
    obtain ⟨text, rfl, htext⟩ := fieldText_of_readField hfield
    exact ⟨text, rfl, .last htext⟩
  | case3 => cases h

theorem length_lt_of_readRecord {r : List String} (h : readRecord cs = some (r, rest)) :
    rest.length < cs.length := by
  obtain ⟨text, rfl, -⟩ := recordText_of_readRecord h
  rw [List.length_append, List.length_cons]
  omega

/-- Reads a table. -/
def read (cs : List Char) : Option (List (List String)) :=
  match cs with
  | [] => some []
  | c :: cs =>
    match _h : readRecord (c :: cs) with
    | none => none
    | some (r, rest) => (read rest).map (r :: ·)
termination_by cs.length
decreasing_by exact length_lt_of_readRecord _h

/-! ## Reading what is written -/

/-- What follows a field is a comma or a line break. -/
def Ends (rest : List Char) : Prop := ∃ more, rest = ',' :: more ∨ rest = '\n' :: more

theorem Ends.takeWhile_eq (h : Ends rest) : rest.takeWhile (Plain ·) = [] := by
  obtain ⟨more, rfl | rfl⟩ := h <;> rfl

theorem Ends.dropWhile_eq (h : Ends rest) : rest.dropWhile (Plain ·) = rest := by
  obtain ⟨more, rfl | rfl⟩ := h <;> rfl

theorem readDoubled_append (h : Doubled field text) (hrest : Ends rest) :
    readDoubled (text ++ '"' :: rest) = some (field, rest) := by
  induction h with
  | nil => obtain ⟨more, rfl | rfl⟩ := hrest <;> rfl
  | quote _ ih => simp [readDoubled, ih]
  | other hc _ ih => simp [readDoubled, hc, ih]

theorem readField_append {f : String} (h : FieldText f text) (hrest : Ends rest) :
    readField (text ++ rest) = some (f.toList, rest) := by
  cases h with
  | bare hplain =>
    have hpass : ∀ c ∈ f.toList, decide (Plain c) = true := fun c hc => decide_eq_true (hplain c hc)
    have htake : (f.toList ++ rest).takeWhile (Plain ·) = f.toList := by
      rw [List.takeWhile_append_of_pos hpass, hrest.takeWhile_eq, List.append_nil]
    have hdrop : (f.toList ++ rest).dropWhile (Plain ·) = rest := by
      rw [List.dropWhile_append_of_pos hpass, hrest.dropWhile_eq]
    -- A bare field does not begin with a quote, and if it is empty, neither does what follows it.
    have hquote : ∀ cs, f.toList ++ rest ≠ '"' :: cs := by
      intro cs h
      have hempty : f.toList = [] := by
        rw [← htake, h]
        rfl
      rw [hempty] at h
      obtain ⟨more, rfl | rfl⟩ := hrest <;> cases h
    rw [readField, htake, hdrop]
    exact hquote
  | quoted hbody =>
    rw [List.cons_append, List.append_assoc]
    exact readDoubled_append hbody hrest

theorem readRecord_append {r : List String} (h : RecordText r text) (rest : List Char) :
    readRecord (text ++ '\n' :: rest) = some (r, rest) := by
  induction h with
  | last hf =>
    rw [readRecord, readField_append hf ⟨rest, .inr rfl⟩]
    simp
  | @cons f fs text more hf _ ih =>
    have hsplit : text ++ ',' :: more ++ '\n' :: rest = text ++ ',' :: (more ++ '\n' :: rest) := by
      simp
    rw [hsplit, readRecord, readField_append hf ⟨_, .inl rfl⟩]
    simp [ih]

/-- **A text is read as a table if and only if the table can be written so.** -/
theorem read_eq_some_iff {table : List (List String)} :
    read text = some table ↔ TableText table text := by
  constructor
  · intro h
    fun_induction read text generalizing table with
    | case1 =>
      cases h
      exact .nil
    | case2 => cases h
    | case3 c cs r rest hrecord ih =>
      obtain ⟨rs, hread, rfl⟩ := Option.map_eq_some_iff.1 h
      obtain ⟨text, htext, hr⟩ := recordText_of_readRecord hrecord
      rw [htext]
      exact .cons hr (ih hread)
  · intro h
    induction h with
    | nil => rw [read]
    | @cons r rs text more hr _ ih =>
      obtain ⟨c, cs, hcs⟩ : ∃ c cs, text ++ '\n' :: more = c :: cs := by
        cases text <;> exact ⟨_, _, rfl⟩
      have hrecord := readRecord_append hr more
      rw [hcs] at hrecord ⊢
      rw [read, hrecord]
      simp [ih]

/-! ## Reading what is rendered -/

theorem needsQuotes_eq_false_iff : needsQuotes cs = false ↔ ∀ c ∈ cs, Plain c := by
  simp [needsQuotes, Plain, and_assoc]

theorem doubled_flatMap (cs : List Char) :
    Doubled cs (cs.flatMap fun c => if c = '"' then ['"', '"'] else [c]) := by
  induction cs with
  | nil => exact .nil
  | cons c cs ih =>
    by_cases hc : c = '"'
    · subst hc
      exact ih.quote
    · rw [List.flatMap_cons, if_neg hc]
      exact ih.other hc

/-- A field stands between quotes where it could not stand bare. -/
theorem fieldText_field (f : String) : FieldText f (Csv.field f.toList) := by
  cases h : needsQuotes f.toList with
  | false =>
    rw [Csv.field, if_neg (by simp [h])]
    exact .bare (needsQuotes_eq_false_iff.1 h)
  | true =>
    rw [Csv.field, if_pos h]
    exact .quoted (doubled_flatMap _)

theorem recordText_record {r : List String} (h : r ≠ []) : RecordText r (record r) := by
  fun_induction record r with
  | case1 => exact absurd rfl h
  | case2 f => exact .last (fieldText_field f)
  | case3 f fs hfs ih => exact .cons (fieldText_field f) (ih hfs)

/-- **A table that is rendered reads back, whatever its fields hold.** -/
theorem read_render {records : List (List String)} (h : ∀ r ∈ records, r ≠ []) :
    read (render records).toList = some records := by
  rw [read_eq_some_iff, render, String.toList_ofList]
  induction records with
  | nil => exact .nil
  | cons r rs ih =>
    rw [List.forall_mem_cons] at h
    have hline := TableText.cons (recordText_record h.1) (ih h.2)
    rwa [List.flatMap_cons, List.append_assoc]

end Munch.Csv

namespace Munch.Command.System

/-! ## What the program prints -/

/-- The table that a request asks for: the rules with the flags that they have once the names are
ignored, or the segments of the text, or its tokens. -/
inductive Tabulates [Footprint] (s : System) : Request → List (List String) → Prop
  | rules {path : String} {f : RuleFile} (hread : s.Reads (.check path) f) (hvalid : f.Valid) :
      Tabulates s (.check path) <|
        ["priority", "name", "pattern", "ignored"] ::
          (RuleEntry.ignoring f.rules f.ignore).zipIdx.map fun (r, i) =>
            [toString i, r.name, r.pattern, toString r.ignored]
  | segments {t : TokenizeRequest} {f : RuleFile} {tokenizer : Tokenizer}
      {warnings : List Log.Line} {text : String} (hread : s.Reads (.tokenize t) f)
      (hload : Tokenizer.ofRuleFile f = .ok (tokenizer, warnings)) (htext : Holds (s.source t) text)
      (htrace : t.trace = true) :
      Tabulates s (.tokenize t) <|
        ["kind", "name", "text"] :: (tokenizer.trace text.toList).1.map fun segment =>
          [segment.kind.label, segment.name.getD "", segment.text]
  | tokens {t : TokenizeRequest} {f : RuleFile} {tokenizer : Tokenizer}
      {warnings : List Log.Line} {text : String} (hread : s.Reads (.tokenize t) f)
      (hload : Tokenizer.ofRuleFile f = .ok (tokenizer, warnings)) (htext : Holds (s.source t) text)
      (htrace : t.trace = false) :
      Tabulates s (.tokenize t) <|
        ["name", "text"] :: (tokenizer.tokenize text.toList).1.map fun token =>
          [token.name, token.text]

variable {s : System} {r : Request} {style : Style} {table : List (List String)}

theorem Tabulates.ne_nil [Footprint] (h : s.Tabulates r table) :
    ∀ record ∈ table, record ≠ [] := by
  cases h <;> rw [List.forall_mem_cons, List.forall_mem_map] <;> exact ⟨nofun, fun _ _ => nofun⟩

/-- An answer in the style of tables is the table that is asked for. -/
theorem Answers.exists_table [Footprint] {out : String} (hformat : style.format = .csv)
    (h : s.Answers style r out) : ∃ table, s.Tabulates r table ∧ out = Csv.render table := by
  cases h with
  | @listing path f tokenizer warnings hread hload =>
    obtain ⟨hvalid, -, hentries⟩ := Tokenizer.loaded_of_ofRuleFile hload
    refine ⟨_, .rules hread hvalid, ?_⟩
    rw [Listing.render, hformat, ← hentries]
    rfl
  | @report t f tokenizer warnings text hread hload htext =>
    have hreports := reports_report (s := s) (t := t) (Tokenizer.sound_of_ofRuleFile hload) text
    have hrender : (s.report t tokenizer text).render style =
        Csv.render (s.report t tokenizer text).table := by
      rw [RunReport.render, hformat]
    cases htrace : t.trace with
    | true =>
      refine ⟨_, .segments hread hload htext htrace, ?_⟩
      rw [hrender, RunReport.table, hreports.segments, if_pos htrace]
    | false =>
      refine ⟨_, .tokens hread hload htext htrace, ?_⟩
      rw [hrender, RunReport.table, hreports.segments, if_neg (by simp [htrace]), hreports.tokens]

variable {a : Arguments} {environment : String → Option String} {as : List String}

/-- **What the program prints as a table reads back as the header and a record for each item,** and
as no other table, whatever names, patterns and texts hold. -/
theorem program_csv [Footprint] (s : System) (hparse : Arguments.parse environment as = .ok a)
    (hformat : a.style.format = .csv) (hexit : (s.program environment as).code = 0) :
    ∃ table, s.Tabulates a.request table ∧
      Csv.read (s.program environment as).stdout.toList = some table ∧
      ∀ other, Csv.TableText other (s.program environment as).stdout.toList → other = table := by
  obtain ⟨out, hout⟩ := (code_program_eq_zero_iff hparse).1 hexit
  obtain ⟨table, htable, rfl⟩ := hout.exists_table hformat
  have hstdout : (s.program environment as).stdout = Csv.render table := by
    rw [program_of_answers hparse hout]
  have hread := Csv.read_render htable.ne_nil
  rw [hstdout]
  refine ⟨table, htable, hread, fun other hother => ?_⟩
  exact Option.some.inj ((Csv.read_eq_some_iff.2 hother).symm.trans hread)

/-- A rule file whose names hold separators, quotes and line breaks. -/
def quoting : RuleFile where
  rules := [⟨"[a-z]+", "a \"word\", or so", false⟩, ⟨",|\"", "", false⟩, ⟨"\\.", "\n", false⟩]
  ignore := ["\n"]

/-- A system with that rule file, and such a text on the standard input. -/
def quotingFile : System where
  file _ := .ok quoting.render.toUTF8
  input := .ok "ab,\".\r\n".toUTF8
  clock n := n

theorem reads_quotingFile (r : Request) : quotingFile.Reads r (r.adapt quoting) := by
  have hfile : Holds (quotingFile.file r.rules) quoting.render := rfl
  exact .intro hfile (RuleFile.run_render _)

/-- Both tables read back, though names, patterns and the text hold separators and quotes. -/
theorem program_csv_quotingFile :
    (∃ a, Arguments.parse (fun _ => none) ["-f", "csv", "check", "r.json"] = .ok a ∧
      Csv.read (quotingFile.program (fun _ => none)
          ["-f", "csv", "check", "r.json"]).stdout.toList =
        some [["priority", "name", "pattern", "ignored"],
          ["0", "a \"word\", or so", "[a-z]+", "false"], ["1", "", ",|\"", "false"],
          ["2", "\n", "\\.", "true"]]) ∧
    ∃ a, Arguments.parse (fun _ => none) ["-f", "csv", "tokenize", "--trace", "r.json"] = .ok a ∧
      Csv.read (quotingFile.program (fun _ => none)
          ["-f", "csv", "tokenize", "--trace", "r.json"]).stdout.toList =
        some [["kind", "name", "text"], ["token", "a \"word\", or so", "ab"], ["token", "", ","],
          ["token", "", "\""], ["ignored", "\n", "."]] := by
  have hvalid : quoting.Valid := Tokenizer.exists_ofRuleFile_iff.1 (isOk_iff.1 (by decide +kernel))
  obtain ⟨t, -, -, -, hload⟩ := Tokenizer.ofRuleFile_of_valid hvalid
  constructor
  · have hparse : Arguments.parse (fun _ => none) ["-f", "csv", "check", "r.json"] =
        .ok ⟨0, { format := .csv }, .check "r.json"⟩ := by
      decide +kernel
    have hreads := reads_quotingFile (.check "r.json")
    have hexit := (code_program_eq_zero_iff hparse).2 ⟨_, .listing hreads hload⟩
    obtain ⟨table, htable, hread, -⟩ := program_csv quotingFile hparse rfl hexit
    refine ⟨_, hparse, hread.trans ?_⟩
    cases htable with
    | rules hreads' =>
      obtain rfl := hreads'.unique hreads
      decide +kernel
  · let t : TokenizeRequest := { rules := "r.json", trace := true }
    have hparse : Arguments.parse (fun _ => none) ["-f", "csv", "tokenize", "--trace", "r.json"] =
        .ok ⟨0, { format := .csv }, .tokenize t⟩ := by
      decide +kernel
    have hreads := reads_quotingFile (.tokenize t)
    have htext : Holds (quotingFile.source t) "ab,\".\r\n" := rfl
    have hexit := (code_program_eq_zero_iff hparse).2 ⟨_, .report hreads hload htext⟩
    obtain ⟨table, htable, hread, -⟩ := program_csv quotingFile hparse rfl hexit
    refine ⟨_, hparse, hread.trans ?_⟩
    cases htable with
    | tokens _ _ _ htrace => cases htrace
    | @segments _ f tokenizer warnings text hreads' hload' htext' =>
      obtain rfl := hreads'.unique hreads
      obtain rfl := htext'.unique htext
      have hresult : (Tokenizer.ofRuleFile quoting).map
          (fun loaded => (loaded.1.trace "ab,\".\r\n".toList).1) =
          .ok [⟨"ab", "a \"word\", or so", .emitted⟩, ⟨",", "", .emitted⟩, ⟨"\"", "", .emitted⟩,
            ⟨".", "\n", .ignored⟩] := by
        decide +kernel
      have hsegments : (tokenizer.trace "ab,\".\r\n".toList).1 = _ :=
        Except.ok.inj ((congrArg (Except.map _) hload').symm.trans hresult)
      rw [hsegments]
      rfl

end Munch.Command.System
