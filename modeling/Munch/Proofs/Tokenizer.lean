import Munch.RuleFile
import Munch.Proofs.Lexer

/-!
# What a tokenizer makes of a text

A run hands the text to a lexer in chunks and steps. The steps of a chunk make up the chunk, so only
the flushes show: the run rescans each **part** of the text, which is a chunk if there is a flush
after each, and the whole text otherwise.

**Theorem (`reachable_iff`).** A tokenizer is reachable if its rules are and its configuration is
valid.

**Theorem (`run_eq`).** A run enters the segments of each part in the transcript. So the segments of
a trace make up the text, and none is given up.

**Theorem (`tokenize_eq`).** The tokens of a text are those that the segments of its trace deliver,
and the statistics are the same.
-/

namespace Munch

namespace Tokenizer

section

variable [Footprint] {t t' : Tokenizer}

/-! ## Reachable tokenizers -/

/-- The tokenizers that the operations lead to. -/
inductive Reachable : Tokenizer → Prop
  | new : Reachable {}
  | ofConfig {c : Config} {t : Tokenizer} : Tokenizer.ofConfig c = .ok t → Reachable t
  | ofRuleFile {f : RuleFile} {t : Tokenizer} {lines : List Log.Line} :
      Tokenizer.ofRuleFile f = .ok (t, lines) → Reachable t
  | ofJson {text : String} {t : Tokenizer} {lines : List Log.Line} :
      Tokenizer.ofJson text = .ok (t, lines) → Reachable t
  | ofContent {content : Except IoError String} {t : Tokenizer} {lines : List Log.Line} :
      Tokenizer.ofContent content = .ok (t, lines) → Reachable t
  | add {t t' : Tokenizer} {e : RuleEntry} : Reachable t → t.add e = .ok t' → Reachable t'
  | ignore {t : Tokenizer} (name : String) : Reachable t → Reachable (t.ignore name).1
  | reconfigure {t t' : Tokenizer} {c : Config} :
      Reachable t → t.reconfigure c = .ok t' → Reachable t'

/-- The rules are reachable and the configuration is valid. -/
structure Sound (t : Tokenizer) : Prop where
  rules : t.rules.Reachable
  config : t.config.check = .ok ()

theorem sound_of_ofConfig {c : Config} (h : ofConfig c = .ok t) : t.Sound := by
  unfold ofConfig at h
  split at h
  · rename_i hc
    cases h
    exact ⟨.empty, hc⟩
  · cases h

/-- What the probe accepts, some rule fits. -/
theorem Sound.fits_of_accepts (h : t.Sound) (p : List Char) (hp : t.rules.accepts p = true) :
    t.rules.fits p = true := h.rules.coherent.fits_of_accepts hp

theorem Sound.reconfigure {c : Config} (h : t.Sound) (hr : t.reconfigure c = .ok t') :
    t'.Sound := by
  unfold Tokenizer.reconfigure at hr
  split at hr
  · rename_i hc
    cases hr
    exact ⟨h.rules, hc⟩
  · cases hr

theorem add_eq_ok {e : RuleEntry} :
    t.add e = .ok t' ↔ ∃ b, t.rules.add e = .ok b ∧ { t with rules := b } = t' := by
  unfold add
  rw [bind_eq_ok]
  simp only [Except.ok.injEq]

theorem Sound.add {e : RuleEntry} (h : t.Sound) (ha : t.add e = .ok t') : t'.Sound := by
  obtain ⟨b, hb, rfl⟩ := add_eq_ok.1 ha
  exact ⟨h.rules.add hb, h.config⟩

theorem Sound.ignore (h : t.Sound) (name : String) : (t.ignore name).1.Sound :=
  ⟨h.rules.ignore name, h.config⟩

theorem Sound.addAll {es : List RuleEntry} (h : t.Sound) (ha : t.addAll es = .ok t') :
    t'.Sound := by
  induction es generalizing t with
  | nil =>
    cases ha
    exact h
  | cons e es ih =>
    obtain ⟨t₁, hadd, ha⟩ := bind_eq_ok.1 ha
    exact ih (h.add hadd) ha

theorem Sound.ignoreAll (h : t.Sound) (names : List String) : (t.ignoreAll names).1.Sound := by
  induction names generalizing t with
  | nil => exact h
  | cons name names ih => exact ih (h.ignore name)

theorem sound_of_ofRuleFile {f : RuleFile} {lines : List Log.Line}
    (h : ofRuleFile f = .ok (t, lines)) : t.Sound := by
  obtain ⟨t₁, hconfig, h⟩ := bind_eq_ok.1 h
  obtain ⟨t₂, hadd, h⟩ := bind_eq_ok.1 h
  have hsound := ((sound_of_ofConfig hconfig).addAll hadd).ignoreAll f.ignore
  rwa [Except.ok.inj h] at hsound

theorem Reachable.sound (h : t.Reachable) : t.Sound := by
  induction h with
  | new => exact ⟨.empty, rfl⟩
  | ofConfig h => exact sound_of_ofConfig h
  | ofRuleFile h => exact sound_of_ofRuleFile h
  | ofJson h =>
    obtain ⟨f, -, h⟩ := bind_eq_ok.1 h
    exact sound_of_ofRuleFile h
  | ofContent h =>
    obtain ⟨f, -, h⟩ := bind_eq_ok.1 h
    exact sound_of_ofRuleFile h
  | add _ ha ih => exact ih.add ha
  | ignore name _ ih => exact ih.ignore name
  | reconfigure _ hr ih => exact ih.reconfigure hr

theorem reachable_mk {b : Rulebook} {c : Config} (hb : b.Reachable) (hc : c.check = .ok ()) :
    Reachable ⟨b, c⟩ := by
  induction hb with
  | empty => exact .ofConfig (by rw [ofConfig, hc])
  | add _ hadd ih => exact ih.add (add_eq_ok.2 ⟨_, hadd, rfl⟩)
  | ignore name _ ih => exact ih.ignore name

/-- **A tokenizer is reachable if its rules are and its configuration is valid.** -/
theorem reachable_iff : t.Reachable ↔ t.rules.Reachable ∧ t.config.check = .ok () :=
  ⟨fun h => ⟨h.sound.rules, h.sound.config⟩, fun h => reachable_mk h.1 h.2⟩

/-! ## Parts of a text -/

theorem Sound.stepSize_pos (h : t.Sound) : 0 < t.config.stepSize.toNat :=
  UInt64.le_iff_toNat_le.1 (Config.check_eq_ok_iff.1 h.config).1

theorem Sound.chunkSize_pos (h : t.Sound) : 0 < t.config.chunkSize.toNat :=
  Nat.lt_of_lt_of_le h.stepSize_pos
    (UInt64.le_iff_toNat_le.1 (Config.check_eq_ok_iff.1 h.config).2)

theorem flatten_chunks (h : t.Sound) (text : List Char) :
    (t.chunks text).flatten = t.config.streamed text := BlockStream.flatten_toList h.chunkSize_pos

theorem flatten_steps (h : t.Sound) (chunk : List Char) : (t.steps chunk).flatten = chunk :=
  BlockStream.flatten_toList h.stepSize_pos

/-- The pieces of a text between the flushes of a run. -/
def parts (t : Tokenizer) (text : List Char) : List (List Char) :=
  match t.config.flushPolicy with
  | .perChunk => t.chunks text
  | .endOfStream => [t.config.streamed text]

theorem flatten_parts (h : t.Sound) (text : List Char) :
    (t.parts text).flatten = t.config.streamed text := by
  unfold parts
  cases t.config.flushPolicy with
  | perChunk => exact flatten_chunks h text
  | endOfStream => exact List.append_nil _

/-- The segments that rescanning makes of the parts of a text. -/
def rescan (t : Tokenizer) (test : List Char → Bool) (text : List Char) : List Segment :=
  (t.parts text).flatMap (t.rules.rescanAll test)

/-! ## Runs -/

section

open Lexer (after)

variable (out : Transcript) (done : List Segment) (last : List Char)

theorem foldl_read_after (h : t.Sound) (steps : List (List Char)) :
    steps.foldl (fun s step => s.1.read t.rules step s.2) (after t.rules out done last) =
      after t.rules out done (last ++ steps.flatten) := by
  induction steps generalizing last with
  | nil => rw [List.flatten_nil, List.append_nil]; rfl
  | cons step steps ih =>
    rw [List.foldl_cons, Lexer.read_after h.rules.coherent, ih, List.flatten_cons,
      List.append_assoc]

theorem runChunk_perChunk (h : t.Sound) (hp : t.config.flushPolicy = .perChunk)
    (chunk : List Char) :
    t.runChunk (after t.rules out done last) chunk =
      after t.rules out.addChunk
        (done ++ t.rules.rescanAll t.rules.accepts (last ++ chunk)) [] := by
  have hsteps := foldl_read_after out.addChunk done last h (t.steps chunk)
  rw [flatten_steps h, ← Lexer.addChunk_after] at hsteps
  unfold runChunk
  rw [hp, ← Lexer.flush_after h.rules.coherent, ← hsteps]

theorem runChunk_endOfStream (h : t.Sound) (hp : t.config.flushPolicy = .endOfStream)
    (chunk : List Char) :
    t.runChunk (after t.rules out done last) chunk =
      after t.rules out.addChunk done (last ++ chunk) := by
  have hsteps := foldl_read_after out.addChunk done last h (t.steps chunk)
  rw [flatten_steps h, ← Lexer.addChunk_after] at hsteps
  unfold runChunk
  rw [hp, ← hsteps]

theorem foldl_runChunk_perChunk (h : t.Sound) (hp : t.config.flushPolicy = .perChunk)
    (chunks : List (List Char)) :
    chunks.foldl t.runChunk (after t.rules out done []) =
      after t.rules (out.addChunks chunks.length)
        (done ++ chunks.flatMap (t.rules.rescanAll t.rules.accepts)) [] := by
  induction chunks generalizing out done with
  | nil => rw [List.flatMap_nil, List.append_nil]; rfl
  | cons chunk chunks ih =>
    rw [List.foldl_cons, runChunk_perChunk out done [] h hp, ih, List.nil_append,
      List.flatMap_cons, List.append_assoc, Transcript.addChunks_addChunk]
    rfl

theorem foldl_runChunk_endOfStream (h : t.Sound) (hp : t.config.flushPolicy = .endOfStream)
    (chunks : List (List Char)) :
    chunks.foldl t.runChunk (after t.rules out done last) =
      after t.rules (out.addChunks chunks.length) done (last ++ chunks.flatten) := by
  induction chunks generalizing out last with
  | nil => rw [List.flatten_nil, List.append_nil]; rfl
  | cons chunk chunks ih =>
    rw [List.foldl_cons, runChunk_endOfStream out done last h hp, ih, List.flatten_cons,
      List.append_assoc, Transcript.addChunks_addChunk]
    rfl

end

/-- **A run enters the segments of each part.** -/
theorem run_eq (h : t.Sound) (text : List Char) (out : Transcript) :
    t.run text out =
      (out.addChunks (t.chunks text).length).addAll (t.rescan t.rules.accepts text) := by
  have hrun : t.run text out = (((t.chunks text).foldl t.runChunk ({}, out)).1.flush t.rules
      ((t.chunks text).foldl t.runChunk ({}, out)).2).2 := rfl
  rw [hrun, ← Lexer.after_nil t.rules out]
  cases hp : t.config.flushPolicy with
  | perChunk =>
    rw [foldl_runChunk_perChunk out [] h hp, Lexer.flush_after h.rules.coherent]
    simp [Lexer.after, rescan, parts, hp, Rulebook.rescanAll, Rulebook.rescan]
  | endOfStream =>
    rw [foldl_runChunk_endOfStream out [] [] h hp, Lexer.flush_after h.rules.coherent]
    simp [Lexer.after, rescan, parts, hp, Rulebook.rescan, flatten_chunks h]

theorem trace_fst (h : t.Sound) (text : List Char) :
    (t.trace text).1 = t.rescan t.rules.accepts text := by
  show (t.run text .full).segments.toList = _
  rw [run_eq h]
  exact Transcript.segments_addAll rfl _

theorem trace_snd (h : t.Sound) (text : List Char) :
    (t.trace text).2 = ((Transcript.full.addChunks (t.chunks text).length).addAll
      (t.rescan t.rules.accepts text)).stats := by
  show (t.run text .full).stats = _
  rw [run_eq h]

theorem trace_eq (h : t.Sound) (text : List Char) :
    t.trace text = (t.rescan t.rules.accepts text,
      .tally (t.chunks text).length (t.rescan t.rules.accepts text)) := by
  refine Prod.ext (trace_fst h text) ?_
  rw [trace_snd h]
  exact Transcript.stats_addAll rfl ..

/-- The tokens of a text are those that the segments of its trace deliver. -/
theorem tokenize_eq (h : t.Sound) (text : List Char) :
    t.tokenize text =
      (((t.trace text).1.filter Segment.delivers).map Segment.token, (t.trace text).2) := by
  show ((t.run text .plain).tokens.toList, (t.run text .plain).stats) = _
  rw [trace_eq h, run_eq h, Transcript.tokens_addAll, Transcript.stats_addAll rfl]
  rfl

theorem tokens_eq (h : t.Sound) (text : List Char) :
    t.tokens text = ((t.trace text).1.filter Segment.delivers).map Segment.token :=
  congrArg Prod.fst (tokenize_eq h text)

theorem stats_tokenize (h : t.Sound) (text : List Char) :
    (t.tokenize text).2 = (t.trace text).2 := congrArg Prod.snd (tokenize_eq h text)

/-- The statistics of a trace count its segments. -/
theorem counter_trace (h : t.Sound) (text : List Char) (k : Resolution) :
    (t.trace text).2.counter k = (t.trace text).1.countP (·.kind = k) := by
  rw [trace_eq h]
  exact Stats.counter_tally ..

/-! ## Coverage -/

/-- **The segments of a trace make up the text.** No segment is empty, and none is given up. -/
theorem trace_covers (h : t.Reachable) (text : List Char) :
    (t.trace text).1.flatMap Segment.chars = t.config.streamed text ∧
      (∀ s ∈ (t.trace text).1, s.text ≠ "" ∧ s.kind ≠ .dropped) ∧
      (t.trace text).2.dropped = 0 := by
  have hfit : ∀ p, t.rules.accepts p = true → t.rules.fits p = true :=
    fun _ => h.sound.rules.coherent.fits_of_accepts
  have hmem : ∀ s ∈ t.rescan t.rules.accepts text, t.rules.Makes s :=
    fun _ hs => Rulebook.makes_of_mem_flatMap_rescanAll hs
  rw [trace_fst h.sound, trace_snd h.sound]
  refine ⟨?_, fun s hs => ?_, Transcript.dropped_addAll fun s hs => (hmem s hs).kind_ne_dropped⟩
  · rw [rescan, Rulebook.chars_flatMap_rescanAll hfit, flatten_parts h.sound]
  · refine ⟨?_, (hmem s hs).kind_ne_dropped⟩
    intro ht
    exact (hmem s hs).chars_ne_nil (by rw [Segment.chars, ht]; rfl)

end

/-- A tokenizer that cuts a text after every second character. -/
def letters : Tokenizer := ⟨.letters, { chunkSize := 2, stepSize := 1 }⟩

theorem reachable_letters : letters.Reachable := reachable_mk Rulebook.reachable_letters rfl

/-- A chunk ends inside a run of one letter, and the blanks around the text are removed. -/
theorem trace_covers_letters :
    letters.Reachable ∧
      (letters.trace [' ', 'a', 'a', 'a', 'é', '\n']).1.flatMap Segment.chars =
        ['a', 'a', 'a', 'é'] ∧
      (∀ s ∈ (letters.trace [' ', 'a', 'a', 'a', 'é', '\n']).1, s.text ≠ "" ∧ s.kind ≠ .dropped) ∧
      (letters.trace [' ', 'a', 'a', 'a', 'é', '\n']).2.dropped = 0 := by
  obtain ⟨hchars, hkind, hdropped⟩ :=
    trace_covers reachable_letters [' ', 'a', 'a', 'a', 'é', '\n']
  exact ⟨reachable_letters, hchars.trans (by decide +kernel), hkind, hdropped⟩

end Tokenizer

end Munch
