import Munch.Command.Run
import Munch.Proofs.Tokenizer

/-!
# Tokens with and without a trace

A tokenizer can be run for its tokens alone or for a trace, and the program for either as well. The
two runs fill different transcripts.

**Theorem (`tokens_trace`).** The tokens of a text are the segments of its trace that are delivered,
under the same names, and the statistics of both runs are the same: they count the segments of each
kind. The program does the same with and without a trace, up to the segments in its report.

Every segment but one that is given up has a name, so no name is made up for a token.
-/

namespace Munch

variable {s : Segment}

/-- A segment with a name is delivered with its own text and name. -/
theorem Segment.token_of_named {name : String} (h : s.name = some name) :
    (s.token.text, some s.token.name) = (s.text, s.name) := by
  rw [token, h]
  rfl

theorem Rulebook.Makes.exists_name {b : Rulebook} (h : b.Makes s) : ∃ name, s.name = some name := by
  cases h with
  | unknown c => exact ⟨unknownName, rfl⟩
  | token _ hs =>
    obtain ⟨r, rfl⟩ := exists_rule_of_token? hs
    exact ⟨r.name, rfl⟩

namespace Tokenizer

variable [Footprint] {t : Tokenizer}

theorem exists_name_of_mem_trace (h : t.Sound) {text : List Char} (hs : s ∈ (t.trace text).1) :
    ∃ name, s.name = some name := by
  rw [trace_fst h] at hs
  exact (Rulebook.makes_of_mem_flatMap_rescanAll hs).exists_name

theorem map_tokens (h : t.Sound) (text : List Char) :
    (t.tokens text).map (fun token => (token.text, some token.name)) =
      ((t.trace text).1.filter Segment.delivers).map fun s => (s.text, s.name) := by
  rw [tokens_eq h, List.map_map]
  refine List.map_congr_left fun s hs => ?_
  obtain ⟨name, hname⟩ := exists_name_of_mem_trace h (List.mem_of_mem_filter hs)
  exact Segment.token_of_named hname

theorem delivered_tokenize (h : t.Sound) (text : List Char) :
    (t.tokenize text).2.delivered = (t.tokens text).length := by
  rw [stats_tokenize h, tokens_eq h, List.length_map, trace_eq h]
  exact Stats.delivered_tally ..

end Tokenizer

/-! ## The program -/

/-- The report without its segments. -/
def RunReport.untraced (r : RunReport) : RunReport := { r with segments := none }

namespace Command

namespace TokenizeRequest

variable [Footprint]

theorem report_trace {tokenizer : Tokenizer} (h : tokenizer.Sound) (t : TokenizeRequest)
    (text : String) :
    { t with trace := false }.report tokenizer text =
      ({ t with trace := true }.report tokenizer text).untraced := by
  unfold report
  rw [Tokenizer.tokenize_eq h]
  rfl

theorem sound_of_tokenizer {t : TokenizeRequest} {content : Except IoError String}
    {tokenizer : Tokenizer} {warnings : List Log.Line}
    (h : t.tokenizer content = .ok (tokenizer, warnings)) : tokenizer.Sound := by
  obtain ⟨f, -, h⟩ := bind_eq_ok.1 h
  exact Tokenizer.sound_of_ofRuleFile h

theorem reported_trace {m : Type → Type} [Monad m] [LawfulMonad m] (t : TokenizeRequest)
    (host : Host m) :
    { t with trace := false }.reported host =
      (fun (log, report) => (log, report.map RunReport.untraced)) <$>
        { t with trace := true }.reported host := by
  -- A trace makes no difference to the tokenizer and to what is read.
  have htokenizer (trace : Bool) : { t with trace }.tokenizer = t.tokenizer := rfl
  have htext (trace : Bool) : { t with trace }.readText host = t.readText host := rfl
  unfold reported
  simp only [map_bind, htokenizer, htext]
  refine bind_congr fun content => ?_
  cases hload : t.tokenizer content with
  | error e => simp [Except.map]
  | ok loaded =>
    simp only [map_bind]
    refine bind_congr fun text => ?_
    cases text with
    | error cause => simp [Except.map]
    | ok text =>
      have hreport := report_trace (sound_of_tokenizer hload) t text
      simp only [map_bind, map_pure, hreport]
      rfl

end TokenizeRequest

end Command

/-! ## Main results -/

namespace Tokenizer

open Command (Host Outcome TokenizeRequest)

variable {t : Tokenizer}

/-- **The tokens of a text are what its trace delivers.** The counters are those of the segments of
the trace, and the program reports the same tokens with and without a trace. -/
theorem tokens_trace [Footprint] (h : t.Reachable) (text : List Char) :
    (t.tokenize text).1 = t.tokens text ∧
      (t.tokens text).map (fun token => (token.text, some token.name)) =
        ((t.trace text).1.filter Segment.delivers).map (fun s => (s.text, s.name)) ∧
      (t.tokenize text).2 = (t.trace text).2 ∧
      (∀ k, (t.tokenize text).2.counter k = (t.trace text).1.countP (·.kind = k)) ∧
      (t.tokenize text).2.delivered = (t.tokens text).length ∧
      ∀ (m : Type → Type) [Monad m] [LawfulMonad m] (request : TokenizeRequest) (style : Style)
          (host : Host m),
        { request with trace := true }.run style host =
            Outcome.ofReport style <$> { request with trace := true }.reported host ∧
          { request with trace := false }.run style host =
            (fun (log, report) => Outcome.ofReport style (log, report.map RunReport.untraced)) <$>
              { request with trace := true }.reported host := by
  refine ⟨rfl, map_tokens h.sound text, stats_tokenize h.sound text, fun k => ?_,
    delivered_tokenize h.sound text, fun m _ _ request style host => ⟨?_, ?_⟩⟩
  · rw [stats_tokenize h.sound, counter_trace h.sound]
  · rfl
  · rw [TokenizeRequest.run, TokenizeRequest.reported_trace, Functor.map_map]

/-- An ignored letter and an unknown one: only the first of them is not delivered. -/
theorem tokens_trace_letters :
    letters.Reachable ∧
      (letters.tokens ['a', 'a', 'b', 'é']).map (fun token => (token.text, some token.name)) =
        [("aa", some "run"), ("é", some "_unknown_")] ∧
      (letters.tokenize ['a', 'a', 'b', 'é']).2 = (letters.trace ['a', 'a', 'b', 'é']).2 ∧
      (letters.tokenize ['a', 'a', 'b', 'é']).2.ignored = 1 ∧
      (letters.tokenize ['a', 'a', 'b', 'é']).2.delivered = 2 := by
  obtain ⟨-, htokens, hstats, hcount, hdelivered, -⟩ :=
    tokens_trace reachable_letters ['a', 'a', 'b', 'é']
  exact ⟨reachable_letters, htokens.trans (by decide +kernel), hstats,
    (hcount .ignored).trans (by decide +kernel), hdelivered.trans (by decide +kernel)⟩

end Tokenizer

end Munch
