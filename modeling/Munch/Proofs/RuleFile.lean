import Munch.RuleFile
import Munch.Proofs.Json.Decoder

/-!
# Rule files read back

A rule file is written with all its fields, so what is written never relies on a default. Each type
in it reads back from all written forms of its JSON value.

* `RuleFile.parse_written`: a rule file reads back from all its written forms.
* `RuleFile.parse_render`: the rule file that is written is the one that is read.
-/

namespace Munch

open Json.Decoder

theorem FlushPolicy.decodes (p : FlushPolicy) : Json.Decodes decoder (.string p.name) p :=
  decodes_choice (by cases p <;> decide)

theorem Config.decodes (c : Config) : Json.Decodes decoder c.toJson c := by
  have hfinish : record.finish ⟨c.chunkSize, c.stepSize, c.flushPolicy, c.trimInput⟩ = .ok c := rfl
  refine decodes_record ?_ hfinish
  exact
    .cons rfl rfl (decodes_ofOption (decodes_word64 _ c.chunkSize) _) <|
    .cons rfl rfl (decodes_ofOption (decodes_word64 _ c.stepSize) _) <|
    .cons rfl rfl (decodes_ofOption (FlushPolicy.decodes c.flushPolicy) _) <|
    .cons rfl rfl (decodes_ofOption (decodes_bool c.trimInput) _) (.nil _)

theorem RuleEntry.decodes (r : RuleEntry) : Json.Decodes decoder r.toJson r := by
  have hfinish : record.finish ⟨r.pattern, r.name, r.ignored⟩ = .ok r := rfl
  refine decodes_record ?_ hfinish
  exact
    .cons rfl rfl (decodes_ofOption (decodes_string r.pattern) _) <|
    .cons rfl rfl (decodes_ofOption (decodes_string r.name) _) <|
    .cons rfl rfl (decodes_ofOption (decodes_bool r.ignored) _) (.nil _)

namespace RuleFile

theorem decodes (f : RuleFile) : Json.Decodes decoder f.toJson f := by
  have hrules : List.Forall₂ (Json.Decodes RuleEntry.decoder) (f.rules.map RuleEntry.toJson)
      f.rules := by
    rw [List.forall₂_map_left_iff, List.forall₂_same]
    exact fun r _ => r.decodes
  have hignore : List.Forall₂ (Json.Decodes .string) (f.ignore.map .string) f.ignore := by
    rw [List.forall₂_map_left_iff, List.forall₂_same]
    exact fun s _ => decodes_string s
  have hfinish : record.finish ⟨f.config, f.rules, f.ignore⟩ = .ok f := rfl
  refine decodes_record ?_ hfinish
  exact
    .cons rfl rfl (decodes_ofOption f.config.decodes _) <|
    .cons rfl rfl (decodes_ofOption (decodes_list hrules) _) <|
    .cons rfl rfl (decodes_ofOption (decodes_list hignore) _) (.nil _)

theorem run_render (f : RuleFile) : decoder.run f.render = .ok f :=
  run_eq_ok f.decodes (f.toJson.written_prettyChars 0)

/-- **A rule file reads back from all its written forms.** -/
theorem parse_written {f : RuleFile} {text : List Char} (h : Json.Written f.toJson text) :
    parse (.ofList text) = .ok f := by
  rw [parse, run_eq_ok f.decodes h]

/-- **The rule file that is written is the one that is read,** whether or not it describes a
tokenizer. -/
theorem parse_render (f : RuleFile) : parse f.render = .ok f :=
  parse_written (f.toJson.written_prettyChars 0)

end RuleFile

end Munch
