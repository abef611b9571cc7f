import Munch.Proofs.RuleFile
import Munch.Proofs.RuleKeys
import Munch.Proofs.Tokenizer

/-!
# Writing a tokenizer down and reading it back

A tokenizer is written down as a rule file that holds its configuration and its rules, and nothing
to ignore. To read it back is to add its rules anew, one after the other.

**Theorem (`ofJson_render`).** A reachable tokenizer reads back as it was, unless two of its rules
have the same key; then the first rule whose key an earlier one has is refused.

The rules that are back form a book of their own at any time, which is the one that they make up
(`Rulebook.ofRules`). As a reachable book is made up by its rules too, name index and pattern set
come back with them. A clash is looked for among the rules that are back, so the first repeat is
what stops the reading. There is room for each rule, since there was when it was added first: its
pattern joins the same ones.
-/

namespace Munch

open Pattern (RoomInTurn)

namespace Rulebook

/-- The rule is the first whose key an earlier rule has. -/
def FirstRepeat (rules : List Rule) (r : Rule) : Prop :=
  ∃ pre post, rules = pre ++ r :: post ∧ (pre.Pairwise fun r s => r.key ≠ s.key) ∧
    ∃ s ∈ pre, s.key = r.key

theorem FirstRepeat.not_pairwise {rules : List Rule} {r : Rule} (h : FirstRepeat rules r) :
    ¬rules.Pairwise fun r s => r.key ≠ s.key := by
  obtain ⟨pre, post, rfl, -, s, hs, hkey⟩ := h
  intro hpair
  exact (List.pairwise_append.1 hpair).2.2 s hs r List.mem_cons_self hkey

/-- The entry of a rule adds the rule where there is room, unless its key is taken. -/
theorem add_entry [Footprint] {r : Rule} {rules : Array Rule} (h : r.pattern.Compiled)
    (hroom : (ofRules rules).HasRoom r.pattern) :
    (ofRules rules).add r.entry =
      if (ofRules rules).clashes r then .error (.duplicateRule r.name r.pattern.source)
      else .ok (ofRules (rules.push r)) := by
  have hpush := push_ofRules rules r
  rw [if_pos hroom] at hpush
  rw [add, Rule.toRule_entry h]
  exact hpush

end Rulebook

namespace Tokenizer

open Rulebook

section

variable [Footprint] {t : Tokenizer}

/-- Adding the entries of rules to the book of others gives the book of all, unless one repeats the
key of a rule before it. -/
theorem addAll_entries (c : Config) {pre post : List Rule}
    (hpost : ∀ r ∈ post, r.pattern.Compiled) (hpre : pre.Pairwise fun r s => r.key ≠ s.key)
    (hroom : RoomInTurn ((pre ++ post).map Rule.pattern)) :
    (((pre ++ post).Pairwise fun r s => r.key ≠ s.key) ∧
      addAll ⟨ofRules pre.toArray, c⟩ (post.map Rule.entry) =
        .ok ⟨ofRules (pre ++ post).toArray, c⟩) ∨
    ∃ r, FirstRepeat (pre ++ post) r ∧
      addAll ⟨ofRules pre.toArray, c⟩ (post.map Rule.entry) =
        .error (.duplicateRule r.name r.pattern.source) := by
  induction post generalizing pre with
  | nil =>
    rw [List.append_nil]
    exact .inl ⟨hpre, rfl⟩
  | cons r post ih =>
    obtain ⟨hr, hpost⟩ := List.forall_mem_cons.1 hpost
    have hsplit : pre ++ r :: post = (pre ++ [r]) ++ post := by
      rw [List.append_assoc, List.singleton_append]
    have hlast : (ofRules pre.toArray).HasRoom r.pattern := by
      refine hroom _ ⟨post.map Rule.pattern, ?_⟩ (by simp)
      simp
    rw [List.map_cons, addAll, Tokenizer.add, add_entry hr hlast]
    cases hclash : (ofRules pre.toArray).clashes r with
    | true =>
      refine .inr ⟨r, ⟨pre, post, rfl, hpre, ?_⟩, rfl⟩
      simpa [clashes] using hclash
    | false =>
      have hfresh := clashes_eq_false_iff.1 hclash
      have hpre' : (pre ++ [r]).Pairwise fun r s => r.key ≠ s.key :=
        pairwise_concat_iff.2 ⟨hpre, hfresh⟩
      rw [hsplit] at hroom ⊢
      simpa [bind, Except.bind] using ih hpost hpre' hroom

/-- A text that is written for a reachable tokenizer describes its rules, added to no rules. -/
theorem ofJson_toRuleFile (h : t.Reachable) :
    ofJson t.toRuleFile.render =
      (addAll ⟨ofRules #[], t.config⟩ t.rules.entries).map fun t' => (t', []) := by
  have hparse : RuleFile.parse t.toRuleFile.render = .ok t.toRuleFile :=
    RuleFile.parse_written (Json.Value.written_prettyChars 0 _)
  have hconfig : ofConfig t.toRuleFile.config = .ok ⟨ofRules #[], t.config⟩ := by
    show ofConfig t.config = _
    rw [ofConfig, h.sound.config, ofRules_empty]
  rw [ofJson, hparse]
  show ofRuleFile t.toRuleFile = _
  rw [ofRuleFile, hconfig]
  show (addAll _ t.rules.entries >>= fun t' => .ok (t'.ignoreAll [])) = _
  cases addAll _ t.rules.entries <;> rfl

/-- **A tokenizer reads back if and only if its rules have distinct keys.** It is then the one that
was written; otherwise the first repeat is refused. -/
theorem ofJson_render (h : t.Reachable) :
    (ofJson t.toRuleFile.render = .ok (t, []) ↔ t.rules.Distinct) ∧
    (¬t.rules.Distinct → ∃ r, FirstRepeat t.rules.rules.toList r ∧
      ofJson t.toRuleFile.render = .error (.duplicateRule r.name r.pattern.source)) := by
  have hcompiled : ∀ r ∈ t.rules.rules.toList, r.pattern.Compiled :=
    fun r hr => h.sound.rules.compiled_of_mem (Array.mem_toList_iff.1 hr)
  rw [ofJson_toRuleFile h]
  have hnone : ([] : List Rule).Pairwise fun r s => r.key ≠ s.key := .nil
  rcases addAll_entries t.config hcompiled hnone h.sound.rules.roomInTurn with ⟨hdistinct, hok⟩ | ⟨r, hr, herr⟩
  · have hsame : addAll ⟨ofRules #[], t.config⟩ t.rules.entries = .ok t := by
      refine hok.trans ?_
      rw [List.nil_append, Array.toArray_toList, ← h.sound.rules.eq_ofRules]
    rw [hsame]
    exact ⟨iff_of_true rfl hdistinct, fun hnot => (hnot hdistinct).elim⟩
  · have hrefused : addAll ⟨ofRules #[], t.config⟩ t.rules.entries =
        .error (.duplicateRule r.name r.pattern.source) := herr
    have hnot : ¬t.rules.Distinct := hr.not_pairwise
    rw [hrefused]
    exact ⟨iff_of_false nofun hnot, fun _ => ⟨r, hr, rfl⟩⟩

end

/-- A tokenizer with two ignored rules of one pattern. -/
def merged : Tokenizer := ⟨Rulebook.run merging, {}⟩

theorem reachable_merged : merged.Reachable := reachable_mk (reachable_iff_run.2 ⟨_, rfl⟩) rfl

/-- Rules of one pattern are read back unless both are ignored. -/
theorem ofJson_render_letters :
    letters.Reachable ∧ ofJson letters.toRuleFile.render = .ok (letters, []) ∧
      merged.Reachable ∧
      ofJson merged.toRuleFile.render = .error (.duplicateRule "y" "^a$") := by
  have hletters : letters.rules.Distinct := by decide +kernel
  have hmerged : ¬merged.rules.Distinct := by decide +kernel
  refine ⟨reachable_letters, (ofJson_render reachable_letters).1.2 hletters, reachable_merged, ?_⟩
  obtain ⟨r, ⟨pre, post, hrules, -, s, hs, -⟩, hrefused⟩ :=
    (ofJson_render reachable_merged).2 hmerged
  have hsplit : pre.map Rule.entry ++ r.entry :: post.map Rule.entry =
      [⟨"^a$", "x", true⟩, ⟨"^a$", "y", true⟩] := by
    rw [← List.map_cons, ← List.map_append, ← hrules]
    show merged.rules.entries = _
    decide +kernel
  -- The first rule repeats nothing, so it is the second one that is refused.
  have hentry : r.entry = ⟨"^a$", "y", true⟩ := by
    match pre with
    | [] => cases hs
    | [_] => exact (List.cons.inj (List.cons.inj hsplit).2).1
    | _ :: _ :: _ => simp at hsplit
  obtain ⟨hpattern, hname, -⟩ := RuleEntry.mk.inj hentry
  rw [hrefused, hpattern, hname]

end Tokenizer

end Munch
