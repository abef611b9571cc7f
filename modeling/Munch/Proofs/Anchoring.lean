import Munch.Proofs.Pattern.Enclosing
import Munch.Proofs.Agreement
import Munch.Proofs.RuleIndex

/-!
# Rules match whole texts

A rule searches a text for its pattern between anchors. This finds the same as matching the text
from end to end with the pattern as it is written, provided that this has a meaning of its own.

**Theorem (`RuleEntry.whole_of_toRule`).** A rule whose pattern has a meaning of its own matches the
texts that its pattern matches from end to end, with nothing around them.

**Theorem (`RuleEntry.exists_whole_iff`).** A pattern that makes a rule has a meaning of its own
unless it closes a group that it did not open. The anchors then belong to different branches of it
or to none, as in `a)|(?:b`, and the rule may match inside a text.
-/

namespace Munch

variable {q : Regex} {pre mid post text : List Char}

/-! ## Between the ends of a text -/

/-- The regex between the ends of the text. -/
def Regex.whole (q : Regex) : Regex := .seqAll [.look .textStart, q, .look .textEnd]

namespace Regex

theorem Ordered.whole (h : q.Ordered) : q.whole.Ordered := ⟨trivial, h, trivial⟩

theorem nullableInside_whole (q : Regex) : q.whole.nullableInside = false := rfl

theorem matches_whole_iff :
    q.whole.Matches pre mid post ↔ pre = [] ∧ post = [] ∧ q.Matches [] mid [] := by
  constructor
  · rintro ⟨_, v, rfl, ⟨rfl, hstart⟩, u, _, rfl, hq, rfl, hend⟩
    obtain rfl : pre = [] := by simpa [Assertion.holds] using hstart
    obtain rfl : post = [] := by simpa [Assertion.holds] using hend
    exact ⟨rfl, rfl, by simpa using hq⟩
  · rintro ⟨rfl, rfl, hq⟩
    refine ⟨[], mid, rfl, ⟨rfl, rfl⟩, mid, [], by simp, ?_, rfl, rfl⟩
    simpa using hq

theorem matchIn_whole_iff (h : q.Ordered) :
    q.whole.MatchIn mid text ↔ mid = text ∧ q.Matches [] mid [] := by
  rw [matchIn_iff h.whole]
  constructor
  · rintro ⟨pre, post, rfl, hmatch⟩
    obtain ⟨rfl, rfl, hq⟩ := matches_whole_iff.1 hmatch
    exact ⟨by simp, hq⟩
  · rintro ⟨rfl, hq⟩
    exact ⟨[], [], by simp, matches_whole_iff.2 ⟨rfl, rfl, hq⟩⟩

end Regex

/-- A pattern whose regex lies between the ends of a text matches as the regex between them does. -/
theorem Pattern.accepts_iff_of_whole {p : Pattern} (hp : p.regex = q.whole) (hq : q.Ordered) :
    p.accepts text = true ↔ q.Matches [] text [] := by
  have hin : p.regex.nullableInside = false := by rw [hp, Regex.nullableInside_whole]
  rw [accepts_eq_occursIn hin, hp, Regex.occursIn_iff]
  simp only [Regex.matchIn_whole_iff hq, exists_eq_left]

/-! ## Rules -/

/-- The rule searches for `q` between the ends of a text, and so it matches the texts that `q`
matches with nothing around them. -/
structure Rule.Whole (r : Rule) (q : Regex) : Prop where
  regex : r.pattern.regex = q.whole
  accepts_iff (text : List Char) : r.accepts text = true ↔ q.Matches [] text []

theorem RuleEntry.compile_anchored_of_toRule [Footprint] {e : RuleEntry} {r : Rule}
    (h : e.toRule = .ok r) :
    Pattern.compile (Pattern.anchored e.pattern) = .ok r.pattern.regex := by
  obtain ⟨rfl, hcompiled⟩ := toRule_eq_ok h
  exact (Pattern.ofSource_eq_ok.1 hcompiled).1

theorem RuleEntry.whole_or_unopened [Footprint] {e : RuleEntry} {r : Rule}
    (h : e.toRule = .ok r) :
    (∃ q, Pattern.compile e.pattern.toList = .ok q ∧ r.Whole q) ∨
      Pattern.compile e.pattern.toList = .error .groupUnopened := by
  rcases Pattern.compile_anchored (compile_anchored_of_toRule h) with ⟨q, hq, hregex⟩ | hunopened
  · have hordered := Pattern.ordered_of_compile hq
    exact .inl ⟨q, hq, hregex, fun _ => Pattern.accepts_iff_of_whole hregex hordered⟩
  · exact .inr hunopened

/-- **A rule whose pattern has a meaning of its own matches whole texts.** -/
theorem RuleEntry.whole_of_toRule [Footprint] {e : RuleEntry} {r : Rule}
    (hq : Pattern.compile e.pattern.toList = .ok q) (hr : e.toRule = .ok r) : r.Whole q := by
  rcases whole_or_unopened hr with ⟨q', hq', hwhole⟩ | hunopened
  · obtain rfl := Except.ok.inj (hq.symm.trans hq')
    exact hwhole
  · cases hq.symm.trans hunopened

/-- A rule with a flag, an alternation and anchors of its own. -/
def RuleEntry.lines : RuleEntry := ⟨"(?m)^a|b+$", "line", false⟩

theorem RuleEntry.whole_lines : ∃ q r, Pattern.compile lines.pattern.toList = .ok q ∧
    lines.toRule = .ok r ∧ r.Whole q ∧ r.accepts "bb".toList = true ∧
      r.accepts "a\nb".toList = false := by
  obtain ⟨q, hq⟩ := isOk_iff.1
    (by decide +kernel : (Pattern.compile lines.pattern.toList).isOk = true)
  obtain ⟨r, hr⟩ := isOk_iff.1 (by decide +kernel : lines.toRule.isOk = true)
  have hmatch : lines.toRule.map (fun r => (r.accepts "bb".toList, r.accepts "a\nb".toList)) =
      .ok (true, false) := by decide +kernel
  rw [hr] at hmatch
  obtain ⟨hwhole, hpart⟩ := Prod.mk.inj (Except.ok.inj hmatch)
  exact ⟨q, r, hq, hr, whole_of_toRule hq hr, hwhole, hpart⟩

/-- **A pattern that makes a rule has a meaning of its own, unless it closes a group that it did not
open.** -/
theorem RuleEntry.exists_whole_iff [Footprint] {e : RuleEntry} {r : Rule} (hr : e.toRule = .ok r) :
    (∃ q, Pattern.compile e.pattern.toList = .ok q ∧ r.Whole q) ↔
      Pattern.compile e.pattern.toList ≠ .error .groupUnopened := by
  constructor
  · rintro ⟨q, hq, -⟩ hunopened
    cases hq.symm.trans hunopened
  · exact fun hopened => (whole_or_unopened hr).resolve_right hopened

theorem RuleEntry.exists_whole_lines :
    ∃ q r, Pattern.compile lines.pattern.toList = .ok q ∧ lines.toRule = .ok r ∧ r.Whole q := by
  have hopened : Pattern.compile lines.pattern.toList ≠ .error .groupUnopened := by decide +kernel
  obtain ⟨r, hr⟩ := isOk_iff.1 (by decide +kernel : lines.toRule.isOk = true)
  obtain ⟨q, hq, hwhole⟩ := (exists_whole_iff hr).2 hopened
  exact ⟨q, r, hq, hr, hwhole⟩

/-- A pattern without a meaning of its own, whose rule matches inside a text. -/
theorem RuleEntry.exists_rule_of_unopened : ∃ r,
    RuleEntry.toRule ⟨"a)|(?:b", "split", false⟩ = .ok r ∧
      Pattern.compile "a)|(?:b".toList = .error .groupUnopened ∧
        r.accepts "ax".toList = true := by
  obtain ⟨r, hr⟩ := isOk_iff.1
    (by decide +kernel : (RuleEntry.toRule ⟨"a)|(?:b", "split", false⟩).isOk = true)
  have hmatch : (RuleEntry.toRule ⟨"a)|(?:b", "split", false⟩).map
      (fun r => r.accepts "ax".toList) = .ok true := by decide +kernel
  rw [hr] at hmatch
  exact ⟨r, hr, by decide +kernel, Except.ok.inj hmatch⟩

end Munch
