import Munch.Proofs.Agreement
import Munch.Proofs.Positions

/-!
# How far a scan reaches

A scan goes over the prefixes of a text, of which those up to a known position are taken to match.

**Theorem (`longestAt?_scans`).** A scan from any position inside a text ends at such a position,
not before the one it started from. The prefixes in between are accepted, and hence matched by some
rule, and the next longer one is not accepted. If the prefixes up to the known position are accepted
as well, then the scan ends where the scan of the whole text ends.

What is said here of being accepted holds of being matched by some rule as well if and only if there
is no text that a probe misses.
-/

namespace Munch

open Text (byteSize splitBytes?)

variable {test : List Char → Bool} {text : List Char} {known stop limit : Nat}

/-! ## Prefixes and positions -/

namespace Text

variable {p q : List Char}

/-- Of two prefixes of a text, the one that is not larger is a prefix of the other. -/
theorem prefix_of_byteSize_le (hp : p <+: text) (hq : q <+: text) (h : byteSize p ≤ byteSize q) :
    p <+: q := by
  rcases List.prefix_or_prefix_of_prefix hp hq with hpq | ⟨rest, rfl⟩
  · exact hpq
  · by_cases hrest : rest = []
    · rw [hrest, List.append_nil]
    · have hpos := byteSize_pos hrest
      rw [byteSize_append] at h
      omega

theorem isValid_iff :
    String.Pos.Raw.IsValid (.ofList text) ⟨stop⟩ ↔ ∃ p, p <+: text ∧ byteSize p = stop := by
  rw [← isSome_splitBytes?_iff, Option.isSome_iff_exists]
  constructor
  · rintro ⟨⟨pre, post⟩, h⟩
    obtain ⟨htext, hsize⟩ := splitBytes?_eq_some_iff.1 h
    exact ⟨pre, ⟨post, htext⟩, hsize⟩
  · rintro ⟨pre, ⟨post, htext⟩, hsize⟩
    exact ⟨(pre, post), splitBytes?_eq_some_iff.2 ⟨htext, hsize⟩⟩

end Text

/-- A scan from the position `known` ends at the position `stop`: the prefixes that end behind
`known` and not behind `stop` pass the test, and the next longer one fails, if there is one. -/
structure RunsTo (test : List Char → Bool) (text : List Char) (known stop : Nat) : Prop where
  isValid : String.Pos.Raw.IsValid (.ofList text) ⟨stop⟩
  known_le : known ≤ stop
  pass : ∀ p, p <+: text → known < byteSize p → byteSize p ≤ stop → test p = true
  fail : stop = byteSize text ∨
    ∃ p c, p ++ [c] <+: text ∧ byteSize p = stop ∧ test (p ++ [c]) = false

namespace Rulebook

variable {b : Rulebook}

/-! ## Where a scan ends -/

/-- What follows the known prefix is divided where the first longer prefix is not accepted. -/
theorem exists_reachFrom (b : Rulebook) (pre cs : List Char) :
    ∃ mid post, mid ++ post = cs ∧
      reachFrom (b.patterns.probe pre) pre.length cs = (pre ++ mid).length ∧
      (∀ p, p <+: mid → p ≠ [] → b.accepts (pre ++ p) = true) ∧
      ∀ c ∈ post.head?, b.accepts (pre ++ mid ++ [c]) = false := by
  induction cs generalizing pre with
  | nil => exact ⟨[], [], rfl, by simp [reachFrom], fun p hp hne => (hne (by simpa using hp)).elim,
      nofun⟩
  | cons c cs ih =>
    simp only [reachFrom, ← PatternSet.probe_concat, accepts_probe]
    split_ifs with hacc
    · obtain ⟨mid, post, rfl, hreach, hpass, hfail⟩ := ih (pre ++ [c])
      rw [List.length_append] at hreach
      refine ⟨c :: mid, post, rfl, by simpa using hreach, fun p hp hne => ?_, by simpa using hfail⟩
      obtain ⟨d, p, rfl⟩ := List.exists_cons_of_ne_nil hne
      obtain ⟨rfl, hp'⟩ := List.cons_prefix_cons.1 hp
      by_cases hnil : p = []
      · rwa [hnil]
      · simpa using hpass p hp' hnil
    · refine ⟨[], c :: cs, rfl, by simp, fun p hp hne => (hne (by simpa using hp)).elim, ?_⟩
      rintro d ⟨⟩
      simpa using hacc

/-- **A scan by positions ends where the run of accepted prefixes ends.** -/
theorem exists_longestAt? (b : Rulebook) (hlimit : byteSize text ≤ limit)
    (hknown : String.Pos.Raw.IsValid (.ofList text) ⟨known⟩) :
    ∃ stop, b.longestAt? limit text known = some stop ∧ RunsTo b.accepts text known stop := by
  obtain ⟨pre, ⟨cs, rfl⟩, rfl⟩ := Text.isValid_iff.1 hknown
  obtain ⟨mid, post, rfl, hreach, hpass, hfail⟩ := b.exists_reachFrom pre cs
  have hlong := b.longestAt?_eq (n := pre.length) (by simp) hlimit
  rw [List.take_left, reach, List.take_left, List.drop_left, hreach, ← List.append_assoc,
    List.take_left, List.append_assoc] at hlong
  refine ⟨_, hlong, ?_, ?_, fun p hp hlt hle => ?_, ?_⟩
  · exact Text.isValid_iff.2 ⟨pre ++ mid, ⟨post, List.append_assoc ..⟩, rfl⟩
  · rw [Text.byteSize_append]
    exact Nat.le_add_right ..
  · have hmid : pre ++ mid <+: pre ++ (mid ++ post) := ⟨post, List.append_assoc ..⟩
    obtain ⟨q, rfl⟩ := Text.prefix_of_byteSize_le (List.prefix_append ..) hp hlt.le
    have hq : q <+: mid :=
      (List.prefix_append_right_inj pre).1 (Text.prefix_of_byteSize_le hp hmid hle)
    refine hpass q hq ?_
    rintro rfl
    simp at hlt
  · cases post with
    | nil => exact .inl (by simp)
    | cons c post => exact .inr ⟨pre ++ mid, c, ⟨post, by simp⟩, rfl, hfail c rfl⟩

/-- **What is known to be accepted need not be scanned again.** -/
theorem longestAt?_eq_zero (b : Rulebook) (hlimit : byteSize text ≤ limit)
    (hknown : String.Pos.Raw.IsValid (.ofList text) ⟨known⟩)
    (hacc : ∀ p, p <+: text → p ≠ [] → byteSize p ≤ known → b.accepts p = true) :
    b.longestAt? limit text known = b.longestAt? limit text 0 := by
  obtain ⟨pre, ⟨cs, rfl⟩, rfl⟩ := Text.isValid_iff.1 hknown
  have hle : pre.length ≤ (pre ++ cs).length := by simp
  have hrun : Unbroken b.accepts ((pre ++ cs).take pre.length) := by
    rw [List.take_left]
    intro p hp hne
    refine hacc p (hp.trans (List.prefix_append ..)) hne ?_
    obtain ⟨rest, rfl⟩ := hp
    rw [Text.byteSize_append]
    exact Nat.le_add_right ..
  have hlong := b.longestAt?_eq hle hlimit
  have hzero := b.longestAt?_eq (Nat.zero_le (pre ++ cs).length) hlimit
  rw [List.take_left, reach_eq hle hrun] at hlong
  rw [List.take_zero, Text.byteSize_nil, reach_zero] at hzero
  rw [hlong, hzero]

/-- The scans of the book, with the test as the measure of what matches: each ends where the run of
matching prefixes ends, and may leave out prefixes that match. -/
structure ScansBy (b : Rulebook) (test : List Char → Bool) : Prop where
  runsTo : ∀ {limit text known}, byteSize text ≤ limit →
    String.Pos.Raw.IsValid (.ofList text) ⟨known⟩ →
      ∃ stop, b.longestAt? limit text known = some stop ∧ RunsTo test text known stop
  resumes : ∀ {limit text known}, byteSize text ≤ limit →
    String.Pos.Raw.IsValid (.ofList text) ⟨known⟩ →
      (∀ p, p <+: text → p ≠ [] → byteSize p ≤ known → test p = true) →
        b.longestAt? limit text known = b.longestAt? limit text 0

theorem scansBy_accepts (b : Rulebook) : b.ScansBy b.accepts :=
  ⟨b.exists_longestAt?, b.longestAt?_eq_zero⟩

/-- A scan from before the last character ends there if the text is not accepted. -/
theorem ScansBy.accepts_of_test (h : b.ScansBy test) (hne : text ≠ []) (htest : test text = true) :
    b.accepts text = true := by
  have htext : text.dropLast ++ [text.getLast hne] = text := List.dropLast_append_getLast hne
  have hsize : byteSize text.dropLast < byteSize text := by
    have hpos := (text.getLast hne).utf8Size_pos
    rw [← congrArg byteSize htext, Text.byteSize_append, Text.byteSize_cons, Text.byteSize_nil]
    omega
  have hprefix : text.dropLast <+: text := List.dropLast_prefix text
  have hvalid : String.Pos.Raw.IsValid (.ofList text) ⟨byteSize text.dropLast⟩ :=
    Text.isValid_iff.2 ⟨_, hprefix, rfl⟩
  obtain ⟨stop, hlong, hruns⟩ := h.runsTo (Nat.le_refl _) hvalid
  obtain ⟨stop', hlong', hruns'⟩ := b.scansBy_accepts.runsTo (Nat.le_refl _) hvalid
  obtain rfl : stop = stop' := Option.some.inj (hlong.symm.trans hlong')
  rcases hruns.fail with rfl | ⟨p, c, hp, rfl, hfail⟩
  · exact hruns'.pass text (List.prefix_refl _) hsize (Nat.le_refl _)
  · -- The prefix that fails is longer than all but the last character, so it is the text.
    have hlt : text.dropLast.length < (p ++ [c]).length := by
      have hle := (Text.prefix_of_byteSize_le hprefix ((List.prefix_append p [c]).trans hp)
        hruns.known_le).length_le
      rw [List.length_append]
      exact Nat.lt_succ_of_le hle
    have hlen : (p ++ [c]).length = text.length := by
      have hle := hp.length_le
      rw [List.length_dropLast] at hlt
      omega
    rw [hp.eq_of_length hlen, htest] at hfail
    cases hfail

/-! ## Main result -/

/-- **A scan ends where the run of accepted prefixes ends, and what is known to be accepted need not
be scanned again.** The measure can be the rules if and only if a probe misses no text. -/
theorem longestAt?_scans [Footprint] (h : b.Reachable) :
    (∀ limit text n, byteSize text ≤ limit → n ≤ text.length →
        b.longestAt? limit text (byteSize (text.take n)) =
          some (byteSize (text.take (b.reach text n)))) ∧
      b.ScansBy b.accepts ∧
      (∀ limit text known stop, byteSize text ≤ limit →
        String.Pos.Raw.IsValid (.ofList text) ⟨known⟩ → b.longestAt? limit text known = some stop →
          ∀ p, p <+: text → known < byteSize p → byteSize p ≤ stop →
            ∃ r ∈ b.rules, r.accepts p = true) ∧
      (b.ScansBy b.fits ↔ ∀ text, ¬b.Misses text) ∧
      ((∀ r ∈ b.rules, r.pattern.regex.nullableInside = false) → ∀ text, ¬b.Misses text) := by
  refine ⟨fun limit text n hlimit hn => b.longestAt?_eq hn hlimit, b.scansBy_accepts, ?_, ?_, ?_⟩
  · intro limit text known stop hlimit hknown hlong p hp hlt hle
    obtain ⟨stop', hlong', hruns⟩ := b.exists_longestAt? hlimit hknown
    obtain rfl : stop = stop' := Option.some.inj (hlong.symm.trans hlong')
    exact h.coherent.exists_accepts_of_accepts (hruns.pass p hp hlt hle)
  · constructor
    · intro hscans text hmiss
      have hne : text ≠ [] := by
        rintro rfl
        obtain ⟨r, hr, hfit⟩ := fits_iff.1 hmiss.fits
        obtain ⟨mid, hmatch⟩ := Regex.occursIn_iff.1 hfit
        obtain ⟨c, hc, -⟩ := hmiss.wide r hr mid hmatch
        obtain ⟨pre, post, htext, -⟩ := hmatch
        simp [List.append_eq_nil_iff.1 (List.append_eq_nil_iff.1 htext).1] at hc
      have hacc := hscans.accepts_of_test hne hmiss.fits
      exact h.coherent.accepts_eq_fits_iff.1 (hacc.trans hmiss.fits.symm) hmiss
    · intro hno
      have hsame : b.accepts = b.fits :=
        funext fun text => h.coherent.accepts_eq_fits_iff.2 (hno text)
      exact hsame ▸ b.scansBy_accepts
  · rintro hin text ⟨-, ⟨r, hr, hsplit⟩, -⟩
    exact Bool.false_ne_true ((hin r hr).symm.trans hsplit)

/-- A book whose rule matches a letter of two bytes any number of times. -/
def accents : Rulebook := Rulebook.empty.offer ⟨"é+", "accents", false⟩

theorem reachable_accents : accents.Reachable := Reachable.empty.offer _

/-- A scan that goes on behind a letter of two bytes and ends behind the next one. -/
theorem longestAt?_accents :
    accents.Reachable ∧ byteSize ['é', 'é', 'a'] = 5 ∧
      accents.longestAt? 5 ['é', 'é', 'a'] 2 = some 4 ∧
      RunsTo accents.accepts ['é', 'é', 'a'] 2 4 ∧
      accents.longestAt? 5 ['é', 'é', 'a'] 2 = accents.longestAt? 5 ['é', 'é', 'a'] 0 ∧
      accents.ScansBy accents.fits := by
  obtain ⟨hreach, hscans, -, hfits, hmiss⟩ := longestAt?_scans reachable_accents
  have hsize : byteSize ['é', 'é', 'a'] = 5 := by decide
  have hprefix : ['é'] <+: ['é', 'é', 'a'] := ⟨['é', 'a'], rfl⟩
  have hvalid : String.Pos.Raw.IsValid (.ofList ['é', 'é', 'a']) ⟨2⟩ :=
    Text.isValid_iff.2 ⟨['é'], hprefix, by decide⟩
  have hlong : accents.longestAt? 5 ['é', 'é', 'a'] 2 = some 4 :=
    (hreach 5 ['é', 'é', 'a'] 1 hsize.le (by decide)).trans (by decide +kernel)
  obtain ⟨stop, hstop, hruns⟩ := hscans.runsTo hsize.le hvalid
  obtain rfl : stop = 4 := Option.some.inj (hstop.symm.trans hlong)
  refine ⟨reachable_accents, hsize, hlong, hruns, hscans.resumes hsize.le hvalid ?_,
    hfits.2 (hmiss (by decide +kernel))⟩
  intro p hp hne hle
  have hle' : byteSize p ≤ byteSize ['é'] := hle
  rcases List.prefix_cons_iff.1 (Text.prefix_of_byteSize_le hp hprefix hle') with rfl | ⟨q, rfl, hq⟩
  · exact (hne rfl).elim
  · rw [List.prefix_nil.1 hq]
    decide +kernel

/-- The scan of the whole text ends before the last character, although a rule matches all of it
and each of its prefixes. A scan that takes them to match ends behind it. -/
theorem longestAt?_inside :
    inside.Reachable ∧ inside.longestAt? 4 ['a', 'é', 'a'] 0 = some 3 ∧
      inside.longestAt? 4 ['a', 'é', 'a'] 4 = some 4 ∧
      (∀ p ∈ [['a'], ['a', 'é'], ['a', 'é', 'a']],
        ∃ r ∈ inside.rules, r.accepts p = true ∧ r.fits p = true) ∧
      ¬inside.ScansBy inside.fits := by
  have hnot : inside.accepts ['a', 'é', 'a'] = false := by decide +kernel
  have hfit : inside.fits ['a', 'é', 'a'] = true := by decide +kernel
  refine ⟨reachable_inside, by decide +kernel, by decide +kernel, by decide +kernel, fun h => ?_⟩
  exact Bool.false_ne_true (hnot.symm.trans (h.accepts_of_test (by simp) hfit))

end Rulebook

end Munch
