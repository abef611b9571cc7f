import Munch.Proofs.Rulebook
import Munch.Proofs.Transcript

/-!
# Tokens by rescanning

A text can be cut into tokens without any state: test its prefixes of length 1, 2, 3, … until one
fails, make a token of the longest one before it, and begin again behind the token. A character that
fails alone is unknown. What passes up to the end of the text is **held**, because more text could
still extend it.

**Theorem (`rescan_append`).** More text never changes the tokens found; to go on, rescan from the
start of what is held.

**Theorem (`chars_rescan`).** The tokens and what is held make up the text, if a rule fits every
text that passes the test.

A text is **unbroken** if all its prefixes pass, and a rulebook is **thorough** if its probe accepts
the texts that are unbroken for its rules. Then it does not matter which of the two is the test.
-/

namespace Munch

variable {test test' : List Char → Bool} {text rest : List Char} {n : Nat}

/-! ## Runs of prefixes -/

/-- How many of the lengths 1, 2, 3, … in a row are those of prefixes that pass the test. -/
def prefixRun (test : List Char → Bool) (text : List Char) : Nat :=
  (List.range text.length).findIdx fun n => !test (text.take (n + 1))

/-- Every prefix of the text but the empty one passes the test. -/
def Unbroken (test : List Char → Bool) (text : List Char) : Prop :=
  ∀ p, p <+: text → p ≠ [] → test p = true

theorem Unbroken.of_prefix {p : List Char} (h : Unbroken test text) (hp : p <+: text) :
    Unbroken test p := fun q hq => h q (hq.trans hp)

theorem Unbroken.self (h : Unbroken test text) (hne : text ≠ []) : test text = true :=
  h text (List.prefix_refl text) hne

theorem unbroken_nil : Unbroken test [] := fun _ hp hne => (hne (List.prefix_nil.1 hp)).elim

theorem Unbroken.take_succ (h : Unbroken test (text.take n)) {k : Nat} (hk : k < n)
    (hk' : k < text.length) : test (text.take (k + 1)) = true := by
  refine h _ ?_ (List.ne_nil_of_length_pos (by rw [List.length_take]; omega))
  rw [List.prefix_take_iff, List.length_take]
  exact ⟨List.take_prefix .., by omega⟩

theorem unbroken_take_succ (h : Unbroken test (text.take n))
    (ht : test (text.take (n + 1)) = true) : Unbroken test (text.take (n + 1)) := by
  intro p hp hne
  by_cases hlen : p.length ≤ n
  · refine h p ?_ hne
    rw [List.prefix_take_iff] at hp ⊢
    exact ⟨hp.1, hlen⟩
  · have hlen' : p.length = (text.take (n + 1)).length := by
      have hle := hp.length_le
      rw [List.length_take] at hle ⊢
      omega
    rw [hp.eq_of_length hlen']
    exact ht

theorem prefixRun_le_length (test : List Char → Bool) (text : List Char) :
    prefixRun test text ≤ text.length := by
  calc prefixRun test text ≤ (List.range text.length).length := List.findIdx_le_length
    _ = text.length := List.length_range

theorem test_of_lt_prefixRun (h : n < prefixRun test text) : test (text.take (n + 1)) = true := by
  have hpass := List.not_of_lt_findIdx h
  simpa using hpass

/-- The run of prefixes is unbroken. -/
theorem unbroken_take_prefixRun (test : List Char → Bool) (text : List Char) :
    Unbroken test (text.take (prefixRun test text)) := by
  have hrun : ∀ n ≤ prefixRun test text, Unbroken test (text.take n) := by
    intro n
    induction n with
    | zero => exact fun _ => unbroken_nil
    | succ n ih => exact fun hn => unbroken_take_succ (ih (by omega)) (test_of_lt_prefixRun hn)
  exact hrun _ (Nat.le_refl _)

/-- The run of prefixes ends where one fails. -/
theorem test_take_prefixRun_succ (h : prefixRun test text < text.length) :
    test (text.take (prefixRun test text + 1)) = false := by
  have hlt : prefixRun test text < (List.range text.length).length := by
    rwa [List.length_range]
  have hfail : (!test (text.take ((List.range text.length)[prefixRun test text] + 1))) = true :=
    List.findIdx_getElem (w := hlt)
  rwa [List.getElem_range, Bool.not_eq_true'] at hfail

theorem test_of_prefixRun_eq_zero {c : Char} {cs : List Char}
    (h : prefixRun test (c :: cs) = 0) : test [c] = false := by
  have hlt : prefixRun test (c :: cs) < (c :: cs).length := by
    rw [h]
    exact Nat.succ_pos _
  have hfail := test_take_prefixRun_succ hlt
  rwa [h] at hfail

theorem test_take_prefixRun (h : prefixRun test text ≠ 0) :
    test (text.take (prefixRun test text)) = true := by
  obtain ⟨n, hn⟩ := Nat.exists_eq_succ_of_ne_zero h
  rw [hn]
  exact test_of_lt_prefixRun (by omega)

theorem prefixRun_eq (hn : n ≤ text.length) (hrun : Unbroken test (text.take n))
    (hend : n < text.length → test (text.take (n + 1)) = false) : prefixRun test text = n := by
  have hle := prefixRun_le_length test text
  rcases Nat.lt_trichotomy (prefixRun test text) n with hlt | heq | hgt
  · have hfail := test_take_prefixRun_succ (Nat.lt_of_lt_of_le hlt hn)
    rw [hrun.take_succ hlt (by omega)] at hfail
    cases hfail
  · exact heq
  · have hpass := test_of_lt_prefixRun hgt
    rw [hend (by omega)] at hpass
    cases hpass

theorem prefixRun_eq_length_iff : prefixRun test text = text.length ↔ Unbroken test text := by
  constructor
  · intro h
    have hrun := unbroken_take_prefixRun test text
    rwa [h, List.take_length] at hrun
  · intro h
    refine prefixRun_eq (Nat.le_refl _) ?_ fun hlt => (Nat.lt_irrefl _ hlt).elim
    rwa [List.take_length]

/-- A run that has ended goes no further with more text. -/
theorem prefixRun_append (h : prefixRun test text < text.length) :
    prefixRun test (text ++ rest) = prefixRun test text := by
  refine prefixRun_eq ?_ ?_ fun _ => ?_
  · rw [List.length_append]
    omega
  · rw [List.take_append_of_le_length (Nat.le_of_lt h)]
    exact unbroken_take_prefixRun test text
  · rw [List.take_append_of_le_length h]
    exact test_take_prefixRun_succ h

/-- A run that has not ended does not end before more text. -/
theorem length_le_prefixRun_append (h : Unbroken test text) (rest : List Char) :
    text.length ≤ prefixRun test (text ++ rest) := by
  by_contra hlt
  rw [Nat.not_le] at hlt
  have hend : prefixRun test (text ++ rest) < (text ++ rest).length := by
    rw [List.length_append]
    omega
  have hfail := test_take_prefixRun_succ hend
  rw [List.take_append_of_le_length hlt, (h.of_prefix (List.take_prefix ..)).self] at hfail
  · cases hfail
  · exact List.ne_nil_of_length_pos (by rw [List.length_take]; omega)

theorem prefixRun_congr (h : ∀ text, Unbroken test text ↔ Unbroken test' text) (text : List Char) :
    prefixRun test text = prefixRun test' text := by
  symm
  have hrun := (h _).1 (unbroken_take_prefixRun test text)
  refine prefixRun_eq (prefixRun_le_length ..) hrun fun hlt => ?_
  have hfail := test_take_prefixRun_succ hlt
  by_contra hpass
  rw [Bool.not_eq_false] at hpass
  have hne : text.take (prefixRun test text + 1) ≠ [] :=
    List.ne_nil_of_length_pos (by rw [List.length_take]; omega)
  rw [((h _).2 (unbroken_take_succ hrun hpass)).self hne] at hfail
  cases hfail

/-! ## Rescanning -/

namespace Rulebook

variable {b : Rulebook}

/-- The token of a text under the first rule that fits it. -/
def token? (b : Rulebook) (text : List Char) : Option Segment :=
  (b.rules.toList.find? (·.fits text)).map (·.segment text)

/-- The tokens that a text begins with whatever comes after it, and the text that is held. -/
def rescan (b : Rulebook) (test : List Char → Bool) (text : List Char) :
    List Segment × List Char :=
  match text with
  | [] => ([], [])
  | c :: cs =>
    let n := prefixRun test (c :: cs)
    if n = 0 then
      (.unknown c :: (b.rescan test cs).1, (b.rescan test cs).2)
    else if n = cs.length + 1 then ([], c :: cs)
    else
      ((b.token? ((c :: cs).take n)).toList ++ (b.rescan test ((c :: cs).drop n)).1,
        (b.rescan test ((c :: cs).drop n)).2)
termination_by text.length
decreasing_by all_goals (simp only [List.length_cons, List.length_drop]; omega)

/-- What is held becomes a token at the end of a text. -/
def rescanAll (b : Rulebook) (test : List Char → Bool) (text : List Char) : List Segment :=
  (b.rescan test text).1 ++
    if (b.rescan test text).2 = [] then [] else (b.token? (b.rescan test text).2).toList

theorem rescan_cons_of_eq_zero {c : Char} {cs : List Char} (h : prefixRun test (c :: cs) = 0) :
    b.rescan test (c :: cs) = (.unknown c :: (b.rescan test cs).1, (b.rescan test cs).2) := by
  rw [rescan]
  simp only [h, if_true]

theorem rescan_of_unbroken (h : Unbroken test text) : b.rescan test text = ([], text) := by
  cases text with
  | nil => rw [rescan]
  | cons c cs =>
    rw [rescan]
    simp [prefixRun_eq_length_iff.2 h]

theorem rescan_of_lt (h₀ : prefixRun test text ≠ 0) (h : prefixRun test text < text.length) :
    b.rescan test text =
      ((b.token? (text.take (prefixRun test text))).toList ++
          (b.rescan test (text.drop (prefixRun test text))).1,
        (b.rescan test (text.drop (prefixRun test text))).2) := by
  cases text with
  | nil => exact (Nat.not_lt_zero _ h).elim
  | cons c cs =>
    rw [rescan]
    rw [List.length_cons] at h
    simp only [if_neg h₀, if_neg (Nat.ne_of_lt h)]

theorem rescanAll_nil : b.rescanAll test [] = [] := by
  rw [rescanAll, rescan]
  rfl

theorem rescanAll_cons_of_eq_zero {c : Char} {cs : List Char} (h : prefixRun test (c :: cs) = 0) :
    b.rescanAll test (c :: cs) = .unknown c :: b.rescanAll test cs := by
  rw [rescanAll, rescan_cons_of_eq_zero h]
  rfl

theorem rescanAll_of_unbroken (h : Unbroken test text) (hne : text ≠ []) :
    b.rescanAll test text = (b.token? text).toList := by
  rw [rescanAll, rescan_of_unbroken h, if_neg hne]
  rfl

theorem rescanAll_of_lt (h₀ : prefixRun test text ≠ 0) (h : prefixRun test text < text.length) :
    b.rescanAll test text =
      (b.token? (text.take (prefixRun test text))).toList ++
        b.rescanAll test (text.drop (prefixRun test text)) := by
  rw [rescanAll, rescan_of_lt h₀ h, List.append_assoc]
  rfl

/-- A text begins with the token of its run of prefixes. -/
theorem rescanAll_of_ne_zero (h₀ : prefixRun test text ≠ 0) :
    b.rescanAll test text =
      (b.token? (text.take (prefixRun test text))).toList ++
        b.rescanAll test (text.drop (prefixRun test text)) := by
  rcases Nat.lt_or_eq_of_le (prefixRun_le_length test text) with hlt | heq
  · exact rescanAll_of_lt h₀ hlt
  · have hne : text ≠ [] := by
      rintro rfl
      exact h₀ heq
    rw [heq, List.take_length, List.drop_length, rescanAll_nil, List.append_nil,
      rescanAll_of_unbroken (prefixRun_eq_length_iff.1 heq) hne]

/-- **More text never changes the tokens that are found.** -/
theorem rescan_append (b : Rulebook) (test : List Char → Bool) (text rest : List Char) :
    b.rescan test (text ++ rest) =
      ((b.rescan test text).1 ++ (b.rescan test ((b.rescan test text).2 ++ rest)).1,
        (b.rescan test ((b.rescan test text).2 ++ rest)).2) := by
  -- A step that the text decides is taken alike with more text; a text that is held is kept.
  fun_induction b.rescan test text with
  | case1 => rfl
  | case2 c cs n hn ih =>
    have hlt : prefixRun test (c :: cs) < (c :: cs).length := by
      rw [List.length_cons]
      omega
    have hrun : prefixRun test (c :: cs ++ rest) = 0 := (prefixRun_append hlt).trans hn
    rw [List.cons_append] at hrun ⊢
    rw [rescan_cons_of_eq_zero hrun, ih, List.cons_append]
  | case3 => rfl
  | case4 c cs n h₀ hn ih =>
    have hlt : prefixRun test (c :: cs) < (c :: cs).length :=
      Nat.lt_of_le_of_ne (prefixRun_le_length ..) hn
    have hrun : prefixRun test (c :: cs ++ rest) = n := prefixRun_append hlt
    rw [rescan_of_lt (by rwa [hrun]) (by rw [hrun, List.length_append]; omega), hrun,
      List.take_append_of_le_length (Nat.le_of_lt hlt),
      List.drop_append_of_le_length (Nat.le_of_lt hlt), ih, List.append_assoc]

theorem rescanAll_append (b : Rulebook) (test : List Char → Bool) (text rest : List Char) :
    b.rescanAll test (text ++ rest) =
      (b.rescan test text).1 ++ b.rescanAll test ((b.rescan test text).2 ++ rest) := by
  rw [rescanAll, rescan_append, rescanAll, List.append_assoc]

/-- What is held is unbroken. -/
theorem unbroken_rescan (b : Rulebook) (test : List Char → Bool) (text : List Char) :
    Unbroken test (b.rescan test text).2 := by
  fun_induction b.rescan test text with
  | case1 => exact unbroken_nil
  | case2 c cs n hn ih => exact ih
  | case3 c cs n h₀ hn => exact prefixRun_eq_length_iff.1 hn
  | case4 c cs n h₀ hn ih => exact ih

theorem rescan_congr (h : ∀ text, Unbroken test text ↔ Unbroken test' text) (text : List Char) :
    b.rescan test text = b.rescan test' text := by
  fun_induction b.rescan test text with
  | case1 => rw [rescan]
  | case2 c cs n hn ih =>
    rw [rescan_cons_of_eq_zero ((prefixRun_congr h _).symm.trans hn), ih]
  | case3 c cs n h₀ hn =>
    rw [rescan_of_unbroken ((h _).1 (prefixRun_eq_length_iff.1 hn))]
  | case4 c cs n h₀ hn ih =>
    have hrun : prefixRun test' (c :: cs) = n := (prefixRun_congr h _).symm
    have hlt : n < (c :: cs).length := Nat.lt_of_le_of_ne (prefixRun_le_length ..) hn
    have hstep := rescan_of_lt (b := b) (hrun.symm ▸ h₀) (hrun.symm ▸ hlt)
    rw [hstep, hrun, ih]

/-! ## Coverage -/

theorem token?_of_fits (h : b.fits text = true) :
    ∃ r, b.rules.toList.find? (·.fits text) = some r ∧ b.token? text = some (r.segment text) := by
  obtain ⟨r, hr⟩ := Option.isSome_iff_exists.1 (List.find?_isSome.2 (List.any_eq_true.1 h))
  exact ⟨r, hr, by rw [token?, hr]; rfl⟩

theorem chars_token (h : b.fits text = true) :
    (b.token? text).toList.flatMap Segment.chars = text := by
  obtain ⟨r, -, hr⟩ := token?_of_fits h
  simp [hr]

/-- **The tokens and what is held make up the text.** -/
theorem chars_rescan (hfit : ∀ p, test p = true → b.fits p = true) (text : List Char) :
    (b.rescan test text).1.flatMap Segment.chars ++ (b.rescan test text).2 = text := by
  fun_induction b.rescan test text with
  | case1 => rfl
  | case2 c cs n hn ih => rw [List.flatMap_cons, Segment.chars_unknown, List.append_assoc, ih]; rfl
  | case3 => rfl
  | case4 c cs n h₀ hn ih =>
    rw [List.flatMap_append, chars_token (hfit _ (test_take_prefixRun h₀)), List.append_assoc, ih,
      List.take_append_drop]

theorem chars_rescanAll (hfit : ∀ p, test p = true → b.fits p = true) (text : List Char) :
    (b.rescanAll test text).flatMap Segment.chars = text := by
  have hcov := chars_rescan hfit text
  have hheld := unbroken_rescan b test text
  unfold rescanAll
  split_ifs with h
  · rw [h, List.append_nil] at hcov
    rwa [List.append_nil]
  · rwa [List.flatMap_append, chars_token (hfit _ (hheld.self h))]

theorem chars_flatMap_rescanAll (hfit : ∀ p, test p = true → b.fits p = true)
    (parts : List (List Char)) :
    (parts.flatMap (b.rescanAll test)).flatMap Segment.chars = parts.flatten := by
  rw [List.flatMap_assoc, ← List.flatMap_id]
  exact congrArg (List.flatMap · parts) (funext (chars_rescanAll hfit))

/-! ## What segments there are -/

/-- The segments that rescanning can make. -/
inductive Makes (b : Rulebook) : Segment → Prop
  | unknown (c : Char) : b.Makes (.unknown c)
  | token {text : List Char} {s : Segment} : text ≠ [] → b.token? text = some s → b.Makes s

/-- The segments that rescanning makes with a test: the characters that fail it, and the tokens of
the texts that are unbroken for it. -/
inductive Yields (b : Rulebook) (test : List Char → Bool) : Segment → Prop
  | unknown {c : Char} : test [c] = false → b.Yields test (.unknown c)
  | token {text : List Char} {s : Segment} :
      text ≠ [] → Unbroken test text → b.token? text = some s → b.Yields test s

section

variable {s : Segment}

theorem exists_rule_of_token? (h : b.token? text = some s) : ∃ r : Rule, s = r.segment text := by
  obtain ⟨r, -, rfl⟩ := Option.map_eq_some_iff.1 h
  exact ⟨r, rfl⟩

/-- No segment is empty. -/
theorem Makes.chars_ne_nil (h : b.Makes s) : s.chars ≠ [] := by
  cases h with
  | unknown c => simp
  | token hne hs =>
    obtain ⟨r, rfl⟩ := exists_rule_of_token? hs
    rwa [Rule.chars_segment]

/-- No text is given up. -/
theorem Makes.kind_ne_dropped (h : b.Makes s) : s.kind ≠ .dropped := by
  cases h with
  | unknown c => exact nofun
  | token _ hs =>
    obtain ⟨r, rfl⟩ := exists_rule_of_token? hs
    exact r.kind_segment_ne_dropped _

theorem Yields.makes (h : b.Yields test s) : b.Makes s := by
  cases h with
  | unknown _ => exact .unknown _
  | token hne _ hs => exact .token hne hs

theorem yields_of_mem_rescan (hs : s ∈ (b.rescan test text).1) : b.Yields test s := by
  fun_induction b.rescan test text with
  | case1 => exact (List.not_mem_nil hs).elim
  | case2 c cs n hn ih =>
    rcases List.mem_cons.1 hs with rfl | hs
    · exact .unknown (test_of_prefixRun_eq_zero hn)
    · exact ih hs
  | case3 => exact (List.not_mem_nil hs).elim
  | case4 c cs n h₀ hn ih =>
    rcases List.mem_append.1 hs with hs | hs
    · exact .token (by simpa using h₀) (unbroken_take_prefixRun test _) (Option.mem_toList.1 hs)
    · exact ih hs

theorem yields_of_mem_rescanAll (hs : s ∈ b.rescanAll test text) : b.Yields test s := by
  unfold rescanAll at hs
  rcases List.mem_append.1 hs with hs | hs
  · exact yields_of_mem_rescan hs
  · split_ifs at hs with h
    · exact (List.not_mem_nil hs).elim
    · exact .token h (unbroken_rescan b test text) (Option.mem_toList.1 hs)

/-- Every segment that rescanning makes is the only one of some text. -/
theorem Yields.exists_rescanAll (h : b.Yields test s) : ∃ text, b.rescanAll test text = [s] := by
  cases h with
  | @unknown c hc =>
    have hrun : prefixRun test [c] = 0 := by simpa [prefixRun] using hc
    exact ⟨[c], by rw [rescanAll_cons_of_eq_zero hrun, rescanAll_nil]⟩
  | @token text _ hne hrun hs => exact ⟨text, by rw [rescanAll_of_unbroken hrun hne, hs]; rfl⟩

theorem yields_of_mem_flatMap_rescanAll {parts : List (List Char)}
    (hs : s ∈ parts.flatMap (b.rescanAll test)) : b.Yields test s := by
  obtain ⟨part, -, hs⟩ := List.mem_flatMap.1 hs
  exact yields_of_mem_rescanAll hs

theorem makes_of_mem_rescan (hs : s ∈ (b.rescan test text).1) : b.Makes s :=
  (yields_of_mem_rescan hs).makes

theorem makes_of_mem_flatMap_rescanAll {parts : List (List Char)}
    (hs : s ∈ parts.flatMap (b.rescanAll test)) : b.Makes s :=
  (yields_of_mem_flatMap_rescanAll hs).makes

end

/-! ## Thorough rulebooks -/

/-- The probe accepts every text that is unbroken for the rules. -/
def Thorough (b : Rulebook) : Prop :=
  ∀ text, text ≠ [] → Unbroken b.fits text → b.accepts text = true

theorem Thorough.unbroken_iff (ht : b.Thorough) (h : b.Coherent) (text : List Char) :
    Unbroken b.accepts text ↔ Unbroken b.fits text :=
  ⟨fun hacc p hp hne => h.fits_of_accepts (hacc p hp hne),
    fun hfit p hp hne => ht p hne (hfit.of_prefix hp)⟩

theorem Thorough.rescan_eq (ht : b.Thorough) (h : b.Coherent) :
    b.rescan b.accepts = b.rescan b.fits := funext (rescan_congr (ht.unbroken_iff h))

theorem Thorough.rescanAll_eq (ht : b.Thorough) (h : b.Coherent) :
    b.rescanAll b.accepts = b.rescanAll b.fits := by
  unfold rescanAll
  rw [ht.rescan_eq h]

/-- **A book is thorough if and only if its probe and its rules split every text alike.** -/
theorem thorough_iff (h : b.Coherent) :
    b.Thorough ↔ ∀ text, b.rescan b.accepts text = b.rescan b.fits text := by
  constructor
  · exact fun ht => congrFun (ht.rescan_eq h)
  · intro hsame text hne hfit
    have hacc := unbroken_rescan b b.accepts text
    rw [hsame, rescan_of_unbroken hfit] at hacc
    exact hacc.self hne

/-- A book is thorough unless a pattern matches the empty text inside a character. -/
theorem thorough_of_not_nullableInside (h : b.Coherent)
    (hin : ∀ r ∈ b.rules, r.pattern.regex.nullableInside = false) : b.Thorough := by
  intro text hne hfit
  rw [h.accepts_eq_fits hin]
  exact hfit.self hne

end Rulebook

end Munch
