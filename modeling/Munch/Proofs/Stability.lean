import Mathlib.Data.List.DropRight
import Munch.Proofs.Chunking

/-!
# What more text can change

Segments **continue** others if they begin with the same ones, but for the last of these, which may
have grown. An unknown one does not grow.

**Theorem (`trace_append`).** The trace of a longer text continues that of its start.

Each layer passes this on. The text that is streamed only grows, although blanks at its end may come
back. Its parts stay as they are but for the last one, which grows. And in this part rescanning
finds the same tokens up to the text that is held, whose token grows.
-/

namespace Munch

/-! ## The text that is streamed -/

namespace Text

theorem trimEnd_prefix (cs : List Char) : trimEnd cs <+: cs := List.rdropWhile_prefix isBlank cs

theorem trimEnd_append_prefix (x y : List Char) : trimEnd x <+: trimEnd (x ++ y) := by
  have hx := trimEnd_prefix x
  unfold trimEnd at hx ⊢
  rw [List.reverse_append, List.dropWhile_append]
  split_ifs with hblank
  · exact List.prefix_refl _
  · rw [List.reverse_append, List.reverse_reverse]
    exact hx.trans (List.prefix_append ..)

theorem trim_append_prefix (x y : List Char) : trim x <+: trim (x ++ y) := by
  unfold trim
  rw [List.dropWhile_append]
  split_ifs with hblank
  · rw [List.isEmpty_iff.1 hblank]
    exact List.nil_prefix
  · exact trimEnd_append_prefix ..

end Text

theorem Config.streamed_append_prefix (c : Config) (x y : List Char) :
    c.streamed x <+: c.streamed (x ++ y) := by
  unfold Config.streamed Text.trimIf
  split_ifs
  · exact Text.trim_append_prefix x y
  · exact List.prefix_append x y

/-! ## Segments that continue others -/

/-- The segments begin with the given ones, but for the last of these, which may have grown unless
it is unknown. -/
def Continues (segments segments' : List Segment) : Prop :=
  ∃ front s s' tail, segments = front ++ [s] ∧ segments' = front ++ s' :: tail ∧
    s.chars <+: s'.chars ∧ (s.kind = .unknown → s' = s)

section

variable {segments segments' : List Segment}

theorem continues_append (hne : segments ≠ []) (tail : List Segment) :
    Continues segments (segments ++ tail) := by
  refine ⟨segments.dropLast, segments.getLast hne, segments.getLast hne, tail,
    (List.dropLast_append_getLast hne).symm, ?_, List.prefix_refl _, fun _ => rfl⟩
  rw [List.append_cons, List.dropLast_append_getLast hne]

theorem Continues.append_left (h : Continues segments segments') (front : List Segment) :
    Continues (front ++ segments) (front ++ segments') := by
  obtain ⟨init, s, s', tail, rfl, rfl, hgrow⟩ := h
  exact ⟨front ++ init, s, s', tail, (List.append_assoc ..).symm, (List.append_assoc ..).symm,
    hgrow⟩

theorem Continues.append_right (h : Continues segments segments') (tail : List Segment) :
    Continues segments (segments' ++ tail) := by
  obtain ⟨init, s, s', tail', rfl, rfl, hgrow⟩ := h
  exact ⟨init, s, s', tail' ++ tail, rfl, List.append_assoc .., hgrow⟩

theorem Continues.positions (h : Continues segments segments') :
    segments.dropLast <+: segments' ∧ segments.length ≤ segments'.length ∧
      ∀ s, segments.getLast? = some s → ∃ s', segments'[segments.length - 1]? = some s' ∧
        s.chars <+: s'.chars ∧ (s.kind = .unknown → s' = s) := by
  obtain ⟨front, s, s', tail, rfl, rfl, hgrow⟩ := h
  refine ⟨?_, ?_, fun last hlast => ⟨s', ?_, ?_⟩⟩
  · rw [List.dropLast_concat]
    exact List.prefix_append ..
  · simp only [List.length_append, List.length_cons, List.length_nil]
    omega
  · simp
  · rw [List.getLast?_concat, Option.some.injEq] at hlast
    rwa [← hlast]

end

/-! ## Rescanning more text -/

namespace Rulebook

variable {b : Rulebook} {test : List Char → Bool} {text : List Char}

/-- A token that is held grows. -/
theorem continues_token (hfit : ∀ p, test p = true → b.fits p = true) (hrun : Unbroken test text)
    (hne : text ≠ []) (rest : List Char) :
    Continues (b.token? text).toList (b.rescanAll test (text ++ rest)) := by
  have hle := length_le_prefixRun_append hrun rest
  have h₀ : prefixRun test (text ++ rest) ≠ 0 := by
    have hpos := List.length_pos_of_ne_nil hne
    omega
  obtain ⟨r, -, htoken⟩ := token?_of_fits (hfit _ (hrun.self hne))
  obtain ⟨r', -, htoken'⟩ := token?_of_fits (hfit _ (test_take_prefixRun h₀))
  rw [rescanAll_of_ne_zero h₀, htoken, htoken']
  refine ⟨[], _, _, _, rfl, rfl, ?_, fun hk => (r.kind_segment_ne_unknown text hk).elim⟩
  rw [Rule.chars_segment, Rule.chars_segment, List.prefix_take_iff]
  exact ⟨List.prefix_append .., hle⟩

theorem continues_rescanAll (hfit : ∀ p, test p = true → b.fits p = true) (hne : text ≠ [])
    (rest : List Char) :
    Continues (b.rescanAll test text) (b.rescanAll test (text ++ rest)) := by
  rw [rescanAll_append, rescanAll]
  split_ifs with hheld
  · -- Nothing is held, and the tokens that are found stay.
    rw [List.append_nil]
    refine continues_append (fun hnil => ?_) _
    have hchars := chars_rescan hfit text
    rw [hnil, hheld] at hchars
    exact hne hchars.symm
  · exact (continues_token hfit (unbroken_rescan b test text) hheld rest).append_left _

end Rulebook

namespace Tokenizer

variable {t : Tokenizer}

/-! ## Traces of more text -/

/-- Only the last part of a text is not settled. -/
theorem parts_append [Footprint] (h : t.Sound) (x y : List Char) (hne : t.config.streamed x ≠ []) :
    ∃ front last more tail, last ≠ [] ∧ t.parts x = front ++ [last] ∧
      t.parts (x ++ y) = front ++ (last ++ more) :: tail := by
  obtain ⟨rest, hrest⟩ := t.config.streamed_append_prefix x y
  unfold parts
  cases t.config.flushPolicy with
  | perChunk =>
    show ∃ front last more tail, last ≠ [] ∧ t.chunks x = front ++ [last] ∧
      t.chunks (x ++ y) = front ++ (last ++ more) :: tail
    rw [chunks_eq_blocks h, chunks_eq_blocks h, blocks, blocks, ← hrest]
    exact slices_append h.chunkSize_pos rest hne
  | endOfStream => exact ⟨[], _, rest, [], hne, rfl, congrArg (fun data => [data]) hrest.symm⟩

theorem continues_rescan [Footprint] (h : t.Sound) {test : List Char → Bool}
    (hfit : ∀ p, test p = true → t.rules.fits p = true) (x y : List Char)
    (hne : t.config.streamed x ≠ []) : Continues (t.rescan test x) (t.rescan test (x ++ y)) := by
  obtain ⟨front, last, more, tail, hlast, hx, hxy⟩ := parts_append h x y hne
  unfold rescan
  rw [hx, hxy, List.flatMap_append, List.flatMap_append, List.flatMap_singleton, List.flatMap_cons]
  exact ((Rulebook.continues_rescanAll hfit hlast more).append_right _).append_left _

/-- **The trace of a longer text continues that of its start.** No segment but the last one changes,
and the last one can only grow, and not at all if it is unknown. -/
theorem trace_append [Footprint] (h : t.Reachable) (x y : List Char) :
    (t.trace x).1.dropLast <+: (t.trace (x ++ y)).1 ∧
      (t.trace x).1.length ≤ (t.trace (x ++ y)).1.length ∧
      ∀ s, (t.trace x).1.getLast? = some s →
        ∃ s', (t.trace (x ++ y)).1[(t.trace x).1.length - 1]? = some s' ∧
          s.chars <+: s'.chars ∧ (s.kind = .unknown → s' = s) := by
  rw [trace_fst h.sound, trace_fst h.sound]
  by_cases hne : t.config.streamed x = []
  · have hnil : t.rescan t.rules.accepts x = [] := by
      rw [rescan_eq_rescanAll h.sound _ fun _ => by rw [hne]; exact Nat.zero_le _, hne,
        Rulebook.rescanAll_nil]
    rw [hnil]
    exact ⟨List.nil_prefix, Nat.zero_le _, nofun⟩
  · exact (continues_rescan h.sound h.sound.fits_of_accepts x y hne).positions

/-- The last token grows up to the end of its chunk. -/
theorem trace_append_letters :
    letters.Reachable ∧
      (letters.trace [' ', 'b', 'b', 'a']).1 =
        [⟨"b", some "letter", .ignored⟩, ⟨"b", some "letter", .ignored⟩,
          ⟨"a", some "run", .emitted⟩] ∧
      (letters.trace [' ', 'b', 'b', 'a']).1.dropLast <+:
        (letters.trace ([' ', 'b', 'b', 'a'] ++ ['a', 'a'])).1 ∧
      ∃ s', (letters.trace ([' ', 'b', 'b', 'a'] ++ ['a', 'a'])).1[2]? = some s' ∧
        ['a'] <+: s'.chars := by
  obtain ⟨hfront, -, hlast⟩ := trace_append reachable_letters [' ', 'b', 'b', 'a'] ['a', 'a']
  have htrace : (letters.trace [' ', 'b', 'b', 'a']).1 =
      [⟨"b", some "letter", .ignored⟩, ⟨"b", some "letter", .ignored⟩,
        ⟨"a", some "run", .emitted⟩] := by decide +kernel
  rw [htrace] at hlast
  obtain ⟨s', hs', hgrow, -⟩ := hlast _ rfl
  exact ⟨reachable_letters, htrace, hfront, s', hs', hgrow⟩

end Tokenizer

end Munch
