import Munch.Pattern.Probe
import Munch.Proofs.Pattern.Scan
import Mathlib.Data.List.Induction

/-!
# What a probe finds

A probe gives up matches under way where an empty match lies inside a character, so it may miss what
a scan finds.

**Theorem (`accepts_iff`).** A probe of a set accepts a text if and only if some pattern of the set
has a match there. If some pattern of the set is empty inside a character, then only matches count
that hold no character of several bytes.

So a probe finds nothing that a scan misses (`exists_occursIn_of_accepts`), and nothing that the
probes of its patterns alone miss (`exists_accepts_of_accepts`). It misses nothing if no pattern is
empty inside a character (`accepts_of_not_nullableInside`), and in a text of one character
(`accepts_singleton`): a pattern that is empty inside a lone character is empty in front of it as
well, because neither place has an ASCII word on a side.

The searches of a probe restart together, and only while none of them has found a match. So each one
does what it would do alone, up to the place where the first match ends.
-/

namespace Munch

/-! ## Threads of a probe -/

namespace Probe

variable {p : Probe} {c : Char} {u : Thread}

/-- The characters behind which the probe restarts, unless it has found a match. -/
def restarts (p : Probe) (c : Char) : Bool := p.splits && 1 < c.utf8Size

theorem restarts_eq_false_iff : p.restarts c = false ↔ (p.splits = true → c.utf8Size = 1) := by
  have hpos := c.utf8Size_pos
  unfold restarts
  cases p.splits with
  | true =>
    simp only [Bool.true_and, decide_eq_false_iff_not, true_implies]
    omega
  | false => simp

@[simp] theorem splits_push (p : Probe) (c : Char) : (p.push c).splits = p.splits := by
  simp only [push]
  split_ifs <;> rfl

theorem restarts_push (p : Probe) (c : Char) : (p.push c).restarts = p.restarts := by
  funext d
  rw [restarts, splits_push]
  rfl

theorem scan_push_of_found (h : (p.scan.push c).found = true) :
    (p.push c).scan = p.scan.push c := by
  simp [push, h]

theorem scan_push_of_restarts (h : (p.scan.push c).found = false) (hc : p.restarts c = true) :
    (p.push c).scan = (p.scan.push c).restart := by
  obtain ⟨hsplits, hsize⟩ := Bool.and_eq_true_iff.1 hc
  simp [push, h, hsplits, of_decide_eq_true hsize]

theorem scan_push_of_not_restarts (hc : p.restarts c = false) :
    (p.push c).scan = p.scan.push c := by
  unfold restarts at hc
  simp [push, hc]

/-- While no match is found, each thread takes the step that its search would take alone. -/
theorem mem_threads_push_iff (h : (p.scan.push c).found = false) :
    u ∈ (p.push c).scan.threads ↔ ∃ t ∈ p.scan.threads,
      (t.search.step p.restarts t.regex c).isDead = false ∧
        u = { t with search := t.search.step p.restarts t.regex c } := by
  cases hc : p.restarts c with
  | false =>
    rw [scan_push_of_not_restarts hc]
    simp only [Scan.mem_threads_push, Search.step_of_not_restarts hc]
  | true =>
    -- The threads that the scan has dropped before it restarts are dead after that as well.
    have hstep : ∀ t ∈ p.scan.threads, t.search.step p.restarts t.regex c =
        (t.search.push t.regex c).restart t.regex := by
      intro t ht
      refine Search.step_of_restarts hc (Bool.eq_false_iff.2 fun hf => ?_)
      have hmem := Scan.mem_threads_push.2 ⟨t, ht, Search.isDead_eq_false_of_found hf, rfl⟩
      exact Bool.false_ne_true (h.symm.trans (List.any_eq_true.2 ⟨_, hmem, hf⟩))
    rw [scan_push_of_restarts h hc, Scan.mem_threads_restart]
    constructor
    · rintro ⟨v, hv, halive, rfl⟩
      obtain ⟨t, ht, -, rfl⟩ := Scan.mem_threads_push.1 hv
      rw [← hstep t ht] at halive
      exact ⟨t, ht, halive, by rw [hstep t ht]⟩
    · rintro ⟨t, ht, halive, rfl⟩
      rw [hstep t ht] at halive ⊢
      have hpush : (t.search.push t.regex c).isDead = false := Bool.eq_false_iff.2 fun hdead =>
        Bool.eq_false_iff.1 halive (Search.isDead_restart (Search.rooted_push ..) hdead)
      exact ⟨_, Scan.mem_threads_push.2 ⟨t, ht, hpush, rfl⟩, halive, rfl⟩

theorem rooted_of_mem_push (h : u ∈ (p.push c).scan.threads) : u.search.Rooted u.regex := by
  cases hf : (p.scan.push c).found with
  | true =>
    rw [scan_push_of_found hf] at h
    exact Scan.rooted_of_mem_push h
  | false =>
    obtain ⟨t, -, -, rfl⟩ := (mem_threads_push_iff hf).1 h
    exact Search.rooted_step ..

/-- **A probe finds what its searches find alone.** -/
theorem accepts_pushAll_iff (hroot : ∀ t ∈ p.scan.threads, t.search.Rooted t.regex)
    (text : List Char) :
    (p.pushAll text).accepts = true ↔
      ∃ t ∈ p.scan.threads, (t.search.steps p.restarts t.regex text).accepts = true := by
  induction text generalizing p with
  | nil => exact List.any_eq_true
  | cons c text ih =>
    show ((p.push c).pushAll text).accepts = true ↔ ∃ t ∈ p.scan.threads,
      ((t.search.step p.restarts t.regex c).steps p.restarts t.regex text).accepts = true
    rw [ih fun u hu => rooted_of_mem_push hu, restarts_push]
    cases hf : (p.scan.push c).found with
    | true =>
      obtain ⟨u, hu, hfound⟩ := List.any_eq_true.1 hf
      obtain ⟨t, ht, -, rfl⟩ := Scan.mem_threads_push.1 hu
      refine iff_of_true ⟨_, scan_push_of_found hf ▸ hu, ?_⟩ ⟨t, ht, ?_⟩
      · exact (Search.accepts_steps_iff text).2 (.inl hfound)
      · rw [Search.step_of_found hfound]
        exact (Search.accepts_steps_iff text).2 (.inl hfound)
    | false =>
      simp only [mem_threads_push_iff hf]
      constructor
      · rintro ⟨u, ⟨t, ht, -, rfl⟩, hacc⟩
        exact ⟨t, ht, hacc⟩
      · rintro ⟨t, ht, hacc⟩
        have halive : (t.search.step p.restarts t.regex c).isDead = false :=
          Bool.eq_false_iff.2 fun hdead => Bool.false_ne_true
            ((Search.accepts_steps_of_isDead (Search.rooted_step ..) hdead text).symm.trans hacc)
        exact ⟨_, ⟨t, ht, halive, rfl⟩, hacc⟩

end Probe

/-! ## A place without words -/

/-- What is empty inside a character is empty where no ASCII word is on a side. -/
theorem Regex.nullable_of_nullableInside {p : Place} (hb : p.before.any Unicode.isAsciiWord = false)
    (ha : p.after.any Unicode.isAsciiWord = false) {r : Regex} (h : r.nullableInside = true) :
    r.nullable p = true := by
  induction r with
  | empty => rfl
  | chars set => cases h
  | look a =>
    cases a with
    | word edge ascii =>
      cases ascii with
      | true =>
        show edge.holds (p.before.any Unicode.isAsciiWord) (p.after.any Unicode.isAsciiWord) = true
        rw [hb, ha]
        exact h
      | false => cases h
    | _ => cases h
  | seq r s ihr ihs =>
    obtain ⟨hr, hs⟩ := Bool.and_eq_true_iff.1 h
    exact Bool.and_eq_true_iff.2 ⟨ihr hr, ihs hs⟩
  | alt r s ihr ihs => exact Bool.or_eq_true_iff.2 ((Bool.or_eq_true_iff.1 h).imp ihr ihs)
  | rep r least most ih => exact Bool.or_eq_true_iff.2 ((Bool.or_eq_true_iff.1 h).imp_right ih)

theorem CharSet.inRanges_eq_false {n : Nat} {rs : List CharRange} (h : ∀ r ∈ rs, r.hi < n) :
    inRanges n rs = false := by
  induction rs with
  | nil => rfl
  | cons r rs ih =>
    have hr : ¬n ≤ r.hi := Nat.not_le.2 (h r List.mem_cons_self)
    simp [inRanges, hr, ih fun r' hr' => h r' (List.mem_cons_of_mem r hr')]

theorem Unicode.isAsciiWord_of_one_lt_utf8Size {c : Char} (h : 1 < c.utf8Size) :
    Unicode.isAsciiWord c = false := by
  have hlarge : 0x7F < c.toNat := by
    by_contra hle
    have hone : c.utf8Size = 1 := by
      rw [Char.utf8Size_eq_one_iff, UInt32.le_iff_toNat_le]
      exact Nat.not_lt.1 hle
    omega
  have hranges : ∀ r ∈ Unicode.asciiWordChars.ranges, r.hi ≤ 0x7F := by decide
  exact CharSet.inRanges_eq_false fun r hr => Nat.lt_of_le_of_lt (hranges r hr) hlarge

/-! ## Sets of patterns -/

namespace PatternSet

variable {s : PatternSet} {text : List Char}

theorem probe_concat (s : PatternSet) (text : List Char) (c : Char) :
    s.probe (text ++ [c]) = (s.probe text).push c := List.foldl_concat ..

theorem mem_threads_start {t : Thread} (h : t ∈ s.start.threads) :
    ∃ p ∈ s.patterns, t.regex = p.regex ∧ t.search = Search.start p.regex := by
  obtain ⟨i, hi, rfl⟩ := List.mem_mapIdx.1 h
  exact ⟨_, Array.mem_toList_iff.1 (List.getElem_mem hi), rfl, rfl⟩

theorem exists_mem_threads_start {p : Pattern} (h : p ∈ s.patterns) :
    ∃ t ∈ s.start.threads, t.regex = p.regex ∧ t.search = Search.start p.regex := by
  obtain ⟨i, hi, rfl⟩ := List.mem_iff_getElem.1 (Array.mem_toList_iff.2 h)
  exact ⟨_, List.mem_mapIdx.2 ⟨i, hi, rfl⟩, rfl, rfl⟩

/-- **A probe finds the matches that it does not give up.** -/
theorem accepts_iff :
    s.accepts text = true ↔ ∃ p ∈ s.patterns, ∃ mid, p.regex.MatchIn mid text ∧
      ((∃ q ∈ s.patterns, q.regex.nullableInside = true) → ∀ c ∈ mid, c.utf8Size = 1) := by
  have hroot : ∀ t ∈ s.start.threads, t.search.Rooted t.regex := by
    intro t ht
    obtain ⟨p, -, hregex, hsearch⟩ := mem_threads_start ht
    rw [hregex, hsearch]
    exact Search.rooted_start p.regex
  have hstart : ∀ p : Pattern, ∀ restarts,
      ((Search.start p.regex).steps restarts p.regex text).accepts = true ↔
        ∃ mid, p.regex.MatchIn mid text ∧ ∀ c ∈ mid, restarts c = false :=
    fun p _ => Search.accepts_steps_start_iff
  have hkeep : ∀ mid : List Char,
      (∀ c ∈ mid, Probe.restarts ⟨s.start, s.patterns.any (·.regex.nullableInside)⟩ c = false) ↔
        ((∃ q ∈ s.patterns, q.regex.nullableInside = true) → ∀ c ∈ mid, c.utf8Size = 1) := by
    intro mid
    simp only [Probe.restarts_eq_false_iff, Array.any_eq_true']
    exact ⟨fun h hq c hc => h c hc hq, fun h c hc hq => h hq c hc⟩
  show (Probe.pushAll _ text).accepts = true ↔ _
  rw [Probe.accepts_pushAll_iff hroot]
  simp only [← hkeep, ← hstart]
  constructor
  · rintro ⟨t, ht, hacc⟩
    obtain ⟨p, hp, hregex, hsearch⟩ := mem_threads_start ht
    rw [hregex, hsearch] at hacc
    exact ⟨p, hp, hacc⟩
  · rintro ⟨p, hp, hacc⟩
    obtain ⟨t, ht, hregex, hsearch⟩ := exists_mem_threads_start hp
    rw [← hsearch, ← hregex] at hacc
    exact ⟨t, ht, hacc⟩

/-- **A probe finds nothing that a scan misses.** -/
theorem exists_occursIn_of_accepts (h : s.accepts text = true) :
    ∃ p ∈ s.patterns, p.regex.occursIn text = true := by
  obtain ⟨p, hp, mid, hmatch, -⟩ := accepts_iff.1 h
  exact ⟨p, hp, Regex.occursIn_iff.2 ⟨mid, hmatch⟩⟩

/-- **A probe misses nothing unless an empty match may lie inside a character.** -/
theorem accepts_of_not_nullableInside (h : ∀ p ∈ s.patterns, p.regex.nullableInside = false)
    (text : List Char) : s.accepts text = s.patterns.toList.any fun p => p.regex.occursIn text := by
  have hnone : ¬∃ q ∈ s.patterns, q.regex.nullableInside = true := by
    rintro ⟨q, hq, hin⟩
    exact Bool.false_ne_true ((h q hq).symm.trans hin)
  rw [Bool.eq_iff_iff, accepts_iff, List.any_eq_true]
  simp only [hnone, false_implies, and_true, Array.mem_toList_iff, Regex.occursIn_iff]

/-- **What a probe of the set finds, a probe of one of its patterns finds.** -/
theorem exists_accepts_of_accepts (h : s.accepts text = true) :
    ∃ p ∈ s.patterns, p.accepts text = true := by
  obtain ⟨p, hp, mid, hmatch, hkeep⟩ := accepts_iff.1 h
  refine ⟨p, hp, ?_⟩
  unfold Pattern.accepts
  split_ifs
  · exact Regex.occursIn_iff.2 ⟨mid, hmatch⟩
  · refine accepts_iff.2 ⟨p, by simp, mid, hmatch, fun hin => hkeep ⟨p, hp, ?_⟩⟩
    simpa using hin

/-- **Probes of sets with the same members accept the same texts,** in whatever order the patterns
stand and however often. -/
theorem accepts_congr {s' : PatternSet} (h : ∀ p, p ∈ s.patterns ↔ p ∈ s'.patterns) :
    s.accepts = s'.accepts := by
  funext text
  rw [Bool.eq_iff_iff, accepts_iff, accepts_iff]
  simp only [h]

/-- **A probe misses nothing in a text of one character.** -/
theorem accepts_singleton (s : PatternSet) (c : Char) :
    s.accepts [c] = s.patterns.toList.any fun p => p.regex.occursIn [c] := by
  rw [Bool.eq_iff_iff, List.any_eq_true]
  simp only [Array.mem_toList_iff]
  constructor
  · exact exists_occursIn_of_accepts
  · rintro ⟨p, hp, hocc⟩
    obtain ⟨mid, hmatch⟩ := Regex.occursIn_iff.1 hocc
    rw [accepts_iff]
    by_cases hc : c.utf8Size = 1
    · refine ⟨p, hp, mid, hmatch, fun _ d hd => ?_⟩
      obtain ⟨pre, post, htext, -⟩ := hmatch
      have hmem : d ∈ pre ++ mid ++ post :=
        List.mem_append_left _ (List.mem_append_right _ hd)
      rw [htext] at hmem
      rwa [List.mem_singleton.1 hmem]
    by_cases hin : ∃ q ∈ s.patterns, q.regex.nullableInside = true
    · -- In front of a lone character there is no word on a side, as there is none inside it.
      obtain ⟨q, hq, hq'⟩ := hin
      have hpos := c.utf8Size_pos
      have hword : (some c).any Unicode.isAsciiWord = false :=
        Unicode.isAsciiWord_of_one_lt_utf8Size (by omega)
      exact ⟨q, hq, [], ⟨[], [c], rfl, Regex.nullable_of_nullableInside rfl hword hq'⟩,
        fun _ => nofun⟩
    · exact ⟨p, hp, mid, hmatch, fun h => (hin h).elim⟩

end PatternSet

end Munch
