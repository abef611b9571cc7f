import Munch.Pattern.Set
import Munch.Proofs.Pattern.Match

/-!
# What a scan finds

A scan runs the searches for all patterns of a set side by side, and drops a search that is dead.

**Theorem (`first?_eq_findIdx?`).** The position that a scan gives for a text is that of the first
pattern that occurs in the text.

Dropping a search loses nothing: every search of a scan is rooted after a character, and a rooted
search that is dead accepts no text.
-/

namespace Munch

/-! ## Threads -/

namespace Thread

variable {t u : Thread}

theorem withSearch?_eq_some_iff {s : Search} :
    t.withSearch? s = some u ↔ s.isDead = false ∧ u = { t with search := s } := by
  unfold withSearch?
  split_ifs with h
  · simp [h]
  · simp [h, eq_comm]

theorem withSearch?_eq_none_iff {s : Search} : t.withSearch? s = none ↔ s.isDead = true := by
  unfold withSearch?
  split_ifs with h <;> simp [h]

/-- Whether the search of the thread accepts after more text. -/
def acceptsAfter (cs : List Char) (t : Thread) : Bool := (t.search.pushAll t.regex cs).accepts

theorem acceptsAfter_of_push?_eq_none {c : Char} (h : t.push? c = none) (cs : List Char) :
    t.acceptsAfter (c :: cs) = false := by
  have hdead : (t.search.push t.regex c).isDead = true := withSearch?_eq_none_iff.1 h
  have hroot := Search.rooted_push t.regex t.search c
  show ((t.search.push t.regex c).pushAll t.regex cs).accepts = false
  rw [← Search.steps_never]
  exact Search.accepts_steps_of_isDead hroot hdead cs

theorem acceptsAfter_of_push?_eq_some {c : Char} (h : t.push? c = some u) (cs : List Char) :
    u.acceptsAfter cs = t.acceptsAfter (c :: cs) ∧ u.index = t.index := by
  obtain ⟨-, rfl⟩ := withSearch?_eq_some_iff.1 h
  exact ⟨rfl, rfl⟩

end Thread

/-! ## Scans -/

namespace Scan

theorem mem_threads_push {s : Scan} {c : Char} {u : Thread} :
    u ∈ (s.push c).threads ↔ ∃ t ∈ s.threads,
      (t.search.push t.regex c).isDead = false ∧
        u = { t with search := t.search.push t.regex c } := by
  show u ∈ s.threads.filterMap (·.push? c) ↔ _
  simp only [List.mem_filterMap, Thread.push?, Thread.withSearch?_eq_some_iff]

theorem rooted_of_mem_push {s : Scan} {c : Char} {u : Thread} (h : u ∈ (s.push c).threads) :
    u.search.Rooted u.regex := by
  obtain ⟨t, -, -, rfl⟩ := mem_threads_push.1 h
  exact Search.rooted_push ..

theorem mem_threads_restart {s : Scan} {u : Thread} :
    u ∈ s.restart.threads ↔ ∃ t ∈ s.threads,
      (t.search.restart t.regex).isDead = false ∧
        u = { t with search := t.search.restart t.regex } := by
  show u ∈ s.threads.filterMap Thread.restart? ↔ _
  simp only [List.mem_filterMap, Thread.restart?, Thread.withSearch?_eq_some_iff]

private theorem map_filter_filterMap {α β : Type} {f : α → Option α} {p q : α → Bool} {g : α → β}
    (hnone : ∀ a, f a = none → p a = false)
    (hsome : ∀ a b, f a = some b → q b = p a ∧ g b = g a) (l : List α) :
    ((l.filterMap f).filter q).map g = (l.filter p).map g := by
  induction l with
  | nil => rfl
  | cons a l ih =>
    cases hf : f a with
    | none =>
      rw [List.filterMap_cons_none hf, ih, List.filter_cons_of_neg (by simp [hnone a hf])]
    | some b =>
      obtain ⟨hq, hg⟩ := hsome a b hf
      rw [List.filterMap_cons_some hf]
      cases hp : p a with
      | true =>
        rw [List.filter_cons_of_pos (hq.trans hp), List.filter_cons_of_pos hp, List.map_cons,
          List.map_cons, ih, hg]
      | false =>
        rw [List.filter_cons_of_neg (by simp [hq, hp]), List.filter_cons_of_neg (by simp [hp]), ih]

/-- Dropping dead searches on the way changes no answer. -/
theorem matched_pushAll (s : Scan) (cs : List Char) :
    (s.pushAll cs).matched = (s.threads.filter (·.acceptsAfter cs)).map Thread.index := by
  induction cs generalizing s with
  | nil => rfl
  | cons c cs ih =>
    refine (ih (s.push c)).trans ?_
    exact map_filter_filterMap (fun t h => t.acceptsAfter_of_push?_eq_none h cs)
      (fun t u h => t.acceptsAfter_of_push?_eq_some h cs) s.threads

end Scan

/-! ## Sets of patterns -/

namespace PatternSet

/-- The first search that accepts belongs to the first pattern that occurs. -/
theorem find?_threads (text : List Char) (ps : List Pattern) (k : Nat) :
    ((ps.mapIdx fun i p => (⟨i + k, p.regex, Search.start p.regex⟩ : Thread)).find?
        (·.acceptsAfter text)).map Thread.index =
      (ps.findIdx? fun p => p.regex.occursIn text).map (· + k) := by
  induction ps generalizing k with
  | nil => rfl
  | cons p ps ih =>
    rw [List.mapIdx_cons, List.find?_cons, List.findIdx?_cons]
    show Option.map _ (match p.regex.occursIn text with | true => _ | false => _) = _
    cases p.regex.occursIn text with
    | true => simp
    | false =>
      have hk := ih (k + 1)
      simp only [← Nat.add_assoc, Nat.add_right_comm _ k 1] at hk
      simp only [Bool.false_eq_true, if_false, Option.map_map]
      exact hk

/-- **A scan finds the first pattern that occurs in the text.** -/
theorem first?_eq_findIdx? (s : PatternSet) (text : List Char) :
    s.first? text = s.patterns.toList.findIdx? fun p => p.regex.occursIn text := by
  show (s.start.pushAll text).matched.head? = _
  rw [Scan.matched_pushAll, List.head?_map, List.head?_filter]
  exact (find?_threads text s.patterns.toList 0).trans Option.map_id'

/-- A scan reports the patterns that occur in the text. -/
theorem mem_matched_scan_iff {s : PatternSet} {text : List Char} {i : Nat} :
    i ∈ (s.scan text).matched ↔ ∃ p, s.patterns[i]? = some p ∧ p.regex.occursIn text = true := by
  show i ∈ (s.start.pushAll text).matched ↔ _
  rw [Scan.matched_pushAll, List.mem_map]
  simp only [List.mem_filter, ← Array.getElem?_toList]
  constructor
  · rintro ⟨t, ⟨ht, hacc⟩, rfl⟩
    obtain ⟨i, hi, rfl⟩ := List.mem_mapIdx.1 ht
    exact ⟨_, List.getElem?_eq_getElem hi, hacc⟩
  · rintro ⟨p, hp, hacc⟩
    obtain ⟨hi, rfl⟩ := List.getElem?_eq_some_iff.1 hp
    exact ⟨_, ⟨List.mem_mapIdx.2 ⟨i, hi, rfl⟩, hacc⟩, rfl⟩

end PatternSet

end Munch
