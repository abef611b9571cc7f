import Munch.Text.Blank

/-!
# Streams of blocks

A **block stream** hands out a text in consecutive blocks of a fixed number of characters; the last
block may be shorter. The chunks of a text are one such stream, which may be without the blanks at
its ends, and the steps of a chunk another.
The stream knows how many bytes it has handed out. A stream of blocks of size zero is empty.
-/

namespace Munch

structure BlockStream where
  /-- The number of characters in a block. -/
  size : Nat
  /-- The text that is left. -/
  rest : List Char
  /-- The number of bytes handed out so far. -/
  offset : Nat := 0

namespace BlockStream

/-- A stream of a text, trimmed if that is asked for. -/
def ofText (size : Nat) (text : List Char) (trim : Bool := false) : BlockStream :=
  { size, rest := Text.trimIf trim text }

/-- The next block, with the stream after it. -/
def next? (s : BlockStream) : Option (List Char × BlockStream) :=
  match s.rest.take s.size with
  | [] => none
  | c :: cs =>
    some (c :: cs, { s with
      rest := s.rest.drop s.size
      offset := s.offset + Text.byteSize (c :: cs) })

theorem rest_length_lt {s t : BlockStream} {block : List Char} (h : s.next? = some (block, t)) :
    t.rest.length < s.rest.length := by
  unfold next? at h
  split at h
  · simp at h
  · rename_i c cs heq
    simp only [Option.some.injEq, Prod.mk.injEq] at h
    obtain ⟨-, rfl⟩ := h
    have hlen := congrArg List.length heq
    simp only [List.length_take, List.length_cons] at hlen
    simp only [List.length_drop]
    omega

/-- The blocks that are left, each with the offset after it. -/
def blocks (s : BlockStream) : List (List Char × Nat) :=
  match _h : s.next? with
  | none => []
  | some (block, t) => (block, t.offset) :: t.blocks
termination_by s.rest.length
decreasing_by exact rest_length_lt _h

/-- The blocks that are left. -/
def toList (s : BlockStream) : List (List Char) := s.blocks.map (·.1)

/-- The number of bytes handed out once the stream has ended. -/
def finalOffset (s : BlockStream) : Nat := (s.blocks.getLast?.map (·.2)).getD s.offset

/-! ## Blocks and the text -/

theorem next?_eq_none_iff {s : BlockStream} : s.next? = none ↔ s.rest.take s.size = [] := by
  unfold next?
  split <;> rename_i h <;> simp [h]

theorem size_of_next?_eq_some {s t : BlockStream} {block : List Char}
    (h : s.next? = some (block, t)) : t.size = s.size := by
  unfold next? at h
  split at h
  · simp at h
  · simp only [Option.some.injEq, Prod.mk.injEq] at h
    obtain ⟨-, rfl⟩ := h
    rfl

theorem append_of_next?_eq_some {s t : BlockStream} {block : List Char}
    (h : s.next? = some (block, t)) : block ++ t.rest = s.rest := by
  unfold next? at h
  split at h
  · simp at h
  · rename_i c cs heq
    simp only [Option.some.injEq, Prod.mk.injEq] at h
    obtain ⟨rfl, rfl⟩ := h
    rw [← heq]
    exact List.take_append_drop ..

theorem rest_of_next?_eq_none {s : BlockStream} (h : 0 < s.size) (hn : s.next? = none) :
    s.rest = [] := by
  rcases List.take_eq_nil_iff.1 (next?_eq_none_iff.1 hn) with h₀ | hr
  · omega
  · exact hr

theorem block_of_next?_eq_some {s t : BlockStream} {block : List Char}
    (h : s.next? = some (block, t)) : block = s.rest.take s.size ∧ block ≠ [] := by
  unfold next? at h
  split at h
  · simp at h
  · rename_i c cs heq
    simp only [Option.some.injEq, Prod.mk.injEq] at h
    obtain ⟨rfl, rfl⟩ := h
    exact ⟨heq.symm, List.cons_ne_nil c cs⟩

/-- The blocks make up the text. -/
theorem flatten_toList {s : BlockStream} (h : 0 < s.size) : s.toList.flatten = s.rest := by
  unfold toList
  fun_induction blocks s with
  | case1 s hn => exact (rest_of_next?_eq_none h hn).symm
  | case2 s block t hn ih =>
    rw [List.map_cons, List.flatten_cons, ih (size_of_next?_eq_some hn ▸ h),
      append_of_next?_eq_some hn]

end BlockStream

end Munch
