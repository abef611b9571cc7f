import Mathlib.Algebra.Order.Floor.Div
import Munch.BlockStream

/-!
# The slices of a text

The **slices** of a text are its parts between the multiples of a size. They are described here by
their positions alone, without a stream.

**Theorem (`toList_eq_slices`).** The blocks of a stream are the slices of the text that is left.

**Theorem (`slices_append`).** More text leaves all slices but the last as they are, and the last
one can only grow.
-/

namespace Munch

variable {size : Nat} {text : List Char}

/-- The parts of a text between the multiples of a size. -/
def slices (size : Nat) (text : List Char) : List (List Char) :=
  (List.range (text.length ⌈/⌉ size)).map fun i => text.extract (i * size) ((i + 1) * size)

theorem length_slices (size : Nat) (text : List Char) :
    (slices size text).length = text.length ⌈/⌉ size := by
  rw [slices, List.length_map, List.length_range]

@[simp] theorem slices_nil (size : Nat) : slices size [] = [] := by
  rw [slices, List.length_nil, zero_ceilDiv]
  rfl

theorem ceilDiv_eq_succ {n : Nat} (hsize : 0 < size) (hn : 0 < n) :
    n ⌈/⌉ size = (n - size) ⌈/⌉ size + 1 := by
  rw [Nat.ceilDiv_eq_add_pred_div, Nat.ceilDiv_eq_add_pred_div]
  by_cases hle : n ≤ size
  · rw [Nat.sub_eq_zero_of_le hle, Nat.zero_add, Nat.div_eq_of_lt (by omega : size - 1 < size)]
    exact Nat.div_eq_of_lt_le (by omega) (by omega)
  · rw [← Nat.add_div_right _ hsize]
    congr 1
    omega

theorem slices_of_ne_nil (hsize : 0 < size) (hne : text ≠ []) :
    slices size text = text.take size :: slices size (text.drop size) := by
  unfold slices
  rw [ceilDiv_eq_succ hsize (List.length_pos_of_ne_nil hne), List.range_succ_eq_map, List.map_cons,
    List.map_map, List.length_drop]
  refine congrArg₂ List.cons ?_ (List.map_congr_left fun i _ => ?_)
  · simp
  · have hstart : (i + 1) * size = size + i * size := by rw [Nat.succ_mul, Nat.add_comm]
    have hstop : (i + 1 + 1) * size = size + (i + 1) * size := by rw [Nat.succ_mul, Nat.add_comm]
    simp only [Function.comp_apply, Nat.succ_eq_add_one, List.extract_eq_take_drop, List.drop_drop]
    rw [hstop, hstart, Nat.add_sub_add_left]

theorem slices_of_length_le (hne : text ≠ []) (hle : text.length ≤ size) :
    slices size text = [text] := by
  have hsize : 0 < size := Nat.lt_of_lt_of_le (List.length_pos_of_ne_nil hne) hle
  rw [slices_of_ne_nil hsize hne, List.take_of_length_le hle, List.drop_of_length_le hle,
    slices_nil]

theorem ne_nil_and_length_le_of_mem_slices {block : List Char} (hsize : 0 < size)
    (h : block ∈ slices size text) : block ≠ [] ∧ block.length ≤ size := by
  obtain ⟨i, hi, rfl⟩ := List.mem_map.1 h
  have hstart : i * size < text.length := by
    by_contra hle
    rw [Nat.not_lt, Nat.mul_comm, ← ceilDiv_le_iff_le_mul hsize] at hle
    exact Nat.not_lt.2 hle (List.mem_range.1 hi)
  have hstop : (i + 1) * size = i * size + size := Nat.succ_mul ..
  rw [hstop, List.extract_eq_take_drop, Nat.add_sub_cancel_left]
  refine ⟨List.ne_nil_of_length_pos ?_, List.length_take_le ..⟩
  rw [List.length_take, List.length_drop]
  omega

/-- All slices but the last are full. -/
theorem length_of_mem_dropLast_slices {block : List Char} (hsize : 0 < size)
    (h : block ∈ (slices size text).dropLast) : block.length = size := by
  induction hlen : text.length using Nat.strong_induction_on generalizing text with
  | _ n ih =>
    by_cases hle : text.length ≤ size
    · by_cases hne : text = []
      · simp [hne] at h
      · simp [slices_of_length_le hne hle] at h
    · have hne : text ≠ [] := by
        rintro rfl
        exact hle (Nat.zero_le size)
      have hdrop : (text.drop size).length < n := by
        rw [List.length_drop]
        omega
      have hrest : slices size (text.drop size) ≠ [] := by
        rw [slices_of_ne_nil hsize (by simpa using hle)]
        exact nofun
      rw [slices_of_ne_nil hsize hne, List.dropLast_cons_of_ne_nil hrest] at h
      rcases List.mem_cons.1 h with rfl | h
      · rw [List.length_take]
        omega
      · exact ih _ hdrop h rfl

/-- **The blocks of a stream are the slices of the text that is left.** -/
theorem BlockStream.toList_eq_slices {s : BlockStream} (h : 0 < s.size) :
    s.toList = slices s.size s.rest := by
  unfold toList
  fun_induction blocks s with
  | case1 s hn =>
    rw [rest_of_next?_eq_none h hn, slices_nil]
    rfl
  | case2 s block t hn ih =>
    obtain ⟨hblock, hne⟩ := block_of_next?_eq_some hn
    have hrest : t.rest = s.rest.drop s.size := by
      have happend := append_of_next?_eq_some hn
      rw [hblock] at happend
      exact List.append_cancel_left (happend.trans (List.take_append_drop ..).symm)
    have hne' : s.rest ≠ [] := by
      rintro hnil
      rw [hnil, List.take_nil] at hblock
      exact hne hblock
    have hsize := size_of_next?_eq_some hn
    rw [List.map_cons, ih (hsize ▸ h), hsize, hrest, hblock, ← slices_of_ne_nil h hne']

/-- **More text leaves all slices but the last as they are.** -/
theorem slices_append (hsize : 0 < size) (rest : List Char) (hne : text ≠ []) :
    ∃ front last more tail, last ≠ [] ∧ slices size text = front ++ [last] ∧
      slices size (text ++ rest) = front ++ (last ++ more) :: tail := by
  -- A text that fits into one slice is the last one; behind a full slice the claim is that of the
  -- text that is left.
  induction hlen : text.length using Nat.strong_induction_on generalizing text with
  | _ n ih =>
    have hne' : text ++ rest ≠ [] := List.append_ne_nil_of_left_ne_nil hne rest
    by_cases hle : text.length ≤ size
    · refine ⟨[], text, rest.take (size - text.length), slices size ((text ++ rest).drop size), hne,
        slices_of_length_le hne hle, ?_⟩
      rw [slices_of_ne_nil hsize hne', List.take_append, List.take_of_length_le hle]
      rfl
    · have hdrop : text.drop size ≠ [] := by
        rw [Ne, List.drop_eq_nil_iff]
        exact hle
      have hpos := List.length_pos_of_ne_nil hne
      obtain ⟨front, last, more, tail, hlast, htext, hmore⟩ :=
        ih (text.drop size).length (by rw [List.length_drop]; omega) hdrop rfl
      refine ⟨text.take size :: front, last, more, tail, hlast, ?_, ?_⟩
      · rw [slices_of_ne_nil hsize hne, htext]
        rfl
      · rw [slices_of_ne_nil hsize hne', List.take_append_of_le_length (by omega),
          List.drop_append_of_le_length (by omega), hmore]
        rfl

end Munch
