import Munch.Proofs.BlockStream
import Munch.Tokenizer

/-!
# Blocks and their offsets

A stream tells how many bytes it has handed out. This **offset** is a place in the text, as no block
ends inside a character.

**Theorem (`toList_ofText`).** A stream cuts its text, which may be trimmed first, into blocks of its
size, of which the last may be shorter, and ends. Its offset is the size in bytes of the blocks that
it has handed out.

The offset is also all that a stream has to know of its state (`blockAt?_offset`). The next block
begins at this byte, and ends a number of characters further or with the text; once it would end
where it begins, the stream has ended.
-/

namespace Munch

/-! ## Bytes and characters -/

namespace Text

theorem byteSize_eq (cs : List Char) : byteSize cs = (String.ofList cs).utf8ByteSize := by
  have hfold : ∀ n, cs.foldl (fun n c => n + c.utf8Size) n =
      n + (String.ofList cs).utf8ByteSize := by
    induction cs with
    | nil => simp
    | cons c cs ih =>
      intro n
      rw [List.foldl_cons, ih, String.ofList_cons, String.utf8ByteSize_append]
      simp [Nat.add_assoc]
  exact (hfold 0).trans (Nat.zero_add _)

@[simp] theorem byteSize_nil : byteSize [] = 0 := rfl

@[simp] theorem byteSize_append (cs ds : List Char) :
    byteSize (cs ++ ds) = byteSize cs + byteSize ds := by
  simp [byteSize_eq]

@[simp] theorem byteSize_cons (c : Char) (cs : List Char) :
    byteSize (c :: cs) = c.utf8Size + byteSize cs := by
  simp [byteSize_eq]

theorem byteSize_pos {cs : List Char} (h : cs ≠ []) : 0 < byteSize cs := by
  cases cs with
  | nil => exact (h rfl).elim
  | cons c cs =>
    have hpos := c.utf8Size_pos
    rw [byteSize_cons]
    omega

/-- A text cut at a byte, unless that lies inside a character or behind the text. -/
def splitBytes? : Nat → List Char → Option (List Char × List Char)
  | 0, cs => some ([], cs)
  | _ + 1, [] => none
  | n + 1, c :: cs =>
    if c.utf8Size ≤ n + 1 then
      (splitBytes? (n + 1 - c.utf8Size) cs).map fun (before, after) => (c :: before, after)
    else none

theorem splitBytes?_append (pre post : List Char) :
    splitBytes? (byteSize pre) (pre ++ post) = some (pre, post) := by
  induction pre with
  | nil => cases post <;> rfl
  | cons c pre ih =>
    obtain ⟨n, hn⟩ := Nat.exists_eq_succ_of_ne_zero (byteSize_pos (List.cons_ne_nil c pre)).ne'
    have hrest : n + 1 - c.utf8Size = byteSize pre := by
      rw [byteSize_cons] at hn
      omega
    have hle : c.utf8Size ≤ n + 1 := by
      rw [byteSize_cons] at hn
      omega
    rw [hn, List.cons_append, splitBytes?, if_pos hle, hrest, ih]
    rfl

end Text

open Text (byteSize splitBytes?)

namespace BlockStream

variable {s t : BlockStream} {block text : List Char}

/-! ## Calls in turn -/

/-- The stream after some calls; one that has ended stays as it is. -/
def after (s : BlockStream) : Nat → BlockStream
  | 0 => s
  | k + 1 =>
    match s.next? with
    | some (_, t) => t.after k
    | none => s

theorem toList_of_next?_eq_none (h : s.next? = none) : s.toList = [] := by
  unfold toList blocks
  split <;> simp_all

theorem toList_of_next?_eq_some (h : s.next? = some (block, t)) :
    s.toList = block :: t.toList := by
  unfold toList
  rw [blocks]
  split <;> simp_all

theorem offset_of_next?_eq_some (h : s.next? = some (block, t)) :
    t.offset = s.offset + byteSize block := by
  unfold next? at h
  split at h
  · cases h
  · cases h
    rfl

/-- Each call hands out the next block. -/
theorem next?_after (s : BlockStream) (k : Nat) :
    (s.after k).next?.map Prod.fst = s.toList[k]? := by
  induction k generalizing s with
  | zero =>
    cases hn : s.next? with
    | none => simp [after, hn, toList_of_next?_eq_none hn]
    | some p => simp [after, hn, toList_of_next?_eq_some hn]
  | succ k ih =>
    cases hn : s.next? with
    | none => simp [after, hn, toList_of_next?_eq_none hn]
    | some p => simp [after, hn, toList_of_next?_eq_some hn, ih]

theorem offset_after (s : BlockStream) (k : Nat) :
    (s.after k).offset = s.offset + byteSize (s.toList.take k).flatten := by
  induction k generalizing s with
  | zero => simp [after]
  | succ k ih =>
    cases hn : s.next? with
    | none => simp [after, hn, toList_of_next?_eq_none hn]
    | some p =>
      simp [after, hn, toList_of_next?_eq_some hn, ih, offset_of_next?_eq_some hn, Nat.add_assoc]

theorem offset_after_ofText (size : Nat) (text : List Char) (trim : Bool) (k : Nat) :
    ((ofText size text trim).after k).offset =
      byteSize ((ofText size text trim).toList.take k).flatten :=
  (offset_after _ k).trans (Nat.zero_add _)

theorem append_rest_after (s : BlockStream) (k : Nat) :
    (s.toList.take k).flatten ++ (s.after k).rest = s.rest := by
  induction k generalizing s with
  | zero => rfl
  | succ k ih =>
    cases hn : s.next? with
    | none => simp [after, hn, toList_of_next?_eq_none hn]
    | some p =>
      have happend := append_of_next?_eq_some hn
      simp [after, hn, toList_of_next?_eq_some hn, ih, happend]

theorem size_after (s : BlockStream) (k : Nat) : (s.after k).size = s.size := by
  induction k generalizing s with
  | zero => rfl
  | succ k ih =>
    cases hn : s.next? with
    | none => simp [after, hn]
    | some p => simp [after, hn, ih, size_of_next?_eq_some hn]

/-! ## A stream by its offset -/

/-- The byte at which a block ends that begins at a byte: `size` characters further, or where the
text ends. -/
def blockEnd? (text : List Char) (size offset : Nat) : Option Nat := do
  let (_, rest) ← splitBytes? offset text
  some (if size < rest.length then offset + byteSize (rest.take size) else byteSize text)

/-- The block that begins at a byte, with the byte at which it ends; no block if that is no
further. -/
def blockAt? (text : List Char) (size offset : Nat) : Option (Option (List Char × Nat)) := do
  let stop ← blockEnd? text size offset
  if stop ≤ offset then some none
  else
    let (_, rest) ← splitBytes? offset text
    let (block, _) ← splitBytes? (stop - offset) rest
    some (some (block, stop))

/-- The stream is inside a text, at its offset. -/
def At (text : List Char) (s : BlockStream) : Prop :=
  ∃ done, done ++ s.rest = text ∧ s.offset = byteSize done

theorem at_after (size : Nat) (text : List Char) (trim : Bool) (k : Nat) :
    ((ofText size text trim).after k).At (Text.trimIf trim text) :=
  ⟨_, append_rest_after (ofText size text trim) k, by rw [offset_after]; exact Nat.zero_add _⟩

theorem At.splitBytes?_offset (h : s.At text) :
    ∃ done, splitBytes? s.offset text = some (done, s.rest) := by
  obtain ⟨done, rfl, hoffset⟩ := h
  exact ⟨done, hoffset ▸ Text.splitBytes?_append done s.rest⟩

theorem At.blockEnd?_offset (h : s.At text) :
    blockEnd? text s.size s.offset = some (s.offset + byteSize (s.rest.take s.size)) := by
  obtain ⟨before, hsplit⟩ := h.splitBytes?_offset
  obtain ⟨done, rfl, hoffset⟩ := h
  simp only [blockEnd?, hsplit, bind, Option.bind]
  split_ifs with hlt
  · rfl
  · rw [List.take_of_length_le (Nat.not_lt.1 hlt), Text.byteSize_append, hoffset]

/-- **A stream can go on from its offset alone.** -/
theorem At.blockAt?_offset (h : s.At text) :
    blockAt? text s.size s.offset = some (s.next?.map fun (block, t) => (block, t.offset)) := by
  obtain ⟨before, hsplit⟩ := h.splitBytes?_offset
  simp only [blockAt?, h.blockEnd?_offset, hsplit, bind, Option.bind]
  cases hn : s.next? with
  | none => simp [next?_eq_none_iff.1 hn]
  | some p =>
    obtain ⟨block, t⟩ := p
    obtain ⟨hblock, hne⟩ := block_of_next?_eq_some hn
    have hpos := Text.byteSize_pos hne
    have hrest : splitBytes? (byteSize block) s.rest = some (block, t.rest) := by
      rw [← append_of_next?_eq_some hn]
      exact Text.splitBytes?_append block t.rest
    have hstop : (some (block, t)).map (fun (block, t) => (block, t.offset)) =
        some (block, s.offset + byteSize block) := by
      rw [← offset_of_next?_eq_some hn]
      rfl
    rw [← hblock, if_neg (by omega), Nat.add_sub_cancel_left, hrest, hstop]

/-! ## Main result -/

/-- The blocks are a text cut behind every `size` characters. -/
structure Cuts (size : Nat) (text : List Char) (blocks : List (List Char)) : Prop where
  flatten : blocks.flatten = text
  length_pos : ∀ block ∈ blocks, 0 < block.length
  length_le : ∀ block ∈ blocks, block.length ≤ size
  full : ∀ block ∈ blocks.dropLast, block.length = size
  length : blocks.length = text.length ⌈/⌉ size

theorem cuts_slices {size : Nat} (h : 0 < size) (text : List Char) :
    Cuts size text (slices size text) where
  flatten := by
    have hstream : (ofText size text).toList = slices size text := toList_eq_slices h
    rw [← hstream]
    exact flatten_toList h
  length_pos _ hmem := List.length_pos_of_ne_nil (ne_nil_and_length_le_of_mem_slices h hmem).1
  length_le _ hmem := (ne_nil_and_length_le_of_mem_slices h hmem).2
  full _ hmem := length_of_mem_dropLast_slices h hmem
  length := length_slices size text

/-- How a stream hands out a text. -/
structure HandsOut (s : BlockStream) (text : List Char) : Prop where
  cuts (h : 0 < s.size) : Cuts s.size text s.toList
  empty (h : s.size = 0) : s.toList = []
  next (k : Nat) : (s.after k).next?.map Prod.fst = s.toList[k]?
  offset (k : Nat) : (s.after k).offset = byteSize (s.toList.take k).flatten
  /-- No block ends inside a character. -/
  boundary (k : Nat) : String.Pos.Raw.IsValid (.ofList text) ⟨(s.after k).offset⟩
  /-- The offset tells what the next call does. -/
  from_offset (k : Nat) : blockAt? text s.size (s.after k).offset =
    some ((s.after k).next?.map fun (block, t) => (block, t.offset))
  ended (h : 0 < s.size) (k : Nat) (hk : s.toList.length ≤ k) :
    (s.after k).next? = none ∧ (s.after k).offset = byteSize text
  /-- The blocks may themselves be handed out in smaller ones. -/
  steps (h : 0 < s.size) (stepSize : Nat) (hstep : 0 < stepSize) :
    (s.toList.flatMap fun block => (ofText stepSize block).toList).flatten = text

/-- **A stream cuts its text into blocks, and its offset is where they end.** -/
theorem toList_ofText (size : Nat) (text : List Char) (trim : Bool) :
    (ofText size text trim).HandsOut (Text.trimIf trim text) where
  cuts h := by
    rw [toList_eq_slices h]
    exact cuts_slices h _
  empty h := by
    refine toList_of_next?_eq_none (next?_eq_none_iff.2 ?_)
    rw [h, List.take_zero]
  next := next?_after _
  offset := offset_after_ofText size text trim
  boundary k := by
    rw [String.Pos.Raw.isValid_iff_exists_append]
    refine ⟨.ofList ((ofText size text trim).toList.take k).flatten,
      .ofList ((ofText size text trim).after k).rest, ?_, ?_⟩
    · rw [← String.ofList_append, append_rest_after]
      rfl
    · rw [offset_after_ofText, Text.byteSize_eq]
      rfl
  from_offset k := by
    have hat := (at_after size text trim k).blockAt?_offset
    rwa [size_after] at hat
  ended h k hk := by
    constructor
    · have hnone := next?_after (ofText size text trim) k
      rw [List.getElem?_eq_none hk] at hnone
      exact Option.map_eq_none_iff.1 hnone
    · rw [offset_after_ofText, List.take_of_length_le hk, flatten_toList h]
      rfl
  steps h stepSize hstep := by
    have hsteps : ∀ block : List Char, (ofText stepSize block).toList.flatten = block :=
      fun _ => flatten_toList hstep
    rw [List.flatMap_def, List.flatten_flatten, List.map_map]
    simp only [Function.comp_def, hsteps, List.map_id']
    exact flatten_toList h

/-- Characters of one, two and three bytes between blanks, with a block that ends at each width. -/
theorem toList_ofText_letters :
    (ofText 2 [' ', 'a', 'é', '€', 'b', '€', '\n'] true).toList =
        [['a', 'é'], ['€', 'b'], ['€']] ∧
      ((ofText 2 [' ', 'a', 'é', '€', 'b', '€', '\n'] true).after 2).offset = 7 ∧
      blockAt? ['a', 'é', '€', 'b', '€'] 2 7 = some (some (['€'], 10)) ∧
      (∀ k, 3 ≤ k → ((ofText 2 [' ', 'a', 'é', '€', 'b', '€', '\n'] true).after k).next? = none) ∧
      (ofText 0 ['a']).toList = [] := by
  have hout := toList_ofText 2 [' ', 'a', 'é', '€', 'b', '€', '\n'] true
  have hlist : (ofText 2 [' ', 'a', 'é', '€', 'b', '€', '\n'] true).toList =
      [['a', 'é'], ['€', 'b'], ['€']] :=
    (toList_eq_slices (by decide)).trans (by decide +kernel)
  refine ⟨hlist, ?_, by decide +kernel, fun k hk => (hout.ended (by decide) k ?_).1,
    (toList_ofText 0 ['a'] false).empty rfl⟩
  · rw [hout.offset, hlist]
    decide +kernel
  · rw [hlist]
    exact hk

end BlockStream

end Munch
