import Munch.Proofs.Offsets
import Munch.Proofs.RuleIndex
import Munch.Proofs.Tokenizer

/-!
# Runs by positions

A text can be gone through by **positions**, which count the bytes from its start. A run by
positions cuts every chunk, step and token at a position, takes every rule from its place in the
book, and adds up positions and counters. All of this can **fail** (`none`):

* a position cuts nothing if it lies inside a character or behind the text,
* a place behind the last rule holds no rule,
* a number above a limit cannot be held, and
* a token for which the probe found a rule must have a winner.

**Theorem (`runAt?_eq`).** A run of a reachable tokenizer by positions does not fail and has the
result of the run, if the limit is at least the size of the text in bytes.

The invariant is `Fits`: the segments so far, the bytes that are pending and those that are still to
be read do not exceed the limit together. It is kept because each segment takes at least one byte.
Positions count bytes that are pending or still to be read, so they are below the limit as well.
-/

namespace Munch

open Text (byteSize splitBytes?)

/-! ## Positions -/

namespace Text

variable {text pre post : List Char} {n : Nat}

theorem byteSize_reverse (cs : List Char) : byteSize cs.reverse = byteSize cs := by
  induction cs with
  | nil => rfl
  | cons c cs ih =>
    rw [List.reverse_cons, byteSize_append, ih, byteSize_cons, byteSize_cons, byteSize_nil]
    omega

theorem splitBytes?_eq_some_iff :
    splitBytes? n text = some (pre, post) ↔ pre ++ post = text ∧ byteSize pre = n := by
  constructor
  · fun_induction splitBytes? n text generalizing pre with
    | case1 => rintro ⟨⟩; exact ⟨rfl, rfl⟩
    | case2 => exact nofun
    | case3 n c cs hle ih =>
      intro h
      obtain ⟨⟨before, after⟩, hsplit, heq⟩ := Option.map_eq_some_iff.1 h
      cases heq
      obtain ⟨rfl, hsize⟩ := ih hsplit
      refine ⟨rfl, ?_⟩
      rw [byteSize_cons, hsize]
      omega
    | case4 => exact nofun
  · rintro ⟨rfl, rfl⟩
    exact splitBytes?_append pre post

/-- A text can be cut at its valid positions, and nowhere else. -/
theorem isSome_splitBytes?_iff :
    (splitBytes? n text).isSome ↔ String.Pos.Raw.IsValid (.ofList text) ⟨n⟩ := by
  rw [String.Pos.Raw.isValid_iff_exists_append, Option.isSome_iff_exists]
  constructor
  · rintro ⟨⟨pre, post⟩, h⟩
    obtain ⟨rfl, rfl⟩ := splitBytes?_eq_some_iff.1 h
    refine ⟨.ofList pre, .ofList post, String.ofList_append .., ?_⟩
    rw [byteSize_eq]
    rfl
  · rintro ⟨s, s', hs, hn⟩
    refine ⟨(s.toList, s'.toList), splitBytes?_eq_some_iff.2 ⟨?_, ?_⟩⟩
    · rw [← String.toList_append, ← hs, String.toList_ofList]
    · rw [byteSize_eq, String.ofList_toList]
      exact (congrArg String.Pos.Raw.byteIdx hn).symm

end Text

/-- A number, unless it exceeds the limit. -/
def within? (limit n : Nat) : Option Nat := if n ≤ limit then some n else none

/-- The position behind a part that is not empty, unless it exceeds the limit. -/
def behind? (limit start width : Nat) : Option { n : Nat // start < n ∧ n ≤ limit } :=
  if h : start < start + width ∧ start + width ≤ limit then some ⟨start + width, h⟩ else none

variable {limit n : Nat}

theorem within?_of_le (h : n ≤ limit) : within? limit n = some n := if_pos h

theorem behind?_of_le {start width : Nat} (hpos : 0 < width) (h : start + width ≤ limit) :
    behind? limit start width = some ⟨start + width, by omega, h⟩ := dif_pos ⟨by omega, h⟩

/-! ## Blocks by positions -/

namespace BlockStream

variable {s t : BlockStream} {block text : List Char}

/-- The blocks from a position on, each of which is found by its position alone. -/
def blocksAt? (limit : Nat) (text : List Char) (size offset : Nat) : Option (List (List Char)) :=
  match blockAt? text size offset with
  | none => none
  | some none => some []
  | some (some (block, stop)) =>
    if _h : offset < stop ∧ stop ≤ limit then
      (blocksAt? limit text size stop).map (block :: ·)
    else none
termination_by limit - offset

theorem At.of_next? (h : s.At text) (hn : s.next? = some (block, t)) : t.At text := by
  obtain ⟨done, rfl, hoffset⟩ := h
  refine ⟨done ++ block, ?_, ?_⟩
  · rw [List.append_assoc, append_of_next?_eq_some hn]
  · rw [offset_of_next?_eq_some hn, hoffset, Text.byteSize_append]

theorem At.offset_le (h : s.At text) : s.offset ≤ byteSize text := by
  obtain ⟨done, rfl, hoffset⟩ := h
  rw [hoffset, Text.byteSize_append]
  exact Nat.le_add_right ..

theorem At.blocksAt?_offset (h : s.At text) (hlimit : byteSize text ≤ limit) :
    blocksAt? limit text s.size s.offset = some s.toList := by
  unfold toList
  fun_induction blocks s with
  | case1 s hn =>
    have hat := h.blockAt?_offset
    rw [hn] at hat
    rw [blocksAt?, hat]
    rfl
  | case2 s block t hn ih =>
    have hat := h.blockAt?_offset
    have ht := h.of_next? hn
    have hlt : s.offset < t.offset := by
      have hpos := Text.byteSize_pos (block_of_next?_eq_some hn).2
      rw [offset_of_next?_eq_some hn]
      omega
    rw [hn] at hat
    rw [blocksAt?, hat]
    simp only [Option.map_some]
    rw [dif_pos ⟨hlt, ht.offset_le.trans hlimit⟩, ← size_of_next?_eq_some hn, ih ht]
    rfl

/-- **The blocks of a text are found by their positions.** -/
theorem blocksAt?_eq (size : Nat) (hlimit : byteSize text ≤ limit) :
    blocksAt? limit text size 0 = some (ofText size text).toList :=
  At.blocksAt?_offset (s := ofText size text) ⟨[], rfl, rfl⟩ hlimit

end BlockStream

/-! ## Places in a book -/

namespace Rulebook

variable {b : Rulebook} {text : List Char}

/-- The rule that wins a text, taken from its place in the book. -/
def winnerAt? (b : Rulebook) (text : List Char) : Option (Option Rule) :=
  match b.priority? text with
  | none => some none
  | some i => b.rules[i]?.map some

theorem lt_size_of_priority? (h : b.Coherent) {i : Nat} (hi : b.priority? text = some i) :
    i < b.size := by
  rw [h.priority?_eq_findIdx?, List.findIdx?_eq_some_iff_getElem] at hi
  obtain ⟨hlt, -⟩ := hi
  rwa [Array.length_toList] at hlt

theorem lt_size_of_lookup_names [Footprint] (h : b.Reachable) {name : String} {i : Nat}
    (hi : b.names.lookup (lowercase name) = some i) : i < b.size := by
  rw [h.lookup_names] at hi
  obtain ⟨r, hr, -⟩ := exists_of_named hi
  exact (Array.getElem?_eq_some_iff.1 hr).1

theorem winnerAt?_eq (h : b.Coherent) (text : List Char) :
    b.winnerAt? text = some (b.winner? text) := by
  unfold winnerAt? winner?
  cases hi : b.priority? text with
  | none => rfl
  | some i =>
    have hlt : i < b.rules.size := lt_size_of_priority? h hi
    simp [hlt]

end Rulebook

/-! ## Counters -/

namespace Stats

/-- The number of segments that are counted. -/
def entries (s : Stats) : Nat := s.emitted + s.ignored + s.unknown + s.dropped

/-- No counter exceeds the limit, and neither do those of the segments together. -/
def Within (s : Stats) (limit : Nat) : Prop := s.entries ≤ limit ∧ s.chunks ≤ limit

instance (s : Stats) (limit : Nat) : Decidable (s.Within limit) :=
  inferInstanceAs (Decidable (_ ∧ _))

end Stats

namespace Transcript

variable (t : Transcript) (text : String) (r : Rule)

/-- A transcript, unless a counter exceeds the limit. -/
def within? (limit : Nat) : Option Transcript := if t.stats.Within limit then some t else none

theorem within?_of_within {t : Transcript} (h : t.stats.Within limit) :
    t.within? limit = some t := if_pos h

@[simp] theorem entries_addMatch : (t.addMatch text r).stats.entries = t.stats.entries + 1 := by
  unfold addMatch Stats.entries
  split <;> simp only [note, deliver] <;> omega

@[simp] theorem entries_addUnknown : (t.addUnknown text).stats.entries = t.stats.entries + 1 := by
  unfold addUnknown Stats.entries
  simp only [note, deliver]
  omega

@[simp] theorem entries_addDropped : (t.addDropped text).stats.entries = t.stats.entries + 1 := rfl

@[simp] theorem entries_addChunk : t.addChunk.stats.entries = t.stats.entries := rfl

@[simp] theorem chunks_addMatch : (t.addMatch text r).stats.chunks = t.stats.chunks := by
  unfold addMatch
  split <;> rfl

@[simp] theorem chunks_addUnknown : (t.addUnknown text).stats.chunks = t.stats.chunks := rfl

@[simp] theorem chunks_addDropped : (t.addDropped text).stats.chunks = t.stats.chunks := rfl

@[simp] theorem chunks_addChunk : t.addChunk.stats.chunks = t.stats.chunks + 1 := rfl

end Transcript

/-! ## Tokens by positions -/

namespace Rulebook

variable {b : Rulebook} {text : List Char} {known : Nat}

/-- The position at which the run of prefixes ends. The prefixes up to `known` are taken to match,
and those up to `stop` do. What is left begins `index` bytes behind `known`. -/
def reachAt? (b : Rulebook) (limit : Nat) (text : List Char) (known stop index : Nat) :
    List Char → Option Nat
  | [] => some stop
  | c :: cs => do
    let next ← Munch.within? limit (known + index + c.utf8Size)
    let (candidate, _) ← splitBytes? next text
    if b.accepts candidate then b.reachAt? limit text known next (index + c.utf8Size) cs
    else some stop

/-- The position at which the run of prefixes ends, found from the position `known` on. -/
def longestAt? (b : Rulebook) (limit : Nat) (text : List Char) (known : Nat) : Option Nat := do
  let (_, rest) ← splitBytes? known text
  b.reachAt? limit text known known 0 rest

/-- Resolves a text from a position on. -/
def resolveAt? (b : Rulebook) (limit : Nat) (whole : List Char) (known start : Nat)
    (out : Transcript) : Option (List Char × Transcript) :=
  if start < byteSize whole then do
    let (_, rest) ← splitBytes? start whole
    let stop ← b.longestAt? limit rest known
    if stop = 0 then
      let width := (rest.head?.map Char.utf8Size).getD (byteSize rest)
      let (char, _) ← splitBytes? width rest
      let out ← (out.addUnknown (.ofList char)).within? limit
      let ⟨start, _⟩ ← behind? limit start width
      b.resolveAt? limit whole 0 start out
    else if stop = byteSize rest then
      let (_, pending) ← splitBytes? start whole
      some (pending, out)
    else
      let (token, _) ← splitBytes? stop rest
      -- A token without a winner is a failure here, and not passed over.
      let r ← (← b.winnerAt? token)
      let out ← (out.addMatch (.ofList token) r).within? limit
      let ⟨start, _⟩ ← behind? limit start stop
      b.resolveAt? limit whole 0 start out
  else some ([], out)
termination_by limit - start

/-! ### The run of prefixes -/

theorem reachAt?_eq (b : Rulebook) (pre cs : List Char) {index : Nat}
    (hindex : known + index = byteSize pre) (hlimit : byteSize (pre ++ cs) ≤ limit) :
    b.reachAt? limit (pre ++ cs) known (byteSize pre) index cs =
      some (byteSize ((pre ++ cs).take (reachFrom (b.patterns.probe pre) pre.length cs))) := by
  induction cs generalizing pre index with
  | nil => simp [reachAt?, reachFrom]
  | cons c cs ih =>
    have hsplit : pre ++ c :: cs = (pre ++ [c]) ++ cs := by simp
    have hnext : known + index + c.utf8Size = byteSize (pre ++ [c]) := by
      rw [hindex, Text.byteSize_append, Text.byteSize_cons, Text.byteSize_nil, Nat.add_zero]
    have hle : byteSize (pre ++ [c]) ≤ limit := by
      rw [hsplit, Text.byteSize_append] at hlimit
      omega
    rw [reachAt?, hnext, within?_of_le hle, hsplit]
    simp only [bind, Option.bind, Text.splitBytes?_append, reachFrom, ← PatternSet.probe_concat,
      accepts_probe]
    split_ifs with hacc
    · have hindex' : known + (index + c.utf8Size) = byteSize (pre ++ [c]) := by omega
      have hread := ih (pre ++ [c]) hindex' (hsplit ▸ hlimit)
      rwa [List.length_append] at hread
    · rw [List.append_assoc, List.take_left]

theorem longestAt?_eq (b : Rulebook) {n : Nat} (hn : n ≤ text.length)
    (hlimit : byteSize text ≤ limit) :
    b.longestAt? limit text (byteSize (text.take n)) =
      some (byteSize (text.take (b.reach text n))) := by
  have hsplit : splitBytes? (byteSize (text.take n)) text = some (text.take n, text.drop n) := by
    rw [Text.splitBytes?_eq_some_iff]
    exact ⟨List.take_append_drop .., rfl⟩
  have hlimit' : byteSize (text.take n ++ text.drop n) ≤ limit := by rwa [List.take_append_drop]
  have hread := b.reachAt?_eq (text.take n) (text.drop n) (Nat.add_zero _) hlimit'
  rw [List.take_append_drop, List.length_take_of_le hn] at hread
  simp only [longestAt?, hsplit, bind, Option.bind]
  exact hread

/-! ### Resolving -/

variable {whole pre rest : List Char} {out : Transcript}

theorem entries_resolve_le (b : Rulebook) (known : Nat) (rest : List Char) (out : Transcript) :
    (b.resolve known rest out).2.stats.entries + byteSize (b.resolve known rest out).1 ≤
      out.stats.entries + byteSize rest := by
  fun_induction b.resolve known rest out with
  | case1 => exact Nat.le_refl _
  | case2 known out c cs n hn ih =>
    have hpos := c.utf8Size_pos
    rw [Transcript.entries_addUnknown] at ih
    rw [Text.byteSize_cons]
    omega
  | case3 => exact Nat.le_refl _
  | case4 known out c cs n h₀ hn token out' ih =>
    have hsize : byteSize (c :: cs) = byteSize token + byteSize ((c :: cs).drop n) := by
      rw [← Text.byteSize_append, List.take_append_drop]
    have hpos : 0 < byteSize token := Text.byteSize_pos (by simpa [token] using h₀)
    have hout : out'.stats.entries ≤ out.stats.entries + 1 := by
      unfold out'
      split
      · exact (Transcript.entries_addMatch ..).le
      · exact Nat.le_succ _
    omega

theorem chunks_resolve (b : Rulebook) (known : Nat) (rest : List Char) (out : Transcript) :
    (b.resolve known rest out).2.stats.chunks = out.stats.chunks := by
  fun_induction b.resolve known rest out with
  | case1 => rfl
  | case2 known out c cs n hn ih => exact ih
  | case3 => rfl
  | case4 known out c cs n h₀ hn token out' ih =>
    rw [ih]
    unfold out'
    split
    · exact Transcript.chunks_addMatch ..
    · rfl

/-- What is left begins at a position inside the text. -/
theorem cut_at_start (hne : rest ≠ []) (hwhole : pre ++ rest = whole) :
    byteSize pre < byteSize whole ∧ splitBytes? (byteSize pre) whole = some (pre, rest) := by
  refine ⟨?_, Text.splitBytes?_eq_some_iff.2 ⟨hwhole, rfl⟩⟩
  have hpos := Text.byteSize_pos hne
  rw [← hwhole, Text.byteSize_append]
  omega

theorem resolveAt?_of_unknown {c : Char} {cs : List Char} (hwhole : pre ++ c :: cs = whole)
    (hlimit : byteSize whole ≤ limit) (hlong : b.longestAt? limit (c :: cs) known = some 0)
    (hwithin : (out.addUnknown (.ofList [c])).stats.Within limit) :
    b.resolveAt? limit whole known (byteSize pre) out =
      b.resolveAt? limit whole 0 (byteSize (pre ++ [c])) (out.addUnknown (.ofList [c])) := by
  obtain ⟨hlt, hcut⟩ := cut_at_start (List.cons_ne_nil c cs) hwhole
  have hchar : splitBytes? c.utf8Size (c :: cs) = some ([c], cs) :=
    Text.splitBytes?_eq_some_iff.2 ⟨rfl, by simp⟩
  have hstart : byteSize (pre ++ [c]) = byteSize pre + c.utf8Size := by simp
  have hle : byteSize pre + c.utf8Size ≤ limit := by
    rw [← hwhole, Text.byteSize_append, Text.byteSize_cons] at hlimit
    omega
  rw [resolveAt?, if_pos hlt]
  simp only [hcut, hlong, if_true, List.head?_cons, Option.map_some, Option.getD_some, hchar,
    bind, Option.bind, Transcript.within?_of_within hwithin, behind?_of_le c.utf8Size_pos hle,
    hstart]

theorem resolveAt?_of_pending (hne : rest ≠ []) (hwhole : pre ++ rest = whole)
    (hlong : b.longestAt? limit rest known = some (byteSize rest)) :
    b.resolveAt? limit whole known (byteSize pre) out = some (rest, out) := by
  obtain ⟨hlt, hcut⟩ := cut_at_start hne hwhole
  rw [resolveAt?, if_pos hlt]
  simp only [hcut, hlong, bind, Option.bind, if_neg (Text.byteSize_pos hne).ne', if_true]

theorem resolveAt?_of_token (h : b.Coherent) {token : List Char} {r : Rule} (htoken : token ≠ [])
    (hrest : rest ≠ []) (hwhole : pre ++ (token ++ rest) = whole) (hlimit : byteSize whole ≤ limit)
    (hlong : b.longestAt? limit (token ++ rest) known = some (byteSize token))
    (hr : b.winner? token = some r)
    (hwithin : (out.addMatch (.ofList token) r).stats.Within limit) :
    b.resolveAt? limit whole known (byteSize pre) out =
      b.resolveAt? limit whole 0 (byteSize (pre ++ token)) (out.addMatch (.ofList token) r) := by
  obtain ⟨hlt, hcut⟩ := cut_at_start (List.append_ne_nil_of_left_ne_nil htoken rest) hwhole
  have hpos := Text.byteSize_pos htoken
  have hmore := Text.byteSize_pos hrest
  have hshort : byteSize token ≠ byteSize token + byteSize rest := by omega
  have hle : byteSize pre + byteSize token ≤ limit := by
    rw [← hwhole, Text.byteSize_append, Text.byteSize_append] at hlimit
    omega
  rw [resolveAt?, if_pos hlt]
  simp only [hcut, hlong, bind, Option.bind, if_neg hpos.ne',
    Text.byteSize_append, if_neg hshort, Text.splitBytes?_append, winnerAt?_eq h, hr,
    Transcript.within?_of_within hwithin, behind?_of_le hpos hle]

theorem resolveAt?_eq (h : b.Coherent) (hwhole : pre ++ rest = whole)
    (hlimit : byteSize whole ≤ limit) (hknown : known ≤ rest.length)
    (hrun : Unbroken b.accepts (rest.take known))
    (hentries : out.stats.entries + byteSize rest ≤ limit) (hchunks : out.stats.chunks ≤ limit) :
    b.resolveAt? limit whole (byteSize (rest.take known)) (byteSize pre) out =
      some (b.resolve known rest out) := by
  -- Only the first step knows of prefixes that match; behind it, `known` is zero.
  fun_induction b.resolve known rest out generalizing pre with
  | case1 known out =>
    rw [List.append_nil] at hwhole
    rw [resolveAt?, hwhole, if_neg (Nat.lt_irrefl _)]
  | case2 known out c cs n hn =>
    rename_i ih
    have hlong := b.longestAt?_eq hknown (Nat.le_of_add_left_le hentries)
    rw [show b.reach (c :: cs) known = 0 from hn] at hlong
    have hpos := c.utf8Size_pos
    rw [Text.byteSize_cons] at hentries
    have hentries' : (out.addUnknown (.ofList [c])).stats.entries + byteSize cs ≤ limit := by
      rw [Transcript.entries_addUnknown]
      omega
    rw [resolveAt?_of_unknown hwhole hlimit hlong ⟨by omega, hchunks⟩]
    exact ih (by simpa using hwhole) (Nat.zero_le _) unbroken_nil hentries' hchunks
  | case3 known out c cs n h₀ =>
    rename_i hn
    have hlong := b.longestAt?_eq hknown (Nat.le_of_add_left_le hentries)
    rw [show b.reach (c :: cs) known = (c :: cs).length from hn, List.take_length] at hlong
    exact resolveAt?_of_pending (List.cons_ne_nil c cs) hwhole hlong
  | case4 known out c cs n h₀ hn token out' =>
    rename_i ih
    have hlong := b.longestAt?_eq hknown (Nat.le_of_add_left_le hentries)
    have hsplit : token ++ (c :: cs).drop n = c :: cs := List.take_append_drop ..
    have hrun' : prefixRun b.accepts (c :: cs) = n := (reach_eq hknown hrun).symm
    have hlt : n < (c :: cs).length := Nat.lt_of_le_of_ne (hrun' ▸ prefixRun_le_length ..) hn
    have htoken : token ≠ [] := by simpa [token] using h₀
    have hrest : (c :: cs).drop n ≠ [] := by
      rw [Ne, List.drop_eq_nil_iff]
      omega
    have hacc : b.accepts token = true := by
      have hne : prefixRun b.accepts (c :: cs) ≠ 0 := hrun'.symm ▸ h₀
      have hpass := test_take_prefixRun hne
      rwa [hrun'] at hpass
    obtain ⟨r, hr⟩ := Option.isSome_iff_exists.1 (h.isSome_winner?_of_accepts hacc)
    have hout : out' = out.addMatch (.ofList token) r := by
      unfold out'
      rw [hr]
    have hsize : byteSize (c :: cs) = byteSize token + byteSize ((c :: cs).drop n) := by
      rw [← hsplit, Text.byteSize_append, hsplit]
    have hpos := Text.byteSize_pos htoken
    have hentries' : out'.stats.entries + byteSize ((c :: cs).drop n) ≤ limit := by
      rw [hout, Transcript.entries_addMatch]
      omega
    have hchunks' : out'.stats.chunks ≤ limit := by
      rw [hout, Transcript.chunks_addMatch]
      exact hchunks
    have hwhole' : pre ++ (token ++ (c :: cs).drop n) = whole := hsplit.symm ▸ hwhole
    have hlong' : b.longestAt? limit (token ++ (c :: cs).drop n)
        (byteSize ((c :: cs).take known)) = some (byteSize token) := by
      rw [hsplit]
      exact hlong
    rw [resolveAt?_of_token h htoken hrest hwhole' hlimit hlong' hr
      (hout ▸ ⟨by omega, hchunks'⟩), ← hout]
    exact ih (by rwa [List.append_assoc]) (Nat.zero_le _) unbroken_nil hentries' hchunks'

end Rulebook

namespace Lexer

variable {b : Rulebook} {s : Lexer × Transcript} {text : List Char} {more : Nat}

/-! ## Calls by positions -/

/-- Takes in more text; what was pending is known to match. -/
def readAt? (b : Rulebook) (limit : Nat) (l : Lexer) (text : List Char) (out : Transcript) :
    Option (Lexer × Transcript) := do
  let known ← Munch.within? limit (byteSize l.pending)
  let (pending, out) ← b.resolveAt? limit (l.pending ++ text) known 0 out
  some ({ pending }, out)

/-- Forces out the pending text. -/
def flushAt? (b : Rulebook) (limit : Nat) (l : Lexer) (out : Transcript) :
    Option (Lexer × Transcript) :=
  match l.pending with
  | [] => some (l, out)
  | pending => do
    let out :=
      match ← b.winnerAt? pending with
      | some r => out.addMatch (.ofList pending) r
      | none => out.addDropped (.ofList pending)
    some ({}, ← out.within? limit)

/-- All prefixes of the pending text match. The segments so far, the bytes that are pending and
those still to be read do not exceed the limit together. -/
structure Fits (b : Rulebook) (limit : Nat) (s : Lexer × Transcript) (more : Nat) : Prop where
  unbroken : Unbroken b.accepts s.1.pending
  entries : s.2.stats.entries + byteSize s.1.pending + more ≤ limit

theorem Fits.read (h : b.Coherent) (hs : Fits b limit s (byteSize text + more)) :
    Fits b limit (s.1.read b text s.2) more := by
  have hle := b.entries_resolve_le s.1.pending.length (s.1.pending ++ text) s.2
  have hentries := hs.entries
  rw [Text.byteSize_append] at hle
  refine ⟨?_, ?_⟩
  · rw [read_eq h hs.unbroken]
    exact b.unbroken_rescan b.accepts _
  · show (b.resolve _ _ _).2.stats.entries + byteSize (b.resolve _ _ _).1 + more ≤ limit
    omega

theorem readAt?_eq (h : b.Coherent) (hs : Fits b limit s (byteSize text + more))
    (hchunks : s.2.stats.chunks ≤ limit) :
    s.1.readAt? b limit text s.2 = some (s.1.read b text s.2) := by
  have hentries := hs.entries
  have hsize : byteSize (s.1.pending ++ text) = byteSize s.1.pending + byteSize text :=
    Text.byteSize_append ..
  have hwhole : [] ++ (s.1.pending ++ text) = s.1.pending ++ text := List.nil_append _
  have hlimit : byteSize (s.1.pending ++ text) ≤ limit := by omega
  have hknown : s.1.pending.length ≤ (s.1.pending ++ text).length := by simp
  have hrun : Unbroken b.accepts ((s.1.pending ++ text).take s.1.pending.length) := by
    simpa using hs.unbroken
  have hresolve := Rulebook.resolveAt?_eq h hwhole hlimit hknown hrun (by omega) hchunks
  rw [List.take_left, Text.byteSize_nil] at hresolve
  rw [readAt?, within?_of_le (by omega)]
  simp only [bind, Option.bind, hresolve]
  rfl

theorem chunks_read (b : Rulebook) (l : Lexer) (text : List Char) (out : Transcript) :
    (l.read b text out).2.stats.chunks = out.stats.chunks := b.chunks_resolve ..

/-- Steps that are read one after the other. -/
theorem foldlM_readAt? (h : b.Coherent) (steps : List (List Char))
    (hs : Fits b limit s (byteSize steps.flatten + more)) (hchunks : s.2.stats.chunks ≤ limit) :
    steps.foldlM (fun s step => s.1.readAt? b limit step s.2) s =
        some (steps.foldl (fun s step => s.1.read b step s.2) s) ∧
      Fits b limit (steps.foldl (fun s step => s.1.read b step s.2) s) more ∧
      (steps.foldl (fun s step => s.1.read b step s.2) s).2.stats.chunks = s.2.stats.chunks := by
  induction steps generalizing s with
  | nil => exact ⟨rfl, by simpa using hs, rfl⟩
  | cons step steps ih =>
    rw [List.flatten_cons, Text.byteSize_append, Nat.add_assoc] at hs
    have hcount := chunks_read b s.1 step s.2
    obtain ⟨hrun, hfits, hsame⟩ := ih (hs.read h) (hcount.trans_le hchunks)
    refine ⟨?_, hfits, hsame.trans hcount⟩
    rw [List.foldlM_cons, readAt?_eq h hs hchunks]
    exact hrun

theorem chunks_flush (b : Rulebook) (l : Lexer) (out : Transcript) :
    (l.flush b out).2.stats.chunks = out.stats.chunks := by
  obtain ⟨pending⟩ := l
  cases pending with
  | nil => rfl
  | cons c cs =>
    simp only [flush]
    cases b.winner? (c :: cs) <;> simp

theorem entries_flush_le (b : Rulebook) (l : Lexer) (out : Transcript) :
    (l.flush b out).2.stats.entries ≤ out.stats.entries + byteSize l.pending := by
  obtain ⟨pending⟩ := l
  cases pending with
  | nil => exact Nat.le_add_right ..
  | cons c cs =>
    have hpos := Text.byteSize_pos (List.cons_ne_nil c cs)
    simp only [flush]
    cases b.winner? (c :: cs) <;> simp only [Transcript.entries_addMatch,
      Transcript.entries_addDropped] <;> omega

theorem Fits.flush (hs : Fits b limit s more) : Fits b limit (s.1.flush b s.2) more := by
  have hle := entries_flush_le b s.1 s.2
  have hentries := hs.entries
  constructor
  · rw [flush_fst]
    exact unbroken_nil
  · rw [flush_fst]
    show _ + 0 + more ≤ limit
    omega

theorem flushAt?_eq (h : b.Coherent) (hs : Fits b limit s more)
    (hchunks : s.2.stats.chunks ≤ limit) :
    s.1.flushAt? b limit s.2 = some (s.1.flush b s.2) := by
  have hwithin : (s.1.flush b s.2).2.stats.Within limit := by
    have hle := entries_flush_le b s.1 s.2
    have hentries := hs.entries
    exact ⟨by omega, (chunks_flush ..).trans_le hchunks⟩
  obtain ⟨⟨pending⟩, out⟩ := s
  cases pending with
  | nil => rfl
  | cons c cs =>
    simp only [flush] at hwithin
    simp only [flushAt?, flush, Rulebook.winnerAt?_eq h, bind, Option.bind]
    cases hr : b.winner? (c :: cs) <;> rw [hr] at hwithin <;>
      simp only [Transcript.within?_of_within hwithin]

end Lexer

/-! ## Runs by positions -/

namespace Tokenizer

open Lexer (Fits)

variable {t : Tokenizer} {s : Lexer × Transcript} {more : Nat}

/-- Reads one chunk step by step, and flushes after it if the configuration says so. -/
def runChunkAt? (t : Tokenizer) (limit : Nat) (s : Lexer × Transcript) (chunk : List Char) :
    Option (Lexer × Transcript) := do
  let out ← s.2.addChunk.within? limit
  let steps ← BlockStream.blocksAt? limit chunk t.config.stepSize.toNat 0
  let (l, out) ← steps.foldlM (fun s step => s.1.readAt? t.rules limit step s.2) (s.1, out)
  match t.config.flushPolicy with
  | .perChunk => l.flushAt? t.rules limit out
  | .endOfStream => some (l, out)

/-- Streams a text into a transcript. -/
def runAt? (t : Tokenizer) (limit : Nat) (text : List Char) (out : Transcript) :
    Option Transcript := do
  let chunks ← BlockStream.blocksAt? limit (t.config.streamed text) t.config.chunkSize.toNat 0
  let (l, out) ← chunks.foldlM (t.runChunkAt? limit) ({}, out)
  let (_, out) ← l.flushAt? t.rules limit out
  some out

theorem runChunkAt?_eq [Footprint] (h : t.Sound) {chunk : List Char} (hne : chunk ≠ [])
    (hs : Fits t.rules limit s (byteSize chunk + more))
    (hchunks : s.2.stats.chunks + (byteSize chunk + more) ≤ limit) :
    t.runChunkAt? limit s chunk = some (t.runChunk s chunk) ∧
      Fits t.rules limit (t.runChunk s chunk) more ∧
      (t.runChunk s chunk).2.stats.chunks + more ≤ limit := by
  have hpos := Text.byteSize_pos hne
  have hentries := hs.entries
  have hwithin : s.2.addChunk.stats.Within limit := by
    constructor
    · rw [Transcript.entries_addChunk]
      omega
    · rw [Transcript.chunks_addChunk]
      omega
  have hsteps : BlockStream.blocksAt? limit chunk t.config.stepSize.toNat 0 =
      some (t.steps chunk) := BlockStream.blocksAt?_eq _ (by omega)
  have hfits : Fits t.rules limit (s.1, s.2.addChunk)
      (byteSize (t.steps chunk).flatten + more) := by
    rw [flatten_steps h]
    exact ⟨hs.unbroken, hs.entries⟩
  obtain ⟨hread, hfits, hcount⟩ :=
    Lexer.foldlM_readAt? h.rules.coherent (t.steps chunk) hfits hwithin.2
  have hchunks' := Nat.add_le_add_right hcount.le more
  rw [Transcript.chunks_addChunk] at hchunks'
  unfold runChunkAt? runChunk
  simp only [Transcript.within?_of_within hwithin, hsteps, hread, bind, Option.bind]
  cases t.config.flushPolicy with
  | endOfStream => exact ⟨rfl, hfits, hchunks'.trans (by omega)⟩
  | perChunk =>
    refine ⟨Lexer.flushAt?_eq h.rules.coherent hfits (hcount.trans_le hwithin.2), hfits.flush, ?_⟩
    rw [Lexer.chunks_flush]
    exact hchunks'.trans (by omega)

theorem foldlM_runChunkAt? [Footprint] (h : t.Sound) (chunks : List (List Char))
    (hne : ∀ chunk ∈ chunks, chunk ≠ []) (hs : Fits t.rules limit s (byteSize chunks.flatten))
    (hchunks : s.2.stats.chunks + byteSize chunks.flatten ≤ limit) :
    chunks.foldlM (t.runChunkAt? limit) s = some (chunks.foldl t.runChunk s) ∧
      Fits t.rules limit (chunks.foldl t.runChunk s) 0 ∧
      (chunks.foldl t.runChunk s).2.stats.chunks ≤ limit := by
  induction chunks generalizing s with
  | nil => exact ⟨rfl, hs, hchunks⟩
  | cons chunk chunks ih =>
    obtain ⟨hchunk, hne⟩ := List.forall_mem_cons.1 hne
    rw [List.flatten_cons, Text.byteSize_append] at hs hchunks
    obtain ⟨hrun, hfits, hcount⟩ := runChunkAt?_eq h hchunk hs hchunks
    rw [List.foldlM_cons, hrun, List.foldl_cons]
    exact ih hne hfits hcount

theorem byteSize_streamed_le (c : Config) (text : List Char) :
    byteSize (c.streamed text) ≤ byteSize text := by
  have hdrop : ∀ cs : List Char, byteSize (cs.dropWhile Text.isBlank) ≤ byteSize cs := by
    intro cs
    have hsplit := congrArg byteSize (cs.takeWhile_append_dropWhile (p := Text.isBlank))
    rw [Text.byteSize_append] at hsplit
    omega
  unfold Config.streamed Text.trimIf Text.trim Text.trimEnd
  split
  · have hend := hdrop (text.dropWhile Text.isBlank).reverse
    simp only [Text.byteSize_reverse] at hend ⊢
    exact hend.trans (hdrop text)
  · exact Nat.le_refl _

/-! ## Main result -/

/-- **A run by positions does not fail.** It has the result of the run, in which no counter exceeds
the size of the text in bytes. What wins a text or is found by its name is a rule of the book. -/
theorem runAt?_eq [Footprint] (h : t.Reachable) {text : List Char} {out : Transcript}
    (hlimit : byteSize text ≤ limit) (hout : out.stats = {}) :
    t.runAt? limit text out = some (t.run text out) ∧
      (t.run text out).stats.Within limit ∧
      (∀ candidate i, t.rules.priority? candidate = some i → i < t.rules.size) ∧
      ∀ name i, t.rules.names.lookup (lowercase name) = some i → i < t.rules.size := by
  have hsound := h.sound
  have hstreamed := (byteSize_streamed_le t.config text).trans hlimit
  have hchunks : BlockStream.blocksAt? limit (t.config.streamed text) t.config.chunkSize.toNat 0 =
      some (t.chunks text) := BlockStream.blocksAt?_eq _ hstreamed
  have hne : ∀ chunk ∈ t.chunks text, chunk ≠ [] := by
    intro chunk hchunk
    rw [chunks, BlockStream.toList_eq_slices hsound.chunkSize_pos] at hchunk
    exact (ne_nil_and_length_le_of_mem_slices hsound.chunkSize_pos hchunk).1
  have hstart : Fits t.rules limit ({}, out) (byteSize (t.chunks text).flatten) := by
    rw [flatten_chunks hsound]
    refine ⟨unbroken_nil, ?_⟩
    simpa [hout, Stats.entries] using hstreamed
  have hcount : out.stats.chunks + byteSize (t.chunks text).flatten ≤ limit := by
    rw [flatten_chunks hsound, hout]
    simpa using hstreamed
  obtain ⟨hrun, hfits, hcount⟩ := foldlM_runChunkAt? hsound (t.chunks text) hne hstart hcount
  have hflush := Lexer.flushAt?_eq hsound.rules.coherent hfits hcount
  have hentries : (t.run text out).stats.entries ≤ limit :=
    Nat.le_of_add_right_le (Nat.le_of_add_right_le hfits.flush.entries)
  refine ⟨?_, ⟨hentries, ?_⟩, ?_, ?_⟩
  · simp only [runAt?, hchunks, hrun, hflush, bind, Option.bind]
    rfl
  · exact (Lexer.chunks_flush ..).trans_le hcount
  · exact fun candidate i => Rulebook.lt_size_of_priority? hsound.rules.coherent
  · exact fun name i => Rulebook.lt_size_of_lookup_names hsound.rules

/-- A text with characters of every width, in chunks of two characters. Its size in bytes is the
least limit that suffices. -/
theorem runAt?_letters :
    letters.Reachable ∧ byteSize ['a', 'é', '€', '𝄞', 'a', 'b'] = 12 ∧
      letters.runAt? 12 ['a', 'é', '€', '𝄞', 'a', 'b'] .full =
        some (letters.run ['a', 'é', '€', '𝄞', 'a', 'b'] .full) ∧
      letters.runAt? 11 ['a', 'é', '€', '𝄞', 'a', 'b'] .full = none := by
  have hsize : byteSize ['a', 'é', '€', '𝄞', 'a', 'b'] = 12 := by decide
  have hout : Transcript.full.stats = {} := rfl
  obtain ⟨hrun, -⟩ := runAt?_eq reachable_letters hsize.le hout
  exact ⟨reachable_letters, hsize, hrun, by decide +kernel⟩

end Tokenizer

end Munch
