import Munch.Proofs.BlockStream
import Munch.Proofs.MaximalMunch

/-!
# What the sizes of chunks and steps change

The chunks of a text are its **blocks**, the slices between the multiples of the chunk size. A run
sees them only where it flushes, and it sees the steps nowhere.

**Theorem (`trace_of_endOfStream`).** With one flush at the end, the chunks show in their number
alone.

**Theorem (`trace_of_perChunk`).** With a flush after each chunk, every block is traced as if it
were the whole text.

**Theorem (`trace_flushing_eq_iff`).** The two policies agree on a text if and only if no segment
goes on behind the end of a block.

The first two hold because a run rescans the parts between the flushes. The third follows from the
description of a trace as the only list of greedy segments: the policies differ in their cuts alone,
so the segments for one of them are greedy for the other if they leave its cuts free.
-/

namespace Munch

variable {b : Rulebook} {text : List Char}

namespace Tokenizer

section

variable [Footprint] {t : Tokenizer}

/-! ## Blocks -/

/-- The tokenizer with another policy. -/
def flushing (t : Tokenizer) (p : FlushPolicy) : Tokenizer :=
  { t with config := { t.config with flushPolicy := p } }

/-- The text that is streamed, cut at the multiples of the chunk size. -/
def blocks (t : Tokenizer) (text : List Char) : List (List Char) :=
  slices t.config.chunkSize.toNat (t.config.streamed text)

theorem chunks_eq_blocks (h : t.Sound) (text : List Char) : t.chunks text = t.blocks text :=
  BlockStream.toList_eq_slices h.chunkSize_pos

theorem length_chunks (h : t.Sound) (text : List Char) :
    (t.chunks text).length = (t.config.streamed text).length ⌈/⌉ t.config.chunkSize.toNat := by
  rw [chunks_eq_blocks h, blocks, length_slices]

/-! ## Texts without a flush inside -/

/-- There is no flush inside a text if the flush is at the end of the stream or one chunk holds
the text. -/
theorem rescan_eq_rescanAll (h : t.Sound) (test : List Char → Bool)
    (hp : t.config.flushPolicy = .perChunk →
      (t.config.streamed text).length ≤ t.config.chunkSize.toNat) :
    t.rescan test text = t.rules.rescanAll test (t.config.streamed text) := by
  unfold rescan parts
  cases hpolicy : t.config.flushPolicy with
  | endOfStream => exact List.flatMap_singleton ..
  | perChunk =>
    show (t.chunks text).flatMap _ = _
    rw [chunks_eq_blocks h, blocks]
    by_cases hne : t.config.streamed text = []
    · rw [hne, slices_nil, Rulebook.rescanAll_nil, List.flatMap_nil]
    · rw [slices_of_length_le hne (hp hpolicy), List.flatMap_singleton]

theorem trace_eq_rescanAll {c : Config} (hb : b.Reachable) (hc : c.check = .ok ())
    (text : List Char)
    (hp : c.flushPolicy = .perChunk → (c.streamed text).length ≤ c.chunkSize.toNat) :
    trace ⟨b, c⟩ text = (b.rescanAll b.accepts (c.streamed text),
      .tally ((c.streamed text).length ⌈/⌉ c.chunkSize.toNat)
        (b.rescanAll b.accepts (c.streamed text))) := by
  have hsound : Sound ⟨b, c⟩ := ⟨hb, hc⟩
  rw [trace_eq hsound, rescan_eq_rescanAll hsound _ hp, length_chunks hsound]

/-- **With one flush at the end, the chunks show in their number alone.** A flush after a chunk that
holds the whole text is such a flush too. -/
theorem trace_of_endOfStream {c c' : Config} (hb : b.Reachable) (hc : c.check = .ok ())
    (hc' : c'.check = .ok ()) (hp : c.flushPolicy = .endOfStream)
    (htrim : c'.trimInput = c.trimInput) (text : List Char)
    (hp' : c'.flushPolicy = .perChunk → (c.streamed text).length ≤ c'.chunkSize.toNat) :
    trace ⟨b, c'⟩ text = ((trace ⟨b, c⟩ text).1,
        { (trace ⟨b, c⟩ text).2 with
          chunks := (c.streamed text).length ⌈/⌉ c'.chunkSize.toNat }) ∧
      tokenize ⟨b, c'⟩ text = ((tokenize ⟨b, c⟩ text).1,
        { (tokenize ⟨b, c⟩ text).2 with
          chunks := (c.streamed text).length ⌈/⌉ c'.chunkSize.toNat }) ∧
      (trace ⟨b, c⟩ text).2.chunks = (c.streamed text).length ⌈/⌉ c.chunkSize.toNat := by
  have hsound : Sound ⟨b, c⟩ := ⟨hb, hc⟩
  have hsound' : Sound ⟨b, c'⟩ := ⟨hb, hc'⟩
  have hstreamed : c'.streamed text = c.streamed text := by
    unfold Config.streamed
    rw [htrim]
  have htrace := trace_eq_rescanAll hb hc text fun hper => by
    rw [hp] at hper
    cases hper
  have htrace' := trace_eq_rescanAll hb hc' text fun hper => hstreamed ▸ hp' hper
  rw [hstreamed] at htrace'
  refine ⟨?_, ?_, ?_⟩
  · rw [htrace, htrace']
    rfl
  · rw [tokenize_eq hsound, tokenize_eq hsound', htrace, htrace']
    rfl
  · rw [htrace]
    rfl

end

/-- Chunks of two and of three characters, and one that holds the whole text. -/
theorem trace_of_endOfStream_letters :
    Rulebook.letters.Reachable ∧
      (letters.flushing .endOfStream).trace [' ', 'a', 'a', 'a', 'b', 'b'] =
        ([⟨"aaa", some "run", .emitted⟩, ⟨"b", some "letter", .ignored⟩,
          ⟨"b", some "letter", .ignored⟩], { emitted := 1, ignored := 2, chunks := 3 }) ∧
      trace ⟨.letters, { chunkSize := 3, stepSize := 3, flushPolicy := .endOfStream }⟩
          [' ', 'a', 'a', 'a', 'b', 'b'] =
        ([⟨"aaa", some "run", .emitted⟩, ⟨"b", some "letter", .ignored⟩,
          ⟨"b", some "letter", .ignored⟩], { emitted := 1, ignored := 2, chunks := 2 }) ∧
      tokenize ⟨.letters, {}⟩ [' ', 'a', 'a', 'a', 'b', 'b'] =
        ([⟨"aaa", "run"⟩], { emitted := 1, ignored := 2, chunks := 1 }) := by
  have hc : (letters.flushing .endOfStream).config.check = .ok () := rfl
  have hthree := trace_of_endOfStream Rulebook.reachable_letters hc
    (rfl : Config.check { chunkSize := 3, stepSize := 3, flushPolicy := .endOfStream } = .ok ())
    rfl rfl [' ', 'a', 'a', 'a', 'b', 'b'] nofun
  have hwhole := trace_of_endOfStream Rulebook.reachable_letters hc (rfl : Config.check {} = .ok ())
    rfl rfl [' ', 'a', 'a', 'a', 'b', 'b'] fun _ => by decide +kernel
  exact ⟨Rulebook.reachable_letters, by decide +kernel, hthree.1.trans (by decide +kernel),
    hwhole.2.1.trans (by decide +kernel)⟩

/-! ## A flush after each chunk -/

section

variable [Footprint] {t : Tokenizer}

theorem trace_block {d : Config} {block : List Char} (hb : b.Reachable) (hd : d.check = .ok ())
    (htrim : d.trimInput = false) (hne : block ≠ []) (hle : block.length ≤ d.chunkSize.toNat) :
    trace ⟨b, d⟩ block =
      (b.rescanAll b.accepts block, .tally 1 (b.rescanAll b.accepts block)) := by
  have hstreamed : d.streamed block = block := by
    unfold Config.streamed
    rw [htrim]
    rfl
  have hone : block.length ⌈/⌉ d.chunkSize.toNat = 1 := by
    rw [← length_slices, slices_of_length_le hne hle]
    rfl
  rw [trace_eq_rescanAll hb hd block fun _ => hstreamed.symm ▸ hle, hstreamed, hone]

theorem rescan_of_perChunk (h : t.Sound) (hp : t.config.flushPolicy = .perChunk)
    (test : List Char → Bool) (text : List Char) :
    t.rescan test text = (t.blocks text).flatMap (t.rules.rescanAll test) := by
  unfold rescan parts
  rw [hp, ← chunks_eq_blocks h]

section

variable {d : Config} (h : t.Sound) (hd : d.check = .ok ()) (htrim : d.trimInput = false)
  (hsize : t.config.chunkSize ≤ d.chunkSize)

include h hd htrim hsize

theorem trace_of_mem_blocks {block : List Char} (hmem : block ∈ t.blocks text) :
    trace ⟨t.rules, d⟩ block = (t.rules.rescanAll t.rules.accepts block,
      .tally 1 (t.rules.rescanAll t.rules.accepts block)) := by
  obtain ⟨hne, hle⟩ := ne_nil_and_length_le_of_mem_slices h.chunkSize_pos hmem
  exact trace_block h.rules hd htrim hne (Nat.le_trans hle (UInt64.le_iff_toNat_le.1 hsize))

theorem segments_of_perChunk (hp : t.config.flushPolicy = .perChunk) (text : List Char) :
    (t.trace text).1 = (t.blocks text).flatMap fun block => (trace ⟨t.rules, d⟩ block).1 := by
  rw [trace_fst h, rescan_of_perChunk h hp]
  refine List.flatMap_congr fun block hmem => ?_
  rw [trace_of_mem_blocks h hd htrim hsize hmem]

theorem tokens_of_perChunk (hp : t.config.flushPolicy = .perChunk) (text : List Char) :
    t.tokens text = (t.blocks text).flatMap (tokens ⟨t.rules, d⟩) := by
  have hsound : Sound ⟨t.rules, d⟩ := ⟨h.rules, hd⟩
  rw [tokens_eq h, segments_of_perChunk h hd htrim hsize hp, List.filter_flatMap,
    List.map_flatMap]
  exact List.flatMap_congr fun block _ => (tokens_eq hsound block).symm

theorem counter_of_perChunk (hp : t.config.flushPolicy = .perChunk) (text : List Char)
    (k : Resolution) :
    (t.trace text).2.counter k =
      ((t.blocks text).map fun block => (trace ⟨t.rules, d⟩ block).2.counter k).sum := by
  have hsound : Sound ⟨t.rules, d⟩ := ⟨h.rules, hd⟩
  rw [counter_trace h, segments_of_perChunk h hd htrim hsize hp, List.countP_flatMap]
  exact congrArg List.sum (List.map_congr_left fun block _ => (counter_trace hsound block k).symm)

end

/-- The steps of a chunk do not show. -/
theorem trace_stepSize (h : t.Sound) {n : UInt64}
    (hn : { t.config with stepSize := n }.check = .ok ()) (text : List Char) :
    trace ⟨t.rules, { t.config with stepSize := n }⟩ text = t.trace text := by
  have hsound : Sound ⟨t.rules, { t.config with stepSize := n }⟩ := ⟨h.rules, hn⟩
  rw [trace_eq hsound, trace_eq h]
  rfl

theorem tokenize_stepSize (h : t.Sound) {n : UInt64}
    (hn : { t.config with stepSize := n }.check = .ok ()) (text : List Char) :
    tokenize ⟨t.rules, { t.config with stepSize := n }⟩ text = t.tokenize text := by
  have hsound : Sound ⟨t.rules, { t.config with stepSize := n }⟩ := ⟨h.rules, hn⟩
  rw [tokenize_eq hsound, tokenize_eq h, trace_stepSize h hn]

omit [Footprint] in
/-- Nothing is pending after a chunk. -/
theorem runChunk_fst (hp : t.config.flushPolicy = .perChunk) (s : Lexer × Transcript)
    (chunk : List Char) : (t.runChunk s chunk).1 = {} := by
  unfold runChunk
  rw [hp]
  exact Lexer.flush_fst ..

/-- **With a flush after each chunk, every block is traced as if it were the whole text.** So the
size of the steps makes no difference, and nothing that is pending goes from a chunk to the next. -/
theorem trace_of_perChunk (h : t.Reachable) (hp : t.config.flushPolicy = .perChunk)
    (text : List Char) :
    (∀ d : Config, d.check = .ok () → d.trimInput = false → t.config.chunkSize ≤ d.chunkSize →
        (t.trace text).1 = (t.blocks text).flatMap (fun block => (trace ⟨t.rules, d⟩ block).1) ∧
        t.tokens text = (t.blocks text).flatMap (tokens ⟨t.rules, d⟩) ∧
        (∀ k, (t.trace text).2.counter k =
          ((t.blocks text).map fun block => (trace ⟨t.rules, d⟩ block).2.counter k).sum) ∧
        ∀ block ∈ t.blocks text, (trace ⟨t.rules, d⟩ block).2.chunks = 1) ∧
      (∀ n, { t.config with stepSize := n }.check = .ok () →
        trace ⟨t.rules, { t.config with stepSize := n }⟩ text = t.trace text ∧
          tokenize ⟨t.rules, { t.config with stepSize := n }⟩ text = t.tokenize text) ∧
      ∀ s chunk, (t.runChunk s chunk).1 = {} := by
  have hsound := h.sound
  refine ⟨fun d hd htrim hsize => ⟨segments_of_perChunk hsound hd htrim hsize hp text,
      tokens_of_perChunk hsound hd htrim hsize hp text,
      counter_of_perChunk hsound hd htrim hsize hp text, fun block hmem => ?_⟩,
    fun n hn => ⟨trace_stepSize hsound hn text, tokenize_stepSize hsound hn text⟩,
    runChunk_fst hp⟩
  rw [trace_of_mem_blocks hsound hd htrim hsize hmem]
  rfl

end

/-- The second block begins inside a run of one letter. -/
theorem trace_of_perChunk_letters :
    letters.Reachable ∧ letters.config.flushPolicy = .perChunk ∧
      letters.blocks ['a', 'a', 'a', 'b'] = [['a', 'a'], ['a', 'b']] ∧
      (letters.trace ['a', 'a', 'a', 'b']).1 =
        (letters.blocks ['a', 'a', 'a', 'b']).flatMap (fun block =>
          (trace ⟨.letters, { trimInput := false }⟩ block).1) ∧
      ∀ k, (letters.trace ['a', 'a', 'a', 'b']).2.counter k =
        ((letters.blocks ['a', 'a', 'a', 'b']).map fun block =>
          (trace ⟨.letters, { trimInput := false }⟩ block).2.counter k).sum := by
  obtain ⟨hblocks, -, -⟩ := trace_of_perChunk reachable_letters rfl ['a', 'a', 'a', 'b']
  obtain ⟨hsegments, -, hcounter, -⟩ := hblocks { trimInput := false } rfl rfl (by decide)
  exact ⟨reachable_letters, rfl, by decide +kernel, hsegments, hcounter⟩

end Tokenizer

/-! ## Borders between segments -/

/-- The position lies between two segments of the text that they make up. -/
def Borders (segments : List Segment) (k : Nat) : Prop :=
  ∃ front tail, segments = front ++ tail ∧ front ≠ [] ∧ tail ≠ [] ∧
    (front.flatMap Segment.chars).length = k

theorem borders_cons_iff {s : Segment} {segments : List Segment} {k : Nat} :
    Borders (s :: segments) k ↔
      (k = s.chars.length ∧ segments ≠ []) ∨
        ∃ m, k = s.chars.length + m ∧ Borders segments m := by
  constructor
  · rintro ⟨front, tail, heq, hfront, htail, rfl⟩
    obtain ⟨s', front, rfl⟩ := List.exists_cons_of_ne_nil hfront
    rw [List.cons_append, List.cons.injEq] at heq
    obtain ⟨rfl, rfl⟩ := heq
    by_cases hnil : front = []
    · subst hnil
      exact .inl ⟨by simp, htail⟩
    · exact .inr ⟨_, by simp, front, tail, rfl, hnil, htail, rfl⟩
  · rintro (⟨rfl, hne⟩ | ⟨m, rfl, front, tail, rfl, -, htail, rfl⟩)
    · exact ⟨[s], segments, rfl, List.cons_ne_nil _ _, hne, by simp⟩
    · exact ⟨s :: front, tail, rfl, List.cons_ne_nil _ _, htail, by simp⟩

section

variable {test : List Char → Bool} {cut cut' : Nat → Prop} {data : List Char} {i k : Nat}
  {segments : List Segment}

theorem length_extract_of_le {j : Nat} (hj : j ≤ data.length) :
    (data.extract i j).length = j - i := by
  rw [List.extract_eq_take_drop, List.length_take, List.length_drop]
  omega

/-- A cut inside a text lies between two greedy segments. -/
theorem GreedyFrom.borders (h : GreedyFrom b test cut data i segments) (hcut : cut k) (hi : i < k)
    (hk : k < data.length) : Borders segments (k - i) := by
  induction h with
  | nil => omega
  | @cons i j s segments hij hj hs hg hrest ih =>
    have hlen : s.chars.length = j - i := by rw [hs, length_extract_of_le hj]
    rw [borders_cons_iff, hlen]
    rcases Nat.lt_trichotomy k j with hlt | rfl | hgt
    · exact (hg.uncut k hi hlt hcut).elim
    · refine .inl ⟨rfl, ?_⟩
      rintro rfl
      cases hrest
      omega
    · exact .inr ⟨k - j, by omega, ih hgt⟩

/-- Greedy segments stay greedy under further cuts if these lie between them. -/
theorem GreedyFrom.recut (h : GreedyFrom b test cut data i segments) (hcut : ∀ k, cut k → cut' k)
    (hborder : ∀ k, cut' k → i < k → k < data.length → Borders segments (k - i)) :
    GreedyFrom b test cut' data i segments := by
  induction h with
  | nil => exact .nil
  | @cons i j s segments hij hj hs hg hrest ih =>
    -- What lies between the later segments is what the whole list leaves behind this one.
    have hlen : s.chars.length = j - i := by rw [hs, length_extract_of_le hj]
    refine .cons hij hj hs ⟨fun k hk hkj hcut' => ?_, hg.unknown, fun hkind => ?_⟩
      (ih fun k hcut' hk hlt => ?_)
    · rcases borders_cons_iff.1 (hborder k hcut' hk (by omega)) with ⟨heq, -⟩ | ⟨m, heq, -⟩ <;>
        omega
    · obtain ⟨hrun, hwin, hend⟩ := hg.known hkind
      exact ⟨hrun, hwin, hend.imp_left (hcut j)⟩
    · rcases borders_cons_iff.1 (hborder k hcut' (by omega) hlt) with ⟨heq, -⟩ | ⟨m, heq, hm⟩
      · omega
      · obtain rfl : m = k - j := by omega
        exact hm

end

namespace Tokenizer

/-! ## The two policies -/

section

variable [Footprint] {t : Tokenizer}

theorem Sound.flushing (h : t.Sound) (p : FlushPolicy) : (t.flushing p).Sound :=
  ⟨h.rules, h.config⟩

theorem trace_flushing (h : t.Sound) (p : FlushPolicy) (text : List Char) :
    (t.flushing p).trace text = ((t.flushing p).rescan t.rules.accepts text,
      .tally (t.chunks text).length ((t.flushing p).rescan t.rules.accepts text)) :=
  trace_eq (h.flushing p) text

/-- **The policies agree on a text if and only if no segment goes on behind the end of a block.** -/
theorem trace_flushing_eq_iff (h : t.Reachable) (text : List Char) :
    (t.flushing .perChunk).trace text = (t.flushing .endOfStream).trace text ↔
      ∀ k, t.config.chunkSize.toNat ∣ k → 0 < k → k < (t.config.streamed text).length →
        Borders ((t.flushing .endOfStream).trace text).1 k := by
  have hper := munches_iff (h.sound.flushing .perChunk) h.sound.fits_of_accepts text
  have hend := munches_iff (h.sound.flushing .endOfStream) h.sound.fits_of_accepts text
  rw [trace_flushing h.sound, trace_flushing h.sound]
  constructor
  · intro heq k hdvd hpos hlt
    have hgreedy := (hper _).2 (congrArg Prod.fst heq).symm
    exact hgreedy.borders (.inr ⟨rfl, hdvd⟩) hpos hlt
  · intro hborder
    -- The segments of the one run are greedy under the cuts of the other, so they are its trace.
    have hgreedy : (t.flushing .perChunk).Munches t.rules.accepts text
        ((t.flushing .endOfStream).rescan t.rules.accepts text) := by
      refine GreedyFrom.recut ((hend _).2 rfl) ?_ ?_
      · rintro k (heq | ⟨hpolicy, -⟩)
        · exact .inl heq
        · cases hpolicy
      · rintro k (heq | ⟨-, hdvd⟩) hpos hlt
        · exact (Nat.ne_of_lt hlt heq).elim
        · exact hborder k hdvd hpos hlt
    rw [(hper _).1 hgreedy]

end

/-- A run of one letter that ends with the first block, and one that goes on behind it. -/
theorem trace_flushing_letters :
    letters.Reachable ∧
      (letters.flushing .perChunk).trace ['a', 'a', 'b'] =
        (letters.flushing .endOfStream).trace ['a', 'a', 'b'] ∧
      Borders ((letters.flushing .endOfStream).trace ['a', 'a', 'b']).1 2 ∧
      ¬∀ k, letters.config.chunkSize.toNat ∣ k → 0 < k → k < 4 →
        Borders ((letters.flushing .endOfStream).trace ['a', 'a', 'a', 'b']).1 k := by
  have hsame : (letters.flushing .perChunk).trace ['a', 'a', 'b'] =
      (letters.flushing .endOfStream).trace ['a', 'a', 'b'] := by decide +kernel
  have hother : (letters.flushing .perChunk).trace ['a', 'a', 'a', 'b'] ≠
      (letters.flushing .endOfStream).trace ['a', 'a', 'a', 'b'] := by decide +kernel
  exact ⟨reachable_letters, hsame,
    (trace_flushing_eq_iff reachable_letters _).1 hsame 2 (by decide) (by decide)
      (by decide +kernel),
    fun hall => hother ((trace_flushing_eq_iff reachable_letters _).2 hall)⟩

end Tokenizer

end Munch
