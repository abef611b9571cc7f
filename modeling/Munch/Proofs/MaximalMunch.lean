import Munch.Proofs.Tokenizer

/-!
# Maximal munch

A segment of a text is **greedy** if no cut lies inside it and it goes as far as it may: an unknown
one is a character that fails the test, and any other one has only prefixes that pass, up to a cut
or a prefix that fails. A text is **cut** at its end, and at the edges of the chunks if there is a
flush after each.

**Theorem (`Tokenizer.munches_iff`).** Rescanning the parts of a text gives the only list of greedy
segments that make it up.

So a trace is this list where the probe is the test. It is the list where the rules are the test,
for every text and every valid configuration, if and only if the book is thorough.
-/

namespace Munch

/-! ## Greedy segments -/

/-- The segment `s` is what the rules make of the characters of `data` from `i` to `j`. -/
structure Greedy (b : Rulebook) (test : List Char → Bool) (cut : Nat → Prop) (data : List Char)
    (i j : Nat) (s : Segment) : Prop where
  uncut : ∀ k, i < k → k < j → ¬cut k
  unknown : s.kind = .unknown →
    j = i + 1 ∧ test (data.extract i j) = false ∧ s.name = some unknownName
  known : s.kind ≠ .unknown →
    (∀ k, i < k → k ≤ j → test (data.extract i k) = true) ∧
      (∃ r, b.rules.toList.find? (·.fits (data.extract i j)) = some r ∧ s.name = some r.name ∧
        s.kind = if r.ignored then .ignored else .emitted) ∧
      (cut j ∨ test (data.extract i (j + 1)) = false)

/-- Greedy segments that make up the characters of `data` from a position on. -/
inductive GreedyFrom (b : Rulebook) (test : List Char → Bool) (cut : Nat → Prop)
    (data : List Char) : Nat → List Segment → Prop
  | nil : GreedyFrom b test cut data data.length []
  | cons {i j : Nat} {s : Segment} {segments : List Segment} :
      i < j → j ≤ data.length → s.chars = data.extract i j → Greedy b test cut data i j s →
      GreedyFrom b test cut data j segments → GreedyFrom b test cut data i (s :: segments)

variable {b : Rulebook} {test : List Char → Bool} {cut : Nat → Prop} {data : List Char}
  {i j j' : Nat} {s s' : Segment} {segments segments' : List Segment}

/-! ## Uniqueness -/

theorem Greedy.end_le (h : Greedy b test cut data i j s) (h' : Greedy b test cut data i j' s')
    (hi : i < j) : j' ≤ j := by
  by_contra hlt
  rw [Nat.not_le] at hlt
  -- If `s'` went on behind the end of `s`, then neither a cut nor a failed prefix could end `s`.
  by_cases hk' : s'.kind = .unknown
  · have hj' := (h'.unknown hk').1
    omega
  have hpass := (h'.known hk').1
  by_cases hk : s.kind = .unknown
  · obtain ⟨-, hfail, -⟩ := h.unknown hk
    rw [hpass j hi (Nat.le_of_lt hlt)] at hfail
    cases hfail
  · obtain ⟨-, -, hcut | hfail⟩ := h.known hk
    · exact h'.uncut j hi hlt hcut
    · rw [hpass (j + 1) (by omega) hlt] at hfail
      cases hfail

theorem Greedy.unknown_of_unknown (h : Greedy b test cut data i j s)
    (h' : Greedy b test cut data i j s') (hi : i < j) (hk : s.kind = .unknown) :
    s'.kind = .unknown := by
  by_contra hk'
  have hfail := (h.unknown hk).2.1
  rw [(h'.known hk').1 j hi (Nat.le_refl j)] at hfail
  cases hfail

/-- There is one greedy segment from a position. -/
theorem Greedy.unique (h : Greedy b test cut data i j s) (h' : Greedy b test cut data i j' s')
    (hi : i < j) (hi' : i < j') (hs : s.chars = data.extract i j)
    (hs' : s'.chars = data.extract i j') : j = j' ∧ s = s' := by
  obtain rfl : j = j' := Nat.le_antisymm (h'.end_le h hi') (h.end_le h' hi)
  have htext : s.text = s'.text := String.toList_inj.1 (hs.trans hs'.symm)
  by_cases hk : s.kind = .unknown
  · have hk' := h.unknown_of_unknown h' hi hk
    have hname := (h.unknown hk).2.2.trans (h'.unknown hk').2.2.symm
    exact ⟨rfl, Segment.ext htext hname (hk.trans hk'.symm)⟩
  · have hk' : s'.kind ≠ .unknown := fun hk' => hk (h'.unknown_of_unknown h hi hk')
    obtain ⟨-, ⟨r, hr, hname, hkind⟩, -⟩ := h.known hk
    obtain ⟨-, ⟨r', hr', hname', hkind'⟩, -⟩ := h'.known hk'
    obtain rfl : r = r' := Option.some.inj (hr.symm.trans hr')
    exact ⟨rfl, Segment.ext htext (hname.trans hname'.symm) (hkind.trans hkind'.symm)⟩

theorem GreedyFrom.unique (h : GreedyFrom b test cut data i segments)
    (h' : GreedyFrom b test cut data i segments') : segments = segments' := by
  induction h generalizing segments' with
  | nil =>
    cases h' with
    | nil => rfl
    | cons hi hj => exact (Nat.not_lt.2 hj hi).elim
  | cons hi hj hs hg _ ih =>
    cases h' with
    | nil => exact (Nat.not_lt.2 hj hi).elim
    | cons hi' hj' hs' hg' hrest' =>
      obtain ⟨rfl, rfl⟩ := hg.unique hg' hi hi' hs hs'
      rw [ih hrest']

/-! ## Rescanning is greedy -/

theorem extract_add {text : List Char} (h : data.drop i = text) (n : Nat) :
    data.extract i (i + n) = text.take n := by
  rw [List.extract_eq_take_drop, h, Nat.add_sub_cancel_left]

/-- If the rest of a text is one greedy token, all its prefixes pass the test. -/
theorem GreedyFrom.unbroken (h : GreedyFrom b test cut data i [s]) (hk : s.kind ≠ .unknown) :
    Unbroken test (data.drop i) := by
  intro p hp hne
  cases h with
  | cons hi _ _ hg hrest =>
    cases hrest
    have hle := hp.length_le
    rw [List.length_drop] at hle
    have hpos := List.length_pos_of_ne_nil hne
    have hpass := (hg.known hk).1 (i + p.length) (by omega) (by omega)
    rwa [extract_add rfl, ← List.prefix_iff_eq_take.1 hp] at hpass

theorem greedy_unknown {c : Char} {text : List Char} (hdata : data.drop i = c :: text)
    (hfail : test [c] = false) : Greedy b test cut data i (i + 1) (.unknown c) where
  uncut := by omega
  unknown _ := ⟨rfl, by rw [extract_add hdata]; exact hfail, rfl⟩
  known h := (h rfl).elim

theorem greedy_token {text : List Char} {n : Nat} {r : Rule} (hdata : data.drop i = text)
    (hn : n ≤ text.length) (hrun : Unbroken test (text.take n))
    (huncut : ∀ k, i < k → k < i + n → ¬cut k)
    (hend : cut (i + n) ∨ test (text.take (n + 1)) = false)
    (hr : b.rules.toList.find? (·.fits (text.take n)) = some r) :
    Greedy b test cut data i (i + n) (r.segment (text.take n)) where
  uncut := huncut
  unknown h := (r.kind_segment_ne_unknown _ h).elim
  known _ := by
    refine ⟨fun k hk hkn => ?_, ⟨r, ?_, rfl, rfl⟩, ?_⟩
    · obtain ⟨m, rfl⟩ := Nat.exists_eq_add_of_lt hk
      rw [Nat.add_assoc, extract_add hdata]
      exact hrun.take_succ (by omega) (by omega)
    · rwa [extract_add hdata]
    · rwa [Nat.add_assoc, extract_add hdata]

theorem GreedyFrom.unknown {c : Char} {text : List Char} (hdata : data.drop i = c :: text)
    (hfail : test [c] = false) (hrest : GreedyFrom b test cut data (i + 1) segments) :
    GreedyFrom b test cut data i (.unknown c :: segments) := by
  have hlen := congrArg List.length hdata
  rw [List.length_drop, List.length_cons] at hlen
  refine .cons (Nat.lt_add_one i) (by omega) ?_ (greedy_unknown hdata hfail) hrest
  rw [extract_add hdata, Segment.chars_unknown]
  rfl

theorem GreedyFrom.token {text : List Char} {n : Nat} (hdata : data.drop i = text) (h₀ : n ≠ 0)
    (hn : n ≤ text.length) (hrun : Unbroken test (text.take n))
    (huncut : ∀ k, i < k → k < i + n → ¬cut k)
    (hend : cut (i + n) ∨ test (text.take (n + 1)) = false) (hfit : b.fits (text.take n) = true)
    (hrest : GreedyFrom b test cut data (i + n) segments) :
    GreedyFrom b test cut data i ((b.token? (text.take n)).toList ++ segments) := by
  obtain ⟨r, hr, htoken⟩ := Rulebook.token?_of_fits hfit
  have hlen := congrArg List.length hdata
  rw [List.length_drop] at hlen
  rw [htoken]
  refine .cons (Nat.lt_add_of_pos_right (Nat.pos_of_ne_zero h₀)) (by omega) ?_
    (greedy_token hdata hn hrun huncut hend hr) hrest
  rw [extract_add hdata, Rule.chars_segment]

/-- The segments of a part are greedy if the part goes up to a cut and has none inside. -/
theorem greedyFrom_part (hfit : ∀ p, test p = true → b.fits p = true) (part : List Char)
    {post : List Char} (hcut : cut j) (hrest : GreedyFrom b test cut data j segments) :
    ∀ i, data.drop i = part ++ post → i + part.length = j → (∀ k, i < k → k < j → ¬cut k) →
      GreedyFrom b test cut data i (b.rescanAll test part ++ segments) := by
  fun_induction b.rescan test part with
  | case1 =>
    intro i hdata hj huncut
    rw [Rulebook.rescanAll_nil]
    rw [← hj] at hrest
    exact hrest
  | case2 c cs n hn ih =>
    intro i hdata hj huncut
    rw [Rulebook.rescanAll_cons_of_eq_zero hn]
    rw [List.length_cons] at hj
    refine .unknown hdata (test_of_prefixRun_eq_zero hn)
      (ih _ ?_ (by omega) fun k hk => huncut k (by omega))
    rw [← List.drop_drop, hdata]
    rfl
  | case3 c cs n h₀ hn =>
    intro i hdata hj huncut
    have hrun : Unbroken test (c :: cs) := prefixRun_eq_length_iff.1 hn
    have hpart := hfit _ (hrun.self (List.cons_ne_nil c cs))
    have htake : (c :: cs ++ post).take (c :: cs).length = c :: cs := List.take_left
    rw [Rulebook.rescanAll_of_unbroken hrun (List.cons_ne_nil c cs), ← htake]
    subst hj
    refine .token hdata (Nat.succ_ne_zero cs.length) ?_ ?_ huncut (.inl hcut) ?_ hrest
    · rw [List.length_append]
      exact Nat.le_add_right ..
    · rwa [htake]
    · rwa [htake]
  | case4 c cs n h₀ hn ih =>
    intro i hdata hj huncut
    have hlt : n < (c :: cs).length := Nat.lt_of_le_of_ne (prefixRun_le_length ..) hn
    have htake : (c :: cs ++ post).take n = (c :: cs).take n :=
      List.take_append_of_le_length (Nat.le_of_lt hlt)
    have hdrop : data.drop (i + n) = (c :: cs).drop n ++ post := by
      rw [← List.drop_drop, hdata, List.drop_append_of_le_length (Nat.le_of_lt hlt)]
    have hlen : (i + n) + ((c :: cs).drop n).length = j := by
      rw [List.length_drop]
      omega
    rw [Rulebook.rescanAll_of_lt h₀ hlt, List.append_assoc]
    show GreedyFrom _ _ _ _ _ ((b.token? ((c :: cs).take n)).toList ++ _)
    rw [← htake]
    refine .token hdata h₀ ?_ ?_ (fun k hk hkn => huncut k hk (by omega)) (.inr ?_) ?_
      (ih _ hdrop hlen fun k hk => huncut k (by omega))
    · rw [List.length_append]
      omega
    · rw [htake]
      exact unbroken_take_prefixRun test (c :: cs)
    · rw [List.take_append_of_le_length hlt]
      exact test_take_prefixRun_succ hlt
    · rw [htake]
      exact hfit _ (test_take_prefixRun h₀)

/-- A block that begins at a cut ends at the next one. -/
theorem block_between_cuts {size : Nat} {block : List Char}
    (hblock : block = (data.drop i).take size)
    (hne : block ≠ []) (hi : i = data.length ∨ size ∣ i) :
    i + block.length ≤ data.length ∧
      (i + block.length = data.length ∨ size ∣ i + block.length) ∧
      ∀ k, i < k → k < i + block.length → ¬(k = data.length ∨ size ∣ k) := by
  have hlen := congrArg List.length hblock
  have hpos := List.length_pos_of_ne_nil hne
  rw [List.length_take, List.length_drop] at hlen
  obtain ⟨m, rfl⟩ : size ∣ i := by
    rcases hi with rfl | hdvd
    · omega
    · exact hdvd
  refine ⟨by omega, ?_, fun k hk hk' => ?_⟩
  · by_cases hfull : size ≤ data.length - size * m
    · right
      rw [hlen, Nat.min_eq_left hfull]
      exact Nat.dvd_add (Nat.dvd_mul_right ..) (Nat.dvd_refl _)
    · left
      omega
  · rintro (rfl | hdvd)
    · omega
    · refine Nat.not_dvd_of_lt_of_lt_mul_succ hk ?_ hdvd
      rw [Nat.mul_succ]
      omega

/-- The parts of a text that is cut at the multiples of a size are the blocks of that size. -/
theorem greedyFrom_blocks (hfit : ∀ p, test p = true → b.fits p = true) (stream : BlockStream)
    (hsize : 0 < stream.size) :
    ∀ i, data.drop i = stream.rest → i ≤ data.length → i = data.length ∨ stream.size ∣ i →
      GreedyFrom b test (fun k => k = data.length ∨ stream.size ∣ k) data i
        (stream.toList.flatMap (b.rescanAll test)) := by
  unfold BlockStream.toList
  fun_induction BlockStream.blocks stream with
  | case1 stream hn =>
    intro i hdata hle _
    have hlen := congrArg List.length hdata
    rw [BlockStream.rest_of_next?_eq_none hsize hn, List.length_drop, List.length_nil] at hlen
    obtain rfl : i = data.length := by omega
    exact .nil
  | case2 stream block stream' hn ih =>
    intro i hdata hle hi
    obtain ⟨hblock, hne⟩ := BlockStream.block_of_next?_eq_some hn
    rw [← hdata] at hblock
    obtain ⟨hle', hcut, huncut⟩ := block_between_cuts hblock hne hi
    have hrest := BlockStream.append_of_next?_eq_some hn
    have hdata' : data.drop (i + block.length) = stream'.rest := by
      rw [← List.drop_drop, hdata, ← hrest, List.drop_left]
    rw [BlockStream.size_of_next?_eq_some hn] at ih
    rw [List.map_cons, List.flatMap_cons]
    exact greedyFrom_part hfit block hcut (ih hsize _ hdata' hle' hcut) i (hdata.trans hrest.symm)
      rfl huncut

namespace Tokenizer

variable {t : Tokenizer} {text : List Char}

/-- The positions in a text where a token is forced out. -/
def Cut (t : Tokenizer) (data : List Char) (k : Nat) : Prop :=
  k = data.length ∨ t.config.flushPolicy = .perChunk ∧ t.config.chunkSize.toNat ∣ k

/-- The segments make up the text that is streamed, and each is greedy. -/
def Munches (t : Tokenizer) (test : List Char → Bool) (text : List Char)
    (segments : List Segment) : Prop :=
  GreedyFrom t.rules test (t.Cut (t.config.streamed text)) (t.config.streamed text) 0 segments

theorem munches_rescan [Footprint] (h : t.Sound) (hfit : ∀ p, test p = true → t.rules.fits p = true)
    (text : List Char) : t.Munches test text (t.rescan test text) := by
  unfold Munches rescan parts
  cases hp : t.config.flushPolicy with
  | perChunk =>
    have hcut : t.Cut (t.config.streamed text) = fun k =>
        k = (t.config.streamed text).length ∨ t.config.chunkSize.toNat ∣ k := by
      funext k
      simp [Cut, hp]
    rw [hcut]
    exact greedyFrom_blocks hfit (.ofText _ _) h.chunkSize_pos 0 rfl (Nat.zero_le _)
      (.inr (Nat.dvd_zero _))
  | endOfStream =>
    rw [List.flatMap_singleton, ← List.append_nil (t.rules.rescanAll ..)]
    refine greedyFrom_part hfit (t.config.streamed text) (.inl rfl) .nil 0
      (List.append_nil _).symm (Nat.zero_add _) fun k _ hk hcut => ?_
    rcases hcut with hend | ⟨hper, -⟩
    · omega
    · rw [hp] at hper
      cases hper

/-- **Rescanning the parts of a text gives the only greedy segments.** -/
theorem munches_iff [Footprint] (h : t.Sound) (hfit : ∀ p, test p = true → t.rules.fits p = true)
    (text : List Char) (segments : List Segment) :
    t.Munches test text segments ↔ segments = t.rescan test text := by
  constructor
  · exact fun hg => hg.unique (munches_rescan h hfit text)
  · rintro rfl
    exact munches_rescan h hfit text

/-- **A trace is the only list of greedy segments, with the probe as the test.** With the rules as
the test, this holds if and only if the book is thorough. -/
theorem trace_eq_iff [Footprint] (h : t.Reachable) :
    (∀ c, c.check = .ok () → ∀ text segments,
        Munches ⟨t.rules, c⟩ t.rules.accepts text segments ↔
          segments = (trace ⟨t.rules, c⟩ text).1) ∧
      ((∀ c, c.check = .ok () → ∀ text segments,
          Munches ⟨t.rules, c⟩ t.rules.fits text segments ↔
            segments = (trace ⟨t.rules, c⟩ text).1) ↔ t.rules.Thorough) := by
  have hcoh := h.sound.rules.coherent
  have hfit : ∀ p, t.rules.accepts p = true → t.rules.fits p = true := fun _ => hcoh.fits_of_accepts
  have hprobe : ∀ c, c.check = .ok () → ∀ text segments,
      Munches ⟨t.rules, c⟩ t.rules.accepts text segments ↔
        segments = (trace ⟨t.rules, c⟩ text).1 := by
    intro c hc text segments
    have hsound : Sound ⟨t.rules, c⟩ := ⟨h.sound.rules, hc⟩
    rw [trace_fst hsound]
    exact munches_iff hsound hfit text segments
  refine ⟨hprobe, fun hall text hne hrun => ?_, fun ht c hc text segments => ?_⟩
  · -- Without a cut inside the text, the rules make one token of it.
    let c : Config := { flushPolicy := .endOfStream, trimInput := false }
    have hsound : Sound ⟨t.rules, c⟩ := ⟨h.sound.rules, rfl⟩
    obtain ⟨r, -, htoken⟩ := Rulebook.token?_of_fits (hrun.self hne)
    have hrescan : rescan ⟨t.rules, c⟩ t.rules.fits text = [r.segment text] := by
      show [text].flatMap _ = _
      rw [List.flatMap_singleton, Rulebook.rescanAll_of_unbroken hrun hne, htoken]
      rfl
    have htrace : [r.segment text] = (trace ⟨t.rules, c⟩ text).1 :=
      (hall c rfl text _).1 ((munches_iff hsound (fun _ hp => hp) text _).2 hrescan.symm)
    have hacc : Unbroken t.rules.accepts text :=
      ((hprobe c rfl text _).2 htrace).unbroken (r.kind_segment_ne_unknown text)
    exact hacc.self hne
  · have hsound : Sound ⟨t.rules, c⟩ := ⟨h.sound.rules, hc⟩
    rw [trace_fst hsound, munches_iff hsound fun _ hp => hp]
    unfold rescan
    rw [ht.rescanAll_eq hcoh]

/-- The cut after two characters splits a run of one letter. -/
theorem trace_letters :
    letters.Reachable ∧ letters.config.check = .ok () ∧ letters.rules.Thorough ∧
      (letters.trace ['a', 'a', 'a', 'é', 'b']).1 =
        [⟨"aa", some "run", .emitted⟩, ⟨"a", some "run", .emitted⟩,
          ⟨"é", some "_unknown_", .unknown⟩, ⟨"b", some "letter", .ignored⟩] ∧
      letters.Munches letters.rules.fits ['a', 'a', 'a', 'é', 'b']
        (letters.trace ['a', 'a', 'a', 'é', 'b']).1 := by
  have ht : letters.rules.Thorough :=
    Rulebook.thorough_of_not_nullableInside Rulebook.reachable_letters.coherent (by decide +kernel)
  exact ⟨reachable_letters, rfl, ht, by decide +kernel,
    ((trace_eq_iff reachable_letters).2.2 ht letters.config rfl _ _).2 rfl⟩

/-- The trace has two segments where, with the rules as the test, the whole text is greedy. -/
theorem trace_inside :
    Reachable ⟨.inside, {}⟩ ∧
      (trace ⟨.inside, {}⟩ ['a', 'é', 'a']).1 =
        [⟨"aé", some "any", .emitted⟩, ⟨"a", some "any", .emitted⟩] ∧
      ∀ segments, Munches ⟨.inside, {}⟩ Rulebook.inside.fits ['a', 'é', 'a'] segments ↔
        segments = [⟨"aéa", some "any", .emitted⟩] := by
  have hreach : Reachable ⟨.inside, {}⟩ := reachable_mk Rulebook.reachable_inside rfl
  have hrescan : rescan ⟨.inside, {}⟩ Rulebook.inside.fits ['a', 'é', 'a'] =
      [⟨"aéa", some "any", .emitted⟩] := by decide +kernel
  refine ⟨hreach, by decide +kernel, fun segments => ?_⟩
  rw [← hrescan]
  exact munches_iff hreach.sound (fun _ hp => hp) _ _

end Tokenizer

end Munch
