import Munch.Proofs.Calls
import Munch.Proofs.Naming

/-!
# Loading a rule file

To load a rule file is to check its configuration, to add its rules in order, and to ignore its
names. Ignoring cannot fail, so a rule file is refused for its configuration or for a rule.

**Clean entries.** All patterns compile, no two entries have the same pattern and flag, and the
patterns of the first entries, however many, are not too big for one set.

**Offences.** An entry **offends** after others if its pattern does not compile, or else if one of
these has its pattern and its flag, or else if its pattern and theirs are too big for one set. The
flags count as they are written, as nothing is ignored yet.

**Theorem (`ofRuleFile_eq_error_iff`).** A rule file is refused for a configuration that is not
valid, or else for the first rule that offends after those before it.

**Theorem (`exists_ofRuleFile_iff`).** It loads if and only if its configuration is valid and its
rules are clean.

**Theorem (`ofRuleFile_iff`).** What it loads has its rules in order, each with its flag or with the
flag set if it is the first of an ignored name. The order of the ignored names does not show in it,
and it is what adding the rules and ignoring the names one by one leads to.

Entries that are clean can all be added, and then the book holds just these; so whether the next one
is refused depends on the entries before it alone. Ignoring a name changes no name, so all names are
looked up in the entries as they are written.

Patterns that compile one by one may still be too big for one set, as those of `heavy` are.
-/

namespace Munch

open Pattern (ofSource WithinLimit RoomInTurn)

section

variable [Footprint] {e : RuleEntry} {es : List RuleEntry} {p : Pattern} {ps : List Pattern}
  {err : Error}

namespace RuleEntry

/-- What makes two entries clash. -/
def key (e : RuleEntry) : String × Bool := (e.pattern, e.ignored)

/-! ## The patterns of entries -/

/-- The patterns of the entries, in order. -/
def HavePatterns (es : List RuleEntry) (ps : List Pattern) : Prop :=
  es.map (fun e => ofSource e.pattern) = ps.map Except.ok

theorem HavePatterns.unique {ps' : List Pattern} (h : HavePatterns es ps)
    (h' : HavePatterns es ps') : ps = ps' :=
  List.map_injective_iff.2 (fun _ _ => Except.ok.inj) (h.symm.trans h')

theorem havePatterns_nil : HavePatterns [] [] := rfl

theorem HavePatterns.concat (h : HavePatterns es ps) (hp : ofSource e.pattern = .ok p) :
    HavePatterns (es ++ [e]) (ps ++ [p]) := by
  unfold HavePatterns at h ⊢
  rw [List.map_append, List.map_append, h, List.map_singleton, hp]
  rfl

theorem exists_havePatterns (h : ∀ e ∈ es, ∃ p, ofSource e.pattern = .ok p) :
    ∃ ps, HavePatterns es ps := by
  induction es using List.reverseRecOn with
  | nil => exact ⟨[], rfl⟩
  | append_singleton es e ih =>
    obtain ⟨ps, hps⟩ := ih fun d hd => h d (by simp [hd])
    obtain ⟨p, hp⟩ := h e (by simp)
    exact ⟨ps ++ [p], hps.concat hp⟩

/-! ## Clean entries -/

/-- All patterns compile, no two entries have the same key, and there is room for the patterns in
turn. -/
structure Clean (es : List RuleEntry) : Prop where
  compiles : ∀ e ∈ es, ∃ p, ofSource e.pattern = .ok p
  distinct : es.Pairwise fun d e => d.key ≠ e.key
  room : ∀ ps, HavePatterns es ps → RoomInTurn ps

/-- Why an entry is refused after others. -/
inductive Offends (before : List RuleEntry) (e : RuleEntry) : Error → Prop
  | pattern {cause : Pattern.Error} (h : ofSource e.pattern = .error cause) :
      Offends before e (.invalidPattern e.pattern cause)
  | repeated {p : Pattern} {d : RuleEntry} (h : ofSource e.pattern = .ok p) (hd : d ∈ before)
      (hkey : d.key = e.key) : Offends before e (.duplicateRule e.name e.pattern)
  | tooBig {p : Pattern} {ps : List Pattern} (h : ofSource e.pattern = .ok p)
      (hfresh : ∀ d ∈ before, d.key ≠ e.key) (hps : HavePatterns before ps)
      (hroom : ¬WithinLimit (ps ++ [p])) :
      Offends before e (.invalidPattern e.pattern .tooBig)

/-- The error is that of the first entry that offends after those before it. -/
def FirstOffence (es : List RuleEntry) (err : Error) : Prop :=
  ∃ before e after, es = before ++ e :: after ∧ Clean before ∧ Offends before e err

theorem clean_nil : Clean [] := by
  refine ⟨by simp, .nil, fun ps hps => ?_⟩
  obtain rfl := hps.unique havePatterns_nil
  exact Pattern.roomInTurn_nil

/-- One more entry is clean if it does not offend. -/
theorem Clean.concat (h : Clean es) (hp : ofSource e.pattern = .ok p)
    (hfresh : ∀ d ∈ es, d.key ≠ e.key) (hps : HavePatterns es ps)
    (hroom : WithinLimit (ps ++ [p])) : Clean (es ++ [e]) := by
  refine ⟨?_, ?_, fun qs hqs => ?_⟩
  · intro d hd
    rcases List.mem_append.1 hd with hd | hd
    · exact h.compiles d hd
    · obtain rfl := List.mem_singleton.1 hd
      exact ⟨p, hp⟩
  · rw [List.pairwise_append]
    exact ⟨h.distinct, List.pairwise_singleton .., by simpa using hfresh⟩
  · obtain rfl := hqs.unique (hps.concat hp)
    exact Pattern.roomInTurn_concat_iff.2 ⟨h.room ps hps, hroom⟩

theorem Clean.of_concat (h : Clean (es ++ [e])) :
    Clean es ∧ (∀ d ∈ es, d.key ≠ e.key) ∧ ∃ p, ofSource e.pattern = .ok p ∧
      ∀ ps, HavePatterns es ps → WithinLimit (ps ++ [p]) := by
  obtain ⟨hcompiles, hdistinct, hroom⟩ := h
  obtain ⟨p, hp⟩ := hcompiles e (by simp)
  have hsplit : ∀ ps, HavePatterns es ps → RoomInTurn ps ∧ WithinLimit (ps ++ [p]) :=
    fun ps hps => Pattern.roomInTurn_concat_iff.1 (hroom _ (hps.concat hp))
  rw [List.pairwise_append] at hdistinct
  obtain ⟨hes, -, hfresh⟩ := hdistinct
  exact ⟨⟨fun d hd => hcompiles d (by simp [hd]), hes, fun ps hps => (hsplit ps hps).1⟩,
    by simpa using hfresh, p, hp, fun ps hps => (hsplit ps hps).2⟩

theorem FirstOffence.append (h : FirstOffence es err) (more : List RuleEntry) :
    FirstOffence (es ++ more) err := by
  obtain ⟨before, e, after, rfl, hclean, hoffends⟩ := h
  exact ⟨before, e, after ++ more, by simp, hclean, hoffends⟩

/-- An entry leaves clean entries clean, or offends after them. -/
theorem Clean.concat_or_offends (h : Clean es) (e : RuleEntry) :
    Clean (es ++ [e]) ∨ ∃ err, Offends es e err := by
  cases hp : ofSource e.pattern with
  | error cause => exact .inr ⟨_, .pattern hp⟩
  | ok p =>
    by_cases hfresh : ∀ d ∈ es, d.key ≠ e.key
    · obtain ⟨ps, hps⟩ := exists_havePatterns h.compiles
      by_cases hroom : WithinLimit (ps ++ [p])
      · exact .inl (h.concat hp hfresh hps hroom)
      · exact .inr ⟨_, .tooBig hp hfresh hps hroom⟩
    · push Not at hfresh
      obtain ⟨d, hd, hkey⟩ := hfresh
      exact .inr ⟨_, .repeated hp hd hkey⟩

/-- Entries are clean or have a first offence. -/
theorem clean_or_firstOffence (es : List RuleEntry) : Clean es ∨ ∃ err, FirstOffence es err := by
  induction es using List.reverseRecOn with
  | nil => exact .inl clean_nil
  | append_singleton es e ih =>
    rcases ih with hclean | ⟨err, hfirst⟩
    · rcases hclean.concat_or_offends e with hclean' | ⟨err, hoffends⟩
      · exact .inl hclean'
      · exact .inr ⟨err, es, e, [], rfl, hclean, hoffends⟩
    · exact .inr ⟨err, hfirst.append [e]⟩

end RuleEntry

/-- The patterns of the rules are those of their entries. -/
theorem Rulebook.Reachable.havePatterns {b : Rulebook} (h : b.Reachable) :
    RuleEntry.HavePatterns b.entries (b.rules.toList.map Rule.pattern) := by
  unfold RuleEntry.HavePatterns entries
  rw [List.map_map, List.map_map]
  exact List.map_congr_left fun r hr => h.compiled_of_mem (Array.mem_toList_iff.1 hr)

namespace Tokenizer

open RuleEntry (Clean FirstOffence Offends)

variable {t : Tokenizer} {c : Config}

/-! ## Adding rules in order -/

theorem addAll_append (t : Tokenizer) (es more : List RuleEntry) :
    t.addAll (es ++ more) = t.addAll es >>= fun t' => t'.addAll more := by
  induction es generalizing t with
  | nil => rfl
  | cons e es ih =>
    rw [List.cons_append, addAll, addAll]
    cases t.add e with
    | error err => rfl
    | ok t' => exact ih t'

theorem addAll_singleton (t : Tokenizer) (e : RuleEntry) : t.addAll [e] = t.add e := by
  rw [addAll]
  cases t.add e <;> rfl

omit [Footprint] in
/-- The book takes an entry if one of its rules is written down with the same key. -/
theorem takes_iff : t.rules.Takes e ↔ ∃ d ∈ t.rules.entries, d.key = e.key := by
  unfold Rulebook.Takes Rulebook.entries RuleEntry.key
  simp [Rule.entry]

theorem entries_push (rules : Array Rule) (hp : ofSource e.pattern = .ok p) :
    (Rulebook.ofRules (rules.push (e.rule p))).entries = rules.toList.map Rule.entry ++ [e] := by
  have hentry : (e.rule p).entry = e := (RuleEntry.toRule_eq_ok (RuleEntry.toRule_of_ok hp)).1
  simp [Rulebook.entries, hentry]

/-- Clean entries are all added, and are what the book holds then. -/
theorem addAll_of_clean (hc : c.check = .ok ()) (h : Clean es) :
    ∃ t, addAll { config := c } es = .ok t ∧ t.Reachable ∧ t.rules.entries = es ∧
      t.config = c := by
  induction es using List.reverseRecOn with
  | nil => exact ⟨_, rfl, reachable_mk .empty hc, rfl, rfl⟩
  | append_singleton es e ih =>
    obtain ⟨hes, hfresh, p, hp, hroom⟩ := h.of_concat
    obtain ⟨t, hadd, ht, hentries, hconfig⟩ := ih hes
    have htakes : ¬t.rules.Takes e := by
      rw [takes_iff, hentries]
      push Not
      exact hfresh
    have hlast := (add_eq_ok_iff ht).2
      ⟨p, hp, htakes, hroom _ (hentries ▸ ht.sound.rules.havePatterns), rfl⟩
    refine ⟨_, ?_, ht.add hlast, ?_, hconfig⟩
    · rw [addAll_append, hadd]
      exact (addAll_singleton t e).trans hlast
    · rw [entries_push _ hp, ← hentries, Rulebook.entries]

/-- Adding entries stops at the first offence. -/
theorem addAll_of_firstOffence (hc : c.check = .ok ()) (h : FirstOffence es err) :
    addAll { config := c } es = .error err := by
  obtain ⟨before, e, after, rfl, hclean, hoffends⟩ := h
  obtain ⟨t, hadd, ht, hentries, -⟩ := addAll_of_clean hc hclean
  have hlast : t.add e = .error err := by
    rw [add_eq_error_iff ht]
    cases hoffends with
    | pattern hpattern => exact .inl ⟨_, hpattern, rfl⟩
    | repeated hpattern hd hkey =>
      exact .inr ⟨_, hpattern, .inl ⟨takes_iff.2 ⟨_, hentries ▸ hd, hkey⟩, rfl⟩⟩
    | tooBig hpattern hfresh hps hroom =>
      obtain rfl := hps.unique (hentries ▸ ht.sound.rules.havePatterns)
      have htakes : ¬t.rules.Takes e := by
        rw [takes_iff, hentries]
        push Not
        exact hfresh
      exact .inr ⟨_, hpattern, .inr ⟨htakes, hroom, rfl⟩⟩
  rw [addAll_append, hadd]
  show t.addAll (e :: after) = _
  rw [addAll, hlast]
  rfl

end Tokenizer

/-! ## Ignoring names -/

namespace RuleEntry

/-- The place of the first entry of a name, in any case of letters. -/
def named? (es : List RuleEntry) (name : String) : Option Nat :=
  es.findIdx? fun e => lowercase e.name = lowercase name

/-- The entries with the flag set at the first place of each of the names. -/
def ignoring (es : List RuleEntry) (names : List String) : List RuleEntry :=
  es.mapIdx fun i e =>
    { e with ignored := e.ignored || names.any fun name => named? es name = some i }

omit [Footprint] in
theorem named?_eq_none_iff {name : String} :
    named? es name = none ↔ ∀ e ∈ es, lowercase e.name ≠ lowercase name := by
  simp [named?, List.findIdx?_eq_none_iff]

end RuleEntry

namespace Rulebook

variable {b : Rulebook}

omit [Footprint] in
theorem named?_entries (b : Rulebook) (name : String) :
    RuleEntry.named? b.entries name = b.named? name := by
  rw [RuleEntry.named?, entries, List.findIdx?_map]
  rfl

theorem getElem?_ignore (h : b.Reachable) (name : String) (i : Nat) :
    (b.ignore name).1.rules[i]? = b.rules[i]?.map fun r =>
      { r with ignored := r.ignored || decide (b.named? name = some i) } := by
  rw [ignore_eq h]
  cases hn : b.named? name with
  | none => simp
  | some j =>
    show (b.ignoreAt j).rules[i]? = _
    rw [getElem?_ignoreAt]
    by_cases hij : j = i <;> simp [hij]

theorem ignore_snd (h : b.Reachable) (name : String) :
    (b.ignore name).2 = if b.named? name = none then [Log.unknownRule name] else [] := by
  rw [ignore_eq h]
  cases b.named? name <;> rfl

end Rulebook

namespace Tokenizer

variable {t t' : Tokenizer} {names names' : List String}

omit [Footprint] in
theorem config_ignoreAll (t : Tokenizer) (names : List String) :
    (t.ignoreAll names).1.config = t.config := by
  induction names generalizing t with
  | nil => rfl
  | cons name names ih => exact ih (t.ignore name).1

/-- Each rule keeps its flag, or has it set if one of the names leads to its place. -/
theorem getElem?_ignoreAll (h : t.Reachable) (names : List String) (i : Nat) :
    (t.ignoreAll names).1.rules.rules[i]? = t.rules.rules[i]?.map fun r =>
      { r with ignored := r.ignored || names.any fun name => t.rules.named? name = some i } := by
  induction names generalizing t with
  | nil => simp [ignoreAll]
  | cons name names ih =>
    have hnamed : ∀ name', (t.ignore name).1.rules.named? name' = t.rules.named? name' :=
      fun name' => Rulebook.named?_ignore t.rules name name'
    have hfirst : (t.ignore name).1.rules.rules[i]? = _ :=
      Rulebook.getElem?_ignore h.sound.rules name i
    show ((t.ignore name).1.ignoreAll names).1.rules.rules[i]? = _
    rw [ih (h.ignore name), hfirst, Option.map_map]
    simp only [hnamed, List.any_cons, Function.comp_def, Bool.or_assoc]

theorem entries_ignoreAll (h : t.Reachable) (names : List String) :
    (t.ignoreAll names).1.rules.entries = RuleEntry.ignoring t.rules.entries names := by
  refine List.ext_getElem? fun i => ?_
  have hrule := getElem?_ignoreAll h names i
  simp only [← Array.getElem?_toList] at hrule
  simp only [RuleEntry.ignoring, Rulebook.named?_entries, List.getElem?_mapIdx]
  simp only [Rulebook.entries, List.getElem?_map, hrule, Option.map_map]
  rfl

/-- There is a warning for each name that no rule has. -/
theorem ignoreAll_snd (h : t.Reachable) (names : List String) :
    (t.ignoreAll names).2 =
      (names.filter fun name => t.rules.named? name = none).map Log.unknownRule := by
  induction names generalizing t with
  | nil => rfl
  | cons name names ih =>
    have hfirst : (t.ignore name).2 = _ := Rulebook.ignore_snd h.sound.rules name
    have hnamed : ∀ name', (t.ignore name).1.rules.named? name' = t.rules.named? name' :=
      fun name' => Rulebook.named?_ignore t.rules name name'
    show (t.ignore name).2 ++ ((t.ignore name).1.ignoreAll names).2 = _
    rw [ih (h.ignore name), hfirst]
    simp only [hnamed, List.filter_cons]
    split_ifs with hn hn' hn' <;> simp_all

/-- The order of names does not show, nor how often one is given. -/
theorem ignoreAll_congr (h : t.Reachable) (hsame : ∀ name, name ∈ names ↔ name ∈ names') :
    (t.ignoreAll names).1 = (t.ignoreAll names').1 := by
  have hany : ∀ p : String → Bool, names.any p = names'.any p := by
    intro p
    rw [Bool.eq_iff_iff, List.any_eq_true, List.any_eq_true]
    simp only [hsame]
  have hreach : ∀ names, (t.ignoreAll names).1.Reachable := fun names =>
    reachable_iff.2 ⟨(h.sound.ignoreAll names).rules, (h.sound.ignoreAll names).config⟩
  refine (hreach names).ext (hreach names') ?_ ?_
  · refine Array.ext_getElem? fun i => ?_
    simp only [getElem?_ignoreAll h, hany]
  · rw [config_ignoreAll, config_ignoreAll]

end Tokenizer

/-! ## Rule files -/

namespace RuleFile

open RuleEntry (Clean FirstOffence)

variable {f : RuleFile}

/-- The configuration is valid and the rules are clean. -/
structure Valid (f : RuleFile) : Prop where
  config : f.config.check = .ok ()
  rules : Clean f.rules

/-- Why a rule file is refused: the configuration goes before the rules. -/
inductive Refused (f : RuleFile) : Error → Prop
  | config {cause : Config.Error} (h : f.config.check = .error cause) :
      Refused f (.invalidConfig cause)
  | rule {err : Error} (hc : f.config.check = .ok ()) (h : FirstOffence f.rules err) :
      Refused f err

theorem valid_or_refused (f : RuleFile) : f.Valid ∨ ∃ err, f.Refused err := by
  cases hc : f.config.check with
  | error cause => exact .inr ⟨_, .config hc⟩
  | ok _ =>
    rcases RuleEntry.clean_or_firstOffence f.rules with hclean | ⟨err, hfirst⟩
    · exact .inl ⟨hc, hclean⟩
    · exact .inr ⟨err, .rule hc hfirst⟩

end RuleFile

namespace Tokenizer

variable {f : RuleFile}

omit [Footprint] in
theorem ofConfig_of_check {c : Config} (hc : c.check = .ok ()) :
    ofConfig c = .ok { config := c } := by
  rw [ofConfig, hc]

/-- The names are ignored once all rules are added. -/
theorem ofRuleFile_of_addAll {t : Tokenizer} (hc : f.config.check = .ok ())
    (h : addAll { config := f.config } f.rules = .ok t) :
    ofRuleFile f = .ok (t.ignoreAll f.ignore) := by
  simp [ofRuleFile, ofConfig_of_check hc, h, bind, Except.bind]

/-- The names are ignored once the book holds the rules of the file. -/
theorem ofRuleFile_of_valid (h : f.Valid) :
    ∃ t : Tokenizer, t.Reachable ∧ t.rules.entries = f.rules ∧ t.config = f.config ∧
      ofRuleFile f = .ok (t.ignoreAll f.ignore) := by
  obtain ⟨t, hadd, ht, hentries, hconfig⟩ := addAll_of_clean h.config h.rules
  exact ⟨t, ht, hentries, hconfig, ofRuleFile_of_addAll h.config hadd⟩

theorem ofRuleFile_of_refused (h : f.Refused err) : ofRuleFile f = .error err := by
  cases h with
  | config hc => simp [ofRuleFile, ofConfig, hc, bind, Except.bind]
  | rule hc hfirst =>
    have hadd := addAll_of_firstOffence hc hfirst
    simp [ofRuleFile, ofConfig_of_check hc, hadd, bind, Except.bind]

/-- **A rule file is refused for its configuration, or else for the first rule that offends.** -/
theorem ofRuleFile_eq_error_iff : ofRuleFile f = .error err ↔ f.Refused err := by
  refine ⟨fun h => ?_, ofRuleFile_of_refused⟩
  rcases f.valid_or_refused with hvalid | ⟨err', hrefused⟩
  · obtain ⟨t, -, -, -, hok⟩ := ofRuleFile_of_valid hvalid
    cases hok.symm.trans h
  · have herr := (ofRuleFile_of_refused hrefused).symm.trans h
    cases herr
    exact hrefused

/-- **A rule file loads if and only if its configuration is valid and its rules are clean.** -/
theorem exists_ofRuleFile_iff : (∃ loaded, ofRuleFile f = .ok loaded) ↔ f.Valid := by
  constructor
  · rintro ⟨loaded, h⟩
    rcases f.valid_or_refused with hvalid | ⟨err, hrefused⟩
    · exact hvalid
    · cases (ofRuleFile_of_refused hrefused).symm.trans h
  · intro hvalid
    obtain ⟨t, -, -, -, hok⟩ := ofRuleFile_of_valid hvalid
    exact ⟨_, hok⟩

/-- What is loaded has the configuration of the file, and its rules with the flags of the names. -/
theorem loaded_of_ofRuleFile {t : Tokenizer} {lines : List Log.Line}
    (h : ofRuleFile f = .ok (t, lines)) :
    f.Valid ∧ t.config = f.config ∧ t.rules.entries = RuleEntry.ignoring f.rules f.ignore := by
  have hvalid := exists_ofRuleFile_iff.1 ⟨_, h⟩
  obtain ⟨t₁, ht₁, hentries, hconfig, hload⟩ := ofRuleFile_of_valid hvalid
  have hok : t₁.ignoreAll f.ignore = (t, lines) := Except.ok.inj (hload.symm.trans h)
  obtain rfl : (t₁.ignoreAll f.ignore).1 = t := congrArg Prod.fst hok
  refine ⟨hvalid, ?_, ?_⟩
  · rw [config_ignoreAll, hconfig]
  · rw [entries_ignoreAll ht₁, hentries]

/-! ## Calls in place of a file -/

/-- The calls that do what loading the file does, once its configuration is set. -/
def calls (f : RuleFile) : List Call := f.rules.map .add ++ f.ignore.map .ignore

theorem after_append (t : Tokenizer) (calls more : List Call) :
    t.after (calls ++ more) = (t.after calls).after more := List.foldl_append

theorem granted_append (t : Tokenizer) (calls more : List Call) :
    t.granted (calls ++ more) = t.granted calls ++ (t.after calls).granted more := by
  induction calls generalizing t with
  | nil => rfl
  | cons call calls ih =>
    show (if (t.answer call).isOk then call :: (t.next call).granted (calls ++ more)
      else t.granted (calls ++ more)) = (if (t.answer call).isOk then _ else _) ++ _
    cases ha : t.answer call with
    | ok lines =>
      show call :: (t.next call).granted (calls ++ more) = call :: _ ++ _
      rw [ih, List.cons_append]
      rfl
    | error err =>
      show t.granted (calls ++ more) = t.granted calls ++ ((t.next call).after calls).granted more
      rw [ih, next_eq_of_answer ha]

/-- Rules that are added in order are added by calls, and none is refused. -/
theorem after_add {t t' : Tokenizer} (h : t.addAll es = .ok t') :
    t.after (es.map .add) = t' ∧ t.granted (es.map .add) = es.map .add := by
  induction es generalizing t with
  | nil =>
    cases h
    exact ⟨rfl, rfl⟩
  | cons e es ih =>
    obtain ⟨t₁, hadd, h⟩ := bind_eq_ok.1 h
    have hperform : t.perform (.add e) = .ok (t₁, []) := by
      rw [perform, hadd]
      rfl
    have hnext : t.next (.add e) = t₁ := by
      rw [next, hperform]
    have hanswer : t.answer (.add e) = .ok [] := by
      rw [answer, hperform]
      rfl
    obtain ⟨hafter, hgranted⟩ := ih h
    constructor
    · show (t.next (.add e)).after (es.map .add) = t'
      rw [hnext, hafter]
    · rw [List.map_cons, granted, hanswer, hnext, hgranted]
      rfl

theorem after_ignore (t : Tokenizer) (names : List String) :
    t.after (names.map .ignore) = (t.ignoreAll names).1 ∧
      t.granted (names.map .ignore) = names.map .ignore := by
  induction names generalizing t with
  | nil => exact ⟨rfl, rfl⟩
  | cons name names ih =>
    obtain ⟨hafter, hgranted⟩ := ih (t.ignore name).1
    exact ⟨hafter, congrArg (Call.ignore name :: ·) hgranted⟩

/-! ## Main result -/

/-- What the rule file loads, or why it is refused. -/
structure LoadsRightly (f : RuleFile) : Prop where
  loads_iff : (∃ loaded, ofRuleFile f = .ok loaded) ↔ f.Valid
  refused_iff (err : Error) : ofRuleFile f = .error err ↔ f.Refused err
  config {t : Tokenizer} {lines : List Log.Line} (h : ofRuleFile f = .ok (t, lines)) :
    t.config = f.config
  /-- The rules of the file, with the flags that the names lead to. -/
  entries {t : Tokenizer} {lines : List Log.Line} (h : ofRuleFile f = .ok (t, lines)) :
    t.rules.entries = RuleEntry.ignoring f.rules f.ignore
  /-- A warning for each name that no rule has. -/
  warnings {t : Tokenizer} {lines : List Log.Line} (h : ofRuleFile f = .ok (t, lines)) :
    lines = (f.ignore.filter fun name =>
      ∀ e ∈ f.rules, lowercase e.name ≠ lowercase name).map Log.unknownRule
  /-- The calls that add the rules and ignore the names do the same, and none is refused. -/
  calls {t : Tokenizer} {lines : List Log.Line} (h : ofRuleFile f = .ok (t, lines)) :
    ∃ t₀, ofConfig f.config = .ok t₀ ∧ t₀.granted (calls f) = calls f ∧ t₀.after (calls f) = t
  /-- The order of the names does not show, nor how often one is given. -/
  ignore_congr (ignore' : List String) (hsame : ∀ name, name ∈ ignore' ↔ name ∈ f.ignore) :
    (ofRuleFile { f with ignore := ignore' }).map Prod.fst = (ofRuleFile f).map Prod.fst

/-- What is loaded is made by adding the rules to a new tokenizer, and by ignoring the names. -/
theorem exists_addAll_of_ofRuleFile {t : Tokenizer} {lines : List Log.Line}
    (h : ofRuleFile f = .ok (t, lines)) :
    ∃ t₁ : Tokenizer, ofConfig f.config = .ok { config := f.config } ∧
      addAll { config := f.config } f.rules = .ok t₁ ∧ t₁.Reachable ∧
      t₁.rules.entries = f.rules ∧ t₁.config = f.config ∧ t₁.ignoreAll f.ignore = (t, lines) := by
  have hvalid := exists_ofRuleFile_iff.1 ⟨_, h⟩
  obtain ⟨t₁, hadd, ht₁, hentries, hconfig⟩ := addAll_of_clean hvalid.config hvalid.rules
  exact ⟨t₁, ofConfig_of_check hvalid.config, hadd, ht₁, hentries, hconfig,
    Except.ok.inj ((ofRuleFile_of_addAll hvalid.config hadd).symm.trans h)⟩

theorem ofRuleFile_congr_ignore {names : List String}
    (hsame : ∀ name, name ∈ names ↔ name ∈ f.ignore) :
    (ofRuleFile { f with ignore := names }).map Prod.fst = (ofRuleFile f).map Prod.fst := by
  rcases f.valid_or_refused with hvalid | ⟨err, hrefused⟩
  · obtain ⟨t₁, hadd, ht₁, -⟩ := addAll_of_clean hvalid.config hvalid.rules
    rw [ofRuleFile_of_addAll hvalid.config hadd,
      ofRuleFile_of_addAll (f := { f with ignore := names }) hvalid.config hadd]
    exact congrArg Except.ok (ignoreAll_congr ht₁ hsame)
  · have hrefused' : RuleFile.Refused { f with ignore := names } err := by
      cases hrefused with
      | config hc => exact .config hc
      | rule hc hfirst => exact .rule hc hfirst
    rw [ofRuleFile_of_refused hrefused, ofRuleFile_of_refused hrefused']

/-- **What a rule file loads, and why one is refused.** The flags count as they are written until
all rules are added, and then the names are ignored in any order. -/
theorem ofRuleFile_iff (f : RuleFile) : LoadsRightly f where
  loads_iff := exists_ofRuleFile_iff
  refused_iff _ := ofRuleFile_eq_error_iff
  config h := (loaded_of_ofRuleFile h).2.1
  entries h := (loaded_of_ofRuleFile h).2.2
  warnings h := by
    obtain ⟨t₁, -, -, ht₁, hentries, -, hload⟩ := exists_addAll_of_ofRuleFile h
    refine (congrArg Prod.snd hload).symm.trans ?_
    rw [ignoreAll_snd ht₁]
    simp only [← Rulebook.named?_entries, hentries, RuleEntry.named?_eq_none_iff]
  calls h := by
    obtain ⟨t₁, hconfig, hadd, -, -, -, hload⟩ := exists_addAll_of_ofRuleFile h
    obtain ⟨hafter, hgranted⟩ := after_add hadd
    obtain ⟨hafter', hgranted'⟩ := after_ignore t₁ f.ignore
    refine ⟨_, hconfig, ?_, ?_⟩
    · rw [Tokenizer.calls, granted_append, hafter, hgranted, hgranted']
    · rw [Tokenizer.calls, after_append, hafter, hafter', hload]
  ignore_congr _ hsame := ofRuleFile_congr_ignore hsame

end Tokenizer

end

namespace Tokenizer

open RuleEntry (Clean)

/-- A rule file with one name in two cases of letters, and one pattern with both flags. -/
def cased : RuleFile where
  rules := [⟨"a+", "run", false⟩, ⟨"b", "Run", false⟩, ⟨"a+", "rest", true⟩]
  ignore := ["RUN", "word", "run", "word"]

/-- A rule file whose second rule repeats the first one, and whose third is no pattern. -/
def repeating : RuleFile where
  rules := [⟨"a+", "run", true⟩, ⟨"a+", "rest", true⟩, ⟨"(", "open", false⟩]

/-- A name of two rules goes to the first one, which becomes what the third one is. A name that no
rule has is told as often as it is given. -/
theorem ofRuleFile_iff_cased :
    (∃ t, ofRuleFile cased = .ok (t, [Log.unknownRule "word", Log.unknownRule "word"]) ∧
        t.rules.entries = [⟨"a+", "run", true⟩, ⟨"b", "Run", false⟩, ⟨"a+", "rest", true⟩] ∧
        (ofRuleFile { cased with ignore := ["word", "run", "RUN"] }).map Prod.fst = .ok t) ∧
      ofRuleFile repeating = .error (.duplicateRule "rest" "a+") := by
  obtain ⟨⟨t, lines⟩, hload⟩ := isOk_iff.1 (by decide +kernel : (ofRuleFile cased).isOk = true)
  have hentries := (ofRuleFile_iff cased).entries hload
  have hwarned : lines = [Log.unknownRule "word", Log.unknownRule "word"] :=
    ((ofRuleFile_iff cased).warnings hload).trans (by decide +kernel)
  refine ⟨⟨t, hwarned ▸ hload, hentries.trans (by decide +kernel), ?_⟩, ?_⟩
  · rw [(ofRuleFile_iff cased).ignore_congr ["word", "run", "RUN"] (by simp [cased]; grind), hload]
    rfl
  · -- The first rule would load on its own, so it is clean.
    have hfirst : Clean [⟨"a+", "run", true⟩] :=
      (exists_ofRuleFile_iff (f := { rules := [⟨"a+", "run", true⟩] }).1
        (isOk_iff.1 (by decide +kernel))).rules
    obtain ⟨p, hp⟩ := hfirst.compiles _ List.mem_cons_self
    refine ((ofRuleFile_iff repeating).refused_iff _).2 (.rule rfl ?_)
    exact ⟨[⟨"a+", "run", true⟩], ⟨"a+", "rest", true⟩, _, rfl, hfirst,
      .repeated hp List.mem_cons_self rfl⟩

/-- A rule file whose rules are not too big one by one, but are together. -/
def heavy : RuleFile where
  rules := [⟨"a{240000}", "a", false⟩, ⟨"b{240000}", "b", false⟩]

theorem compiles_heavy : ∀ e ∈ heavy.rules, ∃ p, ofSource e.pattern = .ok p := by
  have hall : (heavy.rules.all fun e => (ofSource e.pattern).isOk) = true := by decide +kernel
  exact fun e he => isOk_iff.1 (List.all_eq_true.1 hall e he)

theorem distinct_heavy : heavy.rules.Pairwise fun d e => d.key ≠ e.key := by decide

theorem refused_heavy : heavy.Refused (.invalidPattern "b{240000}" .tooBig) := by
  have hload : (ofRuleFile heavy).map (fun _ => ()) =
      .error (.invalidPattern "b{240000}" .tooBig) := by decide +kernel
  refine ofRuleFile_eq_error_iff.1 ?_
  cases h : ofRuleFile heavy with
  | ok loaded =>
    rw [h] at hload
    cases hload
  | error err =>
    rw [h] at hload
    exact congrArg Except.error (Except.error.inj hload)

/-- Rules that compile and are distinct may be refused for what they are together. -/
theorem ofRuleFile_heavy :
    heavy.config.check = .ok () ∧ (∀ e ∈ heavy.rules, ∃ p, ofSource e.pattern = .ok p) ∧
      (heavy.rules.Pairwise fun d e => d.key ≠ e.key) ∧
      ofRuleFile heavy = .error (.invalidPattern "b{240000}" .tooBig) :=
  ⟨rfl, compiles_heavy, distinct_heavy, ofRuleFile_of_refused refused_heavy⟩

end Tokenizer

end Munch
