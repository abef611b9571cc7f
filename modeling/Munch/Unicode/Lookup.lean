import Munch.Unicode.Age
import Munch.Unicode.Break
import Munch.Unicode.Category
import Munch.Unicode.Property
import Munch.Unicode.Script
import Munch.Unicode.ScriptExtension

/-!
# Finding a set of characters by name

Names are compared **loosely**: case, spaces, dashes and underscores do not count, nor does a
leading `is`. A single name may be a property, a general category or a script, tried in this order;
a name with a value selects one value of a property that has several.
-/

namespace Munch.Unicode

/-- Why a name selects no set. -/
inductive LookupError where
  | propertyNotFound
  | valueNotFound
deriving DecidableEq, Repr

/-- The form in which names are compared. -/
def looseName (name : String) : String :=
  let bare (cs : List Char) : List Char :=
    (cs.filter fun c => c.toNat < 0x80 && c ≠ ' ' && c ≠ '_' && c ≠ '-').map Char.toLower
  match name.toList with
  | i :: s :: rest =>
    if i.toLower = 'i' ∧ s.toLower = 's' then
      -- `isc` abbreviates a property of its own, not the category `c`
      match bare rest with
      | ['c'] => "isc"
      | cs => .ofList cs
    else .ofList (bare (i :: s :: rest))
  | cs => .ofList (bare cs)

def named (loose : String) (names : List String) : Bool :=
  names.any fun n => looseName n == loose

/-- The set of the row with the given loose name. -/
def find? (rows : List PropertyRow) (loose : String) : Option CharSet :=
  (rows.find? fun r => named loose r.names).map PropertyRow.set

/-- The set of a row that the table is known to have. -/
def setOf (rows : List PropertyRow) (name : String) : CharSet :=
  (find? rows (looseName name)).getD .empty

/-! ## Properties that hold no set of their own -/

/-- The other properties' names; they have values that no name selects. -/
def otherProperties : List (List String) := [
  ["bc", "Bidi_Class"], ["bmg", "Bidi_Mirroring_Glyph"], ["bpb", "Bidi_Paired_Bracket"],
  ["bpt", "Bidi_Paired_Bracket_Type"], ["blk", "Block"], ["ccc", "Canonical_Combining_Class"],
  ["cf", "Case_Folding"], ["CWKCF", "Changes_When_NFKC_Casefolded"],
  ["CE", "Composition_Exclusion"], ["dm", "Decomposition_Mapping"], ["dt", "Decomposition_Type"],
  ["ea", "East_Asian_Width"], ["EqUIdeo", "Equivalent_Unified_Ideograph"],
  ["Comp_Ex", "Full_Composition_Exclusion"], ["hst", "Hangul_Syllable_Type"],
  ["isc", "ISO_Comment"], ["InPC", "Indic_Positional_Category"],
  ["InSC", "Indic_Syllabic_Category"], ["jg", "Joining_Group"], ["jt", "Joining_Type"],
  ["lb", "Line_Break"], ["lc", "Lowercase_Mapping"], ["NFC_QC", "NFC_Quick_Check"],
  ["NFD_QC", "NFD_Quick_Check"], ["NFKC_CF", "NFKC_Casefold"], ["NFKC_QC", "NFKC_Quick_Check"],
  ["NFKD_QC", "NFKD_Quick_Check"], ["na", "Name"], ["nt", "Numeric_Type"],
  ["nv", "Numeric_Value"], ["scf", "Simple_Case_Folding", "Sfc"],
  ["slc", "Simple_Lowercase_Mapping"], ["stc", "Simple_Titlecase_Mapping"],
  ["suc", "Simple_Uppercase_Mapping"], ["tc", "Titlecase_Mapping"], ["na1", "Unicode_1_Name"],
  ["uc", "Uppercase_Mapping"], ["vo", "Vertical_Orientation"], ["Name_Alias"],
  ["FC_NFKC", "FC_NFKC_Closure"], ["InCB", "Indic_Conjunct_Break"], ["XO_NFC", "Expands_On_NFC"],
  ["XO_NFD", "Expands_On_NFD"], ["XO_NFKC", "Expands_On_NFKC"], ["XO_NFKD", "Expands_On_NFKD"],
  ["NFKC_SCF", "NFKC_Simple_Casefold"], ["JSN", "Jamo_Short_Name"],
  ["cjkAccountingNumeric", "kAccountingNumeric"], ["cjkOtherNumeric", "kOtherNumeric"],
  ["cjkPrimaryNumeric", "kPrimaryNumeric"],
  ["cjkCompatibilityVariant", "kCompatibilityVariant"], ["cjkIICore", "kIICore"],
  ["cjkIRG_GSource", "kIRG_GSource"], ["cjkIRG_HSource", "kIRG_HSource"],
  ["cjkIRG_JSource", "kIRG_JSource"], ["cjkIRG_KPSource", "kIRG_KPSource"],
  ["cjkIRG_KSource", "kIRG_KSource"], ["cjkIRG_MSource", "kIRG_MSource"],
  ["cjkIRG_SSource", "kIRG_SSource"], ["cjkIRG_TSource", "kIRG_TSource"],
  ["cjkIRG_UKSource", "kIRG_UKSource"], ["cjkIRG_USource", "kIRG_USource"],
  ["cjkIRG_VSource", "kIRG_VSource"],
  ["cjkRSUnicode", "kRSUnicode", "Unicode_Radical_Stroke", "URS"], ["kEH_Cat"], ["kEH_Desc"],
  ["kEH_HG"], ["kEH_IFAO"], ["kEH_JSesh"], ["kEH_NoMirror"], ["kEH_NoRotate"],
  ["cjkMandarin", "kMandarin"], ["cjkTotalStrokes", "kTotalStrokes"],
  ["cjkUnihanCore2020", "kUnihanCore2020"], ["gc", "General_Category"],
  ["scx", "Script_Extensions"], ["age"], ["GCB", "Grapheme_Cluster_Break"], ["WB", "Word_Break"],
  ["SB", "Sentence_Break"], ["Script"]]

/-- Categories and scripts that have a name but no characters to select. -/
def emptyCategories : List String := ["Cs", "Surrogate"]

def emptyScripts : List String := ["Zzzz", "Unknown", "Hrkt", "Katakana_Or_Hiragana"]

/-! ## Categories and scripts -/

/-- The union of the categories of the given short names. -/
def categorySet (names : List String) : CharSet :=
  .ofRanges (names.flatMap fun n => (setOf categories n).ranges)

/-- The code points that have a general category, surrogates included. -/
def assigned : CharSet :=
  .ofRanges (⟨0xD800, 0xDFFF⟩ :: categories.flatMap fun r => r.set.ranges)

/-- The set of a general category, if the name is one; some name no characters. -/
def category? (loose : String) : Option (Except LookupError CharSet) :=
  if loose = "any" then some (.ok .full)
  else if loose = "assigned" then some (.ok assigned)
  else if loose = "ascii" then some (.ok .ascii)
  else if named loose ["Cn", "Unassigned"] then some (.ok assigned.compl)
  else if named loose emptyCategories then some (.error .valueNotFound)
  else if named loose ["C", "Other"] then
    some (.ok ((categorySet ["Cc", "Cf", "Co"]).union assigned.compl))
  else
    match categoryGroups.find? fun g => named loose g.1 with
    | some g => some (.ok (categorySet g.2))
    | none => (find? categories loose).map .ok

/-- The set of a script in the given table, if the name is one. -/
def script? (rows : List PropertyRow) (loose : String) : Option (Except LookupError CharSet) :=
  if named loose emptyScripts then some (.error .valueNotFound) else (find? rows loose).map .ok

/-- The characters introduced up to a version. -/
def age? (loose : String) : Option CharSet :=
  match ages.span fun r => !named loose r.names with
  | (_, []) => none
  | (before, r :: _) => some (.ofRanges ((r :: before).flatMap fun a => a.set.ranges))

/-! ## Queries -/

/-- The set that a single name selects. -/
def byName (name : String) : Except LookupError CharSet :=
  let loose := looseName name
  let property : Option (Except LookupError CharSet) :=
    -- these three abbreviate a category or script property as well as a case mapping
    if loose = "cf" ∨ loose = "sc" ∨ loose = "lc" then none
    else match find? properties loose with
      | some s => some (.ok s)
      | none => if otherProperties.any (named loose) then some (.error .propertyNotFound) else none
  (property <|> category? loose <|> script? scripts loose).getD (.error .propertyNotFound)

/-- The set that a value of a property selects. -/
def byValue (property value : String) : Except LookupError CharSet :=
  let name := looseName property
  let value := looseName value
  let found (s : Option CharSet) : Except LookupError CharSet :=
    match s with
    | some s => .ok s
    | none => .error .valueNotFound
  if named name ["gc", "General_Category"] then (category? value).getD (.error .valueNotFound)
  else if named name ["sc", "Script"] then (script? scripts value).getD (.error .valueNotFound)
  else if named name ["scx", "Script_Extensions"] then
    (script? scriptExtensions value).getD (.error .valueNotFound)
  else if named name ["age"] then found (age? value)
  else if named name ["GCB", "Grapheme_Cluster_Break"] then found (find? graphemeBreaks value)
  else if named name ["WB", "Word_Break"] then found (find? wordBreaks value)
  else if named name ["SB", "Sentence_Break"] then found (find? sentenceBreaks value)
  else if otherProperties.any (named name) || properties.any (fun r => named name r.names) then
    .error .valueNotFound
  else .error .propertyNotFound

end Munch.Unicode
