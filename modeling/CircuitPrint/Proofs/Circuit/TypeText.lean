import CircuitPrint.Proofs.Circuit.Path
import CircuitPrint.Proofs.Intercalate

/-!
What the text of a type shows: the type, up to the names of its bundles. A vector is written behind its elements, so that a
text begins with the innermost of them, a ground type or a bundle, and the sizes follow from the inside out. The names of
fields are words, so that a type is told from its text together with what follows it.
-/
namespace CircuitPrint.Ty

open Text (IsWord Stops stops_cons stops_nil run_cancel word_cancel isWordChar preceded preceded_cons preceded_cancel)
open Text.Numeral (natural_cancel)

mutual
/-- The type without the names that its bundles were declared with. -/
def anonymous : Ty → Ty
  | unsigned width => unsigned width
  | signed width => signed width
  | clock => clock
  | vec element size => vec element.anonymous size
  | bundle _ fields => bundle "" (anonymousFields fields)
def anonymousFields : List (String × Ty) → List (String × Ty)
  | [] => []
  | (name, type) :: fields => (name, type.anonymous) :: anonymousFields fields
end

mutual
/-- The names of all fields, those of inner bundles among them. -/
def fieldNames : Ty → List String
  | unsigned _ | signed _ | clock => []
  | vec element _ => element.fieldNames
  | bundle _ fields => fieldNamesOf fields
def fieldNamesOf : List (String × Ty) → List String
  | [] => []
  | (name, type) :: fields => name :: (type.fieldNames ++ fieldNamesOf fields)
end

def Worded (type : Ty) : Prop :=
  ∀ name ∈ type.fieldNames, IsWord name

theorem anonymousFields_eq_map (fields : List (String × Ty)) :
    anonymousFields fields = fields.map fun field => (field.1, field.2.anonymous) := by
  induction fields with
  | nil => rfl
  | cons field fields ih => rw [anonymousFields, ih, List.map_cons]

theorem fieldNamesOf_eq_flatMap (fields : List (String × Ty)) :
    fieldNamesOf fields = fields.flatMap fun field => field.1 :: field.2.fieldNames := by
  induction fields with
  | nil => rfl
  | cons field fields ih =>
    rw [fieldNamesOf, ih, List.flatMap_cons]
    rfl

theorem worded_bundle {title : String} {fields : List (String × Ty)} :
    Worded (bundle title fields) ↔ ∀ field ∈ fields, IsWord field.1 ∧ field.2.Worded := by
  rw [Worded, fieldNames, fieldNamesOf_eq_flatMap, List.forall_mem_flatMap]
  exact forall₂_congr fun field _ => List.forall_mem_cons

theorem text_anonymous (type : Ty) : type.anonymous.text = type.text := by
  induction type with
  | unsigned | signed | clock => rfl
  | vec element size ih => rw [anonymous, text, text, ih]
  | bundle title fields ih =>
    have each : ∀ field ∈ fields, fieldText field.1 field.2.anonymous = fieldText field.1 field.2 := by
      intro field member
      rw [fieldText, fieldText, ih field member]
    rw [anonymous, text, text, anonymousFields_eq_map, fieldTexts_eq_map, fieldTexts_eq_map, List.map_map]
    exact congrArg (fun texts => "\x7b" ++ ", ".intercalate texts ++ "\x7d") (List.map_congr_left each)

section Stem

/-- What is left of a type without the vectors around it. -/
def stem : Ty → Ty
  | vec element _ => element.stem
  | unsigned width => unsigned width
  | signed width => signed width
  | clock => clock
  | bundle title fields => bundle title fields

/-- The sizes of the vectors around the stem, the innermost first. -/
def sizes : Ty → List Nat
  | vec element size => element.sizes ++ [size]
  | _ => []

theorem stem_of_ground {type : Ty} (ground : type.isGround = true) : type.stem = type := by
  cases type with
  | vec | bundle => cases ground
  | _ => rfl

theorem stem_cases (type : Ty) : type.stem.isGround = true ∨ ∃ title fields, type.stem = bundle title fields := by
  induction type with
  | unsigned | signed | clock => exact .inl rfl
  | vec element size ih => exact ih
  | bundle title fields => exact .inr ⟨title, fields, rfl⟩

theorem worded_stem {type : Ty} (worded : type.Worded) : type.stem.Worded := by
  induction type with
  | vec element size ih => exact ih worded
  | _ => exact worded

theorem anonymous_eq (type : Ty) : type.anonymous = type.sizes.foldl vec type.stem.anonymous := by
  induction type with
  | vec element size ih =>
    rw [sizes, List.foldl_append, stem, ← ih]
    rfl
  | _ => rfl

/-- The sizes are written like selections of elements. -/
theorem toList_text (type : Ty) :
    type.text.toList = type.stem.text.toList ++ Selector.pathText (type.sizes.map .index) := by
  induction type with
  | vec element size ih => simp [text, stem, sizes, Selector.pathText, Selector.text, ih]
  | _ => exact (List.append_nil _).symm

end Stem

section Ground

def keyword : Ty → List Char
  | unsigned _ => ['U', 'I', 'n', 't']
  | signed _ => ['S', 'I', 'n', 't']
  | clock => ['C', 'l', 'o', 'c', 'k']
  | vec _ _ | bundle _ _ => []

def width? : Ty → Option Nat
  | unsigned width | signed width => width
  | clock | vec _ _ | bundle _ _ => none

variable {type other : Ty} {rest further : List Char}

theorem keyword_word (type : Ty) : ∀ c ∈ type.keyword, isWordChar c = true := by
  cases type <;> exact List.all_eq_true.mp rfl

theorem toList_text_ground (ground : type.isGround = true) :
    type.text.toList = type.keyword ++ (widthText type.width?).toList := by
  cases type with
  | vec | bundle => cases ground
  | _ => simp [text, keyword, width?, widthText]

theorem eq_of_ground (ground : type.isGround = true) (likewise : other.isGround = true)
    (keywords : type.keyword = other.keyword) (widths : type.width? = other.width?) : type = other := by
  cases type <;> cases other <;> simp_all [isGround, keyword, width?]

theorem toList_widthText_some (width : Nat) : (widthText (some width)).toList = '<' :: (width.repr.toList ++ ['>']) := by
  simp [widthText]

theorem stops_widthText (stops : Stops Origin.isShown rest) (width : Option Nat) :
    Stops isWordChar ((widthText width).toList ++ rest) := by
  cases width with
  | none => exact Origin.stops_word stops
  | some width =>
    rw [toList_widthText_some]
    exact stops_cons rfl

theorem ne_widthText_some (stops : Stops Origin.isShown rest) (width : Nat) (further : List Char) :
    rest ≠ (widthText (some width)).toList ++ further := by
  intro same
  rw [toList_widthText_some] at same
  have outside : Origin.isShown '<' = false := stops '<' (congrArg List.head? same)
  cases outside

theorem widthText_cancel {width size : Option Nat} (stops : Stops Origin.isShown rest)
    (ends : Stops Origin.isShown further)
    (same : (widthText width).toList ++ rest = (widthText size).toList ++ further) : width = size ∧ rest = further := by
  cases width with
  | none =>
    cases size with
    | none => exact ⟨rfl, same⟩
    | some size => exact absurd same (ne_widthText_some stops size further)
  | some width =>
    cases size with
    | none => exact absurd same.symm (ne_widthText_some ends width rest)
    | some size =>
      rw [toList_widthText_some, toList_widthText_some, List.cons_append, List.cons_append, List.append_assoc,
        List.append_assoc] at same
      obtain ⟨rfl, behind⟩ := natural_cancel (stops_cons rfl) (stops_cons rfl) (List.cons.inj same).2
      exact ⟨rfl, (List.cons.inj behind).2⟩

theorem ground_cancel (ground : type.isGround = true) (likewise : other.isGround = true)
    (stops : Stops Origin.isShown rest) (ends : Stops Origin.isShown further)
    (same : type.text.toList ++ rest = other.text.toList ++ further) : type = other ∧ rest = further := by
  rw [toList_text_ground ground, toList_text_ground likewise, List.append_assoc, List.append_assoc] at same
  obtain ⟨keywords, after⟩ :=
    run_cancel type.keyword_word other.keyword_word (stops_widthText stops _) (stops_widthText ends _) same
  obtain ⟨widths, behind⟩ := widthText_cancel stops ends after
  exact ⟨eq_of_ground ground likewise keywords widths, behind⟩

theorem ground_ne_brace (ground : type.isGround = true) (rest further : List Char) :
    type.text.toList ++ rest ≠ '{' :: further := by
  intro same
  rw [toList_text_ground ground] at same
  cases type with
  | vec | bundle => cases ground
  | _ => exact absurd (List.cons.inj same).1 (by decide)

end Ground

section Fields

variable {fields others : List (String × Ty)} {type other : Ty} {rest further : List Char}

/-- The text of fields with what stands between them. -/
def listed : List (String × Ty) → List Char
  | [] => []
  | field :: fields =>
    (fieldText field.1 field.2).toList ++ preceded (fun field => (fieldText field.1 field.2).toList) fields

theorem toList_text_bundle (title : String) (fields : List (String × Ty)) (rest : List Char) :
    (bundle title fields).text.toList ++ rest = '{' :: (listed fields ++ '}' :: rest) := by
  have inner : (", ".intercalate (fieldTexts fields)).toList = listed fields := by
    rw [String.toList_intercalate, fieldTexts_eq_map, List.map_map]
    cases fields with
    | nil => rfl
    | cons field fields =>
      rw [List.map_cons, Intercalate.of_cons, List.flatMap_map]
      rfl
  simp [text, inner]

theorem toList_fieldText (name : String) (type : Ty) (rest : List Char) :
    (fieldText name type).toList ++ rest = name.toList ++ ':' :: ' ' :: (type.text.toList ++ rest) := by
  simp [fieldText]

theorem sizes_cancel {sizes others : List Nat} (stops : Stops Signal.isShown rest) (ends : Stops Signal.isShown further)
    (same : Selector.pathText (sizes.map .index) ++ rest = Selector.pathText (others.map .index) ++ further) :
    sizes = others ∧ rest = further := by
  have unnamed : ∀ sizes : List Nat, ∀ selector ∈ sizes.map Selector.index, selector.Within isWordChar := by
    intro sizes selector member name shown
    obtain ⟨size, _, rfl⟩ := List.mem_map.mp member
    cases shown
  obtain ⟨indices, behind⟩ := Signal.path_cancel (unnamed sizes) (unnamed others) stops ends same
  exact ⟨List.map_injective_iff.mpr (fun _ _ => Selector.index.inj) indices, behind⟩

/-- The stem of the type is told from its text, up to the names of bundles, and what follows it as well. -/
def Told (type : Ty) : Prop :=
  ∀ (other : Ty) (rest further : List Char), type.Worded → other.Worded → Stops Origin.isShown rest →
    Stops Origin.isShown further → type.stem.text.toList ++ rest = other.stem.text.toList ++ further →
      type.stem.anonymous = other.stem.anonymous ∧ rest = further

theorem Told.cancel (told : type.Told) (worded : type.Worded) (likewise : other.Worded)
    (stops : Stops Signal.isShown rest) (ends : Stops Signal.isShown further)
    (same : type.text.toList ++ rest = other.text.toList ++ further) :
    type.anonymous = other.anonymous ∧ rest = further := by
  rw [type.toList_text, other.toList_text, List.append_assoc, List.append_assoc] at same
  obtain ⟨stems, paths⟩ := told other _ _ worded likewise (Signal.stops_origin stops _) (Signal.stops_origin ends _) same
  obtain ⟨sizes, behind⟩ := sizes_cancel stops ends paths
  rw [type.anonymous_eq, other.anonymous_eq, stems, sizes]
  exact ⟨rfl, behind⟩

/-- Fields of one name with types that differ in nothing but the names of bundles. -/
structure FieldAlike (field other : String × Ty) : Prop where
  name : field.1 = other.1
  type : field.2.anonymous = other.2.anonymous

theorem anonymousFields_of_alike (alike : List.Forall₂ FieldAlike fields others) :
    anonymousFields fields = anonymousFields others := by
  induction alike with
  | nil => rfl
  | cons first _ ih => rw [anonymousFields, anonymousFields, first.name, first.type, ih]

theorem field_cancel {field other : String × Ty} (told : field.2.Told) (worded : IsWord field.1 ∧ field.2.Worded)
    (likewise : IsWord other.1 ∧ other.2.Worded) (stops : Stops Signal.isShown rest)
    (ends : Stops Signal.isShown further)
    (same : (fieldText field.1 field.2).toList ++ rest = (fieldText other.1 other.2).toList ++ further) :
    FieldAlike field other ∧ rest = further := by
  rw [toList_fieldText, toList_fieldText] at same
  obtain ⟨names, after⟩ := word_cancel worded.1 likewise.1 (stops_cons rfl) (stops_cons rfl) same
  obtain ⟨types, behind⟩ := told.cancel worded.2 likewise.2 stops ends (List.cons.inj (List.cons.inj after).2).2
  exact ⟨⟨names, types⟩, behind⟩

/-- Neither the name of a field nor the colon behind it begins with a closing brace. -/
theorem brace_ne_listed {field : String × Ty} (word : IsWord field.1) (fields : List (String × Ty))
    (rest further : List Char) : '}' :: rest ≠ listed (field :: fields) ++ further := by
  intro same
  rw [listed, List.append_assoc, toList_fieldText] at same
  have colon := (run_cancel (List.forall_mem_nil _) word (stops_cons rfl) (stops_cons rfl) same).2
  exact absurd (List.cons.inj colon).1 (by decide)

theorem listed_cancel (each : ∀ field ∈ fields, field.2.Told)
    (worded : ∀ field ∈ fields, IsWord field.1 ∧ field.2.Worded)
    (likewise : ∀ other ∈ others, IsWord other.1 ∧ other.2.Worded)
    (same : listed fields ++ '}' :: rest = listed others ++ '}' :: further) :
    List.Forall₂ FieldAlike fields others ∧ rest = further := by
  cases fields with
  | nil =>
    cases others with
    | nil => exact ⟨.nil, (List.cons.inj same).2⟩
    | cons other others => exact absurd same (brace_ne_listed (likewise other List.mem_cons_self).1 others rest _)
  | cons field fields =>
    cases others with
    | nil => exact absurd same.symm (brace_ne_listed (worded field List.mem_cons_self).1 fields further _)
    | cons other others =>
      have comma : Signal.isShown ',' = false := rfl
      have brace : Signal.isShown '}' = false := rfl
      rw [listed, listed, List.append_assoc, List.append_assoc] at same
      apply preceded_cancel comma brace (by decide)
      · intro field member other inside rest further stops ends shown
        exact field_cancel (each field member) (worded field member) (likewise other inside) stops ends shown
      · -- With a comma before the first fields too, these are lists of which every field has one.
        rw [preceded_cons, preceded_cons, same]

end Fields

theorem told_of_ground {type : Ty} (ground : type.isGround = true) : type.Told := by
  intro other rest further _ _ stops ends same
  rw [stem_of_ground ground] at same ⊢
  rcases other.stem_cases with likewise | ⟨heading, others, bundled⟩
  · obtain ⟨stems, behind⟩ := ground_cancel ground likewise stops ends same
    exact ⟨congrArg anonymous stems, behind⟩
  · rw [bundled, toList_text_bundle] at same
    exact absurd same (ground_ne_brace ground _ _)

theorem told_of_fields (title : String) {fields : List (String × Ty)} (each : ∀ field ∈ fields, field.2.Told) :
    Told (bundle title fields) := by
  intro other rest further worded likewise _ _ same
  have words := worded_stem likewise
  rw [stem, toList_text_bundle] at same
  rcases other.stem_cases with ground | ⟨heading, others, bundled⟩
  · exact absurd same.symm (ground_ne_brace ground _ _)
  · rw [bundled] at same words ⊢
    rw [toList_text_bundle] at same
    obtain ⟨alike, behind⟩ :=
      listed_cancel each (worded_bundle.mp worded) (worded_bundle.mp words) (List.cons.inj same).2
    rw [stem, anonymous, anonymous, anonymousFields_of_alike alike]
    exact ⟨rfl, behind⟩

theorem told (type : Ty) : type.Told := by
  induction type with
  | unsigned | signed | clock => exact told_of_ground rfl
  | vec element size ih =>
    -- A vector has the stem of its elements: sizes are compared only where the text of a whole type ends.
    exact ih
  | bundle title fields ih => exact told_of_fields title ih

/-- Types have the same text exactly if they differ in nothing but the names of bundles. -/
theorem text_eq_iff_anonymous {type other : Ty} (worded : ∀ name ∈ type.fieldNames, IsWord name)
    (likewise : ∀ name ∈ other.fieldNames, IsWord name) :
    type.text = other.text ↔ type.anonymous = other.anonymous := by
  constructor
  · intro same
    have texts := congrArg (fun text => text.toList ++ []) same
    exact ((told type).cancel worded likewise stops_nil stops_nil texts).1
  · intro same
    rw [← type.text_anonymous, same, other.text_anonymous]

/-- Vectors of vectors of a bundle: the names of the bundles are not shown, and the order of the sizes is. -/
theorem text_eq_iff_anonymous_nested :
    let pair (title : String) : Ty := bundle title [("a", unsigned (some 8)), ("", bundle title [])]
    let table (title : String) (rows columns : Nat) : Ty := vec (vec (pair title) columns) rows
    (∀ name ∈ (table "A" 3 2).fieldNames, IsWord name) ∧
      (table "A" 3 2).text = "\x7ba: UInt<8>, : \x7b\x7d\x7d[2][3]" ∧ (table "A" 3 2).text = (table "B" 3 2).text ∧
      (table "A" 3 2).text ≠ (table "A" 2 3).text := by
  intro pair table
  have worded : ∀ title rows columns, ∀ name ∈ (table title rows columns).fieldNames, IsWord name := by
    intro title rows columns
    change ∀ name ∈ ["a", ""], IsWord name
    decide
  refine ⟨worded _ _ _, rfl, ?_, ?_⟩
  · rw [text_eq_iff_anonymous (worded _ _ _) (worded _ _ _)]
    rfl
  · rw [ne_eq, text_eq_iff_anonymous (worded _ _ _) (worded _ _ _)]
    decide

end CircuitPrint.Ty
