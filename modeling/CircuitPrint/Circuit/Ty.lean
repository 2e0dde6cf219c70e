/-!
The types of signals. Only ground types other than clocks are bit vectors. A bundle keeps the name that it was
declared with, which its text does not show.
-/
namespace CircuitPrint

inductive Ty
  | unsigned (width : Option Nat)
  | signed (width : Option Nat)
  | clock
  | vec (element : Ty) (size : Nat)
  | bundle (name : String) (fields : List (String × Ty))

/-- How signals of a type are formatted when nothing else is asked for. -/
inductive Kind
  | bitVector
  | vec
  | bundle
  | other
  deriving DecidableEq

/-- One step from a signal to a part of it. -/
inductive Selector
  | field (name : String)
  | index (i : Nat)
  deriving DecidableEq

namespace Selector

def text : Selector → String
  | field name => "." ++ name
  | index i => "[" ++ i.repr ++ "]"

def field? : Selector → Option String
  | field name => some name
  | index _ => none

end Selector

namespace Ty

def kind : Ty → Kind
  | unsigned _ | signed _ => .bitVector
  | clock => .other
  | vec _ _ => .vec
  | bundle _ _ => .bundle

def isBitVector (type : Ty) : Bool :=
  type.kind = .bitVector

def isGround : Ty → Bool
  | unsigned _ | signed _ | clock => true
  | vec _ _ | bundle _ _ => false

def element? : Ty → Option Ty
  | vec element _ => some element
  | _ => none

/-- The type of the first field with the name. -/
def field? (name : String) : Ty → Option Ty
  | bundle _ fields => fields.lookup name
  | _ => none

/-- The type of the selected part, if there is such a part. -/
def part? (type : Ty) : Selector → Option Ty
  | .field name => type.field? name
  | .index i =>
    match type with
    | vec element size => if i < size then some element else none
    | _ => none

/-- The parts of a signal of the type, in the order in which they are declared. -/
def selectors : Ty → List Selector
  | vec _ size => (List.range size).map .index
  | bundle _ fields => fields.map fun field => .field field.1
  | _ => []

def widthText : Option Nat → String
  | some width => "<" ++ width.repr ++ ">"
  | none => ""

mutual
def text : Ty → String
  | unsigned width => "UInt" ++ widthText width
  | signed width => "SInt" ++ widthText width
  | clock => "Clock"
  | vec element size => element.text ++ "[" ++ size.repr ++ "]"
  | bundle _ fields => "\x7b" ++ ", ".intercalate (fieldTexts fields) ++ "\x7d"
def fieldTexts : List (String × Ty) → List String
  | [] => []
  | (name, type) :: fields => (name ++ ": " ++ type.text) :: fieldTexts fields
end

def fieldText (name : String) (type : Ty) : String :=
  name ++ ": " ++ type.text

theorem fieldTexts_eq_map (fields : List (String × Ty)) :
    fieldTexts fields = fields.map fun field => fieldText field.1 field.2 := by
  induction fields with
  | nil => rfl
  | cons field fields ih => simp [fieldTexts, fieldText, ih]

/-- Induction over types in which the types of all fields of a bundle are at hand. -/
@[induction_eliminator]
theorem ind {motive : Ty → Prop} (unsigned : ∀ width, motive (.unsigned width))
    (signed : ∀ width, motive (.signed width)) (clock : motive .clock)
    (vec : ∀ element size, motive element → motive (.vec element size))
    (bundle : ∀ name fields, (∀ field ∈ fields, motive field.2) → motive (.bundle name fields))
    (type : Ty) : motive type :=
  @Ty.rec motive (fun fields => ∀ field ∈ fields, motive field.2) (fun field => motive field.2)
    unsigned signed clock vec bundle (fun _ member => nomatch member)
    (fun _ _ first others => List.forall_mem_cons.mpr ⟨first, others⟩) (fun _ _ type => type) type

mutual
def same : Ty → Ty → Bool
  | unsigned width, unsigned width' => width = width'
  | signed width, signed width' => width = width'
  | clock, clock => true
  | vec element size, vec element' size' => same element element' && size = size'
  | bundle name fields, bundle name' fields' => name = name' && sameFields fields fields'
  | _, _ => false
def sameFields : List (String × Ty) → List (String × Ty) → Bool
  | [], [] => true
  | (name, type) :: fields, (name', type') :: fields' =>
    name = name' && same type type' && sameFields fields fields'
  | _, _ => false
end

theorem sameFields_iff {fields fields' : List (String × Ty)}
    (each : ∀ field ∈ fields, ∀ type, same field.2 type = true ↔ field.2 = type) :
    sameFields fields fields' = true ↔ fields = fields' := by
  induction fields generalizing fields' with
  | nil => cases fields' <;> simp [sameFields]
  | cons field fields ih =>
    cases fields' with
    | nil => simp [sameFields]
    | cons field' fields' =>
      have rest : sameFields fields fields' = true ↔ fields = fields' :=
        ih fun f member => each f (List.mem_cons_of_mem _ member)
      simp [sameFields, rest, each field List.mem_cons_self, Prod.ext_iff]

theorem same_iff (type other : Ty) : same type other = true ↔ type = other := by
  induction type generalizing other with
  | unsigned | signed | clock => cases other <;> simp [same]
  | vec element size ih => cases other <;> simp [same, ih]
  | bundle name fields ih => cases other <;> simp [same, sameFields_iff fun f member type => ih f member type]

instance : DecidableEq Ty := fun type other => decidable_of_iff _ (same_iff type other)

theorem part?_isSome_of_mem {type : Ty} {selector : Selector} (member : selector ∈ type.selectors) :
    (type.part? selector).isSome = true := by
  cases type with
  | vec element size =>
    obtain ⟨i, inside, rfl⟩ := List.mem_map.mp member
    simp [part?, List.mem_range.mp inside]
  | bundle name fields =>
    obtain ⟨field, inside, rfl⟩ := List.mem_map.mp member
    simp only [part?, field?, List.lookup_isSome_iff]
    exact ⟨field, inside, beq_self_eq_true _⟩
  | _ => simp [selectors] at member

end Ty
end CircuitPrint
