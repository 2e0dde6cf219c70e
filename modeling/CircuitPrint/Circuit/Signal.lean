import CircuitPrint.Circuit.Literal

/-!
Signals: literals, components, and the parts that are selected from other signals. The components are the named parts of a
circuit; one belongs to a module once the module declares it.
-/
namespace CircuitPrint

inductive Role
  | port
  | wire
  | register
  | node
  deriving DecidableEq

/-- The word that declares a component of the role. -/
def Role.keyword : Role → String
  | port => "port"
  | wire => "wire"
  | register => "reg"
  | node => "node"

structure Component where
  name : String
  type : Ty
  role : Role
  /-- The module that declares the component. -/
  owner : Option String
  deriving DecidableEq

def Component.text (component : Component) : String :=
  component.role.keyword ++ " " ++ Ty.fieldText component.name component.type

inductive Signal
  | literal (value : Literal)
  | component (part : Component)
  | select (base : Signal) (selector : Selector)
  deriving DecidableEq

namespace Signal

def ofNat (value : Nat) : Signal :=
  literal (.ofNat value)

def ofInt (value : Int) : Signal :=
  literal (.ofInt value)

def field (base : Signal) (name : String) : Signal :=
  base.select (.field name)

def index (base : Signal) (i : Nat) : Signal :=
  base.select (.index i)

def text : Signal → String
  | literal value => value.text
  | component part => part.name
  | select base selector => base.text ++ selector.text

/-- The type of a signal, or the innermost selection that its base does not have. -/
def type : Signal → Except Signal Ty
  | literal value => .ok value.type
  | component part => .ok part.type
  | select base selector => do
    let whole ← base.type
    match whole.part? selector with
    | some part => .ok part
    | none => .error (select base selector)

def isBitVector (signal : Signal) : Except Signal Bool :=
  signal.type.map Ty.isBitVector

/-- The parts of a signal, one step away from it. -/
def elements (signal : Signal) : Except Signal (List Signal) :=
  signal.type.map fun type => type.selectors.map signal.select

/-- The component that a signal is or is selected from. -/
def root : Signal → Option Component
  | literal _ => none
  | component part => some part
  | select base _ => base.root

def owner (signal : Signal) : Option String :=
  signal.root.bind Component.owner

def literal? : Signal → Option Literal
  | literal value => some value
  | _ => none

/-- The signal at the end of a path of selections. -/
def follow (signal : Signal) (path : List Selector) : Signal :=
  path.foldl select signal

@[simp] theorem follow_nil (signal : Signal) : signal.follow [] = signal := rfl

@[simp] theorem follow_cons (signal : Signal) (selector : Selector) (path : List Selector) :
    signal.follow (selector :: path) = (signal.select selector).follow path := rfl

theorem follow_append (signal : Signal) (path further : List Selector) :
    signal.follow (path ++ further) = (signal.follow path).follow further := by
  simp [follow]

theorem type_select {base : Signal} {whole : Ty} (typed : base.type = .ok whole) (selector : Selector) :
    (base.select selector).type =
      match whole.part? selector with
      | some part => .ok part
      | none => .error (base.select selector) := by
  simp only [type, typed]
  rfl

theorem type_select_error {base offending : Signal} (untyped : base.type = .error offending)
    (selector : Selector) : (base.select selector).type = .error offending := by
  simp only [type, untyped]
  rfl

@[simp] theorem root_follow (signal : Signal) (path : List Selector) :
    (signal.follow path).root = signal.root := by
  induction path generalizing signal with
  | nil => rfl
  | cons selector path ih => simp [ih, root]

end Signal
end CircuitPrint
