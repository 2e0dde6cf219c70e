import CircuitPrint.Message.Directive

/-!
Messages: literal text, percent signs, signals with a directive, names of signals, and messages inside messages.
A message is the list of its pieces, and messages follow each other as lists do. The constructors of `Piece` check
nothing; the functions on `Message` build the pieces that make sense.
-/
namespace CircuitPrint

inductive Piece
  | text (content : String)
  | percent
  | value (signal : Signal) (directive : Directive)
  | name (signal : Signal) (kind : NameKind)
  | nested (content : List Piece)

abbrev Message := List Piece

namespace Piece

mutual
def same : Piece → Piece → Bool
  | text content, text content' => content = content'
  | percent, percent => true
  | value signal directive, value signal' directive' => signal = signal' && directive = directive'
  | name signal kind, name signal' kind' => signal = signal' && kind = kind'
  | nested content, nested content' => sameAll content content'
  | _, _ => false
def sameAll : List Piece → List Piece → Bool
  | [], [] => true
  | piece :: pieces, piece' :: pieces' => same piece piece' && sameAll pieces pieces'
  | _, _ => false
end

/-- Induction over pieces in which all pieces of a nested message are at hand. -/
@[induction_eliminator]
theorem ind {motive : Piece → Prop} (text : ∀ content, motive (.text content)) (percent : motive .percent)
    (value : ∀ signal directive, motive (.value signal directive))
    (name : ∀ signal kind, motive (.name signal kind))
    (nested : ∀ content, (∀ piece ∈ content, motive piece) → motive (.nested content))
    (piece : Piece) : motive piece :=
  @Piece.rec motive (fun pieces => ∀ piece ∈ pieces, motive piece) text percent value name nested
    (fun _ member => nomatch member) (fun _ _ first others => List.forall_mem_cons.mpr ⟨first, others⟩) piece

theorem sameAll_iff {pieces others : List Piece}
    (each : ∀ piece ∈ pieces, ∀ other, same piece other = true ↔ piece = other) :
    sameAll pieces others = true ↔ pieces = others := by
  induction pieces generalizing others with
  | nil => cases others <;> simp [sameAll]
  | cons piece pieces ih =>
    cases others with
    | nil => simp [sameAll]
    | cons other others =>
      have rest : sameAll pieces others = true ↔ pieces = others :=
        ih fun p member => each p (List.mem_cons_of_mem _ member)
      simp [sameAll, rest, each piece List.mem_cons_self]

theorem same_iff (piece other : Piece) : same piece other = true ↔ piece = other := by
  induction piece generalizing other with
  | text | percent | value | name => cases other <;> simp [same]
  | nested content ih => cases other <;> simp [same, sameAll_iff fun p member other => ih p member other]

instance : DecidableEq Piece := fun piece other => decidable_of_iff _ (same_iff piece other)

mutual
/-- The signals that a piece prints or names, each as often as it does. -/
def signals : Piece → List Signal
  | text _ | percent => []
  | value signal _ | name signal _ => [signal]
  | nested content => signalsOf content
def signalsOf : List Piece → List Signal
  | [] => []
  | piece :: pieces => piece.signals ++ signalsOf pieces
end

theorem signalsOf_eq_flatMap (pieces : List Piece) : signalsOf pieces = pieces.flatMap signals := by
  induction pieces with
  | nil => rfl
  | cons piece pieces ih => simp [signalsOf, ih]

/-- The pieces directly inside a piece. -/
def inner : Piece → List Piece
  | nested content => content
  | _ => []

/-- The signal that a piece itself prints or names. -/
def signal? : Piece → Option Signal
  | value signal _ | name signal _ => some signal
  | _ => none

end Piece

namespace Message

def signals (message : Message) : List Signal :=
  Piece.signalsOf message

/-- The signals of all pieces that the traversal visits, beginning with each piece of the message in turn. A traversal goes
from a piece to the pieces directly inside it, in an order of its own. -/
def references (visit : Piece → List Piece) (message : Message) : List Signal :=
  (message.flatMap visit).filterMap Piece.signal?

/-- No text is no piece. -/
def literal (content : String) : Message :=
  if content.isEmpty then [] else [.text content]

def percent : Message :=
  [.percent]

def name (signal : Signal) (kind : NameKind) : Message :=
  [.name signal kind]

def nested (message : Message) : Message :=
  [.nested message]

/-- Only bit vectors have other forms than the default one and names. A letter without a meaning is left to be found
when the message is lowered. -/
def value (signal : Signal) : Directive → Except Fault Message
  | .name kind => .ok (name signal kind)
  | .default => signal.typed.map fun _ => [.value signal .default]
  | directive => do
    let type ← signal.typed
    if type.isBitVector then .ok [.value signal directive] else .error (.illegalDirective directive.text)

def join (items : List Message) (separator : String) : Message :=
  (literal separator).intercalate items

/-- The parts of a signal, each in its default form, with an arrow from the name of a field to its value. -/
def part (signal : Signal) (selector : Selector) : Except Fault Message :=
  (value (signal.select selector) .default).map fun shown =>
    match selector with
    | .field name => literal (name ++ " -> ") ++ shown
    | .index _ => shown

def parts (signal : Signal) (title : String) (type : Ty) : Except Fault Message :=
  (type.selectors.mapM (part signal)).map fun items =>
    literal (title ++ "(") ++ join items ", " ++ literal ")"

/-- The default form of a signal, one step down: a decimal, the parts in brackets, or the name of the type. -/
def rendered (signal : Signal) : Except Fault Message := do
  match ← signal.typed with
  | .unsigned _ | .signed _ => value signal (.bits .decimal)
  | .vec element size => parts signal "Vec" (.vec element size)
  | .bundle title fields => parts signal title (.bundle title fields)
  | .clock => return literal Ty.clock.text

end Message
end CircuitPrint
