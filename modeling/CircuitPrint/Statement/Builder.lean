import CircuitPrint.Message.Lowering
import CircuitPrint.Statement.Body

/-!
Building a body. A builder is a program on a body that may fail; what it has done before it fails stays done.
Statements are known by their handles, which count the statements before them. Messages are lowered and then given to
an emitter, which a body is one kind of.
-/
namespace CircuitPrint

/-- A program to which a format, its arguments, a condition and a clock can be given as a print statement. -/
class Emitter (m : Type → Type) (Handle : outParam Type) where
  emitFormat : String → List Signal → (condition clock : Signal) → m Handle

/-- Prints a message through any emitter. -/
def emit {m : Type → Type} {Handle : Type} [Monad m] [MonadExcept Fault m] [Emitter m Handle]
    (naming : Naming) (message : Message) (condition clock : Signal) : m Handle := do
  let format ← MonadExcept.ofExcept (message.lower naming)
  Emitter.emitFormat format.text format.arguments condition clock

abbrev Builder := ExceptT Fault (StateM Body)

namespace Builder

def push (action : Action) : Builder Nat := do
  let body ← get
  set (body.push (.ofAction action))
  return body.statements.length

instance : Emitter Builder Nat where
  emitFormat text arguments condition clock := do
    let message ← MonadExcept.ofExcept (Format.checked text arguments)
    push (.print clock condition message)

def printf (naming : Naming) (clock condition : Signal) (message : Message) : Builder Nat :=
  emit naming message condition clock

def assert (naming : Naming) (clock predicate enable : Signal) (message : Message) : Builder Nat := do
  let format ← MonadExcept.ofExcept (message.lower naming)
  let checked ← MonadExcept.ofExcept (Format.checked format.text format.arguments)
  push (.assert clock predicate enable checked)

def stop (clock condition : Signal) (code : Int) : Builder Nat :=
  push (.stop clock condition code)

def rename (handle : Nat) (name : String) : Builder Unit :=
  modify (·.modify handle fun statement => { statement with name := some name })

def locate (handle : Nat) (locator : String) : Builder Unit :=
  modify (·.modify handle fun statement => { statement with locator := some locator })

end Builder

/-- A print statement that is kept as it was given, without any check. -/
structure Printed where
  text : String
  arguments : List Signal
  condition : Signal
  clock : Signal

/-- An emitter that accepts everything. -/
instance : Emitter (Except Fault) Printed where
  emitFormat text arguments condition clock := .ok ⟨text, arguments, condition, clock⟩

end CircuitPrint
