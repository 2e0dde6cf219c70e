import CircuitPrint.Proofs.Format.Checked
import CircuitPrint.Proofs.Message.Printing
import CircuitPrint.Statement.Builder
import Mathlib.Data.List.Induction

/-!
Bodies that come about by operations one after the other, each of which may fail. What an operation does is told by a
request, in which a message is lowered once and not checked again: an operation answers its request. From this follows
what one operation keeps of a body, and by induction what holds of the bodies of all histories.
-/
namespace CircuitPrint

theorem Message.checked_lower {naming : Naming} {message : Message} {format : Format}
    (lowered : message.lower naming = .ok format) : Format.checked format.text format.arguments = .ok format := by
  -- The printer does not matter here, only the arguments do.
  obtain ⟨chunks, rfl, carried⟩ := carried_of_lower (fun _ _ => []) lowered
  have spelled := Segment.scan_of_spelled (Format.spelled_ofChunks chunks)
  exact Format.checked_eq_ok.mpr ⟨⟨spelled.1, spelled.2, carried.bits_arguments⟩, rfl⟩

inductive Operation
  | printf (naming : Naming) (clock condition : Signal) (message : Message)
  | assert (naming : Naming) (clock predicate enable : Signal) (message : Message)
  | stop (clock condition : Signal) (code : Int)
  | emit (naming : Naming) (message : Message) (condition clock : Signal)
  | emitFormat (text : String) (arguments : List Signal) (condition clock : Signal)
  | rename (handle : Nat) (name : String)
  | locate (handle : Nat) (locator : String)

/-- An action to be added, or why there is none, or a change of the statement with a handle. -/
inductive Request
  | add (action : Except Fault Action)
  | change (handle : Nat) (update : Statement → Statement)

namespace Request

def answer (body : Body) : Request → Except Fault (Option Nat) × Body
  | add (.ok action) => (.ok (some body.statements.length), body.push (.ofAction action))
  | add (.error fault) => (.error fault, body)
  | change handle update => (.ok none, body.modify handle update)

theorem answer_add_error {outcome : Except Fault Action} {body : Body} {fault : Fault} :
    ((add outcome).answer body).1 = .error fault ↔ outcome = .error fault := by
  cases outcome <;> simp [answer]

theorem answer_failed {request : Request} {body : Body} {fault : Fault}
    (refused : (request.answer body).1 = .error fault) : (request.answer body).2 = body := by
  cases request with
  | add outcome =>
    cases outcome with
    | ok action => cases refused
    | error fault => rfl
  | change handle update => cases refused

end Request

namespace Operation

/-- The program of an operation, which gives the handle of the statement that it adds. -/
def program : Operation → Builder (Option Nat)
  | printf naming clock condition message => some <$> Builder.printf naming clock condition message
  | assert naming clock predicate enable message => some <$> Builder.assert naming clock predicate enable message
  | stop clock condition code => some <$> Builder.stop clock condition code
  | emit naming message condition clock => some <$> CircuitPrint.emit naming message condition clock
  | emitFormat text arguments condition clock => some <$> Emitter.emitFormat text arguments condition clock
  | rename handle name => (fun _ => none) <$> Builder.rename handle name
  | locate handle locator => (fun _ => none) <$> Builder.locate handle locator

def run (operation : Operation) (body : Body) : Except Fault (Option Nat) × Body :=
  operation.program.run.run body

def request : Operation → Request
  | printf naming clock condition message | emit naming message condition clock =>
    .add ((message.lower naming).map (.print clock condition))
  | assert naming clock predicate enable message => .add ((message.lower naming).map (.assert clock predicate enable))
  | stop clock condition code => .add (.ok (.stop clock condition code))
  | emitFormat text arguments condition clock => .add ((Format.checked text arguments).map (.print clock condition))
  | rename handle name => .change handle fun statement => { statement with name := some name }
  | locate handle locator => .change handle fun statement => { statement with locator := some locator }

theorem run_checked (text : String) (arguments : List Signal) (store : Format → Action) (body : Body) :
    (some <$> (do
      let checked ← MonadExcept.ofExcept (Format.checked text arguments)
      Builder.push (store checked)) : Builder (Option Nat)).run.run body =
      (Request.add ((Format.checked text arguments).map store)).answer body := by
  cases Format.checked text arguments with
  | error fault => rfl
  | ok format => rfl

/-- The format of a message passes the check, so that only lowering the message can fail. -/
theorem run_lowered (naming : Naming) (message : Message) (store : Format → Action) (body : Body) :
    (some <$> (do
      let format ← MonadExcept.ofExcept (message.lower naming)
      let checked ← MonadExcept.ofExcept (Format.checked format.text format.arguments)
      Builder.push (store checked)) : Builder (Option Nat)).run.run body =
      (Request.add ((message.lower naming).map store)).answer body := by
  cases lowered : message.lower naming with
  | error fault => rfl
  | ok format =>
    have answered := run_checked format.text format.arguments store body
    refine answered.trans ?_
    rw [Message.checked_lower lowered]

theorem run_eq (operation : Operation) (body : Body) : operation.run body = operation.request.answer body := by
  cases operation with
  | stop | rename | locate => rfl
  | emitFormat text arguments condition clock => exact run_checked text arguments (.print clock condition) body
  | printf naming clock condition message => exact run_lowered naming message (.print clock condition) body
  | emit naming message condition clock => exact run_lowered naming message (.print clock condition) body
  | assert naming clock predicate enable message =>
    exact run_lowered naming message (.assert clock predicate enable) body

/-- The action that an operation adds, if it adds one. -/
def added (operation : Operation) : List Action :=
  match operation.request with
  | .add (.ok action) => [action]
  | _ => []

theorem mem_added {operation : Operation} {action : Action} :
    action ∈ operation.added ↔ operation.request = .add (.ok action) := by
  rw [added]
  split
  next other requested => rw [requested, List.mem_singleton, Request.add.injEq, Except.ok.injEq, eq_comm]
  next refused => exact iff_of_false List.not_mem_nil (refused action)

/-- A message that an operation stores is accepted again as it is. -/
theorem checked_added {operation : Operation} {action : Action} (member : action ∈ operation.added) {message : Format}
    (stored : action.message? = some message) : Format.checked message.text message.arguments = .ok message := by
  have requested := mem_added.mp member
  cases operation with
  | printf naming clock condition source
  | emit naming source condition clock
  | assert naming clock predicate enable source =>
    obtain ⟨format, lowered, rfl⟩ := Outcome.map_eq_ok.mp (Request.add.inj requested)
    cases stored
    exact Message.checked_lower lowered
  | emitFormat text arguments condition clock =>
    obtain ⟨format, accepted, rfl⟩ := Outcome.map_eq_ok.mp (Request.add.inj requested)
    cases stored
    cases Format.checked_eq accepted
    exact accepted
  | stop clock condition code =>
    cases requested
    cases stored
  | rename | locate => cases requested

/-- A change leaves the action of the statement. -/
theorem action_update {operation : Operation} {handle : Nat} {update : Statement → Statement}
    (requested : operation.request = .change handle update) (statement : Statement) :
    (update statement).action = statement.action := by
  cases operation <;> cases requested <;> rfl

/-- The statement that an operation changes. -/
def target? : Operation → Option Nat
  | rename handle _ | locate handle _ => some handle
  | _ => none

theorem request_emission {operation : Operation} (emission : operation.target? = none) :
    ∃ outcome, operation.request = .add outcome := by
  cases operation with
  | printf | assert | stop | emit | emitFormat => exact ⟨_, rfl⟩
  | rename | locate => cases emission

/-- The message of an operation with its naming, and the action that keeps the format of the message. -/
def message? : Operation → Option (Naming × Message × (Format → Action))
  | printf naming clock condition message | emit naming message condition clock =>
    some (naming, message, .print clock condition)
  | assert naming clock predicate enable message => some (naming, message, .assert clock predicate enable)
  | _ => none

theorem request_message {operation : Operation} {naming : Naming} {message : Message} {store : Format → Action}
    (given : operation.message? = some (naming, message, store)) :
    operation.request = .add ((message.lower naming).map store) := by
  cases operation with
  | printf | emit | assert =>
    cases given
    rfl
  | stop | emitFormat | rename | locate => cases given

end Operation

namespace Body

/-- The body after a history of operations, some of which may have failed. -/
def after (history : List Operation) : Body :=
  history.foldl (fun body operation => (operation.run body).2) .empty

def actions (body : Body) : List Action :=
  body.statements.map Statement.action

/-- At most the statement with the handle is changed, and none where there is no such statement. -/
structure Updated (body : Body) (handle : Nat) (update : Statement → Statement) (later : Body) : Prop where
  each : ∀ i, later.statements[i]? =
    body.statements[i]?.map fun statement => if handle = i then update statement else statement
  beyond : body.statements.length ≤ handle → later = body

theorem updated_modify (body : Body) (handle : Nat) (update : Statement → Statement) :
    body.Updated handle update (body.modify handle update) where
  each i := List.getElem?_modify update handle body.statements i
  beyond outside := congrArg Body.mk (List.modify_eq_self outside)

/-- The format of an outcome is kept in a new statement after all others, unless the outcome is a fault. -/
structure Extended (body : Body) (outcome : Except Fault Format) (store : Format → Action)
    (result : Except Fault (Option Nat)) (later : Body) : Prop where
  refused : ∀ fault, result = .error fault ↔ outcome = .error fault
  kept : ∀ format, outcome = .ok format →
    result = .ok (some body.statements.length) ∧ later.statements = body.statements ++ [.ofAction (store format)]

theorem extended_answer (body : Body) (outcome : Except Fault Format) (store : Format → Action) :
    body.Extended outcome store ((Request.add (outcome.map store)).answer body).1
      ((Request.add (outcome.map store)).answer body).2 where
  refused _ := Request.answer_add_error.trans Outcome.map_eq_error
  kept format accepted := by
    rw [accepted]
    exact ⟨rfl, rfl⟩

theorem actions_modify {update : Statement → Statement}
    (kept : ∀ statement, (update statement).action = statement.action) (body : Body) (handle : Nat) :
    (body.modify handle update).actions = body.actions := by
  refine List.ext_getElem? fun i => ?_
  rw [actions, actions, List.getElem?_map, List.getElem?_map, (updated_modify body handle update).each, Option.map_map]
  refine congrArg (Option.map · body.statements[i]?) (funext fun statement => ?_)
  rw [Function.comp_apply]
  split
  · exact kept statement
  · rfl

theorem actions_run (operation : Operation) (body : Body) :
    (operation.run body).2.actions = body.actions ++ operation.added := by
  rw [Operation.run_eq, Operation.added]
  cases requested : operation.request with
  | add outcome =>
    cases outcome with
    | ok action => exact List.map_append
    | error fault => exact (List.append_nil _).symm
  | change handle update =>
    exact (actions_modify (Operation.action_update requested) body handle).trans (List.append_nil _).symm

theorem after_concat (history : List Operation) (operation : Operation) :
    after (history ++ [operation]) = (operation.run (after history)).2 :=
  List.foldl_concat _ _ _ _

/-- Every operation of a history adds to the actions, and none takes any away. -/
theorem actions_after (history : List Operation) : (after history).actions = history.flatMap Operation.added := by
  induction history using List.reverseRecOn with
  | nil => rfl
  | append_singleton history operation ih =>
    rw [after_concat, actions_run, ih, List.flatMap_append, List.flatMap_singleton]

/-- What one operation makes of a body. -/
structure Step (body : Body) (operation : Operation) (result : Except Fault (Option Nat)) (later : Body) : Prop where
  failed : ∀ fault, result = .error fault → later = body
  emitted : operation.target? = none → ∀ returned, result = .ok returned →
    returned = some body.statements.length ∧ ∃ action, later.statements = body.statements ++ [.ofAction action]
  renamed : ∀ handle name, operation = .rename handle name →
    result = .ok none ∧ body.Updated handle (fun statement => { statement with name := some name }) later
  located : ∀ handle locator, operation = .locate handle locator →
    result = .ok none ∧ body.Updated handle (fun statement => { statement with locator := some locator }) later
  lowered : ∀ naming message store, operation.message? = some (naming, message, store) →
    body.Extended (message.lower naming) store result later
  checked : ∀ text arguments condition clock, operation = .emitFormat text arguments condition clock →
    body.Extended (Format.checked text arguments) (.print clock condition) result later
  stopped : ∀ clock condition code, operation = .stop clock condition code →
    result = .ok (some body.statements.length) ∧
      later.statements = body.statements ++ [.ofAction (.stop clock condition code)]

theorem step_run (operation : Operation) (body : Body) :
    body.Step operation (operation.run body).1 (operation.run body).2 := by
  rw [Operation.run_eq]
  refine ⟨fun fault refused => Request.answer_failed refused, ?emitted, ?renamed, ?located, ?lowered, ?checked,
    ?stopped⟩
  case emitted =>
    intro emission returned accepted
    obtain ⟨outcome, requested⟩ := Operation.request_emission emission
    rw [requested] at accepted ⊢
    cases outcome with
    | ok action =>
      cases accepted
      exact ⟨rfl, action, rfl⟩
    | error fault => cases accepted
  case renamed =>
    rintro handle name rfl
    exact ⟨rfl, updated_modify body handle _⟩
  case located =>
    rintro handle locator rfl
    exact ⟨rfl, updated_modify body handle _⟩
  case lowered =>
    intro naming message store given
    rw [Operation.request_message given]
    exact extended_answer body (message.lower naming) store
  case checked =>
    rintro text arguments condition clock rfl
    exact extended_answer body (Format.checked text arguments) (.print clock condition)
  case stopped =>
    rintro clock condition code rfl
    exact ⟨rfl, rfl⟩

/-- After any history, an operation does to the body only what a step may do. What the body keeps passes the check again
as it is, and no further operation takes an action away or puts another one before it. -/
theorem append_only (history : List Operation) (operation : Operation) :
    let body := after history
    body.Step operation (operation.run body).1 (operation.run body).2 ∧
      (∀ statement ∈ body.statements, ∀ message, statement.message? = some message →
        Format.checked message.text message.arguments = .ok message) ∧
      ∀ further, body.actions <+: (after (history ++ further)).actions := by
  refine ⟨step_run operation _, fun statement member message stored => ?_, fun further => ?_⟩
  · have action : statement.action ∈ (after history).actions := List.mem_map_of_mem member
    rw [actions_after] at action
    obtain ⟨earlier, _, added⟩ := List.mem_flatMap.mp action
    exact Operation.checked_added added stored
  · rw [actions_after, actions_after, List.flatMap_append]
    exact List.prefix_append _ _

/-- A format is rejected between a stop and a message with a percent sign; then the stop is named. -/
theorem append_only_named :
    let clock : Signal := .component ⟨"clock", .clock, .port, none⟩
    let history : List Operation :=
      [.stop clock clock 1, .emitFormat "%" [] clock clock, .printf (.path false) clock clock [.text "5%"]]
    let stopped : Statement := .ofAction (.stop clock clock 1)
    let printed : Statement := .ofAction (.print clock clock ⟨"5%%", []⟩)
    let later := ((Operation.rename 0 "halt").run (after history)).2
    (after history).statements = [stopped, printed] ∧ Format.checked "5%%" [] = .ok ⟨"5%%", []⟩ ∧
      later.statements[0]? = some { stopped with name := some "halt" } ∧ later.statements[1]? = some printed := by
  intro clock history stopped printed later
  have kept : (after history).statements = [stopped, printed] := by decide
  obtain ⟨step, accepted, _⟩ := append_only history (.rename 0 "halt")
  have each := (step.renamed 0 "halt" rfl).2.each
  rw [kept] at each accepted
  exact ⟨kept, accepted printed (.tail _ (.head _)) _ rfl, each 0, each 1⟩

end Body
end CircuitPrint
