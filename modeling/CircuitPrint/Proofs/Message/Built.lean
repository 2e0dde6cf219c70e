import CircuitPrint.Proofs.Message.Sound
import CircuitPrint.Template.Directed
import CircuitPrint.Template.Plain

/-!
Messages that are built only by the functions that check what they build. All of them are sound, so that nothing is
wrong with them but letters without a meaning on bit vectors, which are left to be found when they are lowered.
-/
namespace CircuitPrint

inductive Message.Built : Message → Prop
  | empty : Built []
  | literal (content : String) : Built (literal content)
  | percent : Built percent
  | value {signal : Signal} {directive : Directive} {message : Message}
      (accepted : value signal directive = .ok message) : Built message
  | name (signal : Signal) (kind : NameKind) : Built (name signal kind)
  | nested {content : Message} (inner : Built content) : Built (nested content)
  | append {first second : Message} (left : Built first) (right : Built second) : Built (first ++ second)
  | collect {items : List Message} (each : ∀ item ∈ items, Built item) : Built items.flatten
  | join {items : List Message} (separator : String) (each : ∀ item ∈ items, Built item) : Built (join items separator)
  | rendered {signal : Signal} {message : Message} (accepted : rendered signal = .ok message) : Built message
  | plain {parts : List String} {arguments : List Argument} {message : Message}
      (each : ∀ content, .message content ∈ arguments → Built content)
      (accepted : Template.plain parts arguments = .ok message) : Built message
  | directed {parts : List String} {arguments : List Argument} {message : Message}
      (each : ∀ content, .message content ∈ arguments → Built content)
      (accepted : Template.directed parts arguments = .ok message) : Built message

def Argument.Sound : Argument → Prop
  | .message content => content.Sound
  | _ => True

theorem Argument.sound_of_messages {arguments : List Argument}
    (each : ∀ content, .message content ∈ arguments → content.Sound) : ∀ argument ∈ arguments, argument.Sound := by
  intro argument member
  cases argument with
  | message content => exact each content member
  | signal | datum => trivial

namespace Template

open Message

theorem sound_plainArgument {argument : Argument} (inner : argument.Sound) {message : Message}
    (accepted : plainArgument argument = .ok message) : message.Sound := by
  cases argument with
  | signal signal =>
    rw [plainArgument] at accepted
    exact sound_value accepted
  | message content =>
    obtain rfl := Except.ok.inj accepted
    exact sound_nested inner
  | datum value =>
    obtain rfl := Except.ok.inj accepted
    exact sound_literal _

theorem sound_plainText {part : String} {message : Message} (accepted : plainText part = .ok message) :
    message.Sound := by
  obtain ⟨text, _, rfl⟩ := Outcome.map_eq_ok.mp accepted
  exact sound_literal text

theorem sound_plainRest {pairs : List (Argument × String)}
    (inner : ∀ argument ∈ pairs.map Prod.fst, argument.Sound) {message : Message}
    (accepted : plainRest pairs = .ok message) : message.Sound := by
  induction pairs generalizing message with
  | nil =>
    obtain rfl := Except.ok.inj accepted
    exact sound_nil
  | cons pair pairs ih =>
    obtain ⟨argument, part⟩ := pair
    rw [plainRest] at accepted
    simp only [Outcome.bind_eq_ok, Outcome.pure_eq, Except.ok.injEq] at accepted
    obtain ⟨shown, argued, text, read, others, run, rfl⟩ := accepted
    obtain ⟨head, tail⟩ := List.forall_mem_cons.mp inner
    exact sound_append (sound_append (sound_plainArgument head argued) (sound_plainText read)) (ih tail run)

theorem sound_plain {parts : List String} {arguments : List Argument}
    (inner : ∀ argument ∈ arguments, argument.Sound) {message : Message}
    (accepted : plain parts arguments = .ok message) : message.Sound := by
  rw [plain] at accepted
  simp only [Outcome.bind_eq_ok, Outcome.pure_eq, Except.ok.injEq] at accepted
  obtain ⟨⟨first, pairs⟩, aligned, start, read, others, run, rfl⟩ := accepted
  obtain ⟨rfl, rfl⟩ := align_eq_ok aligned
  exact sound_append (sound_plainText read) (sound_plainRest inner run)

theorem sound_directedArgument {directive : List Char} {argument : Argument} (inner : argument.Sound)
    {message : Message} (accepted : directedArgument directive argument = .ok message) : message.Sound := by
  unfold directedArgument at accepted
  cases argument with
  | signal signal =>
    obtain ⟨type, _, shown⟩ := Outcome.bind_eq_ok.mp accepted
    -- Whatever the directive asks for is built by `value`, or refused.
    split at shown
    · split at shown
      · exact sound_value shown
      · cases shown
    · split at shown
      · exact sound_value shown
      · split at shown
        · exact sound_value shown
        · split at shown
          · exact sound_value shown
          · cases shown
  | message content =>
    simp only at accepted
    split at accepted
    · obtain rfl := Except.ok.inj accepted
      exact sound_nested inner
    · cases accepted
  | datum value =>
    obtain ⟨text, _, rfl⟩ := Outcome.map_eq_ok.mp accepted
    exact sound_literal text

theorem sound_directedText {text : List Char} {message : Message} (accepted : directedText text = .ok message) :
    message.Sound := by
  simp only [directedText] at accepted
  split at accepted
  · cases accepted
  · obtain rfl := Except.ok.inj accepted
    apply sound_intercalate sound_percent
    intro item member
    obtain ⟨piece, _, rfl⟩ := List.mem_map.mp member
    exact sound_literal _

theorem sound_directedRest {pairs : List (Argument × String)}
    (inner : ∀ argument ∈ pairs.map Prod.fst, argument.Sound) {message : Message}
    (accepted : directedRest pairs = .ok message) : message.Sound := by
  induction pairs generalizing message with
  | nil =>
    obtain rfl := Except.ok.inj accepted
    exact sound_nil
  | cons pair pairs ih =>
    obtain ⟨argument, part⟩ := pair
    rw [directedRest] at accepted
    simp only [Outcome.bind_eq_ok, Outcome.pure_eq, Except.ok.injEq] at accepted
    obtain ⟨shown, argued, text, read, others, run, rfl⟩ := accepted
    obtain ⟨head, tail⟩ := List.forall_mem_cons.mp inner
    exact sound_append (sound_append (sound_directedArgument head argued) (sound_directedText read)) (ih tail run)

theorem sound_directed {parts : List String} {arguments : List Argument}
    (inner : ∀ argument ∈ arguments, argument.Sound) {message : Message}
    (accepted : directed parts arguments = .ok message) : message.Sound := by
  rw [directed] at accepted
  simp only [Outcome.bind_eq_ok, Outcome.pure_eq, Except.ok.injEq] at accepted
  obtain ⟨_, _, texts, _, ⟨first, pairs⟩, aligned, start, read, others, run, rfl⟩ := accepted
  obtain ⟨rfl, rfl⟩ := align_eq_ok aligned
  exact sound_append (sound_directedText read) (sound_directedRest inner run)

end Template

namespace Message

theorem Built.sound {message : Message} (built : message.Built) : message.Sound := by
  induction built with
  | empty => exact sound_nil
  | literal content => exact sound_literal content
  | percent => exact sound_percent
  | value accepted => exact sound_value accepted
  | name signal kind => exact sound_name signal kind
  | nested _ ih => exact sound_nested ih
  | append _ _ left right => exact sound_append left right
  | collect _ ih => exact sound_flatten ih
  | join separator _ ih => exact sound_intercalate (sound_literal separator) ih
  | rendered accepted => exact sound_rendered accepted
  | plain _ accepted ih => exact Template.sound_plain (Argument.sound_of_messages ih) accepted
  | directed _ accepted ih => exact Template.sound_directed (Argument.sound_of_messages ih) accepted

/-- A built message is sound. It is lowered exactly if it has no letter without a meaning and the naming knows its
names, and otherwise the first leaf at fault tells what is wrong; the parts of its signals never do. -/
theorem Built.lowering {message : Message} (built : message.Built) (naming : Naming) :
    message.Sound ∧
      ((∃ format, message.lower naming = .ok format) ↔
        (∀ signal letter, .value signal (.other letter) ∉ message.leaves) ∧
          ∀ signal kind, .name signal kind ∈ message.leaves → ∃ name, naming.name kind signal = .ok name) ∧
      (∀ fault, message.lower naming = .error fault ↔ message.leaves.findSome? (Piece.fault? naming) = some fault) ∧
      (∀ offending, message.lower naming = .error (.untyped offending) →
        ∃ signal kind, .name signal kind ∈ message.leaves ∧
          naming.name kind signal = .error (.untyped offending)) ∧
      ∀ signal directive, .value signal directive ∈ message.leaves → ∀ element, signal.Reaches element →
        ∃ shown format, Message.rendered element = .ok shown ∧ shown.lower naming = .ok format := by
  have sound := built.sound
  refine ⟨sound, exists_lower_iff sound, fun fault => lower_eq_error sound, ?_, ?_⟩
  · intro offending untyped
    exact naming_of_untyped sound untyped
  · intro signal directive member element reached
    exact lower_reached sound member reached naming

/-- A name that is known, and a letter without a meaning in a message inside the message. -/
theorem Built.lowering_letter :
    let signal : Signal := .component ⟨"data", .unsigned (some 8), .wire, some "Top"⟩
    let message : Message := Message.name signal .short ++ Message.nested [.value signal (.other 'y')]
    message.Built ∧ message.lower (.path false) = .error (.illegalDirective "%y") := by
  intro signal message
  have accepted : Message.value signal (.other 'y') = .ok [.value signal (.other 'y')] :=
    value_eq_ok.mpr ⟨.inr ⟨_, rfl, .inr rfl⟩, rfl⟩
  have built : message.Built := .append (.name signal .short) (.nested (.value accepted))
  exact ⟨built, ((built.lowering (.path false)).2.2.1 _).mpr rfl⟩

end Message
end CircuitPrint
