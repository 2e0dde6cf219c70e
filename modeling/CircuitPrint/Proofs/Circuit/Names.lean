import CircuitPrint.Circuit.Naming
import CircuitPrint.Proofs.Circuit.Path
import CircuitPrint.Proofs.Outcome

/-!
The names that signals have along their paths. A signal is named exactly if it is selected from a component that a module
declares. Its full name is that of the component with the selections behind it, and its short name is the last of these.
If no name holds a character with which a selection begins, the full name tells the path.
-/
namespace CircuitPrint

open Text (Stops stops_nil stops_cons run_cancel)

namespace Signal

theorem origin_follow (signal : Signal) (path : List Selector) : (signal.follow path).origin = signal.origin := by
  induction path generalizing signal with
  | nil => rfl
  | cons selector path ih => simp [ih, origin]

theorem path_follow (signal : Signal) (further : List Selector) :
    (signal.follow further).path = signal.path ++ further := by
  induction further generalizing signal with
  | nil => simp
  | cons selector further ih => simp [ih, path]

theorem root_eq_some {signal : Signal} {part : Component} :
    signal.root = some part ↔ ∃ path, signal = (component part).follow path := by
  constructor
  · intro rooted
    induction signal with
    | literal value => cases rooted
    | component other => exact ⟨[], by simpa [root] using rooted⟩
    | select base selector ih =>
      obtain ⟨path, rfl⟩ := ih rooted
      exact ⟨path ++ [selector], by simp [follow_append]⟩
  · rintro ⟨path, rfl⟩
    rw [root_follow, root]

/-- The signal at the end of a path from a component that a module declares. -/
structure Placed (signal : Signal) (owner : String) (part : Component) (path : List Selector) : Prop where
  declared : part.owner = some owner
  reached : signal = (component part).follow path

def Named (signal : Signal) : Prop :=
  ∃ owner part path, signal.Placed owner part path

theorem owner_eq_some {signal : Signal} {owner : String} :
    signal.owner = some owner ↔ ∃ part path, signal.Placed owner part path := by
  simp only [Signal.owner, Option.bind_eq_some_iff, root_eq_some]
  constructor
  · rintro ⟨part, ⟨path, reached⟩, declared⟩
    exact ⟨part, path, declared, reached⟩
  · rintro ⟨part, path, declared, reached⟩
    exact ⟨part, ⟨path, reached⟩, declared⟩

theorem Placed.owner_eq {signal : Signal} {owner : String} {part : Component} {path : List Selector}
    (placed : signal.Placed owner part path) : signal.owner = some owner :=
  owner_eq_some.mpr ⟨part, path, placed⟩

theorem Placed.select {signal : Signal} {owner : String} {part : Component} {path : List Selector}
    (placed : signal.Placed owner part path) (selector : Selector) :
    (signal.select selector).Placed owner part (path ++ [selector]) where
  declared := placed.declared
  reached := by simp [placed.reached, follow_append]

theorem Placed.toList_text {signal : Signal} {owner : String} {part : Component} {path : List Selector}
    (placed : signal.Placed owner part path) : signal.text.toList = part.name.toList ++ Selector.pathText path := by
  rw [placed.reached, Signal.toList_text, origin_follow, path_follow]
  rfl

end Signal

namespace Selector

/-- Without the characters with which selections begin. -/
def Plain (name : String) : Prop :=
  '.' ∉ name.toList ∧ '[' ∉ name.toList

def isPlainChar (c : Char) : Bool :=
  !isOpening c

theorem plainChar_of_opening (c : Char) (opening : isOpening c = true) : isPlainChar c = false := by
  rw [isPlainChar, opening, Bool.not_true]

theorem Plain.chars {name : String} (plain : Plain name) : ∀ c ∈ name.toList, isPlainChar c = true := by
  intro c member
  have dot : c ≠ '.' := fun same => plain.1 (same ▸ member)
  have bracket : c ≠ '[' := fun same => plain.2 (same ▸ member)
  simp [isPlainChar, isOpening, dot, bracket]

theorem within_of_plain {path : List Selector} (plain : ∀ name ∈ path.filterMap field?, Plain name) :
    ∀ selector ∈ path, selector.Within isPlainChar := by
  intro selector member name shown
  exact (plain name (List.mem_filterMap.mpr ⟨selector, member, shown⟩)).chars

theorem stops_plain (path : List Selector) : Stops isPlainChar (pathText path) := by
  have stops := stops_pathText plainChar_of_opening stops_nil path
  rwa [List.append_nil] at stops

theorem plain_path_cancel {path further : List Selector} (plain : ∀ name ∈ path.filterMap field?, Plain name)
    (likewise : ∀ name ∈ further.filterMap field?, Plain name) (same : pathText path = pathText further) :
    path = further := by
  rw [← List.append_nil (pathText path), ← List.append_nil (pathText further)] at same
  exact (path_cancel plainChar_of_opening (within_of_plain plain) (within_of_plain likewise) stops_nil stops_nil
    stops_nil stops_nil same).1

end Selector

namespace Naming

open Signal (Placed Named)
open Selector (Plain)

theorem declared_of_owner {signal : Signal} {owner : String} (declares : signal.owner = some owner) :
    declared signal = .ok owner := by
  rw [declared, declares]

theorem declared_unnamed {signal : Signal} (unowned : signal.owner = none) :
    declared signal = .error (.unnamed signal) := by
  rw [declared, unowned]

theorem owner_of_not_named {signal : Signal} (unnamed : ¬signal.Named) : signal.owner = none := by
  rw [Option.eq_none_iff_forall_ne_some]
  intro owner declares
  exact unnamed ⟨owner, Signal.owner_eq_some.mp declares⟩

theorem unnamed_of_owner (qualified : Bool) (kind : NameKind) {signal : Signal} (unowned : signal.owner = none) :
    (path qualified).name kind signal = .error (.unnamed signal) := by
  cases kind <;> simp [name, path, declared_unnamed unowned, Except.map]

theorem full_of_owner (qualified : Bool) {signal : Signal} {owner : String} (declares : signal.owner = some owner) :
    (path qualified).full signal = .ok (if qualified then owner ++ "." ++ signal.text else signal.text) := by
  simp [path, declared_of_owner declares, Except.map]

section Placed

variable {signal : Signal} {owner : String} {part : Component} {way : List Selector}
  (placed : signal.Placed owner part way) (qualified : Bool)

include placed

theorem short_of_placed : (path qualified).short signal = .ok signal.label := by
  simp [path, declared_of_owner placed.owner_eq, Except.map]

theorem full_of_placed :
    (path qualified).full signal = .ok (if qualified then owner ++ "." ++ signal.text else signal.text) :=
  full_of_owner qualified placed.owner_eq

theorem full_select (selector : Selector) :
    (path qualified).full (signal.select selector) =
      ((path qualified).full signal).map (· ++ selector.text) := by
  rw [full_of_placed placed, full_of_placed (placed.select selector), Signal.text]
  cases qualified <;> simp [Except.map, String.append_assoc]

end Placed

theorem exists_name (qualified : Bool) (kind : NameKind) {signal : Signal} :
    (∃ name, (path qualified).name kind signal = .ok name) ↔ signal.Named := by
  constructor
  · rintro ⟨found, named⟩
    by_contra unnamed
    rw [unnamed_of_owner qualified kind (owner_of_not_named unnamed)] at named
    cases named
  · rintro ⟨owner, part, way, placed⟩
    cases kind with
    | short => exact ⟨_, short_of_placed placed qualified⟩
    | full => exact ⟨_, full_of_placed placed qualified⟩

section Told

variable {signal other : Signal} {owner title : String} {part whole : Component} {way further : List Selector}
  (placed : signal.Placed owner part way) (likewise : other.Placed title whole further)

include placed likewise

theorem text_told (plain : ∀ name ∈ part.name :: way.filterMap Selector.field?, Plain name)
    (clear : ∀ name ∈ whole.name :: further.filterMap Selector.field?, Plain name)
    (same : signal.text = other.text) : part.name = whole.name ∧ way = further := by
  obtain ⟨name, fields⟩ := List.forall_mem_cons.mp plain
  obtain ⟨word, others⟩ := List.forall_mem_cons.mp clear
  have texts := congrArg String.toList same
  rw [placed.toList_text, likewise.toList_text] at texts
  obtain ⟨names, paths⟩ :=
    run_cancel name.chars word.chars (Selector.stops_plain way) (Selector.stops_plain further) texts
  exact ⟨String.toList_inj.mp names, Selector.plain_path_cancel fields others paths⟩

/-- The module stands before the first point, since its name holds none. -/
theorem full_told (qualified : Bool)
    (plain : ∀ name ∈ owner :: part.name :: way.filterMap Selector.field?, Plain name)
    (clear : ∀ name ∈ title :: whole.name :: further.filterMap Selector.field?, Plain name)
    (same : (path qualified).full signal = (path qualified).full other) :
    part.name = whole.name ∧ way = further ∧ (qualified = true → owner = title) := by
  obtain ⟨first, names⟩ := List.forall_mem_cons.mp plain
  obtain ⟨second, words⟩ := List.forall_mem_cons.mp clear
  rw [full_of_placed placed, full_of_placed likewise] at same
  have shown := Except.ok.inj same
  cases qualified with
  | false =>
    obtain ⟨parts, ways⟩ := text_told placed likewise names words shown
    exact ⟨parts, ways, fun never => absurd never Bool.false_ne_true⟩
  | true =>
    have split : ∀ owner name : String, (owner ++ "." ++ name).toList = owner.toList ++ '.' :: name.toList := by simp
    have texts := congrArg String.toList shown
    simp only [if_true, split] at texts
    obtain ⟨owners, rest⟩ := run_cancel first.chars second.chars (stops_cons rfl) (stops_cons rfl) texts
    have paths := String.toList_inj.mp (List.cons.inj rest).2
    obtain ⟨parts, ways⟩ := text_told placed likewise names words paths
    exact ⟨parts, ways, fun _ => String.toList_inj.mp owners⟩

end Told

/-- Signals that are selected from a component of a module have names, and the others are reported. The full name is that of
the component, after the name of its module if it is qualified, and every selection adds what it shows; the short name
is the last of these. Without points and opening brackets in names, the full name tells the names and the path. -/
theorem path_names (qualified : Bool) :
    (∀ signal : Signal,
      ((∃ name, (path qualified).short signal = .ok name) ↔ signal.Named) ∧
      ((∃ name, (path qualified).full signal = .ok name) ↔ signal.Named) ∧
      (¬signal.Named → (path qualified).short signal = .error (.unnamed signal) ∧
        (path qualified).full signal = .error (.unnamed signal))) ∧
    (∀ owner part, part.owner = some owner →
      (path qualified).short (.component part) = .ok part.name ∧
      (path qualified).full (.component part) =
        .ok (if qualified then owner ++ "." ++ part.name else part.name)) ∧
    (∀ signal full, (path qualified).full signal = .ok full →
      (∀ field, (path qualified).short (signal.field field) = .ok field ∧
        (path qualified).full (signal.field field) = .ok (full ++ "." ++ field)) ∧
      ∀ i, (path qualified).short (signal.index i) = .ok ("[" ++ i.repr ++ "]") ∧
        (path qualified).full (signal.index i) = .ok (full ++ "[" ++ i.repr ++ "]")) ∧
    ∀ signal other owner title part whole way further,
      Placed signal owner part way → Placed other title whole further →
      (∀ name ∈ owner :: part.name :: way.filterMap Selector.field?, Plain name) →
      (∀ name ∈ title :: whole.name :: further.filterMap Selector.field?, Plain name) →
      (path qualified).full signal = (path qualified).full other →
        part.name = whole.name ∧ way = further ∧ (qualified = true → owner = title) := by
  refine ⟨fun signal => ⟨exists_name qualified .short, exists_name qualified .full, ?_⟩, ?_, ?_, ?_⟩
  · intro unnamed
    have unowned := owner_of_not_named unnamed
    exact ⟨unnamed_of_owner qualified .short unowned, unnamed_of_owner qualified .full unowned⟩
  · intro owner part declared
    have placed : Placed (.component part) owner part [] := ⟨declared, rfl⟩
    exact ⟨short_of_placed placed qualified, full_of_placed placed qualified⟩
  · intro signal full named
    obtain ⟨owner, part, way, placed⟩ := (exists_name qualified .full).mp ⟨full, named⟩
    have grown := fun selector => full_select placed qualified selector
    simp only [named, Except.map] at grown
    refine ⟨fun field => ⟨short_of_placed (placed.select (.field field)) qualified, ?_⟩,
      fun i => ⟨short_of_placed (placed.select (.index i)) qualified, ?_⟩⟩
    · simp only [Signal.field, grown, Selector.text, String.append_assoc]
    · simp only [Signal.index, grown, Selector.text, String.append_assoc]
  · intro signal other owner title part whole way further placed likewise plain clear same
    exact full_told placed likewise qualified plain clear same

/-- An element of a field, a part of a component that no module declares, and components of two modules. -/
theorem path_names_element :
    let io (owner : Option String) : Component := ⟨"io", .clock, .port, owner⟩
    let input (owner : Option String) : Signal := ((Signal.component (io owner)).field "in").index 2
    (path true).short (input (some "Top")) = .ok "[2]" ∧ (path true).full (input (some "Top")) = .ok "Top.io.in[2]" ∧
      (path true).full (input none) = .error (.unnamed (input none)) ∧
      (path true).full (input (some "Top")) ≠ (path true).full (input (some "Sub")) := by
  intro io input
  obtain ⟨named, _, grown, told⟩ := path_names true
  have field : (path true).full ((Signal.component (io (some "Top"))).field "in") = .ok "Top.io.in" := rfl
  have loose : ¬(input none).Named := by
    rintro ⟨owner, part, way, declared, reached⟩
    have root := congrArg Signal.root reached
    rw [Signal.root_follow] at root
    obtain rfl : io none = part := Option.some.inj root
    cases declared
  have plain : ∀ owner ∈ ["Top", "Sub"], ∀ name ∈ [owner, "io", "in"], Plain name := by
    simp [Plain]
  refine ⟨((grown _ _ field).2 2).1, ((grown _ _ field).2 2).2, ((named (input none)).2.2 loose).2, ?_⟩
  intro same
  have owners := told _ _ _ _ _ _ [.field "in", .index 2] [.field "in", .index 2]
    ⟨rfl, rfl⟩ ⟨rfl, rfl⟩ (plain "Top" (by simp)) (plain "Sub" (by simp)) same
  exact absurd (owners.2.2 rfl) (by decide)

end Naming
end CircuitPrint
