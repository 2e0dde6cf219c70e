import CircuitPrint.Proofs.Template.WrittenBack
import CircuitPrint.Template.Plain

/-!
Templates without and with directives agree where there are no directives. If the backslashes of all texts are doubled
for the one and also the percent signs for the other, then both give the same fault, or messages that are lowered alike
under every naming: a text is one piece of the one and is taken apart at its percent signs for the other.
-/
namespace CircuitPrint

namespace Message

def Alike (message other : Message) : Prop :=
  ∀ naming, message.lower naming = other.lower naming

theorem alike_refl (message : Message) : message.Alike message :=
  fun _ => rfl

theorem alike_append {first second other further : Message} (front : first.Alike other) (back : second.Alike further) :
    Alike (first ++ second) (other ++ further) := by
  intro naming
  rw [lower_append, lower_append, front, back]

end Message

namespace Template

open Message Outcome

def defaultSpecifier : Specifier where
  left := false
  plus := false
  space := false
  zero := false
  alternate := false
  width := none
  precision := none
  conversion := 's'

theorem format_default (value : Datum) : value.format (String.ofList defaultDirective) = .ok value.display := by
  have read : Specifier.ofString? (String.ofList defaultDirective) = some defaultSpecifier := by decide
  have converted : defaultSpecifier.convert value = some (.plain value.display.toList) := by cases value <;> rfl
  have shown : defaultSpecifier.apply value = some value.display.toList := by
    rw [Specifier.apply, converted]
    simp [Converted.fill, Converted.plain, defaultSpecifier]
  rw [Datum.format, read]
  simp only
  rw [shown]
  exact congrArg Except.ok String.ofList_toList

theorem directedArgument_default (argument : Argument) :
    directedArgument defaultDirective argument = plainArgument argument := by
  cases argument with
  | signal signal =>
    change (signal.typed >>= fun type => if type.isBitVector then value signal .default else value signal .default) =
      value signal .default
    simp only [ite_self]
    rw [value]
    cases signal.typed <;> rfl
  | message content => rfl
  | datum value =>
    rw [directedArgument, format_default]
    rfl

theorem doubled_doublePercent (text : List Char) : Doubled (Chunk.doublePercent text) := by
  induction text with
  | nil => exact .nil
  | cons c text ih =>
    by_cases sign : c = '%'
    · subst sign
      exact .pair ih
    · rw [doublePercent_cons sign]
      exact .char sign ih

theorem alike_literal (content : String) :
    (literal content).Alike (undoubled (Chunk.doublePercent content.toList)) := by
  intro naming
  rw [lower_literal, lower_undoubled naming (doubled_doublePercent content.toList)]

/-- The literal text that stands for a text in a template with directives. -/
def doublePercents (text : String) : String :=
  String.ofList (Chunk.doublePercent text.toList)

def doubleSigns (text : String) : String :=
  String.ofList (text.toList.flatMap fun c => if c = '\\' ∨ c = '%' then [c, c] else [c])

theorem doubleSigns_eq (text : String) : doubleSigns text = Text.doubleBackslash (doublePercents text) := by
  rw [doubleSigns, Text.doubleBackslash, doublePercents, String.toList_ofList, Chunk.doublePercent,
    List.flatMap_assoc]
  refine congrArg String.ofList (List.flatMap_congr fun c _ => ?_)
  by_cases sign : c = '%'
  · rw [sign]
    rfl
  · by_cases escape : c = '\\'
    · rw [escape]
      rfl
    · simp [sign, escape]

theorem plainText_doubled (text : String) : plainText (Text.doubleBackslash text) = .ok (literal text) := by
  rw [plainText, Text.unescape_doubleBackslash]
  rfl

theorem directedText_doubled (text : String) :
    directedText (doublePercents text).toList = .ok (undoubled (Chunk.doublePercent text.toList)) := by
  rw [doublePercents, String.toList_ofList]
  exact directedText_of_doubled (doubled_doublePercent text.toList)

theorem plainRest_doubled (argument : Argument) (text : String) (rest : List (Argument × String)) :
    plainRest ((argument, Text.doubleBackslash text) :: rest) = do
      let shown ← plainArgument argument
      let others ← plainRest rest
      return shown ++ literal text ++ others := by
  rw [plainRest, plainText_doubled]
  rfl

/-- A text with doubled percent signs does not begin with a directive. -/
theorem directedRest_doubled (argument : Argument) (text : String) (rest : List (Argument × String)) :
    directedRest ((argument, doublePercents text) :: rest) = do
      let shown ← plainArgument argument
      let others ← directedRest rest
      return shown ++ undoubled (Chunk.doublePercent text.toList) ++ others := by
  have undirected : splitDirective (doublePercents text).toList = (none, (doublePercents text).toList) := by
    rw [doublePercents, String.toList_ofList, splitDirective_of_doubled (doubled_doublePercent text.toList)]
  rw [directedRest, undirected]
  simp only [Option.getD_none, directedArgument_default, directedText_doubled]
  rfl

theorem related_rest (pairs : List (Argument × String)) :
    Related Alike (plainRest (pairs.map fun pair => (pair.1, Text.doubleBackslash pair.2)))
      (directedRest (pairs.map fun pair => (pair.1, doublePercents pair.2))) := by
  induction pairs with
  | nil => exact .accepted (alike_refl [])
  | cons pair pairs ih =>
    obtain ⟨argument, text⟩ := pair
    rw [List.map_cons, List.map_cons, plainRest_doubled, directedRest_doubled]
    cases plainArgument argument with
    | error fault => exact .refused fault
    | ok shown =>
      refine ih.bind fun others rest follow => .accepted ?_
      exact alike_append (alike_append (alike_refl shown) (alike_literal text)) follow

theorem align_map (change : String → String) (parts : List String) (arguments : List Argument) :
    align (parts.map change) arguments =
      (align parts arguments).map fun aligned =>
        (change aligned.1, aligned.2.map fun pair => (pair.1, change pair.2)) := by
  cases parts with
  | nil => rfl
  | cons first others =>
    rw [List.map_cons, align, align, List.length_map, List.length_cons, List.length_map, List.length_cons]
    split
    · rw [List.zip_map_right]
      rfl
    · rfl

theorem related_templates (texts : List String) (arguments : List Argument) :
    Related Alike (plain (texts.map Text.doubleBackslash) arguments) (directed (texts.map doubleSigns) arguments) := by
  have unescaped : (texts.map doubleSigns).mapM Text.unescape = .ok (texts.map doublePercents) := by
    rw [Outcome.mapM_eq_ok, List.forall₂_map_left_iff, List.forall₂_map_right_iff, List.forall₂_same]
    intro text _
    rw [doubleSigns_eq, Text.unescape_doubleBackslash]
  rw [plain, directed, unescaped, align_map, align_map, ok_bind, align_map]
  cases align texts arguments with
  | error fault => exact .refused fault
  | ok aligned =>
    obtain ⟨first, pairs⟩ := aligned
    simp only [Except.map, ok_bind, plainText_doubled, directedText_doubled]
    refine (related_rest pairs).bind fun others rest follow => .accepted ?_
    exact alike_append (alike_literal first) follow

theorem exists_plainArgument {argument : Argument} :
    (∃ shown, plainArgument argument = .ok shown) ↔
      ∀ signal, argument = .signal signal → ∃ type, signal.type = .ok type := by
  cases argument with
  | message | datum => simp [plainArgument]
  | signal signal => simp [plainArgument, value_eq_ok]

theorem exists_plainRest (pairs : List (Argument × String)) :
    (∃ others, plainRest (pairs.map fun pair => (pair.1, Text.doubleBackslash pair.2)) = .ok others) ↔
      ∀ argument ∈ pairs.map Prod.fst, ∃ shown, plainArgument argument = .ok shown := by
  induction pairs with
  | nil => simp [plainRest]
  | cons pair pairs ih =>
    obtain ⟨argument, text⟩ := pair
    rw [List.map_cons, List.map_cons, plainRest_doubled, List.forall_mem_cons, ← ih]
    simp only [bind_eq_ok, pure_eq, Except.ok.injEq]
    constructor
    · intro accepted
      obtain ⟨_, shown, argued, others, rest, _⟩ := accepted
      exact ⟨⟨shown, argued⟩, others, rest⟩
    · intro accepted
      obtain ⟨⟨shown, argued⟩, others, rest⟩ := accepted
      exact ⟨_, shown, argued, others, rest, rfl⟩

theorem exists_plain (texts : List String) (arguments : List Argument) :
    (∃ message, plain (texts.map Text.doubleBackslash) arguments = .ok message) ↔
      texts.length = arguments.length + 1 ∧
        ∀ argument ∈ arguments, ∃ shown, plainArgument argument = .ok shown := by
  rw [← exists_align, plain, align_map]
  cases aligned : align texts arguments with
  | error fault => simp [Except.map]
  | ok pair =>
    obtain ⟨first, pairs⟩ := pair
    obtain ⟨_, rfl⟩ := align_eq_ok aligned
    rw [← exists_plainRest, and_iff_right ⟨_, rfl⟩]
    simp only [Except.map, ok_bind, plainText_doubled, bind_eq_ok, pure_eq, Except.ok.injEq]
    exact ⟨fun ⟨_, others, rest, _⟩ => ⟨others, rest⟩, fun ⟨others, rest⟩ => ⟨_, others, rest, rfl⟩⟩

/-- Both kinds of templates give the same format or the same fault. Doubled texts are never at fault: what is refused
is a wrong number of parts, or a signal without a type. -/
theorem plain_agrees (texts : List String) (arguments : List Argument) (naming : Naming) :
    (plain (texts.map Text.doubleBackslash) arguments >>= Message.lower naming) =
        (directed (texts.map doubleSigns) arguments >>= Message.lower naming) ∧
      ((∃ message, plain (texts.map Text.doubleBackslash) arguments = .ok message) ↔
        texts.length = arguments.length + 1 ∧
          ∀ signal, .signal signal ∈ arguments → ∃ type, signal.type = .ok type) := by
  refine ⟨(related_templates texts arguments).bind_eq fun _ _ alike => alike naming, ?_⟩
  rw [exists_plain]
  refine and_congr_right fun _ => ?_
  simp only [exists_plainArgument]
  constructor
  · intro each signal member
    exact each _ member signal rfl
  · intro each argument member signal same
    exact each signal (same ▸ member)

/-- Percent signs and a backslash beside a signal, with letters that would make a directive. -/
theorem plain_agrees_percent :
    let data : Signal := .component ⟨"data", .unsigned (some 8), .wire, none⟩
    let format : Format := ⟨"5%%\\%d%%x", [data]⟩
    (plain ["5%\\\\", "%x"] [.signal data] >>= Message.lower (.path false)) = .ok format ∧
      (directed ["5%%\\\\", "%%x"] [.signal data] >>= Message.lower (.path false)) = .ok format := by
  intro data format
  have aligned : align ["5%\\\\", "%x"] [Argument.signal data] = .ok ("5%\\\\", [(.signal data, "%x")]) := rfl
  have first : plainText "5%\\\\" = .ok [.text "5%\\"] := plainText_doubled "5%\\"
  have plainly : (plain ["5%\\\\", "%x"] [.signal data] >>= Message.lower (.path false)) = .ok format := by
    rw [plain, aligned]
    simp only [ok_bind, first]
    rfl
  have agree := (plain_agrees ["5%\\", "%x"] [.signal data] (.path false)).1
  exact ⟨plainly, agree.symm.trans plainly⟩

end Template
end CircuitPrint
