import CircuitPrint.Proofs.Message.Construction
import CircuitPrint.Proofs.Message.Leaves

/-!
Lowering is compositional. Messages that follow each other are lowered one after the other, joined messages are lowered
one by one, and messages inside messages are lowered in their place. A fault of the first part that fails is the fault
of the whole.
-/
namespace CircuitPrint

namespace Format

theorem ofChunks_text (content : String) (chunks : List Chunk) :
    ofChunks (.text content :: chunks) =
      ⟨String.ofList (Chunk.doublePercent content.toList) ++ (ofChunks chunks).text, (ofChunks chunks).arguments⟩ := by
  have text := text_ofChunks_append [.text content] chunks
  have alone : (ofChunks [.text content]).text = String.ofList (Chunk.doublePercent content.toList) := by
    simp [ofChunks, Chunk.spelling]
  rw [alone] at text
  exact congrArg (Format.mk · _) text

/-- The texts with the separator between them, and the arguments of all. -/
def interleaved (separator : String) (formats : List Format) : Format where
  text := separator.intercalate (formats.map Format.text)
  arguments := formats.flatMap Format.arguments

theorem interleaved_singleton (separator : String) (format : Format) : interleaved separator [format] = format := by
  simp [interleaved]

theorem interleaved_cons {formats : List Format} (some : formats ≠ []) (separator : String) (first : Format) :
    interleaved separator (first :: formats) =
      ⟨first.text ++ separator ++ (interleaved separator formats).text,
        first.arguments ++ (interleaved separator formats).arguments⟩ := by
  have texts : formats.map Format.text ≠ [] := mt List.map_eq_nil_iff.mp some
  rw [interleaved, List.map_cons, String.intercalate_cons_of_ne_nil texts]
  rfl

end Format

namespace Message

theorem lower_text_cons (naming : Naming) (content : String) {message : Message} {format : Format}
    (lowered : message.lower naming = .ok format) :
    lower naming (.text content :: message) =
      .ok ⟨String.ofList (Chunk.doublePercent content.toList) ++ format.text, format.arguments⟩ := by
  obtain ⟨chunks, opened, rfl⟩ := Outcome.map_eq_ok.mp lowered
  rw [← Format.ofChunks_text]
  apply Outcome.map_eq_ok.mpr
  exact ⟨_, Piece.chunksOf_cons_eq_ok.mpr ⟨[.text content], chunks, rfl, opened, rfl⟩, rfl⟩

theorem lower_literal (naming : Naming) (content : String) :
    (literal content).lower naming = .ok ⟨String.ofList (Chunk.doublePercent content.toList), []⟩ := by
  by_cases empty : content = ""
  · rw [empty]
    rfl
  · have alone := lower_text_cons naming content (rfl : lower naming [] = .ok ⟨"", []⟩)
    have text : (Format.ofChunks []).text = "" := rfl
    rw [literal_eq empty, alone, text, String.append_empty]
    rfl

theorem lower_join (naming : Naming) (items : List Message) (separator : String) :
    lower naming (join items separator) =
      (items.mapM (lower naming)).map
        (Format.interleaved (String.ofList (Chunk.doublePercent separator.toList))) := by
  induction items with
  | nil => rfl
  | cons item items ih =>
    rw [List.mapM_cons]
    by_cases last : items = []
    · rw [last, join, List.intercalate_singleton, List.mapM_nil]
      cases item.lower naming with
      | error fault => rfl
      | ok format => exact congrArg Except.ok (Format.interleaved_singleton _ format).symm
    · have front : join (item :: items) separator = item ++ literal separator ++ join items separator :=
        List.intercalate_cons_of_ne_nil last
      rw [front, lower_append, lower_append, lower_literal, ih]
      cases item.lower naming with
      | error fault => rfl
      | ok format =>
        cases rest : items.mapM (lower naming) with
        | error fault => rfl
        | ok formats =>
          have some : formats ≠ [] := by
            rintro rfl
            exact last (List.forall₂_nil_right_iff.mp (Outcome.mapM_eq_ok.mp rest))
          simp [Except.map, Format.interleaved_cons some]

/-- Lowering goes through messages from left to right, up to the first fault: through one and the other, through the
items of a joined message, between which stands the separator with doubled percent signs, and through nested messages
as if all of their pieces stood in their place. -/
theorem lower_compositional (naming : Naming) :
    (∀ first second : Message, lower naming (first ++ second) = do
      let front ← first.lower naming
      let back ← second.lower naming
      return ⟨front.text ++ back.text, front.arguments ++ back.arguments⟩) ∧
    (∀ items separator, lower naming (join items separator) = do
      let formats ← items.mapM (lower naming)
      return Format.interleaved (String.ofList (Chunk.doublePercent separator.toList)) formats) ∧
    ∀ message : Message, lower naming message.leaves = message.lower naming ∧
      ∀ content, .nested content ∉ message.leaves := by
  refine ⟨lower_append naming, ?_, fun message => ⟨lower_leaves naming message, fun content => ?_⟩⟩
  · intro items separator
    rw [lower_join]
    cases items.mapM (lower naming) <;> rfl
  · exact nested_not_mem_leaves content message

/-- Items with percent signs and a nested message, and then one without a type. -/
theorem lower_compositional_untyped :
    let data : Signal := .component ⟨"data", .unsigned (some 8), .wire, none⟩
    let items : List Message := [[.text "5%"], [.nested [.value data .default, .nested [.percent]]]]
    lower (.path false) (join items "%; ") = .ok ⟨"5%%%%; %d%%", [data]⟩ ∧
      lower (.path false) (join (items ++ [[.value (data.field "low") .default]]) "%; ") =
        .error (.untyped (data.field "low")) := by
  intro data items
  have joined := (lower_compositional (.path false)).2.1
  refine ⟨(joined items "%; ").trans ?_, (joined _ "%; ").trans rfl⟩
  have doubled : String.ofList (Chunk.doublePercent "%; ".toList) = "%%; " := by decide
  rw [doubled]
  rfl

end Message
end CircuitPrint
