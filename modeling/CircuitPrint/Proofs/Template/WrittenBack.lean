import CircuitPrint.Proofs.Format.Checked
import CircuitPrint.Proofs.Message.Compositional
import CircuitPrint.Proofs.Template.Readings
import CircuitPrint.Proofs.Text.Escape

/-!
A format is written back as a template by cutting it before each of its directives. The template is accepted, and its
message is lowered to the format again: what the template takes apart into text, percent signs and bit vectors is
spelled as it was.
-/
namespace CircuitPrint

namespace Segment

/-- The text before the first directive, and each directive with the text up to the next one. -/
def cut : List Segment → List Char × List (BitFormat × List Char)
  | [] => ([], [])
  | directive format :: segments => ([], (format, (cut segments).1) :: (cut segments).2)
  | segment :: segments => (segment.spelling ++ (cut segments).1, (cut segments).2)

def rejoined (part : BitFormat × List Char) : List Char :=
  '%' :: part.1.letter :: part.2

theorem spelling_cut (segments : List Segment) :
    (cut segments).1 ++ (cut segments).2.flatMap rejoined = segments.flatMap spelling := by
  induction segments with
  | nil => rfl
  | cons segment segments ih =>
    rw [List.flatMap_cons, ← ih]
    cases segment with
    | directive format => rfl
    | text | percent => exact List.append_assoc _ _ _

theorem length_cut (segments : List Segment) : (cut segments).2.length = segments.countP isDirective := by
  induction segments with
  | nil => rfl
  | cons segment segments ih =>
    cases segment with
    | directive format =>
      rw [List.countP_cons_of_pos rfl, ← ih]
      rfl
    | text | percent =>
      rw [List.countP_cons_of_neg Bool.false_ne_true, ← ih]
      rfl

end Segment

namespace Format

/-- The parts of a format, which is cut before each of its directives. -/
def parts (format : Format) : List String :=
  let cut := Segment.cut (Segment.scan format.text.toList).1
  (cut.1 :: cut.2.map Segment.rejoined).map String.ofList

theorem length_parts (format : Format) :
    format.parts.length = (Segment.scan format.text.toList).1.countP Segment.isDirective + 1 := by
  rw [parts, List.length_map, List.length_cons, List.length_map, Segment.length_cut]

theorem join_parts {format : Format} (complete : (Segment.scan format.text.toList).2 = []) :
    String.join format.parts = format.text := by
  have spelled := Segment.spelling_scan_complete complete
  rw [← Segment.spelling_cut] at spelled
  apply String.toList_inj.mp
  rw [← spelled, parts]
  simp [List.flatMap_def, Function.comp_def]

end Format

namespace Template

open Format (ofChunks_text)
open Message (lower_text_cons)

theorem doubled_append {content : List Char} (plain : '%' ∉ content) {text : List Char} (rest : Doubled text) :
    Doubled (content ++ text) := by
  induction content with
  | nil => exact rest
  | cons c content ih =>
    rw [List.mem_cons, not_or] at plain
    exact .char (Ne.symm plain.1) (ih plain.2)

theorem doubled_cut {segments : List Segment} (regular : ∀ segment ∈ segments, segment.Regular) :
    Doubled (Segment.cut segments).1 ∧ ∀ part ∈ (Segment.cut segments).2, Doubled part.2 := by
  induction segments with
  | nil => exact ⟨.nil, List.forall_mem_nil _⟩
  | cons segment segments ih =>
    obtain ⟨head, tail⟩ := List.forall_mem_cons.mp regular
    obtain ⟨first, others⟩ := ih tail
    cases segment with
    | text content => exact ⟨doubled_append head.2 first, others⟩
    | percent => exact ⟨.pair first, others⟩
    | directive format => exact ⟨.nil, List.forall_mem_cons.mpr ⟨first, others⟩⟩

theorem doublePercent_cons {c : Char} (plain : c ≠ '%') (content : List Char) :
    Chunk.doublePercent (c :: content) = c :: Chunk.doublePercent content := by
  simp [Chunk.doublePercent, plain]

theorem lower_prependChar {naming : Naming} {c : Char} (plain : c ≠ '%') {message : Message} {format : Format}
    (lowered : message.lower naming = .ok format) :
    (prependChar c message).lower naming = .ok ⟨String.ofList [c] ++ format.text, format.arguments⟩ := by
  unfold prependChar
  split
  next content pieces =>
    -- The character joins the text that the message begins with.
    obtain ⟨chunks, opened, rfl⟩ := Outcome.map_eq_ok.mp lowered
    obtain ⟨first, others, front, back, rfl⟩ := Piece.chunksOf_cons_eq_ok.mp opened
    obtain rfl := Except.ok.inj front
    have rest : Message.lower naming pieces = .ok (Format.ofChunks others) := congrArg (Except.map _) back
    rw [lower_text_cons naming _ rest, String.toList_ofList, doublePercent_cons plain, List.singleton_append,
      ofChunks_text]
    simp [← String.append_assoc]
  next pieces _ =>
    rw [lower_text_cons naming _ lowered, String.toList_ofList, doublePercent_cons plain]
    rfl

theorem lower_undoubled (naming : Naming) {text : List Char} (doubled : Doubled text) :
    (undoubled text).lower naming = .ok ⟨String.ofList text, []⟩ := by
  induction doubled with
  | nil => rfl
  | @char c text plain _ ih =>
    rw [undoubled_char plain, lower_prependChar plain ih, ← String.ofList_append]
    rfl
  | @pair text _ ih =>
    change Message.lower naming (.text "%" :: undoubled text) = _
    have sign : Chunk.doublePercent "%".toList = ['%', '%'] := by decide
    rw [lower_text_cons naming _ ih, sign, ← String.ofList_append]
    rfl

theorem ofLetter_letter (format : BitFormat) : Directive.ofLetter format.letter = .bits format := by
  cases format <;> decide

theorem isAlphabetic_letter (format : BitFormat) : Text.isAlphabetic format.letter = true :=
  Text.isAlphabetic_of_isAlpha (by cases format <;> decide)

def Cut.ofDirective (format : BitFormat) {text : List Char} (doubled : Doubled text) : Cut where
  token := ['%', format.letter]
  rest := text
  shape := .inr (isDirective_letter (isAlphabetic_letter format))
  even := evenRuns_of_doubled doubled

theorem lower_shown (naming : Naming) {signal : Signal} (bits : signal.isBitVector = .ok true) (format : BitFormat) :
    Message.lower naming (shown (.signal signal) ['%', format.letter]) =
      .ok ⟨String.ofList ['%', format.letter], [signal]⟩ := by
  obtain ⟨type, typed, known⟩ := Outcome.map_eq_ok.mp bits
  have piece : shown (.signal signal) ['%', format.letter] = [.value signal (.bits format)] := by
    change [Piece.ofDirective signal (.ofLetter format.letter)] = _
    rw [ofLetter_letter]
    rfl
  have chunks : Piece.chunksOf naming [.value signal (.bits format)] = .ok [.bits format signal] := by
    rw [Piece.chunksOf_singleton, Piece.chunks, Piece.valueChunks_eq_ok]
    exact ⟨type, typed, .inr (.inr ⟨format, rfl, known, rfl⟩)⟩
  rw [piece, Message.lower, chunks]
  simp [Format.ofChunks, Chunk.spelling, Chunk.signal?, Except.map]

/-- The directives of a format go with its arguments, and each part is lowered to what it was. -/
theorem exists_cuts (naming : Naming) {parts : List (BitFormat × List Char)}
    (doubled : ∀ part ∈ parts, Doubled part.2) {arguments : List Signal} (same : parts.length = arguments.length)
    (bits : ∀ argument ∈ arguments, argument.isBitVector = .ok true) :
    ∃ cuts : List Cut, cuts.map Cut.text = parts.map Segment.rejoined ∧
      List.Forall₂ (fun argument cut => Admits argument cut.directive) (arguments.map .signal) cuts ∧
      (filled (arguments.map .signal) cuts).lower naming =
        .ok ⟨String.ofList (parts.flatMap Segment.rejoined), arguments⟩ := by
  induction parts generalizing arguments with
  | nil =>
    obtain rfl := List.length_eq_zero_iff.mp same.symm
    exact ⟨[], rfl, .nil, rfl⟩
  | cons part parts ih =>
    obtain ⟨format, text⟩ := part
    cases arguments with
    | nil => cases same
    | cons argument arguments =>
      obtain ⟨first, others⟩ := List.forall_mem_cons.mp doubled
      obtain ⟨head, tail⟩ := List.forall_mem_cons.mp bits
      obtain ⟨type, typed, known⟩ := Outcome.map_eq_ok.mp head
      obtain ⟨cuts, texts, admitted, lowered⟩ := ih others (Nat.succ.inj same) tail
      have admits : Admits (.signal argument) (Cut.ofDirective format first).directive := by
        refine ⟨type, typed, ?_⟩
        rw [if_pos known]
        rfl
      refine ⟨Cut.ofDirective format first :: cuts, congrArg₂ List.cons rfl texts, .cons admits admitted, ?_⟩
      have front := Message.lower_append_eq_ok (lower_shown naming head format) (lower_undoubled naming first)
      have whole := Message.lower_append_eq_ok front lowered
      rw [← String.ofList_append, ← String.ofList_append] at whole
      exact whole

/-- The parts of an accepted format, with an argument between each two of them, are a template whose message is lowered
to the format. -/
theorem directed_parts {text : String} {arguments : List Signal} {format : Format}
    (accepted : Format.checked text arguments = .ok format) (naming : Naming) :
    format.parts.length = format.arguments.length + 1 ∧ String.join format.parts = format.text ∧
      ∃ message, directed (format.parts.map Text.doubleBackslash) (format.arguments.map .signal) = .ok message ∧
        message.lower naming = .ok format := by
  obtain ⟨⟨complete, count, bits⟩, rfl⟩ := Format.checked_eq_ok.mp accepted
  have counted : (Format.parts ⟨text, arguments⟩).length = arguments.length + 1 := by rw [Format.length_parts, count]
  refine ⟨counted, Format.join_parts complete, ?_⟩
  have spelled := Segment.spelling_scan_complete complete
  rw [← Segment.spelling_cut] at spelled
  have same := (Segment.length_cut (Segment.scan text.toList).1).trans count
  obtain ⟨front, others⟩ := doubled_cut (Segment.regular_scan text.toList)
  obtain ⟨cuts, texts, admitted, lowered⟩ := exists_cuts naming others same bits
  let reading : Reading ((Format.parts ⟨text, arguments⟩).map Text.doubleBackslash) (arguments.map Argument.signal) :=
    { first := (Segment.cut (Segment.scan text.toList).1).1
      cuts := cuts
      count := by rw [List.length_map, List.length_map, counted]
      unescaped := by
        rw [texts, Format.parts, List.map_map, List.forall₂_map_left_iff, List.forall₂_same]
        exact fun part _ => Text.unescape_doubleBackslash (String.ofList part)
      even := evenRuns_of_doubled front
      admitted := admitted }
  refine ⟨reading.message, directed_eq_ok.mpr ⟨reading, rfl⟩, ?_⟩
  have whole := Message.lower_append_eq_ok (lower_undoubled naming front) lowered
  rw [← String.ofList_append, spelled, String.ofList_toList] at whole
  exact whole

/-- A backslash, and doubled percent signs on both sides of a directive. -/
theorem directed_parts_percent :
    let data : Signal := .component ⟨"data", .unsigned (some 8), .wire, none⟩
    let format : Format := ⟨"\\n%%%d%%", [data]⟩
    Format.checked "\\n%%%d%%" [data] = .ok format ∧
      ∃ message, directed ["\\\\n%%", "%d%%"] [.signal data] = .ok message ∧
        message.lower (.path false) = .ok format := by
  intro data format
  have segments : Segment.scan "\\n%%%d%%".toList =
      ([.text ['\\', 'n'], .percent, .directive .decimal, .percent], []) := by decide
  have accepted : Format.checked "\\n%%%d%%" [data] = .ok format := by
    rw [Format.checked_eq_ok, segments]
    exact ⟨⟨rfl, rfl, List.forall_mem_singleton.mpr rfl⟩, rfl⟩
  have parts : format.parts.map Text.doubleBackslash = ["\\\\n%%", "%d%%"] := by
    rw [Format.parts, segments]
    decide
  have back := (directed_parts accepted (.path false)).2.2
  rw [parts] at back
  exact ⟨accepted, back⟩

end Template
end CircuitPrint
