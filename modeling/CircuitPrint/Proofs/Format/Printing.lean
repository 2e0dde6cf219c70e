import CircuitPrint.Proofs.Format.Grammar

/-!
What a simulator prints when it reads a format: text as it stands, one percent sign for two, and for each directive
the next argument in the way that the directive asks for. A format that is spelled from chunks prints the chunks.
-/
namespace CircuitPrint

abbrev Printer := Char → Signal → List Char

namespace Segment

def printed (printer : Printer) : List Segment → List Signal → List Char
  | [], _ => []
  | text content :: segments, arguments => content ++ printed printer segments arguments
  | percent :: segments, arguments => '%' :: printed printer segments arguments
  | directive format :: segments, argument :: arguments =>
    printer format.letter argument ++ printed printer segments arguments
  | directive _ :: _, [] => []

def ofChar (c : Char) (segments : List Segment) : List Segment :=
  if c = '%' then percent :: segments else prependText c segments

theorem scan_doublePercent (content text : List Char) :
    scan (Chunk.doublePercent content ++ text) = (content.foldr ofChar (scan text).1, (scan text).2) := by
  induction content with
  | nil => rfl
  | cons c content ih =>
    have step : Chunk.doublePercent (c :: content) =
        (if c = '%' then ['%', '%'] else [c]) ++ Chunk.doublePercent content := List.flatMap_cons
    rw [step, List.append_assoc, List.foldr_cons]
    by_cases same : c = '%'
    · rw [if_pos same, ofChar, if_pos same]
      change scan ('%' :: '%' :: (Chunk.doublePercent content ++ text)) = _
      rw [scan_percent, ih]
    · rw [if_neg same, ofChar, if_neg same]
      change scan (c :: (Chunk.doublePercent content ++ text)) = _
      rw [scan_char same, ih]

theorem printed_ofChar (printer : Printer) (c : Char) (segments : List Segment) (arguments : List Signal) :
    printed printer (ofChar c segments) arguments = c :: printed printer segments arguments := by
  unfold ofChar
  split
  next same => rw [same, printed]
  next =>
    unfold prependText
    split
    · rw [printed, printed, List.cons_append]
    · rw [printed, List.singleton_append]

theorem printed_foldr_ofChar (printer : Printer) (content : List Char) (segments : List Segment)
    (arguments : List Signal) :
    printed printer (content.foldr ofChar segments) arguments = content ++ printed printer segments arguments := by
  induction content with
  | nil => rfl
  | cons c content ih => rw [List.foldr_cons, printed_ofChar, ih, List.cons_append]

theorem countP_foldr_ofChar (content : List Char) (segments : List Segment) :
    (content.foldr ofChar segments).countP isDirective = segments.countP isDirective := by
  induction content with
  | nil => rfl
  | cons c content ih =>
    rw [List.foldr_cons, ofChar]
    split
    · rw [List.countP_cons_of_neg Bool.false_ne_true, ih]
    · rw [countP_prependText, ih]

end Segment

namespace Chunk

def printed (printer : Printer) : Chunk → List Char
  | text content => content.toList
  | bits format signal => printer format.letter signal

def segments : List Chunk → List Segment
  | [] => []
  | text content :: chunks => content.toList.foldr Segment.ofChar (segments chunks)
  | bits format _ :: chunks => .directive format :: segments chunks

theorem scan_spelling (chunks : List Chunk) :
    Segment.scan (chunks.flatMap (·.spelling.toList)) = (segments chunks, []) := by
  induction chunks with
  | nil => rfl
  | cons chunk chunks ih =>
    rw [List.flatMap_cons]
    cases chunk with
    | text content => rw [spelling, String.toList_ofList, Segment.scan_doublePercent, ih, segments]
    | bits format signal =>
      rw [spelling, String.toList_ofList, List.cons_append, List.singleton_append, Segment.scan_directive, ih,
        segments]

theorem printed_segments (printer : Printer) (chunks : List Chunk) :
    Segment.printed printer (segments chunks) (chunks.filterMap signal?) = chunks.flatMap (printed printer) := by
  induction chunks with
  | nil => rfl
  | cons chunk chunks ih =>
    rw [List.flatMap_cons, ← ih]
    cases chunk with
    | text content => exact Segment.printed_foldr_ofChar printer content.toList _ _
    | bits format signal => rfl

theorem countP_segments (chunks : List Chunk) :
    (segments chunks).countP Segment.isDirective = (chunks.filterMap signal?).length := by
  induction chunks with
  | nil => rfl
  | cons chunk chunks ih =>
    cases chunk with
    | text content => exact (Segment.countP_foldr_ofChar content.toList _).trans ih
    | bits format signal =>
      rw [segments, List.countP_cons_of_pos rfl, ih]
      rfl

end Chunk

namespace Format

def printed (printer : Printer) (format : Format) : List Char :=
  Segment.printed printer (Segment.scan format.text.toList).1 format.arguments

theorem toList_ofChunks (chunks : List Chunk) :
    (ofChunks chunks).text.toList = chunks.flatMap (·.spelling.toList) := by
  simp [ofChunks, List.flatMap_map]

theorem spelled_ofChunks (chunks : List Chunk) :
    Spelled (ofChunks chunks).text.toList (ofChunks chunks).arguments.length := by
  have scanned := Chunk.scan_spelling chunks
  have spelled := Segment.spelled_of_scan _ (congrArg Prod.snd scanned)
  rw [scanned, Chunk.countP_segments] at spelled
  rw [toList_ofChunks]
  exact spelled

theorem printed_ofChunks (printer : Printer) (chunks : List Chunk) :
    (ofChunks chunks).printed printer = chunks.flatMap (Chunk.printed printer) := by
  rw [printed, toList_ofChunks, Chunk.scan_spelling]
  exact Chunk.printed_segments printer chunks

end Format
end CircuitPrint
