import CircuitPrint.Proofs.Format.Checked
import CircuitPrint.Proofs.Format.Grammar
import Mathlib.Data.List.Chain

/-!
The check of a format is exact. There is one way to cut a text into segments, and what is left over begins with a percent
sign that neither is doubled nor has the letter of a directive behind it. A format is refused for its text if something
is left over, otherwise for the number of its arguments, and otherwise for the first argument that is no bit vector.
-/
namespace CircuitPrint

namespace BitFormat

theorem exists_letter_eq_iff {c : Char} : (∃ format : BitFormat, format.letter = c) ↔ c ∈ ['d', 'x', 'b', 'c'] := by
  constructor
  · rintro ⟨format, rfl⟩
    cases format <;> simp [letter]
  · intro listed
    simp only [List.mem_cons, List.not_mem_nil, or_false] at listed
    rcases listed with rfl | rfl | rfl | rfl
    exacts [⟨decimal, rfl⟩, ⟨hex, rfl⟩, ⟨binary, rfl⟩, ⟨character, rfl⟩]

theorem ofLetter?_eq_none_iff {c : Char} : ofLetter? c = none ↔ c ∉ ['d', 'x', 'b', 'c'] := by
  rw [← exists_letter_eq_iff, Option.eq_none_iff_forall_ne_some]
  constructor
  · rintro absent ⟨format, rfl⟩
    exact absent format (ofLetter?_letter format)
  · intro unlisted format found
    exact unlisted ⟨format, (letter_of_ofLetter? found).symm⟩

end BitFormat

namespace Segment

def isText : Segment → Bool
  | text _ => true
  | _ => false

/-- No segment of text goes on in the next one. -/
def Apart (segments : List Segment) : Prop :=
  segments.IsChain fun segment next => ¬(segment.isText = true ∧ next.isText = true)

structure Canonical (segments : List Segment) : Prop where
  regular : ∀ segment ∈ segments, segment.Regular
  apart : Apart segments

/-- Nothing, or a percent sign with which no segment begins. -/
def Stuck (unread : List Char) : Prop :=
  unread = [] ∨ ∃ rest, unread = '%' :: rest ∧ ∀ c ∈ rest.head?, c ≠ '%' ∧ c ∉ ['d', 'x', 'b', 'c']

theorem apart_cons {segment : Segment} {segments : List Segment} :
    Apart (segment :: segments) ↔
      (∀ next ∈ segments.head?, segment.isText = true → next.isText = false) ∧ Apart segments := by
  simp [Apart, List.isChain_cons]

theorem apart_prependText (c : Char) {segments : List Segment} (apart : Apart segments) :
    Apart (prependText c segments) := by
  unfold prependText
  split
  next content others =>
    obtain ⟨first, rest⟩ := apart_cons.mp apart
    exact apart_cons.mpr ⟨first, rest⟩
  next other =>
    refine apart_cons.mpr ⟨fun next first _ => ?_, apart⟩
    cases next with
    | text content =>
      obtain ⟨others, rfl⟩ := List.head?_eq_some_iff.mp first
      exact absurd rfl (other content others)
    | percent | directive => rfl

theorem apart_scan (format : List Char) : Apart (scan format).1 := by
  fun_induction scan format with
  | case1 | case2 | case5 => exact .nil
  | case3 text segments unread scanned ih | case4 _ text _ _ _ segments unread scanned ih =>
    rw [scanned] at ih
    exact apart_cons.mpr ⟨by simp [isText], ih⟩
  | case6 c text plain segments unread scanned ih =>
    rw [scanned] at ih
    exact apart_prependText c ih

theorem canonical_scan (format : List Char) : Canonical (scan format).1 :=
  ⟨regular_scan format, apart_scan format⟩

theorem stuck_scan (format : List Char) : Stuck (scan format).2 := by
  fun_induction scan format with
  | case1 => exact .inl rfl
  | case2 => exact .inr ⟨[], rfl, by simp⟩
  | case3 _ _ _ scanned ih | case4 _ _ _ _ _ _ _ scanned ih | case6 _ _ _ _ _ scanned ih =>
    rw [scanned] at ih
    exact ih
  | case5 c others single unknown =>
    refine .inr ⟨c :: others, rfl, ?_⟩
    intro d first
    obtain rfl := Option.some.inj first
    exact ⟨single, BitFormat.ofLetter?_eq_none_iff.mp unknown⟩

theorem scan_stuck {unread : List Char} (stuck : Stuck unread) : scan unread = ([], unread) := by
  obtain rfl | ⟨rest, rfl, unknown⟩ := stuck
  · rfl
  · cases rest with
    | nil => rfl
    | cons c others =>
      obtain ⟨single, unlisted⟩ := unknown c rfl
      rw [scan]
      simp only [if_neg single, BitFormat.ofLetter?_eq_none_iff.mpr unlisted]

theorem scan_text {content : List Char} (some : content ≠ []) (plain : '%' ∉ content) {rest : List Char}
    (apart : ∀ segment ∈ (scan rest).1.head?, segment.isText = false) :
    scan (content ++ rest) = (text content :: (scan rest).1, (scan rest).2) := by
  induction content with
  | nil => exact absurd rfl some
  | cons c content ih =>
    rw [List.mem_cons, not_or] at plain
    rw [List.cons_append, scan_char (Ne.symm plain.1)]
    -- Only the last character meets the rest, where no text goes on.
    by_cases last : content = []
    · rw [last, List.nil_append, prependText]
      intro content others same
      rw [same] at apart
      cases apart (text content) rfl
    · rw [ih last plain.2]
      rfl

/-- Segments are found again in what they spell, up to where no segment begins. -/
theorem scan_spelled {segments : List Segment} (canonical : Canonical segments) {unread : List Char}
    (stuck : Stuck unread) : scan (segments.flatMap spelling ++ unread) = (segments, unread) := by
  induction segments with
  | nil => exact scan_stuck stuck
  | cons segment segments ih =>
    obtain ⟨head, tail⟩ := List.forall_mem_cons.mp canonical.regular
    obtain ⟨first, apart⟩ := apart_cons.mp canonical.apart
    have rest := ih ⟨tail, apart⟩
    rw [List.flatMap_cons, List.append_assoc]
    cases segment with
    | text content =>
      have ends : ∀ next ∈ (scan (segments.flatMap spelling ++ unread)).1.head?, next.isText = false := by
        rw [rest]
        exact fun next member => first next member rfl
      rw [spelling, scan_text head.1 head.2 ends, rest]
    | percent => rw [spelling, List.cons_append, List.singleton_append, scan_percent, rest]
    | directive format => rw [spelling, List.cons_append, List.singleton_append, scan_directive, rest]

theorem scan_eq_iff {format unread : List Char} {segments : List Segment} :
    scan format = (segments, unread) ↔
      segments.flatMap spelling ++ unread = format ∧ Canonical segments ∧ Stuck unread := by
  constructor
  · intro scanned
    have spelled := spelling_scan format
    have canonical := canonical_scan format
    have stuck := stuck_scan format
    rw [scanned] at spelled canonical stuck
    exact ⟨spelled, canonical, stuck⟩
  · rintro ⟨rfl, canonical, stuck⟩
    exact scan_spelled canonical stuck

theorem spelled_iff_scan {format : List Char} {count : Nat} :
    Format.Spelled format count ↔ (scan format).2 = [] ∧ (scan format).1.countP isDirective = count := by
  refine ⟨scan_of_spelled, ?_⟩
  rintro ⟨complete, rfl⟩
  exact spelled_of_scan format complete

end Segment

namespace Format

open Segment (scan Stuck)

theorem directives_spelled {text : String} {count : Nat} : directives text = .ok count ↔ Spelled text.toList count := by
  rw [directives_eq_ok, Segment.spelled_iff_scan]

/-- A text is a format up to the place, where a percent sign begins no segment. -/
structure Offending (text : String) (position : Text.Position) : Prop where
  whole : position.before ++ position.after = text.toList
  front : ∃ count, Spelled position.before count
  more : position.after ≠ []
  stuck : Stuck position.after

theorem Offending.scan_eq {text : String} {position : Text.Position} (offending : Offending text position) :
    scan text.toList = ((scan position.before).1, position.after) := by
  obtain ⟨count, spelled⟩ := offending.front
  have front := Segment.spelling_scan_complete (Segment.scan_of_spelled spelled).1
  have scanned := Segment.scan_spelled (Segment.canonical_scan position.before) offending.stuck
  rw [front, offending.whole] at scanned
  exact scanned

theorem offending_of_scan {text : String} {segments : List Segment} {unread : List Char}
    (scanned : scan text.toList = (segments, unread)) (more : unread ≠ []) :
    Offending text ⟨text.toList.take (text.toList.length - unread.length), unread⟩ := by
  obtain ⟨spelled, canonical, stuck⟩ := Segment.scan_eq_iff.mp scanned
  have front : text.toList.take (text.toList.length - unread.length) = segments.flatMap Segment.spelling := by
    rw [← spelled, List.length_append, Nat.add_sub_cancel, List.take_left]
  have alone := Segment.scan_spelled canonical (.inl rfl)
  rw [List.append_nil] at alone
  have complete := Segment.spelled_of_scan _ (congrArg Prod.snd alone)
  rw [← front] at spelled complete
  exact ⟨spelled, ⟨_, complete⟩, more, stuck⟩

theorem directives_eq_error {text : String} {fault : Fault} :
    directives text = .error fault ↔ ∃ position, Offending text position ∧ fault = .malformed position := by
  rw [directives]
  split
  next segments unread scanned =>
    constructor
    · intro refused
      split at refused
      next => cases refused
      next left => exact ⟨_, offending_of_scan scanned left, (Except.error.inj refused).symm⟩
    · rintro ⟨position, offending, rfl⟩
      obtain ⟨_, rfl⟩ := Prod.mk.inj (scanned.symm.trans offending.scan_eq)
      rw [if_neg offending.more, ← offending.whole, List.length_append, Nat.add_sub_cancel, List.take_left]

theorem not_spelled_iff {text : String} :
    (¬∃ count, Spelled text.toList count) ↔ ∃ position, Offending text position := by
  cases read : directives text with
  | ok count =>
    have none : ¬∃ position, Offending text position := by
      rintro ⟨position, offending⟩
      have refused := directives_eq_error.mpr ⟨position, offending, rfl⟩
      rw [read] at refused
      cases refused
    exact iff_of_false (not_not.mpr ⟨count, directives_spelled.mp read⟩) none
  | error fault =>
    obtain ⟨position, offending, _⟩ := directives_eq_error.mp read
    refine iff_of_true ?_ ⟨position, offending⟩
    rintro ⟨count, spelled⟩
    rw [directives_spelled.mpr spelled] at read
    cases read

inductive BadArgument (signal : Signal) : Fault → Prop
  | untyped {offending : Signal} (untyped : signal.type = .error offending) : BadArgument signal (.untyped offending)
  | notBitVector {type : Ty} (typed : signal.type = .ok type) (other : type.isBitVector = false) :
    BadArgument signal (.notBitVector signal)

theorem checkArgument_eq_error {signal : Signal} {fault : Fault} :
    checkArgument signal = .error fault ↔ BadArgument signal fault := by
  rw [checkArgument, Outcome.bind_eq_error]
  simp only [Signal.typed_eq_error, Signal.typed_eq_ok]
  constructor
  · rintro (⟨offending, untyped, rfl⟩ | ⟨type, typed, refused⟩)
    · exact .untyped untyped
    · split at refused
      next => cases refused
      next other =>
        obtain rfl := Except.error.inj refused
        exact .notBitVector typed (eq_false_of_ne_true other)
  · intro bad
    cases bad with
    | untyped untyped => exact .inl ⟨_, untyped, rfl⟩
    | notBitVector typed other => exact .inr ⟨_, typed, by simp [other]⟩

/-- What a format is refused for: its text, or else the number of its arguments, or else the first bad argument. -/
inductive Refused (text : String) (arguments : List Signal) : Fault → Prop
  | malformed {position : Text.Position} (offending : Offending text position) :
    Refused text arguments (.malformed position)
  | directiveCount {count : Nat} (spelled : Spelled text.toList count) (other : count ≠ arguments.length) :
    Refused text arguments (.directiveCount count arguments.length)
  | argument {before after : List Signal} {argument : Signal} {fault : Fault}
    (spelled : Spelled text.toList arguments.length) (split : arguments = before ++ argument :: after)
    (bits : ∀ earlier ∈ before, earlier.isBitVector = .ok true) (bad : BadArgument argument fault) :
    Refused text arguments fault

theorem checked_eq_error {text : String} {arguments : List Signal} {fault : Fault} :
    checked text arguments = .error fault ↔ Refused text arguments fault := by
  rw [checked, Outcome.bind_eq_error, directives_eq_error]
  simp only [directives_spelled]
  constructor
  · rintro (⟨position, offending, rfl⟩ | ⟨count, spelled, rest⟩)
    · exact .malformed offending
    · split at rest
      next other =>
        obtain rfl := Except.error.inj rest
        exact .directiveCount spelled other
      next same =>
        obtain rfl := not_not.mp same
        simp only [Outcome.bind_eq_error, Outcome.forM_eq_error, checkArgument_eq_ok, checkArgument_eq_error] at rest
        obtain ⟨before, argument, after, split, bits, bad⟩ | ⟨_, _, none⟩ := rest
        · exact .argument spelled split bits bad
        · cases none
  · intro refused
    cases refused with
    | malformed offending => exact .inl ⟨_, offending, rfl⟩
    | directiveCount spelled other => exact .inr ⟨_, spelled, by simp [other]⟩
    | argument spelled split bits bad =>
      refine .inr ⟨_, spelled, ?_⟩
      simp only [ne_eq, not_true_eq_false, if_false, Outcome.bind_eq_error, Outcome.forM_eq_error,
        checkArgument_eq_ok, checkArgument_eq_error]
      exact .inl ⟨_, _, _, split, bits, bad⟩

theorem checked_spelled {text : String} {arguments : List Signal} {format : Format} :
    checked text arguments = .ok format ↔
      (Spelled text.toList arguments.length ∧ ∀ argument ∈ arguments, argument.isBitVector = .ok true) ∧
        format = ⟨text, arguments⟩ := by
  rw [checked_eq_ok, Segment.spelled_iff_scan]
  simp only [and_assoc, eq_comm]

theorem checked_malformed {text : String} {arguments : List Signal} :
    (∃ position, checked text arguments = .error (.malformed position)) ↔ ¬∃ count, Spelled text.toList count := by
  rw [not_spelled_iff]
  simp only [checked_eq_error]
  refine exists_congr fun position => ⟨fun refused => ?_, .malformed⟩
  cases refused with
  | malformed offending => exact offending
  | argument _ _ _ bad => cases bad

/-- The letters of directives are four. A text has one decomposition into segments and what is left over, and scanning
finds it. A format is accepted, and not changed, exactly if it is of the language of formats with a bit vector for each
directive, and otherwise the text, the number of arguments and the first bad argument are reported in this order. -/
theorem checked_exact :
    (∀ c, (∃ format : BitFormat, format.letter = c) ↔ c ∈ ['d', 'x', 'b', 'c']) ∧
    (∀ format segments unread, scan format = (segments, unread) ↔
      segments.flatMap Segment.spelling ++ unread = format ∧ Segment.Canonical segments ∧ Stuck unread) ∧
    ∀ text arguments,
      (∀ format, checked text arguments = .ok format ↔
        (Spelled text.toList arguments.length ∧ ∀ argument ∈ arguments, argument.isBitVector = .ok true) ∧
          format = ⟨text, arguments⟩) ∧
      ((∃ position, checked text arguments = .error (.malformed position)) ↔ ¬∃ count, Spelled text.toList count) ∧
      ∀ fault, checked text arguments = .error fault ↔ Refused text arguments fault := by
  refine ⟨fun c => BitFormat.exists_letter_eq_iff, fun format segments unread => Segment.scan_eq_iff, ?_⟩
  intro text arguments
  exact ⟨fun format => checked_spelled, checked_malformed, fun fault => checked_eq_error⟩

/-- Three percent signs before a letter, and one at the end; a doubled one before a letter, and a clock. -/
theorem checked_exact_percent :
    let clock : Signal := .component ⟨"clock", .clock, .port, none⟩
    checked "5%%%d%" [clock] = .error (.malformed ⟨"5%%%d".toList, ['%']⟩) ∧
      checked "%%d%x" [] = .error (.directiveCount 1 0) ∧
      checked "%%d%x" [clock] = .error (.notBitVector clock) := by
  intro clock
  obtain ⟨_, cut, check⟩ := checked_exact
  have front : Spelled "5%%%d".toList 1 := .char (by decide) (.percent (.directive .decimal .nil))
  have spelled : Spelled "%%d%x".toList 1 := .percent (.char (by decide) (.directive .hex .nil))
  have stuck : Stuck ['%'] := ((cut ['%'] [] ['%']).mp rfl).2.2
  refine ⟨(check _ _).2.2 _ |>.mpr ?_, (check _ _).2.2 _ |>.mpr ?_, (check _ _).2.2 _ |>.mpr ?_⟩
  · exact .malformed ⟨rfl, ⟨1, front⟩, List.cons_ne_nil _ _, stuck⟩
  · exact .directiveCount spelled (by decide)
  · exact .argument spelled (List.nil_append _).symm (List.forall_mem_nil _) (.notBitVector rfl rfl)

end Format
end CircuitPrint
