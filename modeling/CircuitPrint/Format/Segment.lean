/-!
Formats in the form in which a simulator reads them: text, doubled percent signs, and directives that each take the
next argument. Scanning cuts a format at these, and stops at a percent sign that is neither.
-/
namespace CircuitPrint

/-- The ways to print a bit vector. -/
inductive BitFormat
  | decimal
  | hex
  | binary
  | character
  deriving DecidableEq

namespace BitFormat

def letter : BitFormat → Char
  | decimal => 'd'
  | hex => 'x'
  | binary => 'b'
  | character => 'c'

def ofLetter? (c : Char) : Option BitFormat :=
  if c = 'd' then some decimal
  else if c = 'x' then some hex
  else if c = 'b' then some binary
  else if c = 'c' then some character
  else none

@[simp] theorem ofLetter?_letter (format : BitFormat) : ofLetter? format.letter = some format := by
  cases format <;> rfl

theorem letter_of_ofLetter? {c : Char} {format : BitFormat} (found : ofLetter? c = some format) :
    c = format.letter := by
  unfold ofLetter? at found
  split at found <;> grind [letter]

end BitFormat

inductive Segment
  | text (content : List Char)
  | percent
  | directive (format : BitFormat)
  deriving DecidableEq

namespace Segment

def spelling : Segment → List Char
  | text content => content
  | percent => ['%', '%']
  | directive format => ['%', format.letter]

def isDirective : Segment → Bool
  | directive _ => true
  | _ => false

/-- Text before other text joins it, so that no two segments of text meet. -/
def prependText (c : Char) : List Segment → List Segment
  | text content :: segments => text (c :: content) :: segments
  | segments => text [c] :: segments

/-- The segments at the front of a format, and what is left from the first percent sign that begins none. -/
def scan : List Char → List Segment × List Char
  | [] => ([], [])
  | '%' :: rest =>
    match rest with
    | [] => ([], ['%'])
    | c :: others =>
      if c = '%' then
        let (segments, unread) := scan others
        (percent :: segments, unread)
      else
        match BitFormat.ofLetter? c with
        | some format =>
          let (segments, unread) := scan others
          (directive format :: segments, unread)
        | none => ([], '%' :: c :: others)
  | c :: rest =>
    let (segments, unread) := scan rest
    (prependText c segments, unread)

theorem spelling_prependText (c : Char) (segments : List Segment) :
    (prependText c segments).flatMap spelling = c :: segments.flatMap spelling := by
  unfold prependText
  split <;> simp [spelling]

/-- Nothing is lost: the segments spell what they were cut from. -/
theorem spelling_scan (format : List Char) : (scan format).1.flatMap spelling ++ (scan format).2 = format := by
  fun_induction scan format with
  | case1 => rfl
  | case2 => rfl
  | case3 _ segments unread scanned ih => simp_all [spelling]
  | case4 c others _ format found segments unread scanned ih =>
    simp_all [spelling, BitFormat.letter_of_ofLetter? found]
  | case5 => rfl
  | case6 c rest _ segments unread scanned ih => simp_all [spelling_prependText]

end Segment
end CircuitPrint
