import CircuitPrint.Fault
import CircuitPrint.Text.Numeral

/-!
Escape sequences in literal text. A character is spelled as itself unless it is a backslash, by a letter after a
backslash, by two hexadecimal digits after `\x` if it is ASCII, or by one to six of them in braces after `\u`.
`Spelling` states these rules one by one; `character` reads one spelling, and `text` reads spellings to the end.
`unescape` gives the text that a literal part of a message stands for.
-/
namespace CircuitPrint.Text
namespace Escape

/-- The letters that stand for a character after a backslash. -/
def letters : List (Char × Char) :=
  [('n', '\n'), ('r', '\r'), ('t', '\t'), ('\\', '\\'), ('0', '\x00'), ('\'', '\''), ('"', '"')]

inductive Spelling : Char → List Char → Prop
  | plain {c : Char} (notEscape : c ≠ '\\') : Spelling c [c]
  | letter {l c : Char} (listed : (l, c) ∈ letters) : Spelling c ['\\', l]
  | ascii {h l c : Char} {high low : Nat} (first : Numeral.hexValue h = some high)
      (second : Numeral.hexValue l = some low) (value : c.toNat = 16 * high + low) (small : c.toNat < 0x80) :
      Spelling c ['\\', 'x', h, l]
  | scalar {digits : List Char} {c : Char} (hex : ∀ d ∈ digits, Numeral.isHexDigit d = true)
      (nonempty : digits ≠ []) (few : digits.length ≤ 6) (value : c.toNat = Numeral.ofHex digits) :
      Spelling c ('\\' :: 'u' :: '{' :: (digits ++ ['}']))

/-- A text and the characters that it spells, one after the other. -/
inductive Spells : List Char → List Char → Prop
  | nil : Spells [] []
  | cons {c : Char} {word text rest : List Char} (first : Spelling c word) (others : Spells text rest) :
      Spells (c :: text) (word ++ rest)

def scalarOf (code : Nat) : Option Char :=
  if code.isValidChar then some (Char.ofNat code) else none

def letter : Scanner Char
  | [] => none
  | l :: rest => (letters.lookup l).map (·, rest)

def ascii : Scanner Char
  | h :: l :: rest =>
    match Numeral.hexValue h, Numeral.hexValue l with
    | some high, some low =>
      if 16 * high + low < 0x80 then some (Char.ofNat (16 * high + low), rest) else none
    | _, _ => none
  | _ => none

def scalar : Scanner Char := fun text =>
  let digits := text.takeWhile Numeral.isHexDigit
  match text.dropWhile Numeral.isHexDigit with
  | '}' :: rest =>
    if digits ≠ [] ∧ digits.length ≤ 6 then (scalarOf (Numeral.ofHex digits)).map (·, rest) else none
  | _ => none

def character : Scanner Char
  | [] => none
  | '\\' :: 'x' :: rest => ascii rest
  | '\\' :: 'u' :: '{' :: rest => scalar rest
  | '\\' :: rest => letter rest
  | c :: rest => some (c, rest)

theorem letter_length {text rest : List Char} {c : Char} (read : letter text = some (c, rest)) :
    rest.length < text.length := by
  cases text with
  | nil => simp [letter] at read
  | cons l tail =>
    obtain ⟨_, _, same⟩ := Option.map_eq_some_iff.mp read
    simp [(Prod.mk.inj same).2]

theorem ascii_length {text rest : List Char} {c : Char} (read : ascii text = some (c, rest)) :
    rest.length < text.length := by
  unfold ascii at read
  split at read <;> grind

theorem scalar_length {text rest : List Char} {c : Char} (read : scalar text = some (c, rest)) :
    rest.length < text.length := by
  have shorter : (text.dropWhile Numeral.isHexDigit).length ≤ text.length :=
    (List.dropWhile_sublist _).length_le
  unfold scalar at read
  split at read
  next tail left =>
    obtain ⟨_, _, same⟩ := Option.map_eq_some_iff.mp (Option.ite_none_right_eq_some.mp read).2
    simp only [left, List.length_cons, (Prod.mk.inj same).2] at shorter
    omega
  next => simp at read

theorem character_length {text rest : List Char} {c : Char} (read : character text = some (c, rest)) :
    rest.length < text.length := by
  revert read
  fun_cases character text <;> intro read
  · simp at read
  · have := ascii_length read; simp; omega
  · have := scalar_length read; simp; omega
  · have := letter_length read; simp; omega
  · grind

/-- Reads spelled characters up to the end of the text; a backslash that begins no spelling is refused. -/
def text (input : List Char) : Option (List Char × List Char) :=
  if input = [] then some ([], [])
  else
    match read : character input with
    | none => none
    | some (c, rest) =>
      have := character_length read
      (text rest).map fun (cs, unread) => (c :: cs, unread)
termination_by input.length

end Escape

/-- A text without a backslash stands for itself and is not read at all. -/
def unescape (text : String) : Except Fault String :=
  if '\\' ∈ text.toList then
    match Scanner.whole Escape.text text.toList with
    | some decoded => .ok (String.ofList decoded)
    | none => .error (.escape text)
  else .ok text

theorem unescape_of_not_mem {text : String} (plain : '\\' ∉ text.toList) : unescape text = .ok text := by
  simp [unescape, plain]

end CircuitPrint.Text
