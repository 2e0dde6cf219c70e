import CircuitPrint.Datum.Basic
import CircuitPrint.Message.Basic

/-!
A template marks the places of its arguments by empty braces. Around them are its parts, one more than places. Cutting a
text at a mark of two characters goes from left to right and without overlaps.
-/
namespace CircuitPrint

namespace Text

def prepend (c : Char) : List (List Char) → List (List Char)
  | [] => [[c]]
  | part :: parts => (c :: part) :: parts

/-- The parts between the occurrences of the mark `a` `b`; there is always one part more than occurrences. -/
def split (a b : Char) : List Char → List (List Char)
  | [] => [[]]
  | [c] => [[c]]
  | c :: d :: rest =>
    if c = a ∧ d = b then [] :: split a b rest else prepend c (split a b (d :: rest))

theorem prepend_ne_nil (c : Char) (parts : List (List Char)) : prepend c parts ≠ [] := by
  cases parts <;> simp [prepend]

theorem split_ne_nil (a b : Char) (text : List Char) : split a b text ≠ [] := by
  fun_cases split a b text <;> simp [prepend_ne_nil]

end Text

/-- What stands between the parts of a template. -/
inductive Argument
  | signal (value : Signal)
  | message (value : Message)
  | datum (value : Datum)

namespace Template

def parts (template : String) : List String :=
  (Text.split '{' '}' template.toList).map String.ofList

/-- The first part, and each argument with the part after it. -/
def align {α : Type} (parts : List String) (arguments : List α) : Except Fault (String × List (α × String)) :=
  match parts with
  | [] => .error (.argumentCount 0 arguments.length)
  | first :: others =>
    if others.length = arguments.length then .ok (first, arguments.zip others)
    else .error (.argumentCount parts.length arguments.length)

theorem align_eq_ok {α : Type} {parts : List String} {arguments : List α} {first : String}
    {pairs : List (α × String)} (aligned : align parts arguments = .ok (first, pairs)) :
    parts = first :: pairs.map Prod.snd ∧ arguments = pairs.map Prod.fst := by
  unfold align at aligned
  split at aligned
  · simp at aligned
  · split at aligned
    next same =>
      obtain ⟨rfl, rfl⟩ := Prod.mk.inj (Except.ok.inj aligned)
      simp [List.map_snd_zip, List.map_fst_zip, same]
    next => simp at aligned

end Template
end CircuitPrint
