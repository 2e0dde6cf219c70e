import Mathlib.Data.List.Forall2

/-!
Where a text ends when more is written behind it. A run of characters of one class ends where the class does, and words
and decimal numerals are such runs. A text that is spelled character by character ends at a mark with which no spelling
begins, and a list of items with commas before them ends at a mark that is no comma. In each case the text and what follows
it are told from both of them together.
-/
namespace CircuitPrint.Text

/-- The rest does not begin with a character of the class. -/
def Stops (inside : Char → Bool) (rest : List Char) : Prop :=
  ∀ c ∈ rest.head?, inside c = false

section Runs

variable {inside : Char → Bool} {run other rest further : List Char}

theorem stops_nil : Stops inside [] := by
  intro c member
  cases member

theorem stops_cons {c : Char} (outside : inside c = false) : Stops inside (c :: rest) := by
  intro d member
  rw [← Option.some.inj member]
  exact outside

theorem stops_outside (outside : ∀ c ∈ run, inside c = false) : Stops inside run :=
  fun c first => outside c (List.mem_of_mem_head? first)

theorem stops_append (outside : ∀ c ∈ run, inside c = false) (stops : Stops inside rest) : Stops inside (run ++ rest) := by
  cases run with
  | nil => exact stops
  | cons c run => exact stops_cons (outside c List.mem_cons_self)

theorem takeWhile_run (within : ∀ c ∈ run, inside c = true) (stops : Stops inside rest) :
    (run ++ rest).takeWhile inside = run := by
  have ended : rest.takeWhile inside = [] := by
    cases rest with
    | nil => rfl
    | cons c rest =>
      have outside : inside c = false := stops c rfl
      exact List.takeWhile_cons_of_neg (by simp [outside])
  rw [List.takeWhile_append_of_pos within, ended, List.append_nil]

theorem dropWhile_run (within : ∀ c ∈ run, inside c = true) (stops : Stops inside rest) :
    (run ++ rest).dropWhile inside = rest := by
  have whole : (run ++ rest).takeWhile inside ++ (run ++ rest).dropWhile inside = run ++ rest :=
    List.takeWhile_append_dropWhile
  rw [takeWhile_run within stops] at whole
  exact List.append_cancel_left whole

theorem stops_dropWhile (text : List Char) : Stops inside (text.dropWhile inside) := by
  intro c first
  have outside := List.head?_dropWhile_not inside text
  rw [Option.mem_def.mp first] at outside
  exact outside

theorem run_cancel (within : ∀ c ∈ run, inside c = true) (throughout : ∀ c ∈ other, inside c = true)
    (stops : Stops inside rest) (ends : Stops inside further) (same : run ++ rest = other ++ further) :
    run = other ∧ rest = further := by
  have runs : run = other := by
    rw [← takeWhile_run within stops, same, takeWhile_run throughout ends]
  rw [runs] at same
  exact ⟨runs, List.append_cancel_left same⟩

end Runs

section Spelled

variable {spell : Char → List Char} {mark : Char}

/-- The mark is found behind a spelled text, since every spelling is told from its beginning. -/
theorem spelled_cancel (begins : ∀ c, ∃ first others, spell c = first :: others ∧ first ≠ mark)
    (cancel : ∀ {c d rest further}, spell c ++ rest = spell d ++ further → c = d ∧ rest = further)
    {text other rest further : List Char}
    (same : text.flatMap spell ++ mark :: rest = other.flatMap spell ++ mark :: further) :
    text = other ∧ rest = further := by
  have apart : ∀ c (behind before : List Char), mark :: behind ≠ spell c ++ before := by
    intro c behind before closed
    obtain ⟨first, others, spelled, different⟩ := begins c
    rw [spelled] at closed
    exact different (List.cons.inj closed).1.symm
  induction text generalizing other with
  | nil =>
    cases other with
    | nil => exact ⟨rfl, (List.cons.inj same).2⟩
    | cons d other =>
      rw [List.flatMap_cons, List.append_assoc] at same
      exact absurd same (apart d _ _)
  | cons c text ih =>
    rw [List.flatMap_cons, List.append_assoc] at same
    cases other with
    | nil => exact absurd same.symm (apart c _ _)
    | cons d other =>
      rw [List.flatMap_cons, List.append_assoc] at same
      obtain ⟨rfl, after⟩ := cancel same
      obtain ⟨rfl, behind⟩ := ih after
      exact ⟨rfl, behind⟩

end Spelled

section Preceded

variable {α : Type} {shape : α → List Char} {inside : Char → Bool} {rest further : List Char}

/-- The texts of items, with a comma and a space before each of them. -/
def preceded (shape : α → List Char) (items : List α) : List Char :=
  items.flatMap fun item => ',' :: ' ' :: shape item

theorem preceded_cons (item : α) (items : List α) (rest : List Char) :
    preceded shape (item :: items) ++ rest = ',' :: ' ' :: (shape item ++ (preceded shape items ++ rest)) := by
  simp [preceded]

theorem stops_preceded (comma : inside ',' = false) (stops : Stops inside rest) (items : List α) :
    Stops inside (preceded shape items ++ rest) := by
  cases items with
  | nil => exact stops
  | cons item items =>
    rw [preceded_cons]
    exact stops_cons comma

/-- Items are told one after the other, if each is told from its text where a comma or the closing mark follows. -/
theorem preceded_cancel {closing : Char} (comma : inside ',' = false) (closed : inside closing = false)
    (apart : closing ≠ ',') {relation : α → α → Prop} {items others : List α}
    (each : ∀ item ∈ items, ∀ other ∈ others, ∀ rest further, Stops inside rest → Stops inside further →
      shape item ++ rest = shape other ++ further → relation item other ∧ rest = further)
    (same : preceded shape items ++ closing :: rest = preceded shape others ++ closing :: further) :
    List.Forall₂ relation items others ∧ rest = further := by
  induction items generalizing others with
  | nil =>
    cases others with
    | nil => exact ⟨.nil, (List.cons.inj same).2⟩
    | cons other others =>
      rw [preceded_cons] at same
      exact absurd (List.cons.inj same).1 apart
  | cons item items ih =>
    cases others with
    | nil =>
      rw [preceded_cons] at same
      exact absurd (List.cons.inj same).1.symm apart
    | cons other others =>
      have stops : ∀ (items : List α) (rest : List Char), Stops inside (preceded shape items ++ closing :: rest) :=
        fun items _ => stops_preceded comma (stops_cons closed) items
      rw [preceded_cons, preceded_cons] at same
      obtain ⟨first, after⟩ := each item List.mem_cons_self other List.mem_cons_self _ _ (stops items rest)
        (stops others further) (List.cons.inj (List.cons.inj same).2).2
      obtain ⟨inner, behind⟩ := ih (fun item member other inner =>
        each item (List.mem_cons_of_mem _ member) other (List.mem_cons_of_mem _ inner)) after
      exact ⟨.cons first inner, behind⟩

end Preceded

def isWordChar (c : Char) : Bool :=
  c.isAlphanum || c = '_'

/-- Letters, digits and underscores only. -/
def IsWord (text : String) : Prop :=
  ∀ c ∈ text.toList, isWordChar c = true

instance : DecidablePred IsWord :=
  fun text => decidable_of_iff (text.toList.all isWordChar = true) List.all_eq_true

theorem word_cancel {word other : String} (shape : IsWord word) (likewise : IsWord other) {rest further : List Char}
    (stops : Stops isWordChar rest) (ends : Stops isWordChar further)
    (same : word.toList ++ rest = other.toList ++ further) : word = other ∧ rest = further := by
  obtain ⟨words, behind⟩ := run_cancel shape likewise stops ends same
  exact ⟨String.toList_inj.mp words, behind⟩

namespace Numeral

variable {rest further : List Char}

theorem isDigit_of_mem_repr {n : Nat} : ∀ c ∈ n.repr.toList, c.isDigit = true := by
  intro c member
  rw [Nat.toList_repr] at member
  exact Nat.isDigit_of_mem_toDigits (by decide) (by decide) member

theorem natural_cancel {n other : Nat} (stops : Stops Char.isDigit rest) (ends : Stops Char.isDigit further)
    (same : n.repr.toList ++ rest = other.repr.toList ++ further) : n = other ∧ rest = further := by
  obtain ⟨numerals, behind⟩ := run_cancel isDigit_of_mem_repr isDigit_of_mem_repr stops ends same
  rw [Nat.toList_repr, Nat.toList_repr] at numerals
  have values := congrArg (Nat.ofDigitChars 10 · 0) numerals
  simp only [Nat.ofDigitChars_ten_toDigits] at values
  exact ⟨values, behind⟩

theorem minus_ne_repr (n : Nat) (rest further : List Char) : '-' :: rest ≠ n.repr.toList ++ further := by
  intro same
  have digits : ∀ c ∈ n.repr.toList, c.isDigit = true := isDigit_of_mem_repr
  cases shown : n.repr.toList with
  | nil => exact Nat.toDigits_ne_nil (Nat.toList_repr.symm.trans shown)
  | cons c others =>
    rw [shown] at same digits
    have first : '-' = c := (List.cons.inj same).1
    have digit := digits c List.mem_cons_self
    rw [← first] at digit
    cases digit

theorem toList_repr_of_neg {i : Int} (negative : ¬ 0 ≤ i) : i.repr.toList = '-' :: (-i).toNat.repr.toList := by
  rw [Int.repr_eq_if, if_neg negative, String.toList_append]
  rfl

theorem toList_repr_of_nonneg {i : Int} (positive : 0 ≤ i) : i.repr.toList = i.toNat.repr.toList := by
  rw [Int.repr_eq_if, if_pos positive]

theorem integer_cancel {i other : Int} (stops : Stops Char.isDigit rest) (ends : Stops Char.isDigit further)
    (same : i.repr.toList ++ rest = other.repr.toList ++ further) : i = other ∧ rest = further := by
  by_cases first : 0 ≤ i <;> by_cases second : 0 ≤ other
  · rw [toList_repr_of_nonneg first, toList_repr_of_nonneg second] at same
    obtain ⟨values, behind⟩ := natural_cancel stops ends same
    exact ⟨by omega, behind⟩
  · rw [toList_repr_of_nonneg first, toList_repr_of_neg second] at same
    exact absurd same.symm (minus_ne_repr _ _ _)
  · rw [toList_repr_of_neg first, toList_repr_of_nonneg second] at same
    exact absurd same (minus_ne_repr _ _ _)
  · rw [toList_repr_of_neg first, toList_repr_of_neg second] at same
    obtain ⟨values, behind⟩ := natural_cancel stops ends (List.cons.inj same).2
    exact ⟨by omega, behind⟩

end Numeral
end CircuitPrint.Text
