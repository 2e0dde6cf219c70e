import CircuitPrint.Proofs.Text.Boundary
import CircuitPrint.Text.Numeral
import Mathlib.Data.Nat.Digits.Defs
import Mathlib.Data.Nat.Log

/-!
Numerals of any base. A numeral is a sequence of digits, the leading one first, and zeros in front of it do not change
the number that it denotes. The digits that are written for a number are one such numeral, and the shortest one. Decimal
digits are read to the last of them, and they are no number if it is too large.
-/
namespace CircuitPrint.Text.Numeral

/-- Digits are written from the leading one to the last. -/
theorem toDigits_cases {base : Nat} (large : 1 < base) {motive : Nat → List Char → Prop}
    (single : ∀ digit < base, motive digit [digit.digitChar])
    (more : ∀ n digits, 0 < n → motive n digits →
      ∀ digit < base, motive (base * n + digit) (digits ++ [digit.digitChar]))
    (n : Nat) : motive n (Nat.toDigits base n) := by
  induction n using Nat.strongRecOn with
  | ind n ih =>
    rcases Nat.lt_or_ge n base with small | beyond
    · rw [Nat.toDigits_of_lt_base small]
      exact single n small
    · have positive : 0 < n := by omega
      have shorter := ih (n / base) (Nat.div_lt_self positive large)
      have leading : 0 < n / base := Nat.div_pos beyond (by omega)
      have step := more (n / base) _ leading shorter (n % base) (Nat.mod_lt n (by omega))
      rwa [Nat.div_add_mod, ← Nat.toDigits_of_base_le large beyond] at step

theorem length_toDigits {base : Nat} (large : 1 < base) (n : Nat) :
    (Nat.toDigits base n).length = Nat.log base n + 1 := by
  have some : 0 < (Nat.toDigits base n).length := Nat.length_toDigits_pos
  have below : n < base ^ (Nat.log base n + 1) := Nat.lt_pow_succ_log_self large n
  have fits : n < base ^ (Nat.toDigits base n).length := (Nat.length_toDigits_le_iff large some).mp (Nat.le_refl _)
  have most := (Nat.length_toDigits_le_iff large (Nat.succ_pos _)).mpr below
  have least := Nat.log_lt_of_lt_pow' (Nat.ne_of_gt some) fits
  omega

theorem head_toDigits {base n : Nat} (large : 1 < base) (positive : 0 < n) :
    ∃ leading, (Nat.toDigits base n).head? = some leading ∧ leading ≠ '0' := by
  induction n using toDigits_cases large with
  | single digit small => exact ⟨digit.digitChar, rfl, mt Nat.digitChar_eq_zero.mp (Nat.ne_of_gt positive)⟩
  | more n digits leading ih digit small =>
    obtain ⟨c, first, other⟩ := ih leading
    refine ⟨c, ?_, other⟩
    rw [List.head?_append, first, Option.some_or]

/-- Digits below the base, each written as one character, that have the value of the number. -/
def Denotes (base : Nat) (shape : Nat → Char) (n : Nat) (numeral : List Char) : Prop :=
  ∃ digits : List Nat, (∀ d ∈ digits, d < base) ∧ numeral = digits.map shape ∧ Nat.ofDigits base digits.reverse = n

section Denoted

variable {base n other : Nat} {shape : Nat → Char} {numeral : List Char}

theorem denotes_toDigits (large : 1 < base) (n : Nat) : Denotes base Nat.digitChar n (Nat.toDigits base n) := by
  refine toDigits_cases large ?single ?more n
  case single =>
    intro digit small
    exact ⟨[digit], List.forall_mem_singleton.mpr small, rfl, Nat.ofDigits_singleton⟩
  case more =>
    intro n numeral _ ih digit small
    obtain ⟨digits, below, rfl, value⟩ := ih
    refine ⟨digits ++ [digit], ?_, ?_, ?_⟩
    · exact List.forall_mem_append.mpr ⟨below, List.forall_mem_singleton.mpr small⟩
    · rw [List.map_append, List.map_singleton]
    · rw [List.reverse_append, List.reverse_singleton, List.singleton_append, Nat.ofDigits_cons, value]
      exact Nat.add_comm _ _

theorem Denotes.map {change : Char → Char} (denotes : Denotes base shape n numeral) :
    Denotes base (fun d => change (shape d)) n (numeral.map change) := by
  obtain ⟨digits, below, rfl, value⟩ := denotes
  exact ⟨digits, below, List.map_map, value⟩

theorem Denotes.zeros (positive : 0 < base) (denotes : Denotes base shape n numeral) (count : Nat) :
    Denotes base shape n (List.replicate count (shape 0) ++ numeral) := by
  obtain ⟨digits, below, rfl, value⟩ := denotes
  refine ⟨List.replicate count 0 ++ digits, ?_, ?_, ?_⟩
  · refine List.forall_mem_append.mpr ⟨?_, below⟩
    intro d member
    rw [List.eq_of_mem_replicate member]
    exact positive
  · rw [List.map_append, List.map_replicate]
  · rw [List.reverse_append, List.reverse_replicate, Nat.ofDigits_append_replicate_zero, value]

theorem Denotes.mem {c : Char} (denotes : Denotes base shape n numeral) (member : c ∈ numeral) :
    ∃ d < base, c = shape d := by
  obtain ⟨digits, below, rfl, _⟩ := denotes
  obtain ⟨d, inside, rfl⟩ := List.mem_map.mp member
  exact ⟨d, below d inside, rfl⟩

theorem digits_cancel (distinct : ∀ d < base, ∀ e < base, shape d = shape e → d = e) {digits others : List Nat}
    (below : ∀ d ∈ digits, d < base) (within : ∀ e ∈ others, e < base)
    (same : digits.map shape = others.map shape) : digits = others := by
  induction digits generalizing others with
  | nil => exact (List.map_eq_nil_iff.mp same.symm).symm
  | cons d digits ih =>
    cases others with
    | nil => cases same
    | cons e others =>
      obtain ⟨small, rest⟩ := List.forall_mem_cons.mp below
      obtain ⟨little, further⟩ := List.forall_mem_cons.mp within
      obtain ⟨heads, tails⟩ := List.cons.inj same
      rw [distinct d small e little heads, ih rest further tails]

/-- A numeral denotes one number if the digits are told apart. -/
theorem Denotes.unique (distinct : ∀ d < base, ∀ e < base, shape d = shape e → d = e)
    (denotes : Denotes base shape n numeral) (likewise : Denotes base shape other numeral) : n = other := by
  obtain ⟨digits, below, rfl, rfl⟩ := denotes
  obtain ⟨others, within, same, rfl⟩ := likewise
  rw [digits_cancel distinct below within same]

end Denoted

theorem mem_toDigits {base n : Nat} (large : 1 < base) : ∀ c ∈ Nat.toDigits base n, ∃ digit < base, c = digit.digitChar :=
  fun _ member => (denotes_toDigits large n).mem member

section Read

variable {limit : Nat} {digits rest : List Char}

/-- Decimal digits, of which there is one at least, with a value below the limit. -/
structure Number (limit : Nat) (digits : List Char) : Prop where
  nonempty : digits ≠ []
  decimal : ∀ c ∈ digits, c.isDigit = true
  below : ofDecimal digits < limit

theorem decimalBelow_number (number : Number limit digits) (stops : Stops Char.isDigit rest) :
    decimalBelow limit (digits ++ rest) = some (ofDecimal digits, rest) := by
  unfold decimalBelow
  rw [takeWhile_run number.decimal stops, dropWhile_run number.decimal stops]
  exact if_pos ⟨number.nonempty, number.below⟩

theorem decimalBelow_none (stops : Stops Char.isDigit rest) : decimalBelow limit rest = none := by
  have none : ([] ++ rest).takeWhile Char.isDigit = [] := takeWhile_run (List.forall_mem_nil _) stops
  rw [List.nil_append] at none
  unfold decimalBelow
  rw [none]
  exact if_neg fun some => some.1 rfl

theorem number_of_decimalBelow {text : List Char} {value : Nat} (read : decimalBelow limit text = some (value, rest)) :
    ∃ digits, Number limit digits ∧ digits ++ rest = text ∧ value = ofDecimal digits := by
  obtain ⟨⟨nonempty, below⟩, same⟩ := Option.ite_none_right_eq_some.mp read
  obtain ⟨rfl, rfl⟩ := Prod.mk.inj (Option.some.inj same)
  have decimal := List.all_eq_true.mp (List.all_takeWhile (p := Char.isDigit) (l := text))
  exact ⟨_, ⟨nonempty, decimal, below⟩, List.takeWhile_append_dropWhile, rfl⟩

theorem number_toDigits {n : Nat} (below : n < limit) : Number limit (Nat.toDigits 10 n) where
  nonempty := Nat.toDigits_ne_nil
  decimal := fun _ member => Nat.isDigit_of_mem_toDigits (by decide) (by decide) member
  below := by
    rw [ofDecimal, Nat.ofDigitChars_ten_toDigits]
    exact below

theorem Number.positive (number : Number limit digits) (leading : digits.head? ≠ some '0') : 0 < ofDecimal digits := by
  cases digits with
  | nil => exact absurd rfl number.nonempty
  | cons c digits =>
    have digit : '0'.toNat ≤ c.toNat := (Char.isDigit_iff_toNat.mp (number.decimal c List.mem_cons_self)).1
    have other : '0' ≠ c := fun same => leading (congrArg some same.symm)
    have beyond : '0'.toNat < c.toNat := Nat.lt_of_le_of_ne digit (mt Char.toNat_inj.mp other)
    have value : 0 < 10 ^ digits.length * (c.toNat - '0'.toNat) :=
      Nat.mul_pos (Nat.pow_pos (by decide)) (Nat.sub_pos_of_lt beyond)
    rw [ofDecimal, Nat.ofDigitChars_cons, Nat.mul_zero, Nat.zero_add, Nat.ofDigitChars_eq_ofDigitChars_zero]
    exact Nat.add_pos_left value _

end Read

end CircuitPrint.Text.Numeral
