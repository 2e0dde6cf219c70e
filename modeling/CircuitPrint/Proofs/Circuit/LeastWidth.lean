import CircuitPrint.Circuit.Signal
import Mathlib.Algebra.Order.Ring.Int
import Mathlib.Order.Bounds.Basic

/-!
The widths of literals that are made from a value alone: the least positive width in which the value fits. No value of
128 bits needs more than 128. For these values the width is also found by a search: shifted right by the width, nothing is
left of an unsigned value, and shifted by one place less, nothing but the sign is left of a signed one.
-/
namespace CircuitPrint

namespace Literal

theorem isLeast_of_le_iff {least : Nat} {fits : Nat → Prop} (bounded : ∀ width, least ≤ width ↔ fits width) :
    IsLeast {width | fits width} least :=
  ⟨(bounded least).mp (Nat.le_refl least), fun width enough => (bounded width).mpr enough⟩

theorem unsignedWidth_le_iff {value width : Nat} : unsignedWidth value ≤ width ↔ 1 ≤ width ∧ value < 2 ^ width := by
  rw [unsignedWidth, Nat.max_le, bitLength_le_iff]
  rfl

/-- The bits in which a value differs from its sign are the bits of a natural number. -/
theorem differing_lt_iff {value : Int} {places : Nat} :
    (if value < 0 then (-value - 1).toNat else value.toNat) < 2 ^ places ↔
      -2 ^ places ≤ value ∧ value ≤ 2 ^ places - 1 := by
  have cast : ((2 ^ places : Nat) : Int) = 2 ^ places := Int.natCast_pow 2 places
  rw [← cast]
  split <;> omega

theorem signedWidth_le_iff {value : Int} {width : Nat} :
    signedWidth value ≤ width ↔ 1 ≤ width ∧ -2 ^ (width - 1) ≤ value ∧ value ≤ 2 ^ (width - 1) - 1 := by
  have places : signedWidth value ≤ width ↔ 1 ≤ width ∧
      bitLength (if value < 0 then (-value - 1).toNat else value.toNat) ≤ width - 1 := by
    rw [signedWidth]
    omega
  rw [places, bitLength_le_iff]
  exact and_congr_right fun _ => differing_lt_iff

/-- The first width below 128 that is enough, and 128 if none is. -/
def searched (enough : Nat → Bool) : Nat :=
  ((List.range' 1 127).find? enough).getD 128

theorem searched_eq {least : Nat} {enough : Nat → Bool} (positive : 1 ≤ least) (limited : least ≤ 128)
    (bounded : ∀ width, 1 ≤ width → (enough width = true ↔ least ≤ width)) : searched enough = least := by
  have below : ∀ width, 1 ≤ width → width < least → (!enough width) = true := by
    intro width counted less
    rw [Bool.not_eq_true', ← Bool.not_eq_true, bounded width counted]
    exact Nat.not_le_of_lt less
  rw [searched]
  rcases Nat.lt_or_eq_of_le limited with inside | rfl
  · have found : (List.range' 1 127).find? enough = some least := by
      rw [List.find?_range'_eq_some, List.mem_range'_1]
      exact ⟨(bounded least positive).mpr (Nat.le_refl least), ⟨positive, inside⟩, below⟩
    rw [found, Option.getD_some]
  · rw [List.find?_range'_eq_none.mpr below, Option.getD_none]

theorem shiftRight_eq_zero_iff {value places : Nat} : value >>> places = 0 ↔ value < 2 ^ places := by
  rw [Nat.shiftRight_eq_div_pow, Nat.div_eq_zero_iff_lt (Nat.two_pow_pos places)]

/-- A shift to the right rounds down, so that a negative value ends at the sign. -/
theorem shiftRight_eq_sign_iff {value : Int} {places : Nat} :
    value >>> places = 0 ∨ value >>> places = -1 ↔ -2 ^ places ≤ value ∧ value ≤ 2 ^ places - 1 := by
  have cast : ((2 ^ places : Nat) : Int) = 2 ^ places := Int.natCast_pow 2 places
  have positive : (0 : Int) < (2 ^ places : Nat) := Int.natCast_pos.mpr (Nat.two_pow_pos places)
  have least : -1 ≤ value >>> places ↔ -2 ^ places ≤ value := by
    rw [Int.shiftRight_eq_div_pow, Int.le_ediv_iff_mul_le positive, cast, Int.neg_one_mul]
  have most : value >>> places < 1 ↔ value ≤ 2 ^ places - 1 := by
    rw [Int.shiftRight_eq_div_pow, Int.ediv_lt_iff_lt_mul positive, cast, Int.one_mul, Int.le_sub_one_iff]
  rw [← least, ← most]
  omega

theorem unsignedWidth_searched {value : Nat} (limited : unsignedWidth value ≤ 128) :
    searched (fun width => value >>> width = 0) = unsignedWidth value := by
  refine searched_eq (unsignedWidth_le_iff.mp (Nat.le_refl _)).1 limited ?_
  intro width positive
  rw [decide_eq_true_eq, shiftRight_eq_zero_iff, unsignedWidth_le_iff, and_iff_right positive]

theorem signedWidth_searched {value : Int} (limited : signedWidth value ≤ 128) :
    searched (fun width => value >>> (width - 1) = 0 ∨ value >>> (width - 1) = -1) = signedWidth value := by
  refine searched_eq (signedWidth_le_iff.mp (Nat.le_refl _)).1 limited ?_
  intro width positive
  rw [decide_eq_true_eq, shiftRight_eq_sign_iff, signedWidth_le_iff, and_iff_right positive]

end Literal

namespace Signal

open Literal (searched isLeast_of_le_iff unsignedWidth_le_iff signedWidth_le_iff)

/-- A literal keeps the value that it is made from, and its width is the least one in which the value fits. For values of
128 bits the width is at most 128, and the search through the widths from one upward ends there. -/
theorem least_width :
    (∀ value : Nat, ∃ width,
      ofNat value = literal (.unsigned value width) ∧ IsLeast {w | 1 ≤ w ∧ value < 2 ^ w} width ∧
        (value < 2 ^ 128 → width ≤ 128 ∧ searched (fun w => value >>> w = 0) = width)) ∧
    ∀ value : Int, ∃ width,
      ofInt value = literal (.signed value width) ∧
        IsLeast {w | 1 ≤ w ∧ -2 ^ (w - 1) ≤ value ∧ value ≤ 2 ^ (w - 1) - 1} width ∧
        (-2 ^ 127 ≤ value ∧ value ≤ 2 ^ 127 - 1 →
          width ≤ 128 ∧ searched (fun w => value >>> (w - 1) = 0 ∨ value >>> (w - 1) = -1) = width) := by
  constructor
  · intro value
    refine ⟨Literal.unsignedWidth value, rfl, isLeast_of_le_iff fun _ => unsignedWidth_le_iff, ?_⟩
    intro small
    have limited : Literal.unsignedWidth value ≤ 128 := unsignedWidth_le_iff.mpr ⟨by decide, small⟩
    exact ⟨limited, Literal.unsignedWidth_searched limited⟩
  · intro value
    refine ⟨Literal.signedWidth value, rfl, isLeast_of_le_iff fun _ => signedWidth_le_iff, ?_⟩
    intro small
    have limited : Literal.signedWidth value ≤ 128 := signedWidth_le_iff.mpr ⟨by decide, small⟩
    exact ⟨limited, Literal.signedWidth_searched limited⟩

/-- The largest unsigned and the least signed value of 128 bits. -/
theorem least_width_extremes :
    let largest : Nat := 2 ^ 128 - 1
    let least : Int := -2 ^ 127
    ofNat largest = literal (.unsigned largest 128) ∧ IsLeast {w | 1 ≤ w ∧ largest < 2 ^ w} 128 ∧
      searched (fun w => largest >>> w = 0) = 128 ∧
      ofInt least = literal (.signed least 128) ∧
      IsLeast {w | 1 ≤ w ∧ -2 ^ (w - 1) ≤ least ∧ least ≤ 2 ^ (w - 1) - 1} 128 ∧
      searched (fun w => least >>> (w - 1) = 0 ∨ least >>> (w - 1) = -1) = 128 := by
  have full : Literal.unsignedWidth (2 ^ 128 - 1) = 128 := by decide +kernel
  have negative : Literal.signedWidth (-2 ^ 127) = 128 := by decide +kernel
  intro largest least
  obtain ⟨width, made, minimal, found⟩ := least_width.1 largest
  obtain ⟨places, signed, smallest, ends⟩ := least_width.2 least
  obtain rfl : 128 = width := full.symm.trans (Literal.unsigned.inj (literal.inj made)).2
  obtain rfl : 128 = places := negative.symm.trans (Literal.signed.inj (literal.inj signed)).2
  exact ⟨made, minimal, (found (by decide)).2, signed, smallest, (ends (by decide)).2⟩

end Signal
end CircuitPrint
