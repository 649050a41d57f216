import Credential.Number.Basic
import Mathlib.Algebra.Order.Field.Rat
import Mathlib.Tactic.Linarith
import Mathlib.Tactic.Positivity
import Mathlib.Tactic.Ring

/-! The rational number that a number of a document denotes.

A double is a sign, a significand and a power of two. Every double has one such
form, zero apart, so that doubles denote the same number exactly if they are the
same value.
-/

set_option autoImplicit false

namespace Credential

namespace Double

def magnitude (a : Double) : ℚ := a.significand * 2 ^ a.exponent

def rational (a : Double) : ℚ := if a.negative then -a.magnitude else a.magnitude

variable {a b : Double}

theorem two_zpow_pos (exponent : Int) : (0 : ℚ) < 2 ^ exponent := zpow_pos (by norm_num) exponent

theorem magnitude_nonneg (a : Double) : 0 ≤ a.magnitude :=
  mul_nonneg (Nat.cast_nonneg _) (two_zpow_pos _).le

theorem abs_rational (a : Double) : |a.rational| = a.magnitude := by
  unfold rational
  split
  · rw [abs_neg, abs_of_nonneg a.magnitude_nonneg]
  · exact abs_of_nonneg a.magnitude_nonneg

theorem magnitude_eq_of_le {exponent : Int} (lower : exponent ≤ a.exponent) :
    a.magnitude = (a.significand * 2 ^ (a.exponent - exponent).toNat : Nat) * 2 ^ exponent := by
  have split : (2 : ℚ) ^ a.exponent = 2 ^ (a.exponent - exponent).toNat * 2 ^ exponent := by
    rw [← zpow_natCast, ← zpow_add₀ two_ne_zero, Int.toNat_of_nonneg (Int.sub_nonneg.mpr lower), sub_add_cancel]
  rw [magnitude, split]
  push_cast
  ring

-- With a greater exponent the significand would have to be below the least one of its exponent.
theorem exponent_le_of_magnitude_eq (same : a.magnitude = b.magnitude) : b.exponent ≤ a.exponent := by
  by_contra above
  rw [not_le] at above
  rw [magnitude_eq_of_le above.le, magnitude, mul_left_inj' (two_zpow_pos _).ne', Nat.cast_inj] at same
  obtain ⟨few, -, -, -⟩ := a.canonical
  obtain ⟨-, -, -, many⟩ := b.canonical
  have least : -1074 ≤ a.exponent := a.canonical.2.1
  have full : 0x10000000000000 ≤ b.significand := many.resolve_right (by omega)
  have double : 2 ^ 1 ≤ 2 ^ (b.exponent - a.exponent).toNat := Nat.pow_le_pow_right (by decide) (by omega)
  have grown := Nat.mul_le_mul full double
  omega

theorem parts_eq_of_magnitude_eq (same : a.magnitude = b.magnitude) :
    a.significand = b.significand ∧ a.exponent = b.exponent := by
  have exponents := le_antisymm (exponent_le_of_magnitude_eq same.symm) (exponent_le_of_magnitude_eq same)
  refine ⟨?_, exponents⟩
  rw [magnitude, magnitude, exponents, mul_left_inj' (two_zpow_pos _).ne', Nat.cast_inj] at same
  exact same

theorem rational_eq_zero_iff : a.rational = 0 ↔ a.significand = 0 := by
  rw [← abs_eq_zero, abs_rational, magnitude, mul_eq_zero, or_iff_left (two_zpow_pos _).ne', Nat.cast_eq_zero]

theorem sameValue_iff : a.sameValue b = true ↔ a.rational = b.rational := by
  simp only [sameValue, Bool.or_eq_true, Bool.and_eq_true, beq_iff_eq]
  constructor
  · rintro (⟨left, right⟩ | rfl)
    · rw [rational_eq_zero_iff.mpr left, rational_eq_zero_iff.mpr right]
    · rfl
  · intro same
    have magnitudes : a.magnitude = b.magnitude := by rw [← abs_rational, ← abs_rational, same]
    obtain ⟨significands, exponents⟩ := parts_eq_of_magnitude_eq magnitudes
    by_cases zero : a.significand = 0
    · exact .inl ⟨zero, significands ▸ zero⟩
    -- Another sign would make the numbers opposite, and they are not zero.
    · have signs : a.negative = b.negative := by
        have positive : 0 < a.magnitude := mul_pos (Nat.cast_pos.mpr (Nat.pos_of_ne_zero zero)) (two_zpow_pos _)
        unfold rational at same
        rw [← magnitudes] at same
        cases left : a.negative <;> cases right : b.negative <;> simp only [left, right] at same ⊢ <;>
          simp only [Bool.false_eq_true, if_true, if_false] at same <;> linarith
      cases a
      cases b
      simp_all

theorem isIntegral_iff : a.isIntegral = true ↔ ∃ whole : Int, a.rational = whole := by
  have signless : (∃ whole : Int, a.rational = whole) ↔ ∃ whole : Int, a.magnitude = whole := by
    unfold rational
    split
    · refine ⟨fun ⟨whole, same⟩ => ⟨-whole, ?_⟩, fun ⟨whole, same⟩ => ⟨-whole, ?_⟩⟩
      · rw [Int.cast_neg, ← same, neg_neg]
      · rw [Int.cast_neg, ← same]
    · rfl
  rw [signless, isIntegral, beq_iff_eq, Nat.pow_eq, ← Nat.dvd_iff_mod_eq_zero]
  rcases le_total 0 a.exponent with up | down
  · refine iff_of_true ?_ ⟨(a.significand * 2 ^ (a.exponent - 0).toNat : Nat), ?_⟩
    · rw [Int.toNat_of_nonpos (by omega), pow_zero]
      exact one_dvd _
    · rw [magnitude_eq_of_le up, zpow_zero, mul_one]
      rfl
  · obtain ⟨places, same⟩ := Int.eq_ofNat_of_zero_le (Int.neg_nonneg.mpr down)
    have parts : a.magnitude = a.significand / (2 ^ places : Nat) := by
      rw [magnitude, show a.exponent = -places by omega, zpow_neg, zpow_natCast, div_eq_mul_inv]
      push_cast
      rfl
    have unit : ((2 ^ places : Nat) : ℚ) ≠ 0 := by positivity
    rw [same, Int.toNat_natCast, parts]
    constructor
    · rintro ⟨whole, multiple⟩
      exact ⟨whole, by rw [multiple, Nat.cast_mul, mul_div_cancel_left₀ _ unit, Int.cast_natCast]⟩
    · rintro ⟨whole, quotient⟩
      rw [div_eq_iff unit] at quotient
      have multiple : (a.significand : Int) = whole * (2 ^ places : Nat) := by exact_mod_cast quotient
      exact Int.natCast_dvd_natCast.mp ⟨whole, by rw [multiple, mul_comm]⟩

end Double

def Number.rational : Number → ℚ
  | .integer value _ => value
  | .double value => value.rational

@[simp] theorem Number.rational_integer (value : Int) (inRange : InRange value) :
    (integer value inRange).rational = value :=
  rfl

@[simp] theorem Number.rational_double (value : Double) : (double value).rational = value.rational := rfl

theorem Number.isIntegral_iff {number : Number} :
    number.isIntegral = true ↔ ∃ whole : Int, number.rational = whole := by
  cases number with
  | integer value => exact iff_of_true rfl ⟨value, rfl⟩
  | double value => exact Double.isIntegral_iff

end Credential
