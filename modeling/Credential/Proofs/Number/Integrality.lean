import Credential.Number.Basic
import Mathlib.Tactic.Common

/-! Numbers without a fractional part, and the numbers that agree with them. -/

set_option autoImplicit false

namespace Credential

namespace Double

theorem divHalfEven_one (numerator : Nat) : divHalfEven numerator 1 = numerator := by
  simp [divHalfEven, Nat.mod_one]

-- A whole number keeps its units, since its quantum is no finer than its 53 leading bits.
theorem le_quantum (numerator : Nat) : -53 ≤ quantum numerator 1 := by
  have bits : Nat.log2 1 = 0 := by decide
  simp only [quantum, bits]
  split <;> omega

theorem ofParts?_eq_some {negative : Bool} {significand : Nat} {exponent : Int} {value : Double}
    (made : ofParts? negative significand exponent = some value) :
    value.negative = negative ∧ value.significand = significand ∧ value.exponent = exponent := by
  unfold ofParts? at made
  split at made
  · obtain rfl := Option.some.inj made
    exact ⟨rfl, rfl, rfl⟩
  · simp at made

-- A quotient other than zero is rounded in units of its quantum, and a significand of 54 bits is halved.
theorem ofRatio?_eq_some {negative : Bool} {numerator denominator : Nat} {value : Double}
    (nearest : ofRatio? negative numerator denominator = some value) :
    value.significand = 0 ∨
      (value.exponent = quantum numerator denominator ∧
        value.significand =
          divHalfEven (inUnits numerator denominator value.exponent).1 (inUnits numerator denominator value.exponent).2) ∨
      (value.exponent = quantum numerator denominator + 1 ∧ value.significand = 0x10000000000000) := by
  unfold ofRatio? at nearest
  split at nearest
  · obtain rfl := Option.some.inj nearest
    exact .inl rfl
  · dsimp only at nearest
    split at nearest
    · obtain ⟨-, digits, units⟩ := ofParts?_eq_some nearest
      exact .inr (.inl ⟨units, by rw [digits, units]⟩)
    · obtain ⟨-, digits, units⟩ := ofParts?_eq_some nearest
      exact .inr (.inr ⟨units, digits⟩)

theorem isIntegral_ofRatio? {negative : Bool} {numerator : Nat} {value : Double}
    (nearest : ofRatio? negative numerator 1 = some value) : value.isIntegral = true := by
  have coarse := le_quantum numerator
  rw [isIntegral, beq_iff_eq]
  rcases ofRatio?_eq_some nearest with digits | ⟨units, digits⟩ | ⟨units, digits⟩
  · rw [digits, Nat.zero_mod]
  · rcases Int.lt_or_le value.exponent 0 with fine | whole
    · have unit : (inUnits numerator 1 value.exponent).2 = 1 := by
        simp [inUnits, Int.toNat_of_nonpos (Int.le_of_lt fine)]
      rw [digits, unit, divHalfEven_one]
      exact Nat.mul_mod_left ..
    · rw [Int.toNat_of_nonpos (by omega)]
      exact Nat.mod_one _
  · -- The halved significand is a power of two that even the finest quantum divides.
    have few : (-value.exponent).toNat ≤ 52 := by omega
    rw [digits]
    exact Nat.mod_eq_zero_of_dvd (Nat.pow_dvd_pow 2 few)

theorem isIntegral_of_sameValue {first second : Double} (same : first.sameValue second = true)
    (integral : second.isIntegral = true) : first.isIntegral = true := by
  simp only [sameValue, Bool.or_eq_true, Bool.and_eq_true, beq_iff_eq] at same
  rcases same with ⟨zero, -⟩ | rfl
  · simp [isIntegral, zero]
  · exact integral

end Double

namespace Number

theorem agrees_self (number : Number) : number.agrees number = true := by
  cases number <;> simp [agrees, toDouble?, Double.sameValue]

theorem isIntegral_toDouble? {number : Number} {value : Double} (nearest : number.toDouble? = some value)
    (integral : number.isIntegral = true) : value.isIntegral = true := by
  cases number with
  | integer => exact Double.isIntegral_ofRatio? nearest
  | double =>
    cases nearest
    exact integral

theorem isIntegral_of_agrees {first second : Number} (agree : first.agrees second = true)
    (integral : second.isIntegral = true) : first.isIntegral = true := by
  cases first with
  | integer => rfl
  | double value =>
    simp only [agrees, toDouble?] at agree
    split at agree
    next left right found nearest =>
      obtain rfl := Option.some.inj found
      exact Double.isIntegral_of_sameValue agree (isIntegral_toDouble? nearest integral)
    next => simp at agree

end Number

end Credential
