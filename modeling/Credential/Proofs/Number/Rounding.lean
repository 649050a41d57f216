import Credential.Proofs.Number.Denotation
import Credential.Proofs.Number.Integrality

/-! Rounding to doubles.

A quotient is rounded to the double nearest to it, and among two that are as
near to the one with an even significand. It is enough to round to a whole
number of units, since the doubles with a finer unit are smaller and farther away.
-/

set_option autoImplicit false

namespace Credential

namespace Double

/-- The double nearest to a number; of two that are as near, the one with an even significand. -/
structure Nearest (nearest : Double) (target : ℚ) : Prop where
  closest : ∀ other : Double, |nearest.rational - target| ≤ |other.rational - target|
  even : ∀ other : Double, |other.rational - target| = |nearest.rational - target| → other.rational ≠ nearest.rational →
    nearest.significand % 2 = 0 ∧ other.significand % 2 = 1

theorem Nearest.unique {first second : Double} {target : ℚ} (left : first.Nearest target)
    (right : second.Nearest target) : first.rational = second.rational := by
  have distance := le_antisymm (left.closest second) (right.closest first)
  by_contra differ
  have even := (left.even second distance.symm (Ne.symm differ)).1
  have odd := (right.even first distance differ).2
  omega

-- The zeros of both signs are nearest alike, and other doubles that denote the same number are the same.
theorem Nearest.congr {first second : Double} {target : ℚ} (same : first.rational = second.rational)
    (nearest : first.Nearest target) : second.Nearest target where
  closest := by rw [← same]; exact nearest.closest
  even other distance differ := by
    rw [← same] at distance differ
    have size : second.magnitude = first.magnitude := by rw [← abs_rational, ← abs_rational, same]
    rw [(parts_eq_of_magnitude_eq size).1]
    exact nearest.even other distance differ

theorem nearest_rational (a : Double) : a.Nearest a.rational where
  closest other := by simp
  even other distance differ := by
    rw [sub_self, abs_zero, abs_eq_zero] at distance
    exact absurd (sub_eq_zero.mp distance) differ

/-! ## Rounding a quotient to a whole number -/

theorem nearest_of_within_half {whole other : Int} {target : ℚ} (within : |(whole : ℚ) - target| ≤ 1 / 2) :
    |(whole : ℚ) - target| ≤ |(other : ℚ) - target| ∧
      (|(other : ℚ) - target| = |(whole : ℚ) - target| → other ≠ whole →
        |(whole : ℚ) - target| = 1 / 2 ∧ (other = whole + 1 ∨ other = whole - 1)) := by
  by_cases same : other = whole
  · exact ⟨(congrArg (fun number : Int => |(number : ℚ) - target|) same).ge, fun _ differ => absurd same differ⟩
  · have apart : 1 ≤ |other - whole| := Int.one_le_abs (sub_ne_zero.mpr same)
    have apart' : (1 : ℚ) ≤ |(other : ℚ) - whole| := by exact_mod_cast apart
    have triangle := abs_sub_le (other : ℚ) target whole
    rw [abs_sub_comm target] at triangle
    refine ⟨by linarith, fun equal _ => ?_⟩
    have together : |(other : ℚ) - whole| ≤ 1 := by linarith
    have next : |other - whole| = 1 := le_antisymm (by exact_mod_cast together) apart
    refine ⟨by linarith, ((abs_eq zero_le_one).mp next).imp (fun up => ?_) fun down => ?_⟩
    · rw [← up, add_sub_cancel]
    · rw [sub_eq_add_neg, ← down, add_sub_cancel]

theorem divHalfEven_within {numerator denominator : Nat} (positive : 0 < denominator) :
    |(divHalfEven numerator denominator : ℚ) - numerator / denominator| ≤ 1 / 2 ∧
      (|(divHalfEven numerator denominator : ℚ) - numerator / denominator| = 1 / 2 →
        divHalfEven numerator denominator % 2 = 0) := by
  have below := Nat.mod_lt numerator positive
  have unit : (0 : ℚ) < denominator := Nat.cast_pos.mpr positive
  have split : (numerator : ℚ) / denominator =
      (numerator / denominator : Nat) + (numerator % denominator : Nat) / denominator := by
    rw [div_eq_iff unit.ne', add_mul, div_mul_cancel₀ _ unit.ne']
    exact_mod_cast (Nat.div_add_mod' numerator denominator).symm
  rw [split, divHalfEven]
  generalize numerator / denominator = quotient at *
  generalize numerator % denominator = rest at *
  have fraction : (rest / denominator : ℚ) * denominator = rest := div_mul_cancel₀ _ unit.ne'
  have least : (0 : ℚ) ≤ rest / denominator := by positivity
  have most : (rest / denominator : ℚ) < 1 := (div_lt_one unit).mpr (Nat.cast_lt.mpr below)
  split
  next down =>
    rw [sub_add_cancel_left, abs_neg, abs_of_nonneg least, div_le_div_iff₀ unit two_pos,
      div_eq_div_iff unit.ne' two_ne_zero]
    norm_cast
    omega
  next up =>
    have distance : |((quotient + 1 : Nat) : ℚ) - (quotient + rest / denominator)| = 1 - rest / denominator := by
      push_cast
      rw [add_sub_add_left_eq_sub, abs_of_nonneg (by linarith)]
    have left : (1 : ℚ) - rest / denominator = (denominator - rest : Nat) / denominator := by
      rw [Nat.cast_sub below.le, sub_div, div_self unit.ne']
    rw [distance, left, div_le_div_iff₀ unit two_pos, div_eq_div_iff unit.ne' two_ne_zero]
    norm_cast
    omega

/-! ## The unit of a quotient -/

theorem inUnits_div (numerator denominator : Nat) (exponent : Int) :
    ((inUnits numerator denominator exponent).1 / (inUnits numerator denominator exponent).2 : ℚ) =
      numerator / denominator / 2 ^ exponent := by
  simp only [inUnits, Nat.pow_eq, Nat.cast_mul, Nat.cast_pow, Nat.cast_ofNat]
  rcases le_total 0 exponent with up | down
  · obtain ⟨places, rfl⟩ := Int.eq_ofNat_of_zero_le up
    simp [div_div]
  · obtain ⟨places, same⟩ := Int.eq_ofNat_of_zero_le (Int.neg_nonneg.mpr down)
    obtain rfl : exponent = -places := by omega
    simp [div_mul_eq_mul_div]

theorem inUnits_pos (numerator : Nat) {denominator : Nat} (positive : 0 < denominator) (exponent : Int) :
    0 < (inUnits numerator denominator exponent).2 :=
  Nat.mul_pos positive (Nat.pow_pos Nat.two_pos)

theorem quotient_bounds {numerator denominator : Nat} (present : 0 < numerator) (positive : 0 < denominator) :
    (2 : ℚ) ^ ((numerator.log2 : Int) - denominator.log2 - 1) < numerator / denominator ∧
      (numerator / denominator : ℚ) < 2 ^ ((numerator.log2 : Int) - denominator.log2 + 1) := by
  have lowerN : (2 : ℚ) ^ (numerator.log2 : Int) ≤ numerator := by
    exact_mod_cast Nat.log2_self_le present.ne'
  have upperN : (numerator : ℚ) < 2 ^ (numerator.log2 + 1 : Int) := by
    exact_mod_cast (@Nat.lt_log2_self numerator)
  have lowerD : (2 : ℚ) ^ (denominator.log2 : Int) ≤ denominator := by
    exact_mod_cast Nat.log2_self_le positive.ne'
  have upperD : (denominator : ℚ) < 2 ^ (denominator.log2 + 1 : Int) := by
    exact_mod_cast (@Nat.lt_log2_self denominator)
  have unit : (0 : ℚ) < denominator := Nat.cast_pos.mpr positive
  constructor
  · rw [lt_div_iff₀ unit]
    calc (2 : ℚ) ^ ((numerator.log2 : Int) - denominator.log2 - 1) * denominator
        < 2 ^ ((numerator.log2 : Int) - denominator.log2 - 1) * 2 ^ (denominator.log2 + 1 : Int) :=
          mul_lt_mul_of_pos_left upperD (two_zpow_pos _)
      _ = 2 ^ (numerator.log2 : Int) := by rw [← zpow_add₀ two_ne_zero]; congr 1; omega
      _ ≤ numerator := lowerN
  · rw [div_lt_iff₀ unit]
    calc (numerator : ℚ) < 2 ^ (numerator.log2 + 1 : Int) := upperN
      _ = 2 ^ ((numerator.log2 : Int) - denominator.log2 + 1) * 2 ^ (denominator.log2 : Int) := by
          rw [← zpow_add₀ two_ne_zero]; congr 1; omega
      _ ≤ 2 ^ ((numerator.log2 : Int) - denominator.log2 + 1) * denominator :=
          mul_le_mul_of_nonneg_left lowerD (two_zpow_pos _).le

/-- In units of its quantum a quotient is below two to the 53rd, and at least two to the 52nd unless the unit is the
least one. -/
theorem quantum_spec {numerator denominator : Nat} (present : 0 < numerator) (positive : 0 < denominator) :
    -1074 ≤ quantum numerator denominator ∧
      (numerator / denominator / 2 ^ quantum numerator denominator : ℚ) < 2 ^ 53 ∧
      (quantum numerator denominator = -1074 ∨
        (2 ^ 52 : ℚ) ≤ numerator / denominator / 2 ^ quantum numerator denominator) := by
  obtain ⟨lower, upper⟩ := quotient_bounds present positive
  -- Whether the guess is right is a comparison with a power of two.
  have fits (exponent : Int) :
      (inUnits numerator denominator exponent).1 / (inUnits numerator denominator exponent).2 < 0x20000000000000 ↔
        (numerator / denominator / 2 ^ exponent : ℚ) < 2 ^ 53 := by
    have unit := inUnits_pos numerator positive exponent
    rw [← inUnits_div, Nat.div_lt_iff_lt_mul unit, div_lt_iff₀ (Nat.cast_pos.mpr unit)]
    norm_cast
  unfold quantum
  generalize guessed : max ((numerator.log2 : Int) - denominator.log2 - 53) (-1074) = guess
  dsimp only
  split
  next small =>
    refine ⟨by omega, (fits guess).mp small, ?_⟩
    rcases eq_or_ne guess (-1074) with least | other
    · exact .inl least
    · right
      rw [le_div_iff₀ (two_zpow_pos _)]
      calc (2 ^ 52 : ℚ) * 2 ^ guess = 2 ^ (52 + guess) := by rw [zpow_add₀ two_ne_zero]; rfl
        _ = 2 ^ ((numerator.log2 : Int) - denominator.log2 - 1) := by congr 1; omega
        _ ≤ numerator / denominator := lower.le
  next large =>
    rw [fits, not_lt] at large
    refine ⟨by omega, ?_, .inr ?_⟩
    · rw [div_lt_iff₀ (two_zpow_pos _)]
      calc (numerator / denominator : ℚ) < 2 ^ ((numerator.log2 : Int) - denominator.log2 + 1) := upper
        _ ≤ 2 ^ (53 + (guess + 1)) := zpow_le_zpow_right₀ one_le_two (by omega)
        _ = 2 ^ 53 * 2 ^ (guess + 1) := by rw [zpow_add₀ two_ne_zero]; rfl
    · rw [le_div_iff₀ (two_zpow_pos _)] at large ⊢
      calc (2 ^ 52 : ℚ) * 2 ^ (guess + 1) = 2 ^ 53 * 2 ^ guess := by rw [zpow_add_one₀ two_ne_zero]; ring
        _ ≤ numerator / denominator := large

/-! ## Rounding a quotient to a double -/

def roundedUnits (numerator denominator : Nat) : Nat :=
  divHalfEven (inUnits numerator denominator (quantum numerator denominator)).1
    (inUnits numerator denominator (quantum numerator denominator)).2

theorem roundedUnits_within (numerator : Nat) {denominator : Nat} (positive : 0 < denominator) :
    |(roundedUnits numerator denominator : ℚ) - numerator / denominator / 2 ^ quantum numerator denominator| ≤ 1 / 2 ∧
      (|(roundedUnits numerator denominator : ℚ) - numerator / denominator / 2 ^ quantum numerator denominator| =
          1 / 2 → roundedUnits numerator denominator % 2 = 0) := by
  rw [← inUnits_div]
  exact divHalfEven_within (inUnits_pos numerator positive _)

section

variable {numerator denominator : Nat} (present : 0 < numerator) (positive : 0 < denominator)

include present positive

theorem roundedUnits_le : roundedUnits numerator denominator ≤ 2 ^ 53 := by
  have below := (quantum_spec present positive).2.1
  have near := (abs_le.mp (roundedUnits_within numerator positive).1).2
  have bound : (2 * roundedUnits numerator denominator : ℚ) < 2 * 2 ^ 53 + 1 := by linarith
  have whole : 2 * roundedUnits numerator denominator < 2 * 2 ^ 53 + 1 := by exact_mod_cast bound
  omega

theorem le_roundedUnits (other : quantum numerator denominator ≠ -1074) :
    2 ^ 52 ≤ roundedUnits numerator denominator := by
  have above := (quantum_spec present positive).2.2.resolve_left other
  have near := (abs_le.mp (roundedUnits_within numerator positive).1).1
  have bound : (2 * 2 ^ 52 : ℚ) < 2 * roundedUnits numerator denominator + 1 + 1 := by linarith
  have whole : 2 * 2 ^ 52 < 2 * roundedUnits numerator denominator + 1 + 1 := by exact_mod_cast bound
  omega

theorem magnitude_of_ofRatio? {negative : Bool} {value : Double}
    (nearest : ofRatio? negative numerator denominator = some value) :
    value.negative = negative ∧
      value.magnitude = roundedUnits numerator denominator * 2 ^ quantum numerator denominator ∧
      (roundedUnits numerator denominator % 2 = 0 → value.significand % 2 = 0) := by
  have units : divHalfEven (inUnits numerator denominator (quantum numerator denominator)).1
      (inUnits numerator denominator (quantum numerator denominator)).2 = roundedUnits numerator denominator := rfl
  simp only [ofRatio?, if_neg present.ne', units] at nearest
  split at nearest
  next fits =>
    obtain ⟨sign, digits, units⟩ := ofParts?_eq_some nearest
    exact ⟨sign, by rw [magnitude, digits, units], fun even => digits ▸ even⟩
  -- A significand of 54 bits is a power of two, and is halved.
  next full =>
    obtain ⟨sign, digits, units⟩ := ofParts?_eq_some nearest
    have power : roundedUnits numerator denominator = 2 * 0x10000000000000 := by
      have most := roundedUnits_le present positive
      omega
    refine ⟨sign, ?_, fun _ => by rw [digits]⟩
    rw [magnitude, digits, units, power, zpow_add_one₀ two_ne_zero]
    push_cast
    ring

theorem exists_ofRatio? (negative : Bool) (limit : quantum numerator denominator ≤ 970) :
    ∃ value, ofRatio? negative numerator denominator = some value := by
  have least := (quantum_spec present positive).1
  have units : divHalfEven (inUnits numerator denominator (quantum numerator denominator)).1
      (inUnits numerator denominator (quantum numerator denominator)).2 = roundedUnits numerator denominator := rfl
  simp only [ofRatio?, if_neg present.ne', units]
  split
  next fits =>
    have canonical : Canonical (roundedUnits numerator denominator) (quantum numerator denominator) := by
      refine ⟨fits, least, by omega, ?_⟩
      by_cases other : quantum numerator denominator = -1074
      · exact .inr other
      · exact .inl (le_roundedUnits present positive other)
    exact ⟨_, dif_pos canonical⟩
  next full =>
    exact ⟨_, dif_pos ⟨by decide, by omega, by omega, .inl (by decide)⟩⟩

end

/-! ## Doubles on a grid -/

theorem exists_units {a : Double} {exponent : Int} (lower : exponent ≤ a.exponent) :
    ∃ units : Int, a.rational = units * 2 ^ exponent ∧ (units % 2 = 1 → a.significand % 2 = 1) := by
  have odd (odd : (a.significand * 2 ^ (a.exponent - exponent).toNat) % 2 = 1) : a.significand % 2 = 1 :=
    Nat.odd_iff.mp (Nat.Odd.of_mul_left (Nat.odd_iff.mpr odd))
  unfold rational
  rw [magnitude_eq_of_le lower]
  split
  · exact ⟨-(a.significand * 2 ^ (a.exponent - exponent).toNat : Nat), by push_cast; ring, fun other => odd (by omega)⟩
  · exact ⟨(a.significand * 2 ^ (a.exponent - exponent).toNat : Nat), rfl, fun other => odd (by omega)⟩

-- A double with a lower exponent is smaller than what has 53 bits in the higher units.
theorem magnitude_lt_of_exponent_lt {a : Double} {exponent : Int} (lower : a.exponent < exponent) :
    a.magnitude < 2 ^ 52 * 2 ^ exponent := by
  have few : (a.significand : ℚ) < 2 ^ 53 := by exact_mod_cast a.canonical.1
  calc a.magnitude < 2 ^ 53 * 2 ^ a.exponent := mul_lt_mul_of_pos_right few (two_zpow_pos _)
    _ = 2 ^ 52 * 2 ^ (a.exponent + 1) := by rw [zpow_add_one₀ two_ne_zero]; ring
    _ ≤ 2 ^ 52 * 2 ^ exponent :=
        mul_le_mul_of_nonneg_left (zpow_le_zpow_right₀ one_le_two lower) (by positivity)

def opposite (a : Double) : Double := { a with negative := !a.negative }

theorem rational_opposite (a : Double) : a.opposite.rational = -a.rational := by
  have size : a.opposite.magnitude = a.magnitude := rfl
  unfold rational
  rw [size]
  cases negative : a.negative <;> simp [opposite, negative]

theorem Nearest.opposite {a : Double} {target : ℚ} (nearest : a.Nearest target) : a.opposite.Nearest (-target) := by
  have mirrored (other : Double) : |other.rational - -target| = |other.opposite.rational - target| := by
    rw [rational_opposite, sub_neg_eq_add, ← abs_neg, neg_add, sub_eq_add_neg]
  have own : |a.opposite.rational - -target| = |a.rational - target| := by
    rw [mirrored, rational_opposite, rational_opposite, neg_neg]
  refine ⟨fun other => ?_, fun other distance differ => ?_⟩
  · rw [own, mirrored]
    exact nearest.closest other.opposite
  · rw [own, mirrored] at distance
    refine nearest.even other.opposite distance fun same => differ ?_
    rw [rational_opposite, ← same, rational_opposite, neg_neg]

theorem ofRatio?_true (numerator denominator : Nat) :
    ofRatio? true numerator denominator = (ofRatio? false numerator denominator).map opposite := by
  have parts (significand : Nat) (exponent : Int) :
      ofParts? true significand exponent = (ofParts? false significand exponent).map opposite := by
    unfold ofParts?
    split <;> rfl
  simp only [ofRatio?, parts]
  split
  · rfl
  · split <;> rfl

/-- A whole number of units within half a unit of a number is the nearest double to it, if the units are the least ones
or the number has 53 bits in them. -/
theorem nearest_of_units {value : Double} {units : Nat} {exponent : Int} {target : ℚ}
    (own : value.rational = units * 2 ^ exponent) (even : units % 2 = 0 → value.significand % 2 = 0)
    (within : |(units : ℚ) - target| ≤ 1 / 2) (tie : |(units : ℚ) - target| = 1 / 2 → units % 2 = 0)
    (normal : exponent = -1074 ∨ 2 ^ 52 ≤ target) : value.Nearest (target * 2 ^ exponent) := by
  have unit := two_zpow_pos exponent
  have inUnits (number : ℚ) : |number * 2 ^ exponent - target * 2 ^ exponent| = |number - target| * 2 ^ exponent := by
    rw [← sub_mul, abs_mul, abs_of_pos unit]
  have each (other : Double) : |(units : ℚ) - target| * 2 ^ exponent ≤ |other.rational - target * 2 ^ exponent| ∧
      (|other.rational - target * 2 ^ exponent| = |(units : ℚ) - target| * 2 ^ exponent →
        other.rational ≠ units * 2 ^ exponent → units % 2 = 0 ∧ other.significand % 2 = 1) := by
    rcases le_or_gt exponent other.exponent with lower | above
    -- Among whole numbers of units the given one is nearest.
    · obtain ⟨others, same, odd⟩ := exists_units lower
      obtain ⟨closest, apart⟩ := @nearest_of_within_half units others target (by exact_mod_cast within)
      rw [Int.cast_natCast] at closest apart
      rw [same, inUnits]
      refine ⟨mul_le_mul_of_nonneg_right closest unit.le, fun equal differ => ?_⟩
      have differ : others ≠ units := fun same => differ (by rw [same, Int.cast_natCast])
      obtain ⟨half, next⟩ := apart (mul_right_cancel₀ unit.ne' equal) differ
      have parity := tie half
      exact ⟨parity, odd (by omega)⟩
    -- A finer double is below the least number of 53 bits, and the target is not.
    · have bits : 2 ^ 52 ≤ target := normal.resolve_left (by have least := other.canonical.2.1; omega)
      have closest := (@nearest_of_within_half units (2 ^ 52) target (by exact_mod_cast within)).1
      rw [Int.cast_natCast, Int.cast_pow, Int.cast_ofNat, abs_of_nonpos (sub_nonpos.mpr bits), neg_sub] at closest
      have farther : |(units : ℚ) - target| * 2 ^ exponent < |other.rational - target * 2 ^ exponent| := by
        calc |(units : ℚ) - target| * 2 ^ exponent
            ≤ (target - 2 ^ 52) * 2 ^ exponent := mul_le_mul_of_nonneg_right closest unit.le
          _ = target * 2 ^ exponent - 2 ^ 52 * 2 ^ exponent := sub_mul ..
          _ < target * 2 ^ exponent - |other.rational| := by
              rw [abs_rational]
              exact sub_lt_sub_left (magnitude_lt_of_exponent_lt above) _
          _ ≤ target * 2 ^ exponent - other.rational := sub_le_sub_left (le_abs_self _) _
          _ ≤ |other.rational - target * 2 ^ exponent| := by
              rw [abs_sub_comm]
              exact le_abs_self _
      exact ⟨farther.le, fun equal => absurd equal farther.ne'⟩
  constructor
  · intro other
    rw [own, inUnits]
    exact (each other).1
  · intro other
    rw [own, inUnits]
    intro equal differ
    obtain ⟨parity, odd⟩ := (each other).2 equal differ
    exact ⟨even parity, odd⟩

theorem nearest_ofRatio? {negative : Bool} {numerator denominator : Nat} (positive : 0 < denominator) {value : Double}
    (rounded : ofRatio? negative numerator denominator = some value) :
    value.Nearest (if negative then -(numerator / denominator) else numerator / denominator) := by
  have unsigned {value : Double} (rounded : ofRatio? false numerator denominator = some value) :
      value.Nearest (numerator / denominator) := by
    rcases Nat.eq_zero_or_pos numerator with rfl | present
    · obtain rfl := Option.some.inj rounded
      have nothing : (zero false).rational = 0 := rational_eq_zero_iff.mpr rfl
      simpa [nothing] using (zero false).nearest_rational
    · obtain ⟨sign, size, even⟩ := magnitude_of_ofRatio? present positive rounded
      obtain ⟨within, tie⟩ := roundedUnits_within numerator positive
      obtain ⟨-, -, normal⟩ := quantum_spec present positive
      have own : value.rational = roundedUnits numerator denominator * 2 ^ quantum numerator denominator := by
        rw [rational, sign, size]
        rfl
      have nearest := nearest_of_units own even within tie normal
      rwa [div_mul_cancel₀ _ (two_zpow_pos _).ne'] at nearest
  cases negative with
  | false => exact unsigned rounded
  | true =>
    rw [ofRatio?_true] at rounded
    obtain ⟨mirrored, found, rfl⟩ := Option.map_eq_some_iff.mp rounded
    exact (unsigned found).opposite

/-- What is not below two to the 53rd is not rounded below it, since that is a double itself. -/
theorem Nearest.limit_le {nearest : Double} {target : ℚ} (rounded : nearest.Nearest target) (far : 2 ^ 53 ≤ |target|) :
    2 ^ 53 ≤ |nearest.rational| := by
  have limit (negative : Bool) := rounded.closest ⟨negative, 0x10000000000000, 1, by decide⟩
  have value (negative : Bool) :
      rational ⟨negative, 0x10000000000000, 1, by decide⟩ = if negative then -2 ^ 53 else 2 ^ 53 := by
    norm_num [rational, magnitude]
  simp only [value] at limit
  by_contra small
  obtain ⟨low, high⟩ := abs_lt.mp (not_le.mp small)
  rcases le_abs.mp far with above | below
  · have closer := limit false
    rw [if_neg Bool.false_ne_true, abs_of_nonpos (by linarith), abs_of_nonpos (by linarith)] at closer
    linarith
  · have closer := limit true
    rw [if_pos rfl, abs_of_nonneg (by linarith), abs_of_nonneg (by linarith)] at closer
    linarith

theorem magnitude_of_lt {negative : Bool} {numerator : Nat} {value : Double} (small : numerator < 2 ^ 53)
    (rounded : ofRatio? negative numerator 1 = some value) : value.magnitude = numerator := by
  rcases Nat.eq_zero_or_pos numerator with rfl | present
  · obtain rfl := Option.some.inj rounded
    exact zero_mul _
  obtain ⟨-, size, -⟩ := magnitude_of_ofRatio? present Nat.one_pos rounded
  obtain ⟨within, -⟩ := roundedUnits_within numerator Nat.one_pos
  obtain ⟨-, -, normal⟩ := quantum_spec present Nat.one_pos
  generalize roundedUnits numerator 1 = units, quantum numerator 1 = exponent at *
  rw [Nat.cast_one, div_one] at within normal
  have fine : exponent ≤ 0 := by
    by_contra coarse
    have bits := (le_div_iff₀ (two_zpow_pos _)).mp (normal.resolve_left (by omega))
    have double : (2 : ℚ) ^ (1 : Int) ≤ 2 ^ exponent := zpow_le_zpow_right₀ one_le_two (by omega)
    have few : (numerator : ℚ) < 2 ^ 53 := by exact_mod_cast small
    linarith
  -- In units that are no greater than one the number is whole, so that no other is nearer.
  obtain ⟨places, same⟩ := Int.eq_ofNat_of_zero_le (Int.neg_nonneg.mpr fine)
  obtain rfl : exponent = -places := by omega
  rw [zpow_neg, zpow_natCast, div_inv_eq_mul] at within
  have exact := (@nearest_of_within_half units (numerator * 2 ^ places) (numerator * 2 ^ places)
    (by exact_mod_cast within)).1
  push_cast at exact
  rw [sub_self, abs_zero, abs_nonpos_iff, sub_eq_zero] at exact
  rw [size, exact, zpow_neg, zpow_natCast, mul_inv_cancel_right₀ (by positivity)]

theorem exists_ofRatio?_of_lt {negative : Bool} {numerator : Nat} (small : numerator < 2 ^ 64) :
    ∃ value, ofRatio? negative numerator 1 = some value := by
  rcases Nat.eq_zero_or_pos numerator with rfl | present
  · exact ⟨_, rfl⟩
  · refine exists_ofRatio? present Nat.one_pos negative ?_
    have bits : numerator.log2 < 64 := (Nat.log2_lt present.ne').mpr small
    simp only [quantum, show Nat.log2 1 = 0 by decide]
    split <;> omega

end Double

end Credential
