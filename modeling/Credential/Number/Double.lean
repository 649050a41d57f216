/-! Finite binary floating-point numbers with 53 significant bits.

A number is kept as its sign, significand and exponent rather than as machine
bits, so that its exact value is visible. Each value other than zero has one
representation; zero has two, which differ in sign.
-/

set_option autoImplicit false

namespace Credential

/-- A significand below two to the 53rd, and at least two to the 52nd unless the exponent is least. -/
def Double.Canonical (significand : Nat) (exponent : Int) : Prop :=
  significand < 0x20000000000000 ∧ -1074 ≤ exponent ∧ exponent ≤ 971 ∧ (0x10000000000000 ≤ significand ∨ exponent = -1074)

instance (significand : Nat) (exponent : Int) : Decidable (Double.Canonical significand exponent) :=
  inferInstanceAs (Decidable (_ ∧ _ ∧ _ ∧ (_ ∨ _)))

/-- The number `significand * 2 ^ exponent`, negated if `negative` is set. -/
structure Double where
  negative : Bool
  significand : Nat
  exponent : Int
  canonical : Double.Canonical significand exponent
  deriving DecidableEq

namespace Double

def ofParts? (negative : Bool) (significand : Nat) (exponent : Int) : Option Double :=
  if canonical : Canonical significand exponent then some ⟨negative, significand, exponent, canonical⟩ else none

def zero (negative : Bool) : Double := ⟨negative, 0, -1074, by decide⟩

/-- The nearest natural number to a quotient; of two nearest ones, the even one. -/
def divHalfEven (numerator denominator : Nat) : Nat :=
  let quotient := numerator / denominator
  let twice := 2 * (numerator % denominator)
  if twice < denominator ∨ (twice = denominator ∧ quotient % 2 = 0) then quotient else quotient + 1

def inUnits (numerator denominator : Nat) (exponent : Int) : Nat × Nat :=
  (numerator * Nat.pow 2 (-exponent).toNat, denominator * Nat.pow 2 exponent.toNat)

/-- The exponent at which a positive quotient has 53 significant bits, or the least one if that is greater. -/
def quantum (numerator denominator : Nat) : Int :=
  let guess := max ((Nat.log2 numerator : Int) - Nat.log2 denominator - 53) (-1074)
  let (scaled, unit) := inUnits numerator denominator guess
  if scaled / unit < 0x20000000000000 then guess else guess + 1

/-- The number nearest to a quotient, ties to the even significand; none if it is out of range. -/
def ofRatio? (negative : Bool) (numerator denominator : Nat) : Option Double :=
  if numerator = 0 then some (zero negative)
  else
    let exponent := quantum numerator denominator
    let (scaled, unit) := inUnits numerator denominator exponent
    let significand := divHalfEven scaled unit
    if significand < 0x20000000000000 then ofParts? negative significand exponent
    else ofParts? negative 0x10000000000000 (exponent + 1)

def decimalLength (n : Nat) : Nat :=
  if n < 10 then 1 else decimalLength (n / 10) + 1

/-- The number nearest to `digits * 10 ^ exponent`; none if it is out of range.

A decimal far outside the range is decided by its order of magnitude, so that no huge power is computed. -/
def ofDecimal? (negative : Bool) (digits : Nat) (exponent : Int) : Option Double :=
  let magnitude := (decimalLength digits : Int) + exponent
  if digits = 0 then some (zero negative)
  else if magnitude < -400 then some (zero negative)
  else if magnitude > 400 then none
  else ofRatio? negative (digits * Nat.pow 10 exponent.toNat) (Nat.pow 10 (-exponent).toNat)

def times? (a b : Double) : Option Double :=
  let exponent := a.exponent + b.exponent
  ofRatio? (a.negative != b.negative) (a.significand * b.significand * Nat.pow 2 exponent.toNat)
    (Nat.pow 2 (-exponent).toNat)

def over? (a b : Double) : Option Double :=
  let exponent := a.exponent - b.exponent
  if b.significand = 0 then none
  else
    ofRatio? (a.negative != b.negative) (a.significand * Nat.pow 2 exponent.toNat)
      (b.significand * Nat.pow 2 (-exponent).toNat)

/-- Zeros of either sign are the same value; all other values have one representation. -/
def sameValue (a b : Double) : Bool :=
  (a.significand == 0 && b.significand == 0) || a == b

def isIntegral (a : Double) : Bool :=
  a.significand % Nat.pow 2 (-a.exponent).toNat == 0

end Double

end Credential
