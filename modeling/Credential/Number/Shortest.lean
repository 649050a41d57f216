import Credential.Number.Double

/-! The shortest decimal that reads back as a given double.

All decimals that round to the double form an interval. The decimals of one,
two, up to seventeen digits are tried in turn: on each such grid only the two
neighbours of the double can be the nearest, and the first grid with a
neighbour inside the interval is taken.
-/

set_option autoImplicit false

namespace Credential

structure Decimal where
  digits : Nat
  exponent : Int
  deriving DecidableEq

namespace Decimal

def strip (d : Decimal) : Decimal :=
  if 0 < d.digits ∧ d.digits % 10 = 0 then strip ⟨d.digits / 10, d.exponent + 1⟩ else d
termination_by d.digits
decreasing_by omega

end Decimal

namespace Double

/-- The value and the ends of the interval that rounds to it, over one denominator. -/
structure Interval where
  low : Nat
  value : Nat
  high : Nat
  denominator : Nat
  closed : Bool

/-- Below a power of two the doubles are twice as dense, so the lower half-gap is halved there.
The ends themselves round to an even significand. -/
def interval (a : Double) : Interval :=
  let unit := Nat.pow 2 a.exponent.toNat
  let value := 4 * a.significand * unit
  let gap := if a.significand = 0x10000000000000 ∧ a.exponent ≠ -1074 then unit else 2 * unit
  ⟨value - gap, value, value + 2 * unit, 4 * Nat.pow 2 (-a.exponent).toNat, a.significand % 2 == 0⟩

def leading (numerator denominator : Nat) : Int :=
  if denominator ≤ numerator then decimalLength (numerator / denominator) - 1
  else -(decimalLength ((denominator - 1) / numerator) : Int)

namespace Interval

def holds (i : Interval) (d : Decimal) : Bool :=
  let point := d.digits * Nat.pow 10 d.exponent.toNat * i.denominator
  let scale := Nat.pow 10 (-d.exponent).toNat
  if i.closed then i.low * scale ≤ point ∧ point ≤ i.high * scale
  else i.low * scale < point ∧ point < i.high * scale

/-- Of the two neighbours on the grid of `10 ^ exponent`, the nearer one inside; of two as near, the even one. -/
def neighbour? (i : Interval) (exponent : Int) : Option Decimal :=
  let numerator := i.value * Nat.pow 10 (-exponent).toNat
  let denominator := i.denominator * Nat.pow 10 exponent.toNat
  let below : Decimal := ⟨numerator / denominator, exponent⟩
  let above : Decimal := ⟨numerator / denominator + 1, exponent⟩
  let nearest : Decimal := ⟨divHalfEven numerator denominator, exponent⟩
  match i.holds below, i.holds above with
  | true, true => some nearest
  | true, false => some below
  | false, true => some above
  | false, false => none

end Interval

/-- The decimal with the fewest digits that rounds to the double, and of those the nearest.
Its sign is left aside, and zero has the digit zero. -/
def shortest (a : Double) : Decimal :=
  if a.significand = 0 then ⟨0, 0⟩
  else
    let i := a.interval
    let top := leading i.value i.denominator
    let exact : Decimal :=
      ⟨a.significand * Nat.pow 2 a.exponent.toNat * Nat.pow 5 (-a.exponent).toNat, min a.exponent 0⟩
    (((List.range 17).findSome? fun n : Nat => i.neighbour? (top - n)).getD exact).strip

end Double

end Credential
