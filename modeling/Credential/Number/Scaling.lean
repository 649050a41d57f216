import Credential.Number.Double

/-! Scaling doubles by powers of ten.

The power is rounded to a double first, and then the product or quotient is
rounded again, so that the result need not be the double nearest to the exact
value.
-/

set_option autoImplicit false

namespace Credential.Double

def tensLimit : Nat := 308

def tens? (places : Nat) : Option Double :=
  ofDecimal? false 1 places

def lower? (value : Double) (places : Nat) : Option Double :=
  if value.significand = 0 then some value
  else if places ≤ tensLimit then (tens? places).bind value.over?
  else do
    let lowered ← (tens? tensLimit).bind value.over?
    lowered.lower? (places - tensLimit)
termination_by places
decreasing_by grind [tensLimit]

def raise? (value : Double) (places : Nat) : Option Double :=
  if value.significand = 0 then some value else (tens? places).bind value.times?

def scale? (value : Double) (exponent : Int) : Option Double :=
  if exponent < 0 then value.lower? exponent.natAbs else value.raise? exponent.natAbs

end Credential.Double
