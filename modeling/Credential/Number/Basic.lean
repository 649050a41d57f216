import Credential.Number.Double

/-! Numbers of a JSON document: 64-bit integers and doubles.

The two forms are kept apart because a number is written back in the form it
was given in. Comparison crosses between them.
-/

set_option autoImplicit false

namespace Credential

def Number.InRange (value : Int) : Prop := -0x8000000000000000 ≤ value ∧ value < 0x10000000000000000

instance (value : Int) : Decidable (Number.InRange value) :=
  inferInstanceAs (Decidable (_ ∧ _))

inductive Number where
  | integer (value : Int) (inRange : Number.InRange value)
  | double (value : Double)
  deriving DecidableEq

namespace Number

def ofInt? (value : Int) : Option Number :=
  if inRange : InRange value then some (.integer value inRange) else none

def isInteger : Number → Bool
  | .integer .. => true
  | .double _ => false

def isIntegral : Number → Bool
  | .integer .. => true
  | .double value => value.isIntegral

def toDouble? : Number → Option Double
  | .integer value _ => Double.ofRatio? (value < 0) value.natAbs 1
  | .double value => some value

/-- Equality across the two forms: integers are compared exactly, and as doubles otherwise. -/
def agrees : Number → Number → Bool
  | .integer a _, .integer b _ => a == b
  | a, b =>
    match a.toDouble?, b.toDouble? with
    | some a, some b => a.sameValue b
    | _, _ => false

end Number

end Credential
