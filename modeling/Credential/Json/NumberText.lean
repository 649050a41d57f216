import Credential.Number.Basic
import Credential.Number.Scaling

/-! Numbers as they are written in JSON text, and what they stand for.

The digits are kept, because how many of them count depends on where the first
one stands that no longer fits a 64-bit word.
-/

set_option autoImplicit false

namespace Credential

def Json.decimal (digits : List Char) : Nat :=
  digits.foldl (fun value c => 10 * value + (c.toNat - '0'.toNat)) 0

/-- A number as written: its digits before and after the point, and the exponent after its mark. -/
structure NumberText where
  negative : Bool
  whole : List Char
  fraction : Option (List Char)
  exponent : Option Int

namespace NumberText

def isPlain (text : NumberText) : Bool :=
  text.fraction.isNone && text.exponent.isNone

/-- Append digits to a 64-bit word up to the first one that does not fit, and count those left over. -/
def append (word : Nat) : List Char → Nat × Nat
  | [] => (word, 0)
  | digit :: rest =>
    let next := 10 * word + (digit.toNat - '0'.toNat)
    if next < 0x10000000000000000 then append next rest else (word, rest.length + 1)

/-- The double that the text stands for: a word of leading digits scaled by a power of ten. The digits
before the point that are left over still count as places, and those after it do not. -/
def double? (text : NumberText) : Option Double := do
  let places := text.fraction.getD []
  let (word, raised) := append 0 text.whole
  let (word, unread) := append word places
  let value ← Double.ofRatio? text.negative word 1
  value.scale? (text.exponent.getD 0 + raised - (places.length - unread : Nat))

/-- Plain digits in the 64-bit range are an integer, except for negative zero; all else is a double. -/
def number? (text : NumberText) : Option Number :=
  let value : Int := if text.negative then -Json.decimal text.whole else Json.decimal text.whole
  let integer := if text.isPlain ∧ ¬(text.negative ∧ value = 0) then Number.ofInt? value else none
  integer.or (text.double?.map .double)

def word? (text : NumberText) : Option { value : Nat // value < 0x10000000000000000 } :=
  if fits : text.isPlain ∧ ¬text.negative ∧ Json.decimal text.whole < 0x10000000000000000 then
    some ⟨Json.decimal text.whole, fits.2.2⟩
  else none

end NumberText

end Credential
