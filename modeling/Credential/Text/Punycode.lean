import Credential.Json.Lexeme

/-! Punycode: the spelling of a text in ASCII letters, digits and hyphens.

The ASCII characters of the text come first. After the last hyphen, numbers
without separators between them say where the other characters are inserted,
in ascending order.
-/

set_option autoImplicit false

namespace Credential.Punycode

def digit? (c : Char) : Option Nat :=
  if 'a' ≤ c ∧ c ≤ 'z' then some (c.toNat - 'a'.toNat)
  else if 'A' ≤ c ∧ c ≤ 'Z' then some (c.toNat - 'A'.toNat)
  else if Json.isDigit c then some (c.toNat - '0'.toNat + 26)
  else none

/-- Where a digit is less than this, its number ends. -/
def threshold (place bias : Nat) : Nat :=
  min 26 (max 1 (place - bias))

def biasOf (delta place : Nat) : Nat :=
  if delta > 455 then biasOf (delta / 35) (place + 36) else place + 36 * delta / (delta + 38)
termination_by delta

def adapt (delta length : Nat) (first : Bool) : Nat :=
  let delta := if first then delta / 700 else delta / 2
  biasOf (delta + delta / length) 0

/-- The text so far, and the number under way: from where it counts, its value so far, and the place and
weight of its next digit. -/
structure State where
  text : List Char
  code : Nat
  bias : Nat
  start : Nat
  value : Nat
  place : Nat
  weight : Nat

namespace State

def insert? (state : State) : Option State :=
  let length := state.text.length + 1
  let code := state.code + state.value / length
  let next := state.value % length + 1
  if code.isValidChar then
    some ⟨state.text.insertIdx (state.value % length) (Char.ofNat code), code,
      adapt (state.value - state.start) length (state.start == 0), next, next, 36, 1⟩
  else none

def step (state : State) (c : Char) : Option State := do
  let digit ← digit? c
  let state := { state with value := state.value + digit * state.weight }
  let threshold := threshold state.place state.bias
  if digit < threshold then state.insert?
  else some { state with place := state.place + 36, weight := state.weight * (36 - threshold) }

end State

def decode? (spelling : List Char) : Option (List Char) := do
  let digits := (spelling.reverse.takeWhile (· != '-')).reverse
  let text := spelling.take (spelling.length - digits.length - 1)
  if text.isEmpty && digits.length < spelling.length then none
  let state ← digits.foldlM State.step ⟨text, 128, 72, 0, 0, 36, 1⟩
  if state.weight = 1 then some state.text else none

end Credential.Punycode
