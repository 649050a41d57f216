import Credential.Text.Pieces

/-! Sets of characters given by the code points at which membership changes. -/

set_option autoImplicit false

namespace Credential

/-- A set of code points, by its ascending `changes`: the first is the least member, the second the
least non-member after it, and so on. -/
structure CodeSet where
  changes : Array Nat

namespace CodeSet

/-- The number of entries between `low` and `high` that are at most `code`, plus `low`. -/
def countUpTo (changes : Array Nat) (code low high : Nat) : Nat :=
  if low < high then
    let middle := (low + high) / 2
    if changes.getD middle 0 ≤ code then countUpTo changes code (middle + 1) high
    else countUpTo changes code low middle
  else low
termination_by high - low

def hexadecimal (digits : List Char) : Nat :=
  digits.foldl (fun value c => 16 * value + (if c ≤ '9' then c.toNat - '0'.toNat else c.toNat - 'a'.toNat + 10)) 0

def numbers (text : List Char) : List Nat :=
  ((pieces '\n' text).flatMap (pieces ' ')).filterMap fun digits =>
    if digits.isEmpty then none else some (hexadecimal digits)

def ofText (changes : String) : CodeSet :=
  ⟨(numbers changes.toList).toArray⟩

def holds (set : CodeSet) (code : Nat) : Bool :=
  countUpTo set.changes code 0 set.changes.size % 2 == 1

def contains (set : CodeSet) (c : Char) : Bool :=
  set.holds c.toNat

end CodeSet

end Credential
