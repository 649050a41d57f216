import Credential.Text.CodeSet

/-! Tables of rows of numbers, each row for the code points from its first number on. -/

set_option autoImplicit false

namespace Credential

/-- Rows in ascending order of their first numbers, which `starts` repeats. -/
structure CodeTable where
  starts : Array Nat
  rows : Array (List Nat)

namespace CodeTable

def ofText (text : String) : CodeTable :=
  let rows := (pieces ',' text.toList).map CodeSet.numbers
  ⟨(rows.map fun row => row.headD 0).toArray, rows.toArray⟩

def row? (table : CodeTable) (code : Nat) : Option (List Nat) :=
  match CodeSet.countUpTo table.starts code 0 table.starts.size with
  | 0 => none
  | count + 1 => table.rows[count]?

end CodeTable

end Credential
