import Credential.Json.Reader

/-! Reading values of fixed shape from JSON as written.

A record is an object with its field names as keys, or an array of its fields
in order. Keys that name no field are passed over together with what they hold.
-/

set_option autoImplicit false

namespace Credential.Json.Raw

def string? : Raw → Option String
  | .string units => string16? units
  | _ => none

def optionalString? : Raw → Option (Option String)
  | .null => some none
  | raw => raw.string?.map some

def word? : Raw → Option { value : Nat // value < 0x10000000000000000 }
  | .number text => text.word?
  | _ => none

/-- The fields of a record that are there. None of them may be there twice; an array must have all. -/
def fields? (names : List String) : Raw → Option (List (String × Raw))
  | .object members => do
    let members ← members.mapM fun (key, value) => (string16? key).map (·, value)
    let fields := members.filter fun field => names.contains field.1
    if (fields.map Prod.fst).Nodup then some fields else none
  | .array items => if items.length = names.length then some (names.zip items) else none
  | _ => none

/-- One of several words: a text, or the only key of an object in front of null. -/
def choice? : Raw → Option String
  | .string units => string16? units
  | .object [(key, .null)] => string16? key
  | _ => none

end Credential.Json.Raw
