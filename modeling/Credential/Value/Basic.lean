import Credential.Attribute.Basic

/-! The tree of an accepted value.

Each node keeps the attribute it was accepted by. An optional value that was
not supplied is a node of its own, so that the tree has the shape of the schema;
projection to JSON leaves such nodes out again.
-/

set_option autoImplicit false

namespace Credential

/-- An accepted value. A union holds the value as its winning candidate accepted it. -/
inductive Value where
  | absent (field : Attribute) (type : JsonType)
  | boolean (field : Attribute) (value : Bool)
  | integer (field : Attribute) (value : Number)
  | number (field : Attribute) (value : Number)
  | string (field : Attribute) (value : String)
  | null (field : Attribute)
  | anyArray (field : Attribute) (items : List Json)
  | arrayOf (field : Attribute) (items : List Value)
  | anyObject (field : Attribute) (members : List (String × Json))
  | record (field : Attribute) (properties : List Value)
  | union (field : Attribute) (winner : Value)

namespace Value

def field : Value → Attribute
  | absent field _ | boolean field _ | integer field _ | number field _ | string field _ | null field
  | anyArray field _ | arrayOf field _ | anyObject field _ | record field _ | union field _ => field

def name (value : Value) : String := value.field.name

def isAbsent : Value → Bool
  | absent .. => true
  | union _ winner => winner.isAbsent
  | _ => false

def effectiveType : Value → JsonType
  | absent _ type => type
  | boolean .. => .boolean
  | integer .. => .integer
  | number .. => .number
  | string .. => .string
  | null _ => .null
  | anyArray .. | arrayOf .. => .array
  | anyObject .. | record .. => .object
  | union _ winner => winner.effectiveType

/-- The property nodes of an object with declared properties, also where a union resolved to one. -/
def properties : Value → List Value
  | record _ properties => properties
  | union _ winner => winner.properties
  | _ => []

def property? (value : Value) (key : String) : Option Value :=
  value.properties.find? fun property => property.name == key

def follow? : Value → List String → Option Value
  | value, [] => some value
  | value, key :: rest => (value.property? key).bind fun property => follow? property rest

mutual

/-- The document of the value; none if it is absent. Absent items of an array become `null`, and
absent properties are left out. -/
def toJson? : Value → Option Json
  | .absent .. => none
  | .boolean _ value => some (.bool value)
  | .integer _ value | .number _ value => some (.number value)
  | .string _ value => some (.string value)
  | .null _ => some .null
  | .anyArray _ items => some (.array items)
  | .arrayOf _ items => some (.array (itemsToJson items))
  | .anyObject _ members => some (.object members)
  | .record _ properties => some (.object (Members.ofPairs (propertiesToJson properties)))
  | .union _ winner => winner.toJson?

def itemsToJson : List Value → List Json
  | [] => []
  | item :: rest => item.toJson?.getD .null :: itemsToJson rest

def propertiesToJson : List Value → List (String × Json)
  | [] => []
  | property :: rest =>
    match property.toJson? with
    | some value => (property.name, value) :: propertiesToJson rest
    | none => propertiesToJson rest

end

end Value

end Credential
