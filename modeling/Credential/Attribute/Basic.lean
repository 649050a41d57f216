import Credential.JsonType
import Credential.Path

/-! The tree a schema describes.

Every attribute has a name, a required flag and descriptive text. An array
without an item schema, and an object without declared properties, constrain
only the shape of a value. A union lists one candidate for each of its types.
-/

set_option autoImplicit false

namespace Credential

structure Info where
  name : String
  required : Bool
  title : Option String
  description : Option String
  deriving DecidableEq

/-- A schema node. An `allowed` list, if present, restricts the values of a scalar. -/
inductive Attribute where
  | boolean (info : Info) (allowed : Option (List Bool))
  | integer (info : Info) (allowed : Option (List Number))
  | number (info : Info) (allowed : Option (List Number))
  | string (info : Info) (format : Option String) (allowed : Option (List String))
  | null (info : Info)
  | anyArray (info : Info)
  | arrayOf (info : Info) (items : Attribute)
  | anyObject (info : Info)
  | record (info : Info) (properties : List Attribute)
  | union (info : Info) (candidates : List Attribute)

namespace Attribute

def info : Attribute → Info
  | boolean info _ | integer info _ | number info _ | string info _ _ | null info
  | anyArray info | arrayOf info _ | anyObject info | record info _ | union info _ => info

def name (field : Attribute) : String := field.info.name

def required (field : Attribute) : Bool := field.info.required

def type? : Attribute → Option JsonType
  | boolean .. => some .boolean
  | integer .. => some .integer
  | number .. => some .number
  | string .. => some .string
  | null _ => some .null
  | anyArray _ | arrayOf .. => some .array
  | anyObject _ | record .. => some .object
  | union .. => none

def types : Attribute → List JsonType
  | union _ candidates => candidates.filterMap type?
  | field => field.type?.toList

/-- Whether the attribute is an object; a union is not, even if a candidate is. -/
def isObject : Attribute → Bool
  | anyObject _ | record .. => true
  | _ => false

def isNull : Attribute → Bool
  | null _ => true
  | _ => false

/-- Whether `null` is a value of the attribute rather than the lack of one. -/
def admitsNull : Attribute → Bool
  | null _ => true
  | union _ candidates => candidates.any isNull
  | _ => false

def allowed? : Attribute → Option (List Json)
  | boolean _ allowed => allowed.map (·.map .bool)
  | integer _ allowed | number _ allowed => allowed.map (·.map .number)
  | string _ _ allowed => allowed.map (·.map .string)
  | _ => none

def properties? : Attribute → Option (List Attribute)
  | record _ properties => some properties
  | _ => none

def propertyNames (field : Attribute) : List String :=
  (field.properties?.getD []).map name

def property? (field : Attribute) (key : String) : Option Attribute :=
  (field.properties?.getD []).find? fun property => property.name == key

/-- The attribute at a path. A key leads to a property, or from an array to its items; a position
stays at its array, since all items share one schema. -/
def find? : Attribute → Path → Option Attribute
  | field, [] => some field
  | .arrayOf info items, .index _ :: rest => find? (.arrayOf info items) rest
  | .anyArray info, .index _ :: rest => find? (.anyArray info) rest
  | .arrayOf _ items, .key key :: rest => if key = "items" then find? items rest else none
  | field, .key key :: rest => (field.property? key).bind fun property => find? property rest
  | _, .index _ :: _ => none

end Attribute

/-- Items that are not objects before those that are, each group in its given order. -/
def objectsLast {α : Type} (isObject : α → Bool) (items : List α) : List α :=
  items.filter (fun item => !isObject item) ++ items.filter isObject

end Credential
