import Credential.Json.Basic

/-! The seven types a schema may declare, and the type of a value. -/

set_option autoImplicit false

namespace Credential

inductive JsonType where
  | boolean
  | integer
  | number
  | string
  | null
  | array
  | object
  deriving DecidableEq

namespace JsonType

def all : List JsonType :=
  [.boolean, .integer, .number, .string, .null, .array, .object]

def token : JsonType → String
  | .boolean => "boolean"
  | .integer => "integer"
  | .number => "number"
  | .string => "string"
  | .null => "null"
  | .array => "array"
  | .object => "object"

def ofToken? (token : String) : Option JsonType :=
  all.find? fun type => type.token == token

def supportsEnum : JsonType → Bool
  | .boolean | .integer | .number | .string => true
  | .null | .array | .object => false

def listText (types : List JsonType) : String :=
  "[" ++ String.intercalate ", " (types.map token) ++ "]"

end JsonType

/-- The most specific type of a value. A whole number written as a double is a number. -/
def Json.type : Json → JsonType
  | .null => .null
  | .bool _ => .boolean
  | .number value => if value.isInteger then .integer else .number
  | .string _ => .string
  | .array _ => .array
  | .object _ => .object

end Credential
