import Credential.Json.Printer
import Credential.JsonType
import Credential.Path
import Credential.Text.Quoted

/-! What can be wrong with a schema document, and where. -/

set_option autoImplicit false

namespace Credential

inductive Breach where
  | tooDeep (limit : Nat)
  | notNode (found : JsonType)
  | missingType
  | typeShape (found : JsonType)
  | unknownToken (token : String)
  | tooFewTypes (count : Nat)
  | tokenShape
  | duplicateToken (type : JsonType)
  | textShape (keyword : String) (found : JsonType)
  | enumShape (found : JsonType)
  | emptyEnum
  | enumEntry (value : Json) (type : JsonType)
  | enumOfNoType (types : List JsonType)
  | requiredShape (found : JsonType)
  | requiredEntry
  | propertiesShape (found : JsonType)
  | missingMetadata
  | missingContext
  | rootNotObject
  deriving DecidableEq

namespace Breach

def message : Breach → String
  | tooDeep limit => "schema nesting exceeds maximum depth of " ++ Nat.repr limit
  | notNode found => "schema node must be an object, found " ++ found.token
  | missingType => "missing type"
  | typeShape found => "type must be a string or an array, found " ++ found.token
  | unknownToken token => "unknown type token: " ++ quoted token
  | tooFewTypes count => "type array must declare at least two distinct types, found " ++ Nat.repr count
  | tokenShape => "type token must be a string"
  | duplicateToken type => "duplicate type token " ++ quoted type.token
  | textShape keyword found => keyword ++ " must be a string, found " ++ found.token
  | enumShape found => "enum must be an array, found " ++ found.token
  | emptyEnum => "enum must not be empty"
  | enumEntry value type => "enum value " ++ value.compact ++ " is not of type " ++ type.token
  | enumOfNoType types => "enum declares no values of types " ++ JsonType.listText types
  | requiredShape found => "required must be an array, found " ++ found.token
  | requiredEntry => "required entries must be property names"
  | propertiesShape found => "properties must be an object, found " ++ found.token
  | missingMetadata => "missing $metadata"
  | missingContext => "missing $metadata.uris.jsonLdContext"
  | rootNotObject => "credential schema root must be an object"

end Breach

/-- The first breach in a schema document, with its place and the types that would do there. -/
structure SchemaFault where
  path : Path
  expected : List JsonType
  breach : Breach
  deriving DecidableEq

end Credential
