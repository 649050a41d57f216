import Credential.Json.Printer
import Credential.JsonType
import Credential.Path

/-! Why a value is rejected, and where. -/

set_option autoImplicit false

namespace Credential

inductive Conflict where
  | missing
  | typeMismatch (expected found : JsonType)
  | outsideEnum (value : Json) (allowed : List Json)
  | unknownKey (key : String)
  | noMatchingType (candidates : List JsonType)
  deriving DecidableEq

structure Rejection where
  path : Path
  conflict : Conflict
  deriving DecidableEq

namespace Rejection

def message (rejection : Rejection) : String :=
  let place := rejection.path.display
  match rejection.conflict with
  | .missing => "missing required attribute at " ++ place
  | .typeMismatch expected found =>
    "type mismatch at " ++ place ++ ": expected " ++ expected.token ++ ", found " ++ found.token
  | .outsideEnum value allowed =>
    "value " ++ value.compact ++ " at " ++ place ++ " is not one of [" ++
      String.intercalate ", " (allowed.map Json.compact) ++ "]"
  | .unknownKey key => "unknown attribute '" ++ key ++ "' at " ++ place
  | .noMatchingType candidates =>
    "value at " ++ place ++ " matches none of the declared types " ++ JsonType.listText candidates

end Rejection

end Credential
