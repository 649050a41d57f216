import Credential.Context.Fault
import Credential.Schema.Fault
import Credential.Value.Rejection

/-! Everything that can fail, in the categories that clients see. -/

set_option autoImplicit false

namespace Credential

inductive Category where
  | invalidSchema
  | missingRequired
  | typeMismatch
  | enumViolation
  | unknownAttribute
  | noMatchingType
  | missingCredentialSubject
  | invalidContext
  deriving DecidableEq

namespace Category

def all : List Category :=
  [.invalidSchema, .missingRequired, .typeMismatch, .enumViolation, .unknownAttribute, .noMatchingType,
    .missingCredentialSubject, .invalidContext]

def name : Category → String
  | invalidSchema => "InvalidSchema"
  | missingRequired => "MissingRequired"
  | typeMismatch => "TypeMismatch"
  | enumViolation => "EnumViolation"
  | unknownAttribute => "UnknownAttribute"
  | noMatchingType => "NoMatchingType"
  | missingCredentialSubject => "MissingCredentialSubject"
  | invalidContext => "InvalidContext"

def ofName? (name : String) : Option Category :=
  all.find? fun category => category.name == name

/-- The HTTP status: 400 for what is wrong with a schema, 422 for what is wrong with a value. -/
def status : Category → Nat
  | invalidSchema | missingCredentialSubject | invalidContext => 400
  | missingRequired | typeMismatch | enumViolation | unknownAttribute | noMatchingType => 422

def statusJson (category : Category) : Json :=
  .number (.integer category.status (by cases category <;> decide))

end Category

def Conflict.category : Conflict → Category
  | missing => .missingRequired
  | typeMismatch .. => .typeMismatch
  | outsideEnum .. => .enumViolation
  | unknownKey _ => .unknownAttribute
  | noMatchingType _ => .noMatchingType

inductive Failure where
  | schema (fault : SchemaFault)
  | value (rejection : Rejection)
  | noSubject
  | context (fault : ContextFault)
  deriving DecidableEq

namespace Failure

def category : Failure → Category
  | schema _ => .invalidSchema
  | value rejection => rejection.conflict.category
  | noSubject => .missingCredentialSubject
  | context _ => .invalidContext

def path? : Failure → Option Path
  | schema fault => some fault.path
  | value rejection => some rejection.path
  | noSubject | context _ => none

def message : Failure → String
  | schema fault =>
    "invalid schema at " ++ fault.path.display ++ ": " ++ fault.breach.message ++
      " (expected " ++ JsonType.listText fault.expected ++ ")"
  | value rejection => rejection.message
  | noSubject => "schema does not declare a credentialSubject object"
  | context fault => "invalid JSON-LD context: " ++ fault.message

end Failure

end Credential
