import Credential.Schema.Report

/-! What is printed, member by member.

The members of a report come in a fixed order. One that has no value is left out.
-/

set_option autoImplicit false

namespace Credential

/-- The object of the members that have a value. -/
def Json.objectOf (members : List (String × Option Json)) : Json :=
  .object (members.filterMap fun (key, value) => value.map fun value => (key, value))

namespace Failure

def kind : Failure → String
  | schema _ => "InvalidSchema"
  | value ⟨_, .missing⟩ => "MissingRequired"
  | value ⟨_, .typeMismatch ..⟩ => "TypeMismatch"
  | value ⟨_, .outsideEnum ..⟩ => "EnumViolation"
  | value ⟨_, .unknownKey _⟩ => "UnknownAttribute"
  | value ⟨_, .noMatchingType _⟩ => "NoMatchingType"
  | noSubject => "MissingCredentialSubject"
  | context _ => "InvalidContext"

def status : Failure → Number
  | value _ => .integer 422 (by decide)
  | schema _ | noSubject | context _ => .integer 400 (by decide)

def report (failure : Failure) : Json :=
  .objectOf [
    ("kind", some (.string failure.kind)),
    ("status", some (.number failure.status)),
    ("path", failure.path?.map fun path => .string path.display),
    ("pointer", failure.path?.map fun path => .string path.pointer),
    ("message", some (.string failure.message))]

theorem toJson_eq_report (failure : Failure) : failure.toJson = failure.report := by
  cases failure with
  | value rejection => cases rejection with | mk path conflict => cases conflict <;> rfl
  | _ => rfl

end Failure

def Metadata.report (metadata : Metadata) : Json :=
  .objectOf [
    ("jsonLdContext", some (.string metadata.jsonLdContext)),
    ("schemaType", metadata.schemaType.map .string),
    ("version", metadata.version.map .string)]

theorem Metadata.toJson_eq_report (metadata : Metadata) : metadata.toJson = metadata.report := by
  unfold toJson report
  cases metadata.schemaType <;> cases metadata.version <;> rfl

def TypeBinding.report (bindings : List TypeBinding) : Json :=
  .array (bindings.map fun binding => .objectOf [("id", some (.string binding.id)), ("name", some (.string binding.name))])

def Attribute.report (field : Attribute) (path : Path) : Json :=
  .objectOf [
    ("path", some (.string path.display)),
    ("required", some (.bool field.required)),
    ("types", some (.array (field.types.map fun type => .string type.token))),
    ("schema", some field.toDocument)]

namespace Schema

variable {schema : Schema}

def report (schema : Schema) : Json :=
  .objectOf [
    ("metadata", some schema.metadata.report),
    ("propertyOrder", some (.array (schema.root.propertyNames.map .string))),
    ("credentialSubjectOrder", some (match schema.root.credentialSubject? with
      | some subject => .array (subject.propertyNames.map .string)
      | none => .null)),
    ("schema", some schema.root.toDocument)]

theorem describe_eq_report : schema.describe = schema.report := by
  unfold describe report
  rw [Metadata.toJson_eq_report]
  cases schema.root.credentialSubject? <;> rfl

theorem describeField?_eq_report (dotted : String) :
    schema.describeField? dotted =
      (schema.root.find? (Path.ofDotted dotted)).map fun field => field.report (Path.ofDotted dotted) := by
  unfold describeField? Attribute.report Json.strings
  simp only [List.map_map]
  rfl

def acceptance (schema : Schema) (document : Json) : Bool → Except Failure Value
  | true => schema.validateSubject document
  | false => (schema.validate document).mapError Failure.value

theorem project_eq (document : Json) (subjectOnly : Bool) :
    schema.project document subjectOnly =
      (schema.acceptance document subjectOnly).map fun value => value.toJson?.getD .null := by
  cases subjectOnly <;> rfl

end Schema

end Credential
