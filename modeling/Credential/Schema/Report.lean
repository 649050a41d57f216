import Credential.Schema.Basic
import Credential.Schema.Writing

/-! The documents in which results are reported. -/

set_option autoImplicit false

namespace Credential

def Metadata.toJson (metadata : Metadata) : Json :=
  .object (("jsonLdContext", .string metadata.jsonLdContext) ::
    Attribute.textKeyword "schemaType" metadata.schemaType ++
    Attribute.textKeyword "version" metadata.version)

def TypeBinding.toJson (binding : TypeBinding) : Json :=
  .object [("id", .string binding.id), ("name", .string binding.name)]

def Failure.toJson (failure : Failure) : Json :=
  .object ([("kind", .string failure.category.name), ("status", failure.category.statusJson)] ++
    Attribute.textKeyword "path" (failure.path?.map Path.display) ++
    Attribute.textKeyword "pointer" (failure.path?.map Path.pointer) ++
    [("message", .string failure.message)])

namespace Schema

def project (schema : Schema) (document : Json) (subjectOnly : Bool) : Except Failure Json := do
  let value ←
    if subjectOnly then schema.validateSubject document
    else (schema.validate document).mapError Failure.value
  return value.toJson?.getD .null

def describe (schema : Schema) : Json :=
  .object [
    ("metadata", schema.metadata.toJson),
    ("propertyOrder", Json.strings schema.root.propertyNames),
    ("credentialSubjectOrder",
      (schema.root.credentialSubject?.map fun subject => Json.strings subject.propertyNames).getD .null),
    ("schema", schema.root.toDocument)]

def describeField? (schema : Schema) (dotted : String) : Option Json :=
  let path := Path.ofDotted dotted
  (schema.root.find? path).map fun field =>
    .object [
      ("path", .string path.display),
      ("required", .bool field.required),
      ("types", Json.strings (field.types.map JsonType.token)),
      ("schema", field.toDocument)]

def noFieldMessage (dotted : String) : String :=
  "schema declares no field " ++ quoted dotted

end Schema

end Credential
