import Credential.Context.Binding
import Credential.Failure
import Credential.Schema.Reading
import Credential.Value.Acceptance

/-! Credential schemas: an object attribute with metadata.

The metadata block says where the JSON-LD context of the schema lives. It is
looked at before the attributes are.
-/

set_option autoImplicit false

namespace Credential

structure Metadata where
  jsonLdContext : String
  schemaType : Option String
  version : Option String
  deriving DecidableEq

structure Schema where
  root : Attribute
  metadata : Metadata

namespace Metadata

def text? (block : Json) (keyword : String) (path : Path) : Except SchemaFault (Option String) :=
  match block.get? keyword with
  | none => .ok none
  | some (.string value) => .ok (some value)
  | some other => SchemaFault.throw (path.key keyword) [.string] (.textShape ("$metadata." ++ keyword) other.type)

def ofDocument (document : Json) : Except SchemaFault Metadata :=
  let path := Path.key [] "$metadata"
  match document.get? "$metadata" with
  | none => SchemaFault.throw path [.object] .missingMetadata
  | some block =>
    match ((block.get? "uris").bind (·.get? "jsonLdContext")).bind Json.string? with
    | none => SchemaFault.throw ((path.key "uris").key "jsonLdContext") [.string] .missingContext
    | some jsonLdContext => do
      let schemaType ← text? block "type" path
      let version ← text? block "version" path
      return ⟨jsonLdContext, schemaType, version⟩

end Metadata

namespace Schema

def ofDocument (limit : Nat) (document : Json) : Except SchemaFault Schema := do
  let metadata ← Metadata.ofDocument document
  let root ← Attribute.ofDocument limit document "" true
  if root.isObject then return ⟨root, metadata⟩
  else SchemaFault.throw (Path.key [] "type") [.object] .rootNotObject

def validate (schema : Schema) (document : Json) : Except Rejection Value :=
  schema.root.accept (some document)

/-- Accept the claims of a credential alone. Their place is below `credentialSubject`. -/
def validateSubject (schema : Schema) (claims : Json) : Except Failure Value :=
  match schema.root.credentialSubject? with
  | none => .error .noSubject
  | some subject =>
    (subject.acceptAt (some claims) (Path.key [] "credentialSubject")).mapError Failure.value

end Schema

def Attribute.bindings (check : String → Option UriFault) (root : Attribute) (context : Json) :
    Except Failure (List TypeBinding) :=
  match root.credentialSubject? with
  | none => .error .noSubject
  | some subject => (Context.bindings check subject.propertyNames context).mapError Failure.context

end Credential
