import Credential.Json.Record
import Credential.Schema.Report
import Credential.Uri.Basic

/-! Reading back what clients keep as JSON text. -/

set_option autoImplicit false

namespace Credential

structure Limits where
  maxDepth : Nat
  fits : maxDepth < 0x10000000000000000 := by omega

namespace Limits

def default : Limits := ⟨Attribute.defaultLimit, by decide⟩

def ofRaw? : Json.Raw → Option Limits
  | .array [] => some default
  | raw => do
    match (← raw.fields? ["maxDepth"]).lookup "maxDepth" with
    | none => some default
    | some depth => depth.word?.map fun ⟨value, fits⟩ => ⟨value, fits⟩

def toJson (limits : Limits) : Json :=
  have fits := limits.fits
  .object [("maxDepth", .number (.integer limits.maxDepth ⟨by omega, by omega⟩))]

end Limits

/-- Only the place of the context is needed. -/
def Metadata.ofRaw? (raw : Json.Raw) : Option Metadata := do
  let fields ← raw.fields? ["jsonLdContext", "schemaType", "version"]
  let jsonLdContext ← (← fields.lookup "jsonLdContext").string?
  let schemaType ← ((fields.lookup "schemaType").getD .null).optionalString?
  let version ← ((fields.lookup "version").getD .null).optionalString?
  return ⟨jsonLdContext, schemaType, version⟩

def Uri.ofRaw? (raw : Json.Raw) : Option Uri := do
  (Uri.ofText (← raw.string?)).toOption

def TypeBinding.ofRaw? (raw : Json.Raw) : Option TypeBinding := do
  let fields ← raw.fields? ["id", "name"]
  let id ← Uri.ofRaw? (← fields.lookup "id")
  let name ← (← fields.lookup "name").string?
  return ⟨id.text, name⟩

def JsonType.ofRaw? (raw : Json.Raw) : Option JsonType := do
  ofToken? (← raw.choice?)

def Category.ofRaw? (raw : Json.Raw) : Option Category := do
  ofName? (← raw.choice?)

end Credential
