import Credential.Uri.Fault

/-! Why a JSON-LD context binds no type to a credential subject. -/

set_option autoImplicit false

namespace Credential

inductive LayoutFault where
  | notSingleArray
  | entryCount (count : Nat)
  | entryNotMapping
  | notMapping
  | missingSubjectTerms
  | missingBase
  | baseNotUri (fault : UriFault)
  | unboundBase
  | ambiguousBase
  | idNotUri (fault : UriFault)
  deriving DecidableEq

def LayoutFault.message : LayoutFault → String
  | notSingleArray => "@context is not a one-element array"
  | entryCount count => "@context array has " ++ Nat.repr count ++ " entries, expected 1"
  | entryNotMapping => "@context entry is not a mapping"
  | notMapping => "@context is not a mapping"
  | missingSubjectTerms => "missing credentialSubject.@context mapping"
  | missingBase => "missing schema-id"
  | baseNotUri fault => "schema-id is not a uri: " ++ fault.message
  | unboundBase => "no entry is bound to schema-id"
  | ambiguousBase => "more than one entry is bound to schema-id"
  | idNotUri fault => fault.message

/-- A layout that the context has, with types that do not cover the subject. A type comes with the
property names it lacks. -/
inductive CoverageFault where
  | noTypes
  | typesLack (types : List (String × List String))
  | subjectLacks (names : List String)
  deriving DecidableEq

namespace CoverageFault

def lackText (names : List String) : String :=
  "lacks [" ++ String.intercalate ", " names ++ "]"

def message : CoverageFault → String
  | noTypes => "context defines no type with both @id and @context"
  | typesLack types =>
    "no type covers every credentialSubject property: " ++
      String.intercalate "; " (types.map fun (name, names) => name ++ " " ++ lackText names)
  | subjectLacks names => "credentialSubject context " ++ lackText names

end CoverageFault

/-- A coverage fault says more than that a layout does not match, and is reported alone. -/
inductive ContextFault where
  | coverage (fault : CoverageFault)
  | layouts (nested flat : LayoutFault)
  deriving DecidableEq

def ContextFault.message : ContextFault → String
  | coverage fault => fault.message
  | layouts nested flat =>
    "context matches no known layout (nested-types: " ++ nested.message ++
      "; schema-id: " ++ flat.message ++ ")"

end Credential
