import Credential.Attribute.Basic
import Credential.Context.Fault

/-! Binding a credential subject to the types of a JSON-LD context.

A type covers the subject if its terms include every property name of the
subject. Two layouts of contexts are known. In the nested layout each type has
terms of its own, and every covering type is bound. In the flat layout the
subject's terms are shared and one type is named relative to a base.

Which texts are URIs is left open here: `check` gives the fault of a text, and
none for a URI.
-/

set_option autoImplicit false

namespace Credential

/-- A vocabulary type: its URI, and the term that the context declares it under. -/
structure TypeBinding where
  id : String
  name : String
  deriving DecidableEq

inductive Attempt where
  | mismatch (fault : LayoutFault)
  | uncovered (fault : CoverageFault)
  | bound (bindings : List TypeBinding)

namespace Context

def missing (terms : Option Members) (names : List String) : List String :=
  names.filter fun name => !(terms.any fun terms => terms.keys.contains name)

def definition? (check : String → Option UriFault) (entry : Json) : Option (String × Option Members) := do
  let members ← entry.object?
  let terms ← Members.get? members "@context"
  let id ← (← Members.get? members "@id").string?
  if (check id).isNone then some (id, terms.object?) else none

def definitions (check : String → Option UriFault) (names : List String) (entries : Members) :
    List (TypeBinding × List String) :=
  entries.filterMap fun (name, entry) =>
    (definition? check entry).map fun (id, terms) => (⟨id, name⟩, missing terms names)

def nested (check : String → Option UriFault) (names : List String) (context : Json) : Attempt :=
  match context.get? "@context" with
  | some (.array [.object entries]) =>
    let found := definitions check names entries
    let covering := found.filter fun (_, lacking) => lacking.isEmpty
    if !covering.isEmpty then .bound (covering.map Prod.fst)
    else if found.isEmpty then .uncovered .noTypes
    else .uncovered (.typesLack (found.map fun (binding, lacking) => (binding.name, lacking)))
  | some (.array [_]) => .mismatch .entryNotMapping
  | some (.array entries) => .mismatch (.entryCount entries.length)
  | _ => .mismatch .notSingleArray

/-- The value by which an entry refers to the base. -/
def marker : Json :=
  .object [("@id", .string "schema-id")]

def flat (check : String → Option UriFault) (names : List String) (context : Json) : Attempt :=
  match (context.get? "@context").bind Json.object? with
  | none => .mismatch .notMapping
  | some outer =>
    match (((Members.get? outer "credentialSubject").bind (·.get? "@context")).bind Json.object?) with
    | none => .mismatch .missingSubjectTerms
    | some terms =>
      match (Members.get? outer "schema-id").bind Json.string? with
      | none => .mismatch .missingBase
      | some base =>
        match check base with
        | some fault => .mismatch (.baseNotUri fault)
        | none =>
          match outer.filter fun entry => entry.2 == marker with
          | [] => .mismatch .unboundBase
          | [(name, _)] =>
            match check (base ++ name) with
            | some fault => .mismatch (.idNotUri fault)
            | none =>
              let lacking := missing (some terms) names
              if lacking.isEmpty then .bound [⟨base ++ name, name⟩]
              else .uncovered (.subjectLacks lacking)
          | _ => .mismatch .ambiguousBase

def bindings (check : String → Option UriFault) (names : List String) (context : Json) :
    Except ContextFault (List TypeBinding) :=
  match nested check names context, flat check names context with
  | .bound bindings, _ => .ok bindings
  | _, .bound bindings => .ok bindings
  | .uncovered fault, _ => .error (.coverage fault)
  | _, .uncovered fault => .error (.coverage fault)
  | .mismatch nested, .mismatch flat => .error (.layouts nested flat)

end Context

def Attribute.credentialSubject? (root : Attribute) : Option Attribute :=
  match (root.properties?.getD []).filter fun property =>
      property.name == "credentialSubject" && property.isObject with
  | [subject] => some subject
  | _ => none

end Credential
