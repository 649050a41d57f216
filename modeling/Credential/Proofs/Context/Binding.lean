import Credential.Proofs.Context.Layouts
import Credential.Schema.Basic

/-! The types that a context binds to the credential subject of a schema.

A context has at most one of the two layouts. So the types bound are the
covering types of the nested layout or the one type of the flat layout, and the
fault of the layout that the context has is the one reported. The two layouts
can say the same, and then bind the same type.
-/

set_option autoImplicit false

namespace Credential

namespace Context

variable {check : String → Option UriFault} {names : List String} {context : Json}

theorem layouts_exclusive (check : String → Option UriFault) (names : List String) (context : Json) :
    (∃ fault, nested check names context = .mismatch fault) ∨ flat check names context = .mismatch .notMapping := by
  by_cases listed : ∃ items, context.get? "@context" = some (.array items)
  · obtain ⟨items, present⟩ := listed
    right
    simp [flat, present, Json.object?]
  · left
    exact ⟨_, nested_of_not_listed (not_exists.mp listed)⟩

theorem bindings_eq_ok_iff {found : List TypeBinding} :
    bindings check names context = .ok found ↔
      nested check names context = .bound found ∨ flat check names context = .bound found := by
  rw [bindings]
  obtain ⟨fault, mismatch⟩ | mismatch := layouts_exclusive check names context
  · rw [mismatch]
    cases flat check names context <;> simp
  · rw [mismatch]
    cases nested check names context <;> simp

theorem bindings_eq_ok (distinct : context.DistinctKeys) {found : List TypeBinding} :
    bindings check names context = .ok found ↔
      NestedYields check names context (.bound found) ∨ FlatYields check names context (.bound found) := by
  rw [← nested_eq_iff distinct, ← flat_eq_iff distinct, bindings_eq_ok_iff]

theorem bindings_eq_coverage (distinct : context.DistinctKeys) {fault : CoverageFault} :
    bindings check names context = .error (.coverage fault) ↔
      NestedYields check names context (.uncovered fault) ∨ FlatYields check names context (.uncovered fault) := by
  rw [← nested_eq_iff distinct, ← flat_eq_iff distinct, bindings]
  obtain ⟨fault, mismatch⟩ | mismatch := layouts_exclusive check names context
  · rw [mismatch]
    cases flat check names context <;> simp
  · rw [mismatch]
    cases nested check names context <;> simp

theorem bindings_eq_layouts (distinct : context.DistinctKeys) {first second : LayoutFault} :
    bindings check names context = .error (.layouts first second) ↔
      NestedYields check names context (.mismatch first) ∧ FlatYields check names context (.mismatch second) := by
  rw [← nested_eq_iff distinct, ← flat_eq_iff distinct, bindings]
  cases nested check names context <;> cases flat check names context <;> simp

/-! ## The same type in both layouts -/

/-- A context in the nested layout with one type, whose URI is `name` relative to `base`. -/
def nestedWith (base name : String) (terms : Members) : Json :=
  .object [("@context", .array [.object [
    (name, .object [("@id", .string (base ++ name)), ("@context", .object terms)])]])]

def flatEntries (base name : String) (terms : Members) : Members :=
  [("schema-id", .string base), ("credentialSubject", .object [("@context", .object terms)]), (name, marker)]

def flatWith (base name : String) (terms : Members) : Json :=
  .object [("@context", .object (flatEntries base name terms))]

variable {base name : String} {terms : Members}

def bindingWith (check : String → Option UriFault) (names : List String) (base name : String) (terms : Members) :
    Except Category (List TypeBinding) :=
  if check (base ++ name) = none ∧ missing (some terms) names = [] then .ok [⟨base ++ name, name⟩]
  else .error .invalidContext

-- A URI that is refused makes the entry no type at all.
theorem bindings_nestedWith (check : String → Option UriFault) (names : List String) (base name : String)
    (terms : Members) :
    (bindings check names (nestedWith base name terms)).mapError (Failure.category ∘ Failure.context) =
      bindingWith check names base name terms := by
  have other : flat check names (nestedWith base name terms) = .mismatch .notMapping := rfl
  have own : definition? check (.object [("@id", .string (base ++ name)), ("@context", .object terms)]) =
      if (check (base ++ name)).isNone then some (base ++ name, some terms) else none := rfl
  rw [bindings, other, nested_of_entries rfl, definitions, bindingWith]
  cases uri : check (base ++ name) with
  | some fault => simp [own, uri, Except.mapError, Failure.category]
  | none =>
    by_cases covers : missing (some terms) names = []
    · simp [own, uri, covers, Except.mapError]
    · simp [own, uri, covers, Except.mapError, Failure.category]

-- A URI that is refused makes the context one of neither layout.
theorem bindings_flatWith (names : List String) (based : check base = none) (name : String) (terms : Members) :
    (bindings check names (flatWith base name terms)).mapError (Failure.category ∘ Failure.context) =
      bindingWith check names base name terms := by
  have other : nested check names (flatWith base name terms) = .mismatch .notSingleArray := rfl
  have mapping : ((flatWith base name terms).get? "@context").bind Json.object? =
      some (flatEntries base name terms) := rfl
  have shared : (((flatEntries base name terms).get? "credentialSubject").bind (·.get? "@context")).bind
      Json.object? = some terms := rfl
  have given : ((flatEntries base name terms).get? "schema-id").bind Json.string? = some base := rfl
  have only : ((flatEntries base name terms).filter fun entry => entry.2 == marker) = [(name, marker)] := by
    simp [flatEntries, marker]
  rw [bindings, other, bindingWith, flat, mapping]
  simp only [shared, given, based, only]
  cases check (base ++ name) with
  | some fault => rfl
  | none =>
    by_cases covers : missing (some terms) names = []
    · simp [covers, Except.mapError]
    · simp [covers, Except.mapError, Failure.category]

end Context

namespace Attribute

theorem bindings_eq {root subject : Attribute} (found : root.credentialSubject? = some subject)
    (check : String → Option UriFault) (context : Json) :
    root.bindings check context = (Context.bindings check subject.propertyNames context).mapError Failure.context := by
  rw [bindings, found]

theorem bindings_eq_noSubject {root : Attribute} {check : String → Option UriFault} {context : Json} :
    root.bindings check context = .error .noSubject ↔ root.credentialSubject? = none := by
  cases found : root.credentialSubject? with
  | none => simp [bindings, found]
  | some subject =>
    rw [bindings_eq found]
    cases Context.bindings check subject.propertyNames context <;> simp [Except.mapError]

/-- Whether there is a subject to bind types to does not depend on the context. Types are bound by the layout that the
context has: all covering types of the nested layout, if there are any, or the type of the flat layout, if it covers
the subject. In every other case the context is at fault, and the fault is of the layout that the context has, or of
both. -/
theorem bindings_exact {limit : Nat} {schema : Json} {name : String} {required : Bool} {field : Attribute}
    (distinct : schema.DistinctKeys) (read : Attribute.ofDocument limit schema name required = .ok field)
    (check : String → Option UriFault) (context : Json) :
    (field.bindings check context = .error .noSubject ↔ ¬∃ subject : Attribute, subject.IsSubjectOf field) ∧
      ∀ subject : Attribute, subject.IsSubjectOf field → context.DistinctKeys →
        (∀ found, field.bindings check context = .ok found ↔
          Context.NestedYields check subject.propertyNames context (.bound found) ∨
            Context.FlatYields check subject.propertyNames context (.bound found)) ∧
        (∀ fault, field.bindings check context = .error (.context (.coverage fault)) ↔
          Context.NestedYields check subject.propertyNames context (.uncovered fault) ∨
            Context.FlatYields check subject.propertyNames context (.uncovered fault)) ∧
        (∀ nested flat, field.bindings check context = .error (.context (.layouts nested flat)) ↔
          Context.NestedYields check subject.propertyNames context (.mismatch nested) ∧
            Context.FlatYields check subject.propertyNames context (.mismatch flat)) ∧
        ((¬∃ found, field.bindings check context = .ok found) →
          ∃ fault, field.bindings check context = .error (.context fault)) := by
  have regular := (Node.ofDocument_eq_ok.mp read).regular distinct
  constructor
  · rw [bindings_eq_noSubject, Option.eq_none_iff_forall_ne_some, not_exists]
    exact forall_congr' fun subject => not_congr regular.credentialSubject?_eq_some
  · intro subject isSubject distinctContext
    simp only [bindings_eq (regular.credentialSubject?_eq_some.mpr isSubject), Success.mapError_eq_ok,
      ← Context.bindings_eq_ok distinctContext, ← Context.bindings_eq_coverage distinctContext,
      ← Context.bindings_eq_layouts distinctContext]
    cases Context.bindings check subject.propertyNames context <;> simp [Except.mapError]

def sampleUriFault? (text : String) : Option UriFault :=
  if text ∈ ["https://example/", "https://example/A", "https://example/B", "https://example/C"] then none
  else some (.invalid text .noScheme)

def sampleContext : Json :=
  .object [("@context", .array [.object [
    ("@protected", .bool true),
    ("A", .object [("@id", .string "https://example/A"),
      ("@context", .object [("tags", .null), ("age", .null), ("address", .null)])]),
    ("B", .object [("@id", .string "https://example/B"), ("@context", .object [("age", .null)])]),
    ("C", .object [("@id", .string "https://example/C"),
      ("@context", .object [("id", .null), ("age", .null), ("address", .null), ("tags", .null)])]),
    ("D", .object [("@id", .string "D"), ("@context", .object [])])]])]

theorem bindings_exact_sample :
    Json.sampleSchema.DistinctKeys ∧ sampleContext.DistinctKeys ∧
      Attribute.ofDocument 4 Json.sampleSchema "" true = .ok sample ∧
      ∃ subject, IsSubjectOf subject sample ∧
        ∃ found, found = [⟨"https://example/A", "A"⟩, ⟨"https://example/C", "C"⟩] ∧
        sample.bindings sampleUriFault? sampleContext = .ok found ∧
        (Context.NestedYields sampleUriFault? subject.propertyNames sampleContext (.bound found) ∨
          Context.FlatYields sampleUriFault? subject.propertyNames sampleContext (.bound found)) := by
  have distinctContext : sampleContext.DistinctKeys := by
    simp [sampleContext, Json.DistinctKeys, Json.DistinctKeysItems, Json.DistinctKeysMembers]
  have isSubject : IsSubjectOf _ sample := ⟨_, _, rfl, List.mem_singleton_self _, rfl, rfl⟩
  have bound : sample.bindings sampleUriFault? sampleContext =
      .ok [⟨"https://example/A", "A"⟩, ⟨"https://example/C", "C"⟩] := rfl
  refine ⟨Json.distinctKeys_sampleSchema, distinctContext, rfl, _, isSubject, _, rfl, bound, ?_⟩
  exact ((@bindings_exact 4 Json.sampleSchema "" true sample Json.distinctKeys_sampleSchema rfl sampleUriFault?
    sampleContext).2 _ isSubject distinctContext).1 _ |>.mp bound

end Attribute

/-- The same type, written in the one layout or the other, is bound alike: both contexts bind it, where its URI is one
and its terms cover the subject, or both fail in the same category. -/
theorem Attribute.layouts_bind_alike {check : String → Option UriFault} {base : String} (based : check base = none)
    (root : Attribute) (name : String) (terms : Members) :
    (root.bindings check (Context.nestedWith base name terms)).mapError Failure.category =
        (root.bindings check (Context.flatWith base name terms)).mapError Failure.category ∧
      ∀ subject, root.credentialSubject? = some subject → ∀ found,
        root.bindings check (Context.nestedWith base name terms) = .ok found ↔
          check (base ++ name) = none ∧ (∀ property ∈ subject.propertyNames, property ∈ terms.keys) ∧
            found = [⟨base ++ name, name⟩] := by
  constructor
  · cases found : root.credentialSubject? with
    | none => rw [bindings, bindings, found]
    | some subject =>
      rw [bindings_eq found, bindings_eq found, Success.mapError_mapError, Success.mapError_mapError,
        Context.bindings_nestedWith, Context.bindings_flatWith _ based]
  · intro subject found result
    have covers : Context.missing (some terms) subject.propertyNames = [] ↔
        ∀ property ∈ subject.propertyNames, property ∈ terms.keys := by
      simp [Context.missing, List.filter_eq_nil_iff]
    rw [bindings_eq found, Success.mapError_eq_ok, ← Success.mapError_eq_ok, Context.bindings_nestedWith,
      Context.bindingWith, ← covers]
    split
    next both => simp [both, eq_comm]
    next other => simpa using fun uri all => absurd ⟨uri, all⟩ other

theorem Attribute.layouts_bind_alike_sample :
    ∃ base terms subject, sampleUriFault? base = none ∧ sample.credentialSubject? = some subject ∧
      (sample.bindings sampleUriFault? (Context.nestedWith base "A" terms)).mapError Failure.category =
        (sample.bindings sampleUriFault? (Context.flatWith base "A" terms)).mapError Failure.category ∧
      sample.bindings sampleUriFault? (Context.nestedWith base "A" terms) = .ok [⟨"https://example/A", "A"⟩] := by
  have agree := @layouts_bind_alike sampleUriFault? "https://example/" rfl sample "A"
    [("tags", .null), ("age", .null), ("address", .null)]
  exact ⟨_, _, _, rfl, rfl, agree.1, (agree.2 _ rfl _).mpr ⟨rfl, by decide, rfl⟩⟩

end Credential
