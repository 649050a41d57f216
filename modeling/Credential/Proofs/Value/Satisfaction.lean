import Credential.Proofs.Schema.Enumeration
import Credential.Proofs.Value.Record

/-! What a schema document says about values, read off the document itself.

The reading uses neither attributes nor the order of checks. The main statement
is that the attribute a document describes accepts exactly the values that
satisfy the document.
-/

set_option autoImplicit false

namespace Credential

namespace Json

def elements : Json → List Json
  | .array items => items
  | _ => []

def members : Json → Members
  | .object members => members
  | _ => []

def declaredTypes (schema : Json) : List JsonType :=
  match schema.get? "type" with
  | some (.string token) => (JsonType.ofToken? token).toList
  | some (.array tokens) => tokens.filterMap fun token => token.string?.bind JsonType.ofToken?
  | _ => []

def requires (schema : Json) (key : String) : Bool :=
  match schema.get? "required" with
  | some (.array names) => names.contains (.string key)
  | _ => false

theorem sizeOf_of_mem {members : Members} {key : String} {value : Json} (member : (key, value) ∈ members) :
    sizeOf value < sizeOf (Json.object members) := by
  have inside := List.sizeOf_lt_of_mem member
  simp only [Prod.mk.sizeOf_spec, Json.object.sizeOf_spec] at inside ⊢
  omega

theorem sizeOf_of_get? {schema : Json} {key : String} {value : Json} (found : schema.get? key = some value) :
    sizeOf value < sizeOf schema := by
  cases schema with
  | object members => exact sizeOf_of_mem (Members.mem_of_get? found)
  | _ => simp [get?] at found

/-- Whether a value, or its absence, is what a schema node asks for. A missing value is absent, and so is a `null`
where `null` is not among the declared types. Array items inherit the flag of the array. -/
def Satisfies (schema : Json) (required : Bool) (value : Option Json) : Prop :=
  match value with
  | none => required = false
  | some document =>
    if document = .null ∧ .null ∉ schema.declaredTypes then required = false
    else ∃ type ∈ schema.declaredTypes, document.hasShape type = true ∧
      (type.supportsEnum = true → ∀ entries, schema.get? "enum" = some (.array entries) →
        ∃ entry ∈ entries, entry.equals document = true) ∧
      (type = .array → ∀ items, schema.get? "items" = some items →
        ∀ element ∈ document.elements, Satisfies items required (some element)) ∧
      (type = .object → ∀ properties : Members, schema.get? "properties" = some (.object properties) →
        (∀ key ∈ document.members.keys, key ∈ properties.keys) ∧
        ∀ key property, (key, property) ∈ properties →
          (∀ member, (key, member) ∈ document.members → Satisfies property (schema.requires key) (some member)) ∧
          (key ∉ document.members.keys → Satisfies property (schema.requires key) none))
termination_by sizeOf schema
decreasing_by
  · exact sizeOf_of_get? ‹_›
  all_goals
    have whole := sizeOf_of_get? ‹schema.get? "properties" = some _›
    have part := sizeOf_of_mem ‹(key, property) ∈ properties›
    omega

/-- The conditions that come with one declared type. -/
def SatisfiesAs (schema : Json) (required : Bool) (document : Json) (type : JsonType) : Prop :=
  document.hasShape type = true ∧
    (type.supportsEnum = true → ∀ entries, schema.get? "enum" = some (.array entries) →
      ∃ entry ∈ entries, entry.equals document = true) ∧
    (type = .array → ∀ items, schema.get? "items" = some items →
      ∀ element ∈ document.elements, Satisfies items required (some element)) ∧
    (type = .object → ∀ properties : Members, schema.get? "properties" = some (.object properties) →
      (∀ key ∈ document.members.keys, key ∈ properties.keys) ∧
      ∀ key property, (key, property) ∈ properties →
        (∀ member, (key, member) ∈ document.members → Satisfies property (schema.requires key) (some member)) ∧
        (key ∉ document.members.keys → Satisfies property (schema.requires key) none))

theorem satisfies_none {schema : Json} {required : Bool} : schema.Satisfies required none ↔ required = false := by
  rw [Satisfies]

theorem satisfies_some {schema : Json} {required : Bool} {document : Json} :
    schema.Satisfies required (some document) ↔
      if document = .null ∧ .null ∉ schema.declaredTypes then required = false
      else ∃ type ∈ schema.declaredTypes, schema.SatisfiesAs required document type := by
  rw [Satisfies]
  rfl

theorem satisfiesAs_array {schema : Json} {required : Bool} {document : Json} :
    schema.SatisfiesAs required document .array ↔ ∃ elements, document = .array elements ∧
      ∀ items, schema.get? "items" = some items → ∀ element ∈ elements, items.Satisfies required (some element) := by
  cases document <;> simp [SatisfiesAs, hasShape, JsonType.supportsEnum, elements]

theorem satisfiesAs_object {schema : Json} {required : Bool} {document : Json} :
    schema.SatisfiesAs required document .object ↔ ∃ members, document = .object members ∧
      ∀ properties : Members, schema.get? "properties" = some (.object properties) →
        (∀ key ∈ Members.keys members, key ∈ properties.keys) ∧
        ∀ key property, (key, property) ∈ properties →
          (∀ member, (key, member) ∈ members → property.Satisfies (schema.requires key) (some member)) ∧
          (key ∉ Members.keys members → property.Satisfies (schema.requires key) none) := by
  cases document <;> simp [SatisfiesAs, hasShape, JsonType.supportsEnum, members]

theorem declaredTypes_of_single {node : Members} {type : JsonType}
    (present : node.get? "type" = some (.string type.token)) : (Json.object node).declaredTypes = [type] := by
  simp [declaredTypes, present, JsonType.ofToken?_token]

theorem declaredTypes_of_union {node : Members} {types : List JsonType}
    (present : node.get? "type" = some (Json.strings (types.map JsonType.token))) :
    (Json.object node).declaredTypes = types := by
  simp [declaredTypes, present, strings, List.filterMap_map, Function.comp_def, string?, JsonType.ofToken?_token]

theorem requires_eq {node : Members} {names : List String} (requires : Node.Requires node names) (key : String) :
    (Json.object node).requires key = names.contains key := by
  rcases requires with ⟨absent, rfl⟩ | present
  · simp [Json.requires, absent]
  · simp [Json.requires, present, strings]

end Json

namespace Node

open Attribute

variable {levels : Nat} {node : Members} {info : Info} {inUnion : Bool} {type : JsonType} {field : Attribute}

theorem ReadsAs.acceptSupplied_scalar_iff {below : Relation} (reading : ReadsAs below node info inUnion type field)
    (scalar : type.supportsEnum = true) {document : Json} :
    (∃ result, field.acceptSupplied document [] = .ok result) ↔ document.hasShape type = true ∧
      ∀ entries, node.get? "enum" = some (.array entries) → ∃ entry ∈ entries, entry.equals document = true := by
  obtain ⟨present, -, -, allowed⟩ := reading.enumList?_spec scalar
  have listed (shape : document.hasShape type = true) (values : List Json) :
      (∃ entry ∈ values.filter fun value => value.hasShape type, entry.equals document = true) ↔
        ∃ entry ∈ values, entry.equals document = true := by
    simp only [List.mem_filter]
    exact ⟨fun ⟨entry, inside, same⟩ => ⟨entry, inside.1, same⟩,
      fun ⟨entry, inside, same⟩ => ⟨entry, ⟨inside, Json.hasShape_of_equals scalar shape same⟩, same⟩⟩
  rw [acceptSupplied_scalar reading.type?_eq scalar, allowed, Json.entriesOf?, present]
  apply and_congr_right
  intro shape
  cases enumList? node with
  | none => simp
  | some values => simpa using listed shape values

theorem ReadsAs.accepts_scalar_iff (scalar : type.supportsEnum = true)
    (reading : ReadsAs (Describes levels) node info inUnion type field) {document : Json} :
    (∃ result, field.acceptSupplied document [] = .ok result) ↔
      (Json.object node).SatisfiesAs info.required document type := by
  have notArray : type ≠ .array := by
    rintro rfl
    simp [JsonType.supportsEnum] at scalar
  have notObject : type ≠ .object := by
    rintro rfl
    simp [JsonType.supportsEnum] at scalar
  rw [reading.acceptSupplied_scalar_iff scalar]
  simp only [Json.SatisfiesAs, scalar, notArray, notObject, Json.get?_object, forall_const, IsEmpty.forall_iff, and_true]

section

/-! The lemmas below take the nodes one level down as accepting what satisfies them. -/

variable (distinct : (Json.object node).DistinctKeys)
  (below : ∀ {schema : Json} {name : String} {required : Bool} {field : Attribute} {value : Option Json},
    schema.DistinctKeys → Describes levels schema name required field →
      ((∃ result, field.accept value = .ok result) ↔ schema.Satisfies required value))

include distinct below

theorem accepts_record_iff {names : List String} {properties : Members} {fields : List Attribute}
    (requires : Requires node names) (present : node.get? "properties" = some (.object properties))
    (described : List.Forall₂ (fun member property => Describes levels member.2 member.1 (names.contains member.1)
      property) properties fields) {document : Json} :
    (∃ result, (record info (objectsLast isObject fields)).acceptSupplied document [] = .ok result) ↔
      (Json.object node).SatisfiesAs info.required document .object := by
  have reading : ReadsAs (Describes levels) node info false .object (record info (objectsLast isObject fields)) :=
    .record requires present described
  have regular := (reading.regular distinct Describes.regular).record
  obtain ⟨distinctKeys, distinctBelow⟩ := Json.distinctKeys_object_iff.mp (distinct.get? present)
  have accepts {key : String} {schema : Json} (declared : (key, schema) ∈ properties) {property : Attribute}
      (describes : Describes levels schema key (names.contains key) property) (value : Option Json) :
      (∃ child, property.accept value = .ok child) ↔ schema.Satisfies ((Json.object node).requires key) value := by
    rw [Json.requires_eq requires]
    exact below (distinctBelow _ declared) describes
  -- A stored property comes from the declaration of its name.
  have declaration {property : Attribute} (member : property ∈ objectsLast isObject fields) :
      ∃ schema, (property.name, schema) ∈ properties ∧
        Describes levels schema property.name (names.contains property.name) property := by
    obtain ⟨⟨key, schema⟩, declared, describes⟩ := Pairing.exists_left described (mem_objectsLast.mp member)
    exact ⟨schema, describes.name_eq ▸ declared, describes.name_eq.symm ▸ describes⟩
  rw [Json.satisfiesAs_object]
  simp only [acceptSupplied_record regular]
  constructor
  -- Members lead to declarations by their keys, and missing keys to properties that are accepted without a value.
  · rintro ⟨_, members, nodes, rfl, each, children, rfl⟩
    refine ⟨members, rfl, fun found again => ?_⟩
    obtain rfl : properties = found := by simpa [present] using again
    constructor
    · intro key inside
      obtain ⟨member, listed, rfl⟩ := List.mem_map.mp inside
      obtain ⟨property, stored, named, -⟩ := each member listed
      obtain ⟨schema, declared, -⟩ := declaration stored
      exact named ▸ Members.mem_keys_of_mem declared
    · intro key schema declared
      constructor
      · intro member inside
        obtain ⟨property, stored, rfl, accepted⟩ := each (key, member) inside
        obtain ⟨other, declaredToo, describes⟩ := declaration stored
        obtain rfl : schema = other := by
          have found := Members.get?_of_mem distinctKeys declared
          rw [Members.get?_of_mem distinctKeys declaredToo] at found
          exact (Option.some.inj found).symm
        exact (accepts declared describes _).mp accepted
      · intro missing
        obtain ⟨property, member, describes⟩ := Pairing.exists_right described declared
        obtain ⟨child, -, accepted⟩ := Pairing.exists_right children (mem_objectsLast.mpr member)
        rw [describes.name_eq, Members.get?_eq_none_iff.mpr missing] at accepted
        exact (accepts declared describes _).mp ⟨child, accepted⟩
  · rintro ⟨members, rfl, all⟩
    obtain ⟨known, each⟩ := all properties present
    have children : ∀ property ∈ objectsLast isObject fields,
        ∃ child, property.accept (Members.get? members property.name) = .ok child := by
      intro property stored
      obtain ⟨schema, declared, describes⟩ := declaration stored
      apply (accepts declared describes _).mpr
      cases found : Members.get? members property.name with
      | none => exact (each _ _ declared).2 (Members.get?_eq_none_iff.mp found)
      | some member => exact (each _ _ declared).1 member (Members.mem_of_get? found)
    obtain ⟨nodes, paired⟩ := Pairing.exists_pairing children
    refine ⟨_, members, nodes, rfl, fun ⟨key, member⟩ inside => ?_, paired, rfl⟩
    obtain ⟨⟨_, schema⟩, declared, rfl⟩ := List.mem_map.mp (known key (Members.mem_keys_of_mem inside))
    obtain ⟨property, stored, describes⟩ := Pairing.exists_right described declared
    exact ⟨property, mem_objectsLast.mpr stored, describes.name_eq,
      (accepts declared describes _).mpr ((each _ schema declared).1 member inside)⟩

theorem ReadsAs.accepts_iff (reading : ReadsAs (Describes levels) node info inUnion type field) {document : Json} :
    (∃ result, field.acceptSupplied document [] = .ok result) ↔
      (Json.object node).SatisfiesAs info.required document type := by
  by_cases scalar : type.supportsEnum = true
  · exact reading.accepts_scalar_iff scalar
  · cases reading with
    | null =>
      cases document <;>
        simp [acceptSupplied, mismatch, Rejection.throw, Json.SatisfiesAs, Json.hasShape, JsonType.supportsEnum]
    | anyArray absent =>
      cases document <;> simp [acceptSupplied, mismatch, Rejection.throw, Json.satisfiesAs_array, absent]
    | arrayOf present described =>
      have each (element : Json) := @below _ _ _ _ (some element) (distinct.get? present) described
      simp only [acceptSupplied_arrayOf, Json.satisfiesAs_array, Json.get?_object, present, Option.some.injEq,
        forall_eq', ← each]
      constructor
      · rintro ⟨_, elements, nodes, rfl, accepted, rfl⟩
        refine ⟨elements, rfl, fun element member => ?_⟩
        obtain ⟨node, -, taken⟩ := Pairing.exists_right accepted member
        exact ⟨node, taken⟩
      · rintro ⟨elements, rfl, accepted⟩
        obtain ⟨nodes, paired⟩ := Pairing.exists_pairing accepted
        exact ⟨_, elements, nodes, rfl, paired, rfl⟩
    | anyObject requires absent =>
      cases document <;> simp [acceptSupplied, mismatch, Rejection.throw, Json.satisfiesAs_object, absent]
    | record requires present described => exact accepts_record_iff distinct below requires present described
    | _ => exact absurd rfl scalar

end

theorem Reads.admitsNull_iff {below : Relation} {name : String} {required : Bool}
    (reading : Reads below node name required field) :
    field.admitsNull = true ↔ .null ∈ (Json.object node).declaredTypes := by
  cases reading with
  | single _ _ present reading =>
    rw [Json.declaredTypes_of_single present]
    cases reading <;> simp [admitsNull]
  | @union _ _ types candidates _ _ present _ _ each _ =>
    have isNull_iff (candidate : Attribute) : candidate.isNull = true ↔ candidate.type? = some .null := by
      cases candidate <;> simp [isNull, type?]
    have same : some JsonType.null ∈ candidates.map type? ↔ some JsonType.null ∈ types.map some := by
      rw [types_of_readsAs each]
    rw [Json.declaredTypes_of_union present]
    simpa [admitsNull, isNull_iff] using same

theorem Reads.lacks_iff {below : Relation} {name : String} {required : Bool}
    (reading : Reads below node name required field) {document : Json} :
    field.lacks document = true ↔ document = .null ∧ .null ∉ (Json.object node).declaredTypes := by
  rw [← reading.admitsNull_iff, lacks, Bool.and_eq_true, Bool.not_eq_true', Bool.not_eq_true]
  refine and_congr_left fun _ => ⟨Json.eq_null_of_isNull, ?_⟩
  rintro rfl
  rfl

/-- A described attribute accepts exactly what satisfies its document. -/
theorem Describes.accepts_iff {schema : Json} {name : String} {required : Bool} {value : Option Json}
    (distinct : schema.DistinctKeys) (described : Describes levels schema name required field) :
    (∃ result, field.accept value = .ok result) ↔ schema.Satisfies required value := by
  -- The induction hypothesis is what the sections above call `below`.
  induction levels generalizing schema name required field value with
  | zero => exact described.elim
  | succ levels ih =>
    have absent := @exists_acceptAbsent_iff [] field (described.regular distinct)
    rw [described.required_eq] at absent
    cases value with
    | none => rw [Json.satisfies_none, ← absent]; rfl
    | some document =>
      obtain ⟨node, rfl, reading⟩ := described
      rw [Json.satisfies_some, accept, acceptAt]
      by_cases lacking : field.lacks document = true
      · rw [if_pos (reading.lacks_iff.mp lacking), ← absent]
        simp only [if_pos lacking]
      · rw [if_neg (mt reading.lacks_iff.mpr lacking)]
        simp only [if_neg lacking]
        cases reading with
        | single _ _ present reading =>
          simp [Json.declaredTypes_of_single present, reading.accepts_iff distinct ih]
        -- A union accepts the document if any candidate does, so the order of its types does not matter.
        | @union title description types candidates _ _ present _ _ each _ =>
          rw [exists_acceptSupplied_union, Json.declaredTypes_of_union present]
          constructor
          · rintro ⟨candidate, member, accepted⟩
            obtain ⟨type, declared, reading⟩ := Pairing.exists_left each member
            exact ⟨type, declared, (reading.accepts_iff distinct ih).mp accepted⟩
          · rintro ⟨type, declared, satisfied⟩
            obtain ⟨candidate, member, reading⟩ := Pairing.exists_right each declared
            exact ⟨candidate, member, (reading.accepts_iff distinct ih).mpr satisfied⟩

end Node

/-- The attribute that a schema document is read as accepts a value, or its absence, exactly if the value satisfies the
document. -/
theorem Attribute.accepts_iff_satisfies {limit : Nat} {schema : Json} {name : String} {required : Bool}
    {field : Attribute} (distinct : schema.DistinctKeys)
    (read : Attribute.ofDocument limit schema name required = .ok field) (value : Option Json) :
    (∃ node, field.accept value = .ok node) ↔ schema.Satisfies required value :=
  (Node.ofDocument_eq_ok.mp read).accepts_iff distinct

theorem Attribute.accepts_iff_satisfies_sample :
    Json.sampleSchema.DistinctKeys ∧ Attribute.ofDocument 4 Json.sampleSchema "" true = .ok Attribute.sample ∧
      Json.sampleSchema.Satisfies true (some Json.sampleCredential) := by
  have accepted := @Attribute.accepts_iff_satisfies 4 Json.sampleSchema "" true Attribute.sample
    Json.distinctKeys_sampleSchema rfl (some Json.sampleCredential)
  exact ⟨Json.distinctKeys_sampleSchema, rfl, accepted.mp ⟨_, rfl⟩⟩

end Credential
