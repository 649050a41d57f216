import Credential.Proofs.Attribute.Populated
import Credential.Proofs.Value.Record

/-! Which documents an attribute takes, whatever it makes of them.

Each kind of attribute has its own answer. An attribute that was read takes at
least one document: no schema in the grammar rules out every value.
-/

set_option autoImplicit false

namespace Credential

namespace Attribute

def Takes (field : Attribute) (document : Json) : Prop :=
  ∃ node, field.acceptSupplied document [] = .ok node

def Accepts (field : Attribute) (value : Option Json) : Prop :=
  ∃ node, field.accept value = .ok node

variable {field : Attribute} {document : Json} {info : Info}

theorem accepts_none (regular : field.Regular) : field.Accepts none ↔ field.required = false :=
  exists_acceptAbsent_iff regular

theorem accepts_some (regular : field.Regular) :
    field.Accepts (some document) ↔ if field.lacks document then field.required = false else field.Takes document := by
  unfold Accepts accept acceptAt
  simp only
  split
  · exact exists_acceptAbsent_iff regular
  · rfl

theorem accepts_of_takes (regular : field.Regular) (taken : field.Takes document) : field.Accepts (some document) := by
  obtain ⟨node, accepted⟩ := taken
  rw [accepts_some regular, not_lacks_of_acceptSupplied regular accepted]
  exact ⟨node, accepted⟩

theorem hasShape_of_takes {type : JsonType} (typed : field.type? = some type) (taken : field.Takes document) :
    document.hasShape type = true := by
  obtain ⟨node, accepted⟩ := taken
  exact hasShape_of_acceptSupplied typed accepted

theorem takes_scalar {type : JsonType} (typed : field.type? = some type) (scalar : type.supportsEnum = true) :
    field.Takes document ↔ document.hasShape type = true ∧
      ∀ entries ∈ field.allowed?, ∃ entry ∈ entries, entry.equals document = true :=
  acceptSupplied_scalar typed scalar

-- Where no values can be listed and nothing lies below, the shape is all that counts.
theorem takes_plain {type : JsonType} (typed : field.type? = some type) (plain : field.isPlain = true)
    (other : type.supportsEnum = false) : field.Takes document ↔ document.hasShape type = true := by
  refine ⟨hasShape_of_takes typed, fun shape => ?_⟩
  cases field with
  | null | anyArray | anyObject =>
    obtain rfl := Option.some.inj typed
    cases document <;> simp_all [Json.hasShape, Takes, acceptSupplied]
  | boolean | integer | number | string =>
    obtain rfl := Option.some.inj typed
    exact absurd other (by decide)
  | _ => exact absurd plain Bool.false_ne_true

theorem takes_arrayOf {items : Attribute} :
    (arrayOf info items).Takes document ↔
      ∃ elements, document = .array elements ∧ ∀ element ∈ elements, items.Accepts (some element) := by
  unfold Takes
  simp only [acceptSupplied_arrayOf]
  constructor
  · rintro ⟨_, elements, nodes, rfl, each, -⟩
    refine ⟨elements, rfl, fun element inside => ?_⟩
    obtain ⟨node, -, accepted⟩ := Pairing.exists_right each inside
    exact ⟨node, accepted⟩
  · rintro ⟨elements, rfl, all⟩
    obtain ⟨nodes, each⟩ := Pairing.exists_pairing all
    exact ⟨_, elements, nodes, rfl, each, rfl⟩

theorem takes_record {properties : List Attribute} (regular : RegularRecord properties) :
    (record info properties).Takes document ↔ ∃ members, document = .object members ∧
      (∀ member ∈ members, ∃ property ∈ properties, property.name = member.1 ∧ property.Accepts (some member.2)) ∧
      ∀ property ∈ properties, property.Accepts (Members.get? members property.name) := by
  unfold Takes
  simp only [acceptSupplied_record regular]
  constructor
  · rintro ⟨_, members, nodes, rfl, declared, children, -⟩
    refine ⟨members, rfl, declared, fun property inside => ?_⟩
    obtain ⟨node, -, accepted⟩ := Pairing.exists_right children inside
    exact ⟨node, accepted⟩
  · rintro ⟨members, rfl, declared, all⟩
    obtain ⟨nodes, children⟩ := Pairing.exists_pairing all
    exact ⟨_, members, nodes, rfl, declared, children, rfl⟩

theorem takes_union {candidates : List Attribute} :
    (union info candidates).Takes document ↔ ∃ candidate ∈ candidates, candidate.Takes document :=
  exists_acceptSupplied_union

theorem get?_of_written {properties : List Attribute} (regular : RegularRecord properties) {property : Attribute}
    (inside : property ∈ properties) (chosen : Attribute → Json) :
    Members.get? (properties.map fun property => (property.name, chosen property)) property.name =
      some (chosen property) := by
  apply Members.get?_of_mem
  · simpa [Members.keys, Function.comp_def] using regular.distinct
  · exact List.mem_map_of_mem inside

theorem takes_record_of_each {properties : List Attribute} (regular : (record info properties).Regular)
    {chosen : Attribute → Json} (each : ∀ property ∈ properties, property.Takes (chosen property)) :
    (record info properties).Takes (.object (properties.map fun property => (property.name, chosen property))) := by
  have accepted (property : Attribute) (inside : property ∈ properties) : property.Accepts (some (chosen property)) :=
    accepts_of_takes (regular.property inside) (each property inside)
  refine (takes_record regular.record).mpr ⟨_, rfl, fun member written => ?_, fun property inside => ?_⟩
  · obtain ⟨property, inside, rfl⟩ := List.mem_map.mp written
    exact ⟨property, inside, rfl, accepted property inside⟩
  · rw [get?_of_written regular.record inside]
    exact accepted property inside

end Attribute

namespace Node

open Attribute

variable {levels : Nat} {node : Members} {info : Info} {inUnion : Bool} {type : JsonType} {field : Attribute}

theorem ReadsAs.exists_takes_scalar {below : Relation} (reading : ReadsAs below node info inUnion type field)
    (scalar : type.supportsEnum = true) (filled : field.allowed? ≠ some []) : ∃ document, field.Takes document := by
  simp only [takes_scalar reading.type?_eq scalar]
  have allowed := reading.allowed?_eq scalar
  cases listed : enumList? node with
  | none =>
    obtain ⟨document, shape⟩ := Json.exists_hasShape type
    exact ⟨document, shape, by simp [allowed, listed, Json.entriesOf?]⟩
  | some entries =>
    rw [listed, Json.entriesOf?, Option.map_some] at allowed
    obtain ⟨entry, inside⟩ := List.exists_mem_of_ne_nil _ fun empty => filled (allowed.trans (congrArg some empty))
    refine ⟨entry, (List.mem_filter.mp inside).2, fun others same => ?_⟩
    obtain rfl := Option.some.inj (allowed.symm.trans same)
    exact ⟨entry, inside, entry.equals_self⟩

theorem ReadsAs.exists_takes
    (below : ∀ {document : Json} {name : String} {required : Bool} {field : Attribute}, document.DistinctKeys →
      Describes levels document name required field → ∃ document, field.Takes document)
    (distinct : (Json.object node).DistinctKeys) (reading : ReadsAs (Describes levels) node info inUnion type field)
    (filled : field.allowed? ≠ some []) : ∃ document, field.Takes document := by
  have regular := reading.regular distinct Describes.regular
  by_cases scalar : type.supportsEnum = true
  · exact reading.exists_takes_scalar scalar filled
  cases reading with
  | boolean | integer | number | string => exact absurd rfl scalar
  | null => exact ⟨.null, _, rfl⟩
  | anyArray => exact ⟨.array [], _, rfl⟩
  | anyObject => exact ⟨.object [], _, rfl⟩
  | arrayOf => exact ⟨.array [], takes_arrayOf.mpr ⟨[], rfl, nofun⟩⟩
  | @record names members properties _ present described =>
    have each : ∀ property ∈ objectsLast isObject properties, ∃ document, property.Takes document := by
      intro property member
      obtain ⟨source, distinctSource, describes⟩ := exists_source (distinct.get? present) described member
      exact below distinctSource describes
    choose! chosen takes using each
    exact ⟨_, takes_record_of_each regular takes⟩

theorem Describes.exists_takes {document : Json} {name : String} {required : Bool} (distinct : document.DistinctKeys)
    (described : Describes levels document name required field) : ∃ document, field.Takes document := by
  induction levels generalizing document name required field with
  | zero => exact described.elim
  | succ levels ih =>
    have populated := described.populated
    obtain ⟨node, rfl, reading⟩ := described
    cases reading with
    | single _ _ _ reading => exact reading.exists_takes ih distinct populated.here
    | union _ _ _ _ _ each _ =>
      obtain ⟨candidate, member, filled⟩ := populated.candidate
      obtain ⟨type, -, reading⟩ := Pairing.exists_left each member
      obtain ⟨document, taken⟩ := reading.exists_takes ih distinct filled.here
      exact ⟨document, takes_union.mpr ⟨candidate, member, taken⟩⟩

end Node

end Credential
