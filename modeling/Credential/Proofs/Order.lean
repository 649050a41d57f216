import Credential.Proofs.Schema.Emission
import Credential.Proofs.Schema.Provenance
import Credential.Proofs.Value.WellFormed

/-! Objects after the rest, in trees, in values and in documents.

Reading puts the properties of an object in order. Accepting a value and
writing a schema keep that order at every object, so that the place of a
property does not depend on how a value lists its members.
-/

set_option autoImplicit false

namespace Credential

def Json.declaresObject (schema : Json) : Bool :=
  match schema.get? "type" with
  | some (.string token) => token == JsonType.object.token
  | _ => false

theorem Json.declaresObject_iff {schema : Json} :
    schema.declaresObject = true ↔ schema.get? "type" = some (.string JsonType.object.token) := by
  unfold declaresObject
  split
  next token present => simp [present]
  next other => exact iff_of_false Bool.false_ne_true (other _)

namespace Reading

open Attribute

/-- At an object the names of the properties are the keys of the document, those of objects after the rest and else as
they come. -/
def ObjectsLast (reading : Reading) : Prop :=
  ∀ info properties, reading.field = .record info properties →
    ∃ members : Members, reading.document.get? "properties" = some (.object members) ∧
      properties.map name = Members.keys (members.filter fun member => !member.2.declaresObject) ++
        Members.keys (members.filter fun member => member.2.declaresObject)

def InOrder (reading : Reading) : Prop :=
  ∀ info properties, reading.field = .record info properties →
    ∃ members : Members, reading.document.get? "properties" = some (.object members) ∧
      members.keys = properties.map name

end Reading

/-! ## Reading -/

namespace Node

open Attribute

theorem Describes.isObject_eq {levels : Nat} {document : Json} {name : String} {required : Bool} {field : Attribute}
    (described : Describes levels document name required field) : field.isObject = document.declaresObject := by
  rw [Bool.eq_iff_iff, described.isObject_iff, Json.declaresObject_iff]

end Node

theorem Reading.Made.objectsLast {reading : Reading} (made : reading.Made) : reading.ObjectsLast := by
  rintro info properties same
  cases made with
  | union => simp at same
  | as distinct reading =>
    cases reading with
    | @record _ members fields _ present described =>
      obtain ⟨rfl, rfl⟩ := Attribute.record.inj same
      -- Members and properties still correspond when both are cut down to the objects, or to the rest.
      have objects := List.rel_filter (fun _ _ described => Bool.eq_iff_iff.mp described.isObject_eq.symm) described
      have rest := List.rel_filter
        (fun _ _ described => Bool.eq_iff_iff.mp (congrArg (!·) described.isObject_eq.symm)) described
      refine ⟨members, present, ?_⟩
      rw [Credential.objectsLast, List.map_append, Node.names_of_describes rest, Node.names_of_describes objects]
    | _ => simp at same

/-! ## Writing -/

namespace Reading

open Attribute

structure Written (reading : Reading) : Prop where
  regular : reading.field.Regular
  keywords : ∀ keyword, ∀ type ∈ reading.field.types, keywordOwner? keyword = some type →
    reading.document.get? keyword = Members.get? reading.field.keywords keyword

theorem written_toDocument {field : Attribute} (regular : field.Regular) :
    Written ⟨field.toDocument, field, false⟩ := by
  obtain ⟨node, written, holds⟩ := toDocument_holds regular
  refine ⟨regular, fun keyword type _ owned => ?_⟩
  rw [written]
  exact holds.owned keyword (by simp [owned])

theorem Written.get?_properties {document : Json} {info : Info} {properties : List Attribute} {inUnion : Bool}
    (written : Written ⟨document, .record info properties, inUnion⟩) :
    document.get? "properties" = some (.object (propertyNodes properties)) := by
  rw [written.keywords "properties" .object List.mem_cons_self rfl]
  exact get?_properties_record written.regular.record.distinct

-- The parts of a written document are written documents, and the candidates of a union share one.
theorem Written.step {first second : Reading} (written : Written first) (step : first.Step second) :
    Written second := by
  cases step with
  | items present =>
    rw [written.keywords "items" .array List.mem_cons_self rfl] at present
    obtain rfl := Option.some.inj present
    exact written_toDocument written.regular.items
  | @property _ below _ properties property _ members present member found =>
    obtain rfl := Json.object.inj (Option.some.inj (written.get?_properties.symm.trans present))
    rw [get?_propertyNodes written.regular.record.distinct member] at found
    obtain rfl := Option.some.inj found
    exact written_toDocument (written.regular.property member)
  -- A keyword that the candidate owns is not written by any other.
  | @candidate document info candidates candidate inUnion member =>
    have regular := written.regular.union
    obtain ⟨own, typed⟩ := Option.isSome_iff_exists.mp (regular.typed candidate member)
    refine ⟨written.regular.candidate member, fun keyword type inside owned => ?_⟩
    rw [types_of_type? typed] at inside
    obtain rfl := List.mem_singleton.mp inside
    have listed : type ∈ (Attribute.union info candidates).types := List.mem_filterMap.mpr ⟨candidate, member, typed⟩
    exact (written.keywords keyword type listed owned).trans (regular.get?_keywords member (owned.trans typed.symm))

theorem Written.reaches {reading : Reading} (written : Written reading) {child : Attribute}
    (member : child ∈ reading.field.children) : ∃ below, reading.Step below ∧ below.field = child := by
  obtain ⟨document, field, inUnion⟩ := reading
  cases field with
  | arrayOf info items =>
    obtain rfl := List.mem_singleton.mp member
    exact ⟨_, .items (written.keywords "items" .array List.mem_cons_self rfl), rfl⟩
  | record info properties =>
    have found := get?_propertyNodes written.regular.record.distinct member
    exact ⟨_, .property written.get?_properties member found, rfl⟩
  | union info candidates => exact ⟨_, .candidate member, rfl⟩
  | _ => exact nomatch member

theorem written_invariant : Invariant Written :=
  ⟨fun _ _ written step => written.step step, fun _ written _ member => written.reaches member⟩

theorem Written.inOrder {reading : Reading} (written : Written reading) : reading.InOrder := by
  obtain ⟨document, field, inUnion⟩ := reading
  rintro info properties rfl
  exact ⟨_, written.get?_properties, keys_propertyNodes properties⟩

end Reading

/-! ## Accepting -/

namespace Value

/-- The children of an object stand for the properties of its attribute, in their order. Its document lists those of
them that are not absent, in that order. -/
structure InOrder (object : Attribute) (children : List Value) : Prop where
  declared : ∃ info properties, object = .record info properties ∧ children.map name = properties.map Attribute.name
  written : ∃ members : Members, (record object children).toJson? = some (.object members) ∧
    members.keys = (children.filter fun child => !child.isAbsent).map name

theorem WellFormed.inOrder {object : Attribute} {children : List Value}
    (formed : (Value.record object children).WellFormed) (regular : object.Regular) : InOrder object children := by
  cases formed with
  | @record info declared _ same =>
    have names : children.map name = declared.map Attribute.name := by
      rw [← same, List.map_map]
      rfl
    refine ⟨⟨info, declared, rfl, names⟩, _, toJson?_record ?_, keys_propertiesToJson children⟩
    exact names ▸ regular.record.distinct

end Value

namespace Attribute

/-- At every object of a tree the properties come in the order of the document, objects after the rest. The written
document keeps this order everywhere, and so do the objects of every accepted value. -/
theorem objects_last_everywhere {limit : Nat} {document : Json} {name : String} {required : Bool} {field : Attribute}
    (distinct : document.DistinctKeys) (read : Attribute.ofDocument limit document name required = .ok field) :
    (Reading.mk document field false).Throughout Reading.ObjectsLast ∧
      (Reading.mk field.toDocument field false).Throughout Reading.InOrder ∧
      ∀ value node, field.accept value = .ok node →
        ∀ object children, node.HasNode (.record object children) →
          (∃ reading, (Reading.mk document field false).Leads reading ∧ reading.field = object) ∧
            Value.InOrder object children := by
  have described := Node.ofDocument_eq_ok.mp read
  have regular := described.regular distinct
  have throughout := Reading.made_invariant.throughout (fun _ made => made.objectsLast)
    (Reading.made_of_describes distinct described)
  refine ⟨throughout, ?_, fun value node accepted object children inside => ?_⟩
  · exact Reading.written_invariant.throughout (fun _ written => written.inOrder) (Reading.written_toDocument regular)
  · have formed := everywhere_of_accept regular (fun _ _ => everywhere_of_acceptSupplied regular) accepted
    have within : field.HasNode object := field_of_acceptAt accepted ▸ Value.hasNode_field formed inside
    exact ⟨throughout.exists_reading within, (formed _ inside).inOrder (regular.node within)⟩

theorem objects_last_everywhere_sample :
    Json.sampleSchema.DistinctKeys ∧ Attribute.ofDocument 4 Json.sampleSchema "" true = .ok Attribute.sample ∧
      (Reading.mk Json.sampleSchema Attribute.sample false).Throughout Reading.ObjectsLast ∧
      (Reading.mk Attribute.sample.toDocument Attribute.sample false).Throughout Reading.InOrder ∧
      ∀ value node, Attribute.sample.accept value = .ok node →
        ∀ object children, node.HasNode (.record object children) →
          (∃ reading, (Reading.mk Json.sampleSchema Attribute.sample false).Leads reading ∧ reading.field = object) ∧
            Value.InOrder object children :=
  ⟨Json.distinctKeys_sampleSchema, rfl, @objects_last_everywhere 4 Json.sampleSchema "" true Attribute.sample
    Json.distinctKeys_sampleSchema rfl⟩

end Attribute

end Credential
