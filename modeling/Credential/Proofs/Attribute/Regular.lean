import Credential.Context.Binding
import Credential.Proofs.Attribute.Tree
import Credential.Proofs.Json.Members
import Credential.Proofs.Pairing
import Credential.Proofs.Schema.Description

/-! Regular trees: what reading establishes at every node, as far as accepting values relies on it.

The document is taken to have no key twice in one object, as is true of every
document that is read from text.
-/

set_option autoImplicit false

namespace Credential

namespace Attribute

structure RegularRecord (properties : List Attribute) : Prop where
  distinct : (properties.map name).Nodup
  ordered : properties.Pairwise fun first second => first.isObject = true → second.isObject = true

/-- The candidates of a union: several, of one distinct type each, and with the union's own name, flag and texts. -/
structure RegularUnion (info : Info) (candidates : List Attribute) : Prop where
  several : 2 ≤ candidates.length
  alike : ∀ candidate ∈ candidates, candidate.info = info
  typed : ∀ candidate ∈ candidates, candidate.type?.isSome
  distinct : (candidates.map type?).Nodup

def RegularNode : Attribute → Prop
  | record _ properties => RegularRecord properties
  | union info candidates => RegularUnion info candidates
  | _ => True

/-- All nodes are regular. -/
def Regular (field : Attribute) : Prop := field.Everywhere RegularNode

theorem Regular.node {field node : Attribute} (regular : field.Regular) (inside : field.HasNode node) : node.Regular :=
  fun other below => regular other (inside.trans below)

theorem regular_of_plain {field : Attribute} (plain : field.isPlain = true) : field.Regular := by
  refine everywhere_of_plain plain ?_
  cases field <;> simp_all [isPlain, RegularNode]

theorem Regular.items {info : Info} {items : Attribute} (regular : (arrayOf info items).Regular) : items.Regular :=
  (everywhere_iff.mp regular).2 items List.mem_cons_self

theorem Regular.record {info : Info} {properties : List Attribute} (regular : (record info properties).Regular) :
    RegularRecord properties :=
  (everywhere_iff.mp regular).1

theorem Regular.property {info : Info} {properties : List Attribute} (regular : (Attribute.record info properties).Regular)
    {property : Attribute} (member : property ∈ properties) : property.Regular :=
  (everywhere_iff.mp regular).2 property member

theorem Regular.union {info : Info} {candidates : List Attribute} (regular : (union info candidates).Regular) :
    RegularUnion info candidates :=
  (everywhere_iff.mp regular).1

theorem Regular.candidate {info : Info} {candidates : List Attribute}
    (regular : (Attribute.union info candidates).Regular) {candidate : Attribute} (member : candidate ∈ candidates) :
    candidate.Regular :=
  (everywhere_iff.mp regular).2 candidate member

/-! ## The credential subject -/

/-- The root is an object that declares properties, and the subject is the one of them called `credentialSubject`,
which is an object and nothing else. -/
def IsSubjectOf (subject root : Attribute) : Prop :=
  ∃ info properties, root = .record info properties ∧ subject ∈ properties ∧ subject.name = "credentialSubject" ∧
    subject.isObject = true

theorem isSubjectOf_of_credentialSubject? {root subject : Attribute} (found : root.credentialSubject? = some subject) :
    subject.IsSubjectOf root := by
  unfold credentialSubject? at found
  split at found
  next other only =>
    obtain rfl : other = subject := Option.some.inj found
    have member := List.mem_singleton_self other
    rw [← only] at member
    obtain ⟨inside, both⟩ := List.mem_filter.mp member
    obtain ⟨named, object⟩ := Bool.and_eq_true_iff.mp both
    cases root with
    | record info properties => exact ⟨info, properties, rfl, inside, eq_of_beq named, object⟩
    | _ => simp [properties?] at inside
  next => simp at found

theorem Regular.credentialSubject?_eq_some {root subject : Attribute} (regular : root.Regular) :
    root.credentialSubject? = some subject ↔ subject.IsSubjectOf root := by
  refine ⟨isSubjectOf_of_credentialSubject?, ?_⟩
  rintro ⟨info, properties, rfl, member, named, object⟩
  have distinct := regular.record.distinct
  -- Any other property of the name would be the same one.
  have only : (properties.filter fun property => property.name == "credentialSubject" && property.isObject) =
      [subject] := by
    refine (filter_eq_singleton (List.Nodup.of_map name distinct)).mpr fun other => ⟨?_, ?_⟩
    · rintro ⟨inside, both⟩
      have namedToo := eq_of_beq (Bool.and_eq_true_iff.mp both).1
      exact List.inj_on_of_nodup_map distinct inside member (namedToo.trans named.symm)
    · rintro rfl
      exact ⟨member, by simp [named, object]⟩
  simp only [credentialSubject?, properties?, Option.getD_some, only]

theorem Regular.credentialSubject {root subject : Attribute} (regular : root.Regular)
    (found : root.credentialSubject? = some subject) : subject.Regular := by
  obtain ⟨info, properties, rfl, member, -⟩ := isSubjectOf_of_credentialSubject? found
  exact regular.property member

end Attribute

namespace Node

open Attribute

variable {below : Relation} {node : Members} {info : Info} {inUnion : Bool} {type : JsonType} {field : Attribute}

theorem ReadsAs.info_eq (reading : ReadsAs below node info inUnion type field) : field.info = info := by
  cases reading <;> rfl

theorem ReadsAs.type?_eq (reading : ReadsAs below node info inUnion type field) : field.type? = some type := by
  cases reading <;> rfl

theorem Reads.info_eq {name : String} {required : Bool} (reading : Reads below node name required field) :
    ∃ title description, field.info = ⟨name, required, title, description⟩ := by
  cases reading with
  | single _ _ _ reading => exact ⟨_, _, reading.info_eq⟩
  | union => exact ⟨_, _, rfl⟩

theorem Describes.name_eq {levels : Nat} {document : Json} {name : String} {required : Bool}
    (described : Describes levels document name required field) : field.name = name := by
  cases levels with
  | zero => exact described.elim
  | succ levels =>
    obtain ⟨node, rfl, reading⟩ := described
    obtain ⟨title, description, same⟩ := reading.info_eq
    exact congrArg Info.name same

theorem Describes.required_eq {levels : Nat} {document : Json} {name : String} {required : Bool}
    (described : Describes levels document name required field) : field.required = required := by
  cases levels with
  | zero => exact described.elim
  | succ levels =>
    obtain ⟨node, rfl, reading⟩ := described
    obtain ⟨title, description, same⟩ := reading.info_eq
    exact congrArg Info.required same

theorem Describes.isObject_iff {levels : Nat} {document : Json} {name : String} {required : Bool}
    (described : Describes levels document name required field) :
    field.isObject = true ↔ document.get? "type" = some (.string JsonType.object.token) := by
  cases levels with
  | zero => exact described.elim
  | succ levels =>
    obtain ⟨node, rfl, reading⟩ := described
    rw [Json.get?_object]
    cases reading with
    | single _ _ present reading =>
      rw [present]
      cases reading <;> simp [isObject, JsonType.token]
    | union _ _ present =>
      rw [present]
      exact iff_of_false nofun nofun

theorem exists_member {levels : Nat} {names : List String} {members : Members} {fields : List Attribute}
    (distinct : (Json.object members).DistinctKeys)
    (described : List.Forall₂ (fun member property => Describes levels member.2 member.1 (names.contains member.1)
      property) members fields) {property : Attribute} (member : property ∈ objectsLast isObject fields) :
    ∃ document, members.get? property.name = some document ∧ document.DistinctKeys ∧
      Describes levels document property.name (names.contains property.name) property := by
  obtain ⟨distinctKeys, below⟩ := Json.distinctKeys_object_iff.mp distinct
  obtain ⟨source, inside, describes⟩ := Pairing.exists_left described (mem_objectsLast.mp member)
  rw [describes.name_eq]
  exact ⟨source.2, Members.get?_of_mem distinctKeys inside, below source inside, describes⟩

theorem exists_source {levels : Nat} {names : List String} {members : Members} {fields : List Attribute}
    (distinct : (Json.object members).DistinctKeys)
    (described : List.Forall₂ (fun member property => Describes levels member.2 member.1 (names.contains member.1)
      property) members fields) {property : Attribute} (member : property ∈ objectsLast isObject fields) :
    ∃ document, document.DistinctKeys ∧ Describes levels document property.name property.required property := by
  obtain ⟨document, -, distinctBelow, describes⟩ := exists_member distinct described member
  exact ⟨document, distinctBelow, describes.required_eq.symm ▸ describes⟩

theorem types_of_readsAs {types : List JsonType} {candidates : List Attribute}
    (each : List.Forall₂ (ReadsAs below node info inUnion) types candidates) :
    candidates.map type? = types.map some :=
  (Pairing.map_eq each fun _ _ reading => reading.type?_eq.symm).symm

theorem filterMap_type?_of_readsAs {types : List JsonType} {candidates : List Attribute}
    (each : List.Forall₂ (ReadsAs below node info inUnion) types candidates) : candidates.filterMap type? = types := by
  rw [← Pairing.filterMap_eq each fun _ _ reading => reading.type?_eq.symm, List.filterMap_some]

theorem names_of_describes {levels : Nat} {members : Members} {required : String → Bool} {properties : List Attribute}
    (each : List.Forall₂ (fun member property => Describes levels member.2 member.1 (required member.1) property)
      members properties) : properties.map name = members.keys :=
  (Pairing.map_eq each fun _ _ described => described.name_eq.symm).symm

theorem ReadsAs.regular {levels : Nat} (distinct : (Json.object node).DistinctKeys)
    (regular : ∀ {document : Json} {name : String} {required : Bool} {field : Attribute}, document.DistinctKeys →
      Describes levels document name required field → field.Regular)
    (reading : ReadsAs (Describes levels) node info inUnion type field) : field.Regular := by
  refine everywhere_iff.mpr ?_
  cases reading with
  | arrayOf present described =>
    refine ⟨trivial, fun child member => ?_⟩
    obtain rfl := List.mem_singleton.mp member
    exact regular (distinct.get? present) described
  | @record names members properties requires present described =>
    have distinctMembers := Json.distinctKeys_object_iff.mp (distinct.get? present)
    have perm := @objectsLast_perm _ isObject properties
    refine ⟨⟨?_, objectsLast_ordered properties⟩, fun child member => ?_⟩
    -- The names are the keys of `properties` in another order.
    · rw [(perm.map name).nodup_iff, names_of_describes described]
      exact distinctMembers.1
    · obtain ⟨source, inside, readsChild⟩ := Pairing.exists_left described (perm.mem_iff.mp member)
      exact regular (distinctMembers.2 source inside) readsChild
  | _ => exact ⟨trivial, fun child member => nomatch member⟩

theorem Describes.regular {levels : Nat} {document : Json} {name : String} {required : Bool} {field : Attribute}
    (distinct : document.DistinctKeys) (described : Describes levels document name required field) :
    field.Regular := by
  induction levels generalizing document name required field with
  | zero => exact described.elim
  | succ levels ih =>
    obtain ⟨node, rfl, reading⟩ := described
    cases reading with
    | single _ _ _ reading => exact reading.regular distinct ih
    | @union title description types candidates _ _ _ several distinctTypes each _ =>
      have typesEq := types_of_readsAs each
      refine everywhere_iff.mpr ⟨⟨?_, ?_, ?_, ?_⟩, ?_⟩
      · rw [← List.Forall₂.length_eq each]
        exact several
      · intro candidate member
        obtain ⟨type, -, reading⟩ := Pairing.exists_left each member
        exact reading.info_eq
      · intro candidate member
        obtain ⟨type, -, reading⟩ := Pairing.exists_left each member
        simp [reading.type?_eq]
      · rw [typesEq]
        exact distinctTypes.map fun _ _ => Option.some.inj
      · intro candidate member
        obtain ⟨type, -, reading⟩ := Pairing.exists_left each member
        exact reading.regular distinct ih

end Node

end Credential
