import Credential.Proofs.Value.Projection
import Credential.Schema.Report

/-! Accepting again what an accepted value was written as.

Writing drops absent members, puts `null` for absent elements and reorders
members. None of this changes which type of a union wins: a value with typed
parts stays an array or an object, and the others are kept as they are.
-/

set_option autoImplicit false

namespace Credential

namespace Value

theorem mem_propertiesToJson {properties : List Value} {key : String} {member : Json} :
    (key, member) ∈ propertiesToJson properties ↔
      ∃ property ∈ properties, property.name = key ∧ property.toJson? = some member := by
  simp only [propertiesToJson_eq, List.mem_filterMap, Option.map_eq_some_iff, Prod.mk.injEq]
  constructor
  · rintro ⟨property, inside, _, written, rfl, rfl⟩
    exact ⟨property, inside, rfl, written⟩
  · rintro ⟨property, inside, rfl, written⟩
    exact ⟨property, inside, member, written, rfl, rfl⟩

theorem get?_propertiesToJson {properties : List Value} (distinct : (properties.map name).Nodup) {property : Value}
    (member : property ∈ properties) :
    Members.get? (propertiesToJson properties) property.name = property.toJson? := by
  cases written : property.toJson? with
  | some document =>
    have distinctKeys := nodup_keys_propertiesToJson distinct
    exact Members.get?_of_mem distinctKeys (mem_propertiesToJson.mpr ⟨property, member, rfl, written⟩)
  -- Another property of the name would have to be the same one, which is not written.
  | none =>
    refine Members.get?_eq_none_iff.mpr fun present => ?_
    obtain ⟨⟨key, document⟩, inside, same⟩ := List.mem_map.mp present
    obtain ⟨other, memberToo, named, writtenToo⟩ := mem_propertiesToJson.mp inside
    obtain rfl := List.inj_on_of_nodup_map distinct memberToo member (named.trans same)
    simp [written] at writtenToo

end Value

namespace Attribute

open Success

variable {path : Path} {node : Value} {document : Json}

theorem accept_toJson?_of_supplied {field : Attribute} {value : Option Json} (regular : field.Regular)
    (supplied : ∀ document node, field.acceptSupplied document [] = .ok node →
      ∃ projected, node.toJson? = some projected ∧ field.acceptSupplied projected [] = .ok node)
    (accepted : field.accept value = .ok node) :
    field.accept node.toJson? = .ok node ∧
      (value.isSome = true → field.accept (some (node.toJson?.getD .null)) = .ok node) := by
  have given {document : Json} (accepted : field.acceptSupplied document [] = .ok node) :
      field.accept node.toJson? = .ok node ∧ field.accept (some (node.toJson?.getD .null)) = .ok node := by
    obtain ⟨projected, written, again⟩ := supplied document node accepted
    have same : field.accept (some projected) = .ok node := by
      rw [accept, acceptAt, not_lacks_of_acceptSupplied regular again]
      exact again
    rw [written]
    exact ⟨same, same⟩
  cases value with
  | none =>
    rw [(isAbsent_of_acceptAbsent accepted).2.1]
    exact ⟨accepted, fun given => absurd given Bool.false_ne_true⟩
  | some document =>
    by_cases lacking : field.lacks document = true
    -- An absent value that was supplied was `null`, which is what stands for it in an array.
    · have absent : field.acceptAbsent [] = .ok node := by
        rwa [accept, acceptAt, if_pos lacking] at accepted
      rw [(isAbsent_of_acceptAbsent absent).2.1]
      refine ⟨absent, fun _ => ?_⟩
      obtain rfl := Json.eq_null_of_isNull (Bool.and_eq_true_iff.mp lacking).1
      exact accepted
    · rw [accept, acceptAt, if_neg lacking] at accepted
      exact ⟨(given accepted).1, fun _ => (given accepted).2⟩

theorem supportsEnum_of_typedParts {field : Attribute} {type : JsonType} (typed : field.type? = some type)
    (parts : field.isPlain = false) : type.supportsEnum = false := by
  cases field with
  | arrayOf | record => cases typed; rfl
  | union => simp [type?] at typed
  | _ => simp [isPlain] at parts

theorem acceptSupplied_toJson? {field : Attribute} (regular : field.Regular)
    (accepted : field.acceptSupplied document [] = .ok node) :
    ∃ projected, node.toJson? = some projected ∧ field.acceptSupplied projected [] = .ok node := by
  induction field generalizing document node with
  | arrayOf info items ih =>
    obtain ⟨elements, nodes, rfl, each, rfl⟩ := acceptSupplied_arrayOf.mp accepted
    refine ⟨.array (nodes.map fun item => item.toJson?.getD .null), ?_, ?_⟩
    · rw [Value.toJson?, Value.itemsToJson_eq]
    · refine acceptSupplied_arrayOf.mpr ⟨_, nodes, rfl, ?_, rfl⟩
      rw [List.forall₂_map_left_iff, List.forall₂_same]
      intro item member
      obtain ⟨element, -, taken⟩ := Pairing.exists_left each member
      exact (accept_toJson?_of_supplied regular.items (fun _ _ => ih regular.items) taken).2 rfl
  | record info properties ih =>
    obtain ⟨members, nodes, rfl, -, children, rfl⟩ := (acceptSupplied_record regular.record).mp accepted
    have distinct : (nodes.map Value.name).Nodup := by
      rw [names_of_accept children]
      exact regular.record.distinct
    have again {property : Attribute} {child : Value} (member : property ∈ properties) {value : Option Json}
        (taken : property.accept value = .ok child) : property.accept child.toJson? = .ok child :=
      (accept_toJson?_of_supplied (regular.property member)
        (fun _ _ => ih property member (regular.property member)) taken).1
    refine ⟨.object (Value.propertiesToJson nodes), Value.toJson?_record distinct, ?_⟩
    refine (acceptSupplied_record regular.record).mpr ⟨_, nodes, rfl, fun member inside => ?_, ?_, rfl⟩
    · obtain ⟨key, document⟩ := member
      obtain ⟨child, stored, rfl, written⟩ := Value.mem_propertiesToJson.mp inside
      obtain ⟨property, declared, -, -, taken⟩ := Pairing.exists_left (Pairing.with_members children) stored
      have accepted := again declared taken
      rw [written] at accepted
      exact ⟨property, declared, (name_of_acceptAt taken).symm, child, accepted⟩
    · apply (Pairing.with_members children).imp
      intro property child both
      obtain ⟨declared, stored, taken⟩ := both
      rw [← name_of_acceptAt taken, Value.get?_propertiesToJson distinct stored]
      exact again declared taken
  | union info candidates ih =>
    obtain ⟨before, candidate, after, winner, split, refused, taken, rfl⟩ := acceptSupplied_union.mp accepted
    have member : candidate ∈ candidates := by simp [split]
    obtain ⟨projected, written, again⟩ := ih candidate member (regular.candidate member) taken
    refine ⟨projected, written, acceptSupplied_union.mpr
      ⟨before, candidate, after, winner, split, fun earlier inside other acceptedToo => ?_, again, rfl⟩⟩
    -- A plain winner leaves the document as it was; any other has a shape that no other candidate takes.
    cases plain : candidate.isPlain with
    | true =>
      obtain ⟨kept, -, -, -⟩ := plain_of_acceptSupplied plain taken
      obtain rfl := Option.some.inj (kept.symm.trans written)
      exact refused earlier inside other acceptedToo
    | false =>
      have memberToo : earlier ∈ candidates := by simp [split, inside]
      obtain ⟨type, typed⟩ := Option.isSome_iff_exists.mp (regular.union.typed candidate member)
      obtain rfl := regular.union.eq_of_hasShape member memberToo typed (supportsEnum_of_typedParts typed plain)
        (hasShape_of_acceptSupplied typed again) acceptedToo
      exact refused earlier inside winner taken
  | _ =>
    obtain ⟨kept, -, -, -⟩ := plain_of_acceptSupplied rfl accepted
    exact ⟨document, kept, accepted⟩

/-- An accepted value, written and accepted again, is the same node. -/
theorem accept_toJson? {field : Attribute} (regular : field.Regular) {value : Option Json}
    (accepted : field.accept value = .ok node) :
    field.accept node.toJson? = .ok node ∧
      (value.isSome = true → field.accept (some (node.toJson?.getD .null)) = .ok node) :=
  accept_toJson?_of_supplied regular (fun _ _ => acceptSupplied_toJson? regular) accepted

end Attribute

namespace Schema

open Success

theorem regular_of_ofDocument {limit : Nat} {document : Json} {schema : Schema} (distinct : document.DistinctKeys)
    (read : ofDocument limit document = .ok schema) : schema.root.Regular := by
  simp only [ofDocument, bind_eq_ok] at read
  obtain ⟨metadata, -, root, reads, outcome⟩ := read
  split at outcome
  · obtain rfl := pure_eq_ok.mp outcome
    exact (Node.ofDocument_eq_ok.mp reads).regular distinct
  · simp [SchemaFault.throw] at outcome

theorem project_eq_ok {schema : Schema} {subjectOnly : Bool} {input output : Json} :
    schema.project input subjectOnly = .ok output ↔
      ∃ field node, (if subjectOnly then schema.root.credentialSubject? else some schema.root) = some field ∧
        field.accept (some input) = .ok node ∧ node.toJson?.getD .null = output := by
  cases subjectOnly with
  | false => simp [project, validate]
  | true =>
    simp only [project, validateSubject, if_true, bind_eq_ok, pure_eq_ok]
    cases schema.root.credentialSubject? with
    | none => simp
    | some subject => simp [Attribute.acceptAt_eq_ok]

end Schema

/-- What an accepted value is written as is accepted as the same value, by every attribute that a document describes.
Hence a projected credential, or the claims of one, are projected to themselves. -/
theorem projections_fixed :
    (∀ {limit : Nat} {schema : Json} {name : String} {required : Bool} {field : Attribute} {value : Option Json}
        {node : Value}, schema.DistinctKeys → Attribute.ofDocument limit schema name required = .ok field →
        field.accept value = .ok node → field.accept node.toJson? = .ok node) ∧
      ∀ {limit : Nat} {document : Json} {schema : Schema} {subjectOnly : Bool} {input output : Json},
        document.DistinctKeys → Schema.ofDocument limit document = .ok schema →
        schema.project input subjectOnly = .ok output → schema.project output subjectOnly = .ok output := by
  constructor
  · intro limit schema name required field value node distinct read accepted
    have regular := (Node.ofDocument_eq_ok.mp read).regular distinct
    exact (Attribute.accept_toJson? regular accepted).1
  · intro limit document schema subjectOnly input output distinct read projected
    have regular := Schema.regular_of_ofDocument distinct read
    obtain ⟨field, node, found, accepted, written⟩ := Schema.project_eq_ok.mp projected
    have regularField : field.Regular := by
      cases subjectOnly with
      | false => exact Option.some.inj found ▸ regular
      | true => exact regular.credentialSubject found
    have again := (Attribute.accept_toJson? regularField accepted).2 rfl
    rw [written] at again
    exact Schema.project_eq_ok.mpr ⟨field, node, found, again, written⟩

theorem projections_fixed_sample :
    Json.sampleSchema.DistinctKeys ∧ Attribute.ofDocument 4 Json.sampleSchema "" true = .ok Attribute.sample ∧
      (∃ node, Attribute.sample.accept (some Json.sampleCredential) = .ok node ∧
        Attribute.sample.accept node.toJson? = .ok node) ∧
      ∃ schema output, Schema.ofDocument 4 Json.sampleSchema = .ok schema ∧
        schema.project Json.sampleCredential false = .ok output ∧ schema.project output false = .ok output :=
  ⟨Json.distinctKeys_sampleSchema, rfl,
    ⟨_, rfl, @projections_fixed.1 4 Json.sampleSchema "" true Attribute.sample (some Json.sampleCredential) _
      Json.distinctKeys_sampleSchema rfl rfl⟩,
    ⟨_, _, rfl, rfl, @projections_fixed.2 4 Json.sampleSchema _ false Json.sampleCredential _
      Json.distinctKeys_sampleSchema rfl rfl⟩⟩

end Credential
