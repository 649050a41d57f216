import Credential.Proofs.Value.Record

/-! The document of an accepted value, as a normal form of the document that was supplied.

The normal form is a function of the attribute and the supplied document alone.
Only for a union does it ask what was accepted, for the type that won.
-/

set_option autoImplicit false

namespace Credential

namespace Attribute

/-- The type as which the attribute accepts a document. -/
def winningType? (field : Attribute) (document : Json) : Option JsonType :=
  (field.accept (some document)).toOption.map Value.effectiveType

mutual

/-- The normal form of a value, or of its absence. Absent values have none. -/
def normalForm (field : Attribute) (value : Option Json) : Option Json :=
  match value with
  | none => none
  | some document => if field.lacks document then none else some (field.normalize document)
termination_by (sizeOf field, 1)

/-- The normal form of a value that is not absent. An array keeps its length, with `null` for absent elements; an
object keeps the members that are not absent, in the order of its properties. -/
def normalize (field : Attribute) (document : Json) : Json :=
  match field, document with
  | .arrayOf _ items, .array elements =>
    .array (elements.map fun element => (items.normalForm (some element)).getD .null)
  | .record _ properties, .object members =>
    .object (properties.filterMap fun property =>
      (property.normalForm (Members.get? members property.name)).map (Prod.mk property.name))
  | .union info candidates, document =>
    match _ : candidates.find? fun candidate => candidate.type? == (union info candidates).winningType? document with
    | some winner => winner.normalize document
    | none => document
  | _, document => document
termination_by (sizeOf field, 0)
decreasing_by
  · exact Prod.Lex.left _ _ (sizeOf_of_mem_children List.mem_cons_self)
  · exact Prod.Lex.left _ _ (sizeOf_of_mem_children ‹property ∈ properties›)
  · exact Prod.Lex.left _ _ (sizeOf_of_mem_children (List.mem_of_find?_eq_some ‹_›))

end

theorem normalForm_none (field : Attribute) : field.normalForm none = none := by
  rw [normalForm]

theorem normalForm_some (field : Attribute) (document : Json) :
    field.normalForm (some document) = if field.lacks document then none else some (field.normalize document) := by
  rw [normalForm]

theorem normalize_plain {field : Attribute} (plain : field.isPlain = true) (document : Json) :
    field.normalize document = document := by
  cases field with
  | arrayOf | record | union => simp [isPlain] at plain
  | _ => rw [normalize] <;> simp

theorem normalize_union {info : Info} {candidates : List Attribute} {document : Json} {winner : Attribute}
    (found : (candidates.find? fun candidate =>
      candidate.type? == (union info candidates).winningType? document) = some winner) :
    (union info candidates).normalize document = winner.normalize document := by
  rw [normalize]
  split
  next other taken =>
    obtain rfl := Option.some.inj (found.symm.trans taken)
    rfl
  next missing => simp [found] at missing

end Attribute

namespace Value

theorem itemsToJson_eq (items : List Value) : itemsToJson items = items.map fun item => item.toJson?.getD .null := by
  induction items with
  | nil => rfl
  | cons item rest ih => rw [itemsToJson, ih, List.map_cons]

theorem propertiesToJson_eq (properties : List Value) :
    propertiesToJson properties =
      properties.filterMap fun property => property.toJson?.map (Prod.mk property.name) := by
  induction properties with
  | nil => rfl
  | cons property rest ih =>
    rw [propertiesToJson, List.filterMap_cons]
    cases property.toJson? with
    | none => exact ih
    | some value => exact congrArg _ ih

theorem toJson?_eq_none_iff (value : Value) : value.toJson? = none ↔ value.isAbsent = true := by
  cases value with
  | union field winner =>
    rw [toJson?, isAbsent]
    exact winner.toJson?_eq_none_iff
  | _ => simp [toJson?, isAbsent]

theorem keys_propertiesToJson (properties : List Value) :
    Members.keys (propertiesToJson properties) = (properties.filter fun property => !property.isAbsent).map name := by
  induction properties with
  | nil => rfl
  | cons property rest ih =>
    have absent_iff := property.toJson?_eq_none_iff
    rw [propertiesToJson, List.filter_cons]
    cases written : property.toJson? with
    | none => simpa [absent_iff.mp written] using ih
    | some value =>
      have present : property.isAbsent = false := by simpa [written] using absent_iff
      simpa [present, Members.keys] using ih

theorem nodup_keys_propertiesToJson {properties : List Value} (distinct : (properties.map name).Nodup) :
    (Members.keys (propertiesToJson properties)).Nodup := by
  rw [keys_propertiesToJson]
  exact (List.filter_sublist.map name).nodup distinct

-- Nothing is overwritten when the members are put together.
theorem toJson?_record {field : Attribute} {properties : List Value} (distinct : (properties.map name).Nodup) :
    (record field properties).toJson? = some (.object (propertiesToJson properties)) := by
  rw [toJson?, Members.ofPairs_eq_self (nodup_keys_propertiesToJson distinct)]

end Value

namespace Attribute

variable {path : Path} {node : Value} {document : Json}

theorem effectiveType_of_acceptSupplied {field : Attribute} {type : JsonType} (regular : field.Regular)
    (typed : field.type? = some type) (accepted : field.acceptSupplied document path = .ok node) :
    node.effectiveType = type := by
  cases field with
  | arrayOf info items =>
    obtain ⟨_, _, _, _, rfl⟩ := acceptSupplied_arrayOf.mp accepted
    exact Option.some.inj typed
  | record info properties =>
    obtain ⟨_, _, _, _, _, rfl⟩ := (acceptSupplied_record regular.record).mp accepted
    exact Option.some.inj typed
  | union => simp [type?] at typed
  | _ => exact Option.some.inj ((plain_of_acceptSupplied rfl accepted).2.2.2.symm.trans typed)

theorem names_of_accept {given : Attribute → Option Json} {properties : List Attribute} {nodes : List Value}
    (children : List.Forall₂ (fun property child => property.accept (given property) = .ok child) properties nodes) :
    nodes.map Value.name = properties.map name :=
  (Pairing.map_eq children fun _ _ accepted => (name_of_acceptAt accepted).symm).symm

theorem projection_of_accept {field : Attribute} {value : Option Json}
    (supplied : ∀ document node, field.acceptSupplied document [] = .ok node →
      node.toJson? = some (field.normalize document))
    (accepted : field.accept value = .ok node) : node.toJson? = field.normalForm value := by
  have missing (accepted : field.acceptAbsent [] = .ok node) : node.toJson? = none :=
    (isAbsent_of_acceptAbsent accepted).2.1
  cases value with
  | none =>
    rw [normalForm_none]
    exact missing accepted
  | some document =>
    rw [normalForm_some]
    simp only [accept, acceptAt] at accepted
    split at accepted
    next lacking =>
      rw [if_pos lacking]
      exact missing accepted
    next given =>
      rw [if_neg given]
      exact supplied document node accepted

theorem projection_of_acceptSupplied {field : Attribute} (regular : field.Regular)
    (accepted : field.acceptSupplied document [] = .ok node) :
    node.toJson? = some (field.normalize document) := by
  induction field generalizing document node with
  | arrayOf info items ih =>
    obtain ⟨elements, nodes, rfl, each, rfl⟩ := acceptSupplied_arrayOf.mp accepted
    have same : elements.map (fun element => (items.normalForm (some element)).getD .null) =
        nodes.map fun item => item.toJson?.getD .null :=
      Pairing.map_eq each fun element item taken => by
        rw [projection_of_accept (fun _ _ => ih regular.items) taken]
    rw [normalize, Value.toJson?, Value.itemsToJson_eq, same]
  | record info properties ih =>
    obtain ⟨members, nodes, rfl, -, children, rfl⟩ := (acceptSupplied_record regular.record).mp accepted
    have same : properties.filterMap (fun property =>
        (property.normalForm (Members.get? members property.name)).map (Prod.mk property.name)) =
          nodes.filterMap fun child => child.toJson?.map (Prod.mk child.name) := by
      apply Pairing.filterMap_eq (Pairing.with_members children)
      intro property child both
      obtain ⟨member, -, taken⟩ := both
      rw [projection_of_accept (fun _ _ => ih property member (regular.property member)) taken, name_of_acceptAt taken]
    have distinct : (nodes.map Value.name).Nodup := names_of_accept children ▸ regular.record.distinct
    rw [normalize, Value.toJson?_record distinct, Value.propertiesToJson_eq, same]
  | union info candidates ih =>
    have lacking := not_lacks_of_acceptSupplied regular accepted
    obtain ⟨before, candidate, after, winner, split, -, taken, rfl⟩ := acceptSupplied_union.mp accepted
    have member : candidate ∈ candidates := by simp [split]
    obtain ⟨type, typed⟩ := Option.isSome_iff_exists.mp (regular.union.typed candidate member)
    -- The type that won leads back to the candidate, since no other has that type.
    have won : (union info candidates).winningType? document = some type := by
      have effective := effectiveType_of_acceptSupplied (regular.candidate member) typed taken
      simp [winningType?, accept, acceptAt, lacking, accepted, Except.toOption, Value.effectiveType, effective]
    have found : (candidates.find? fun other => other.type? == (union info candidates).winningType? document) =
        some candidate := by
      rw [won, ← typed]
      exact (find?_image_eq_some regular.union.distinct).mpr ⟨member, rfl⟩
    rw [normalize_union found, Value.toJson?]
    exact ih candidate member (regular.candidate member) taken
  | _ =>
    rw [normalize_plain rfl]
    exact (plain_of_acceptSupplied rfl accepted).1

/-- What an accepted value is written as is the normal form of what was supplied. It is nothing exactly for an absent
value. -/
theorem toJson?_eq_normalForm {limit : Nat} {schema : Json} {name : String} {required : Bool} {field : Attribute}
    (distinct : schema.DistinctKeys) (read : Attribute.ofDocument limit schema name required = .ok field)
    {value : Option Json} (accepted : field.accept value = .ok node) :
    node.toJson? = field.normalForm value ∧ (node.toJson? = none ↔ node.isAbsent = true) := by
  have regular := (Node.ofDocument_eq_ok.mp read).regular distinct
  have projected := projection_of_accept (fun _ _ => projection_of_acceptSupplied regular) accepted
  exact ⟨projected, node.toJson?_eq_none_iff⟩

theorem toJson?_eq_normalForm_sample :
    Json.sampleSchema.DistinctKeys ∧ Attribute.ofDocument 4 Json.sampleSchema "" true = .ok Attribute.sample ∧
      ∃ node, Attribute.sample.accept (some Json.sampleCredential) = .ok node ∧
        node.toJson? = Attribute.sample.normalForm (some Json.sampleCredential) ∧
        (node.toJson? = none ↔ node.isAbsent = true) :=
  ⟨Json.distinctKeys_sampleSchema, rfl, _, rfl,
    @toJson?_eq_normalForm _ 4 Json.sampleSchema "" true Attribute.sample Json.distinctKeys_sampleSchema rfl _ rfl⟩

end Attribute

end Credential
