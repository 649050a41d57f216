import Credential.Proofs.Value.Projection
import Mathlib.Logic.Relation

/-! Well-formed value trees.

A node of an accepted value has the payload that its attribute calls for, and
its parts have the attributes that stand below that one. Where an attribute
requires a value, its node is never absent.
-/

set_option autoImplicit false

namespace Credential

namespace Value

/-- The nodes right below: the items of an array, the properties of an object, the winner of a union. -/
def children : Value → List Value
  | arrayOf _ items => items
  | record _ properties => properties
  | union _ winner => [winner]
  | _ => []

def HasNode : Value → Value → Prop :=
  Relation.ReflTransGen fun parent child => child ∈ parent.children

def Everywhere (holds : Value → Prop) (value : Value) : Prop :=
  ∀ node, value.HasNode node → holds node

theorem everywhere_iff {holds : Value → Prop} {value : Value} :
    value.Everywhere holds ↔ holds value ∧ ∀ child ∈ value.children, child.Everywhere holds := by
  constructor
  · intro all
    exact ⟨all value .refl, fun child member node inside => all node (.head member inside)⟩
  · rintro ⟨here, below⟩ node inside
    obtain rfl | ⟨child, member, inside⟩ := Relation.ReflTransGen.cases_head_iff.mp inside
    · exact here
    · exact below child member node inside

/-- The payload is of the kind of the node's attribute, and the parts have the attributes below it. A whole number is
whole, and a scalar with a list of allowed values is one of them. -/
inductive WellFormed : Value → Prop where
  | absent {field : Attribute} {type : JsonType} : field.type? = some type → field.required = false →
      WellFormed (.absent field type)
  | boolean {info : Info} {allowed : Option (List Bool)} {value : Bool} :
      (∀ values ∈ allowed, value ∈ values) → WellFormed (.boolean (.boolean info allowed) value)
  | integer {info : Info} {allowed : Option (List Number)} {value : Number} : value.isIntegral = true →
      (∀ values ∈ allowed, ∃ entry ∈ values, entry.agrees value = true) →
      WellFormed (.integer (.integer info allowed) value)
  | number {info : Info} {allowed : Option (List Number)} {value : Number} :
      (∀ values ∈ allowed, ∃ entry ∈ values, entry.agrees value = true) →
      WellFormed (.number (.number info allowed) value)
  | string {info : Info} {format : Option String} {allowed : Option (List String)} {value : String} :
      (∀ values ∈ allowed, value ∈ values) → WellFormed (.string (.string info format allowed) value)
  | null (info : Info) : WellFormed (.null (.null info))
  | anyArray (info : Info) (items : List Json) : WellFormed (.anyArray (.anyArray info) items)
  | arrayOf {info : Info} {schema : Attribute} {items : List Value} : (∀ item ∈ items, item.field = schema) →
      WellFormed (.arrayOf (.arrayOf info schema) items)
  | anyObject (info : Info) (members : Members) : WellFormed (.anyObject (.anyObject info) members)
  | record {info : Info} {declared : List Attribute} {properties : List Value} :
      properties.map field = declared → WellFormed (.record (.record info declared) properties)
  | union {info : Info} {candidates : List Attribute} {winner : Value} : winner.field ∈ candidates →
      winner.field.type? = some (Value.union (.union info candidates) winner).effectiveType →
      WellFormed (.union (.union info candidates) winner)

theorem everywhere_of_leaf {holds : Value → Prop} {value : Value} (leaf : value.children = []) (here : holds value) :
    value.Everywhere holds := by
  refine everywhere_iff.mpr ⟨here, ?_⟩
  rw [leaf]
  exact List.forall_mem_nil _

theorem WellFormed.field_of_mem_children {value child : Value} (here : value.WellFormed)
    (member : child ∈ value.children) : child.field ∈ value.field.children := by
  cases here with
  | arrayOf each => exact List.mem_singleton.mpr (each child member)
  | record same => exact same ▸ List.mem_map_of_mem member
  | union inside typed =>
    obtain rfl := List.mem_singleton.mp member
    exact inside
  | _ => exact nomatch member

theorem hasNode_field {value node : Value} (formed : value.Everywhere WellFormed) (inside : value.HasNode node) :
    value.field.HasNode node.field := by
  induction inside using Relation.ReflTransGen.head_induction_on with
  | refl => exact .root node.field
  | head member _ ih =>
    obtain ⟨here, below⟩ := everywhere_iff.mp formed
    exact .under (here.field_of_mem_children member) (ih (below _ member))

-- Absence is passed on from the winner of a union, which has the flag of the union and is no union itself.
theorem required_eq_false_of_isAbsent {value : Value} (regular : value.field.Regular)
    (formed : value.Everywhere WellFormed) (absent : value.isAbsent = true) : value.field.required = false := by
  obtain ⟨here, below⟩ := everywhere_iff.mp formed
  cases here with
  | absent _ optional => exact optional
  | @union info candidates winner inside typed =>
    have alike : winner.field.required = info.required := congrArg Info.required (regular.union.alike _ inside)
    cases (everywhere_iff.mp (below winner List.mem_cons_self)).1 with
    | absent _ optional => exact alike.symm.trans optional
    | union => simp [field, Attribute.type?] at typed
    | _ => exact absurd absent Bool.false_ne_true
  | _ => exact absurd absent Bool.false_ne_true

end Value

namespace Attribute

open Success
open Value (WellFormed everywhere_of_leaf)

variable {path : Path} {node : Value} {document : Json}

/-! ## What accepting builds -/

theorem effectiveType_of_acceptAbsent {field : Attribute} {type : JsonType} (typed : field.type? = some type)
    (accepted : field.acceptAbsent path = .ok node) : node.effectiveType = type := by
  cases field with
  | union => simp [type?] at typed
  | _ =>
    obtain ⟨-, rfl⟩ := absentAs_eq_ok.mp accepted
    exact Option.some.inj typed

theorem everywhere_union {info : Info} {candidates : List Attribute} {candidate : Attribute} {winner : Value}
    (regular : (union info candidates).Regular) (member : candidate ∈ candidates) (same : winner.field = candidate)
    (effective : ∀ type, candidate.type? = some type → winner.effectiveType = type)
    (below : winner.Everywhere WellFormed) :
    (Value.union (.union info candidates) winner).Everywhere WellFormed := by
  obtain ⟨type, typed⟩ := Option.isSome_iff_exists.mp (regular.union.typed candidate member)
  refine Value.everywhere_iff.mpr ⟨.union (same ▸ member) ?_, fun child inside => ?_⟩
  · rw [same, typed]
    exact congrArg some (effective type typed).symm
  · obtain rfl := List.mem_singleton.mp inside
    exact below

theorem everywhere_of_acceptAbsent {field : Attribute} (regular : field.Regular)
    (accepted : field.acceptAbsent path = .ok node) : node.Everywhere WellFormed := by
  induction field generalizing path node with
  | union info candidates ih =>
    obtain ⟨-, before, candidate, after, winner, split, -, taken, rfl⟩ := acceptAbsent_union.mp accepted
    have member : candidate ∈ candidates := by simp [split]
    exact everywhere_union regular member (isAbsent_of_acceptAbsent taken).2.2
      (fun _ typed => effectiveType_of_acceptAbsent typed taken)
      (ih candidate member (regular.candidate member) taken)
  | _ =>
    obtain ⟨optional, rfl⟩ := absentAs_eq_ok.mp accepted
    exact everywhere_of_leaf rfl (.absent rfl optional)

theorem everywhere_of_acceptSupplied_plain {field : Attribute} (plain : field.isPlain = true)
    (accepted : field.acceptSupplied document path = .ok node) : node.Everywhere WellFormed := by
  cases field with
  | arrayOf | record | union => simp [isPlain] at plain
  | boolean info allowed =>
    cases document <;> simp [acceptSupplied, mismatch, Rejection.throw, within_eq_ok] at accepted
    obtain ⟨listed, rfl⟩ := accepted
    exact everywhere_of_leaf rfl (.boolean (by simpa using listed))
  | integer info allowed =>
    cases document with
    | number value =>
      simp only [acceptSupplied] at accepted
      split at accepted
      next integral =>
        obtain ⟨listed, rfl⟩ := within_eq_ok.mp accepted
        exact everywhere_of_leaf rfl (.integer integral listed)
      · simp [mismatch, Rejection.throw] at accepted
    | _ => simp [acceptSupplied, mismatch, Rejection.throw] at accepted
  | number info allowed =>
    cases document <;> simp [acceptSupplied, mismatch, Rejection.throw, within_eq_ok] at accepted
    obtain ⟨listed, rfl⟩ := accepted
    exact everywhere_of_leaf rfl (.number (by simpa using listed))
  | string info format allowed =>
    cases document <;> simp [acceptSupplied, mismatch, Rejection.throw, within_eq_ok] at accepted
    obtain ⟨listed, rfl⟩ := accepted
    exact everywhere_of_leaf rfl (.string (by simpa using listed))
  | null info =>
    cases document <;> simp [acceptSupplied, mismatch, Rejection.throw] at accepted
    exact accepted ▸ everywhere_of_leaf rfl (.null info)
  | anyArray info =>
    cases document <;> simp [acceptSupplied, mismatch, Rejection.throw] at accepted
    exact accepted ▸ everywhere_of_leaf rfl (.anyArray info _)
  | anyObject info =>
    cases document <;> simp [acceptSupplied, mismatch, Rejection.throw] at accepted
    exact accepted ▸ everywhere_of_leaf rfl (.anyObject info _)

theorem everywhere_of_accept {field : Attribute} {value : Option Json} (regular : field.Regular)
    (supplied : ∀ document node, field.acceptSupplied document [] = .ok node → node.Everywhere WellFormed)
    (accepted : field.accept value = .ok node) : node.Everywhere WellFormed := by
  unfold accept acceptAt at accepted
  split at accepted
  · exact everywhere_of_acceptAbsent regular accepted
  · split at accepted
    · exact everywhere_of_acceptAbsent regular accepted
    · exact supplied _ _ accepted

theorem everywhere_of_acceptSupplied {field : Attribute} (regular : field.Regular)
    (accepted : field.acceptSupplied document [] = .ok node) : node.Everywhere WellFormed := by
  induction field generalizing document node with
  | arrayOf info items ih =>
    obtain ⟨elements, nodes, rfl, each, rfl⟩ := acceptSupplied_arrayOf.mp accepted
    refine Value.everywhere_iff.mpr ⟨.arrayOf fun item member => ?_, fun item member => ?_⟩
    · obtain ⟨element, -, taken⟩ := Pairing.exists_left each member
      exact field_of_acceptAt taken
    · obtain ⟨element, -, taken⟩ := Pairing.exists_left each member
      exact everywhere_of_accept regular.items (fun _ _ => ih regular.items) taken
  | record info properties ih =>
    obtain ⟨members, nodes, rfl, -, children, rfl⟩ := (acceptSupplied_record regular.record).mp accepted
    have declared : nodes.map Value.field = properties := by
      rw [← Pairing.map_eq children fun _ _ taken => (field_of_acceptAt taken).symm, List.map_id']
    refine Value.everywhere_iff.mpr ⟨.record declared, fun child stored => ?_⟩
    obtain ⟨property, -, member, -, taken⟩ := Pairing.exists_left (Pairing.with_members children) stored
    exact everywhere_of_accept (regular.property member) (fun _ _ => ih property member (regular.property member)) taken
  | union info candidates ih =>
    obtain ⟨before, candidate, after, winner, split, -, taken, rfl⟩ := acceptSupplied_union.mp accepted
    have member : candidate ∈ candidates := by simp [split]
    exact everywhere_union regular member (field_of_acceptSupplied taken)
      (fun _ typed => effectiveType_of_acceptSupplied (regular.candidate member) typed taken)
      (ih candidate member (regular.candidate member) taken)
  | _ => exact everywhere_of_acceptSupplied_plain rfl accepted

/-- The tree of an accepted value is that of its attribute. All of its nodes are well formed, and none is absent where
its attribute requires a value. In particular a required value is written as some document. -/
theorem nodes_wellFormed {limit : Nat} {schema : Json} {name : String} {required : Bool} {field : Attribute}
    (distinct : schema.DistinctKeys) (read : Attribute.ofDocument limit schema name required = .ok field)
    {value : Option Json} (accepted : field.accept value = .ok node) :
    node.field = field ∧
      (∀ inner, node.HasNode inner → inner.WellFormed ∧ (inner.field.required = true → inner.isAbsent = false)) ∧
      (required = true → node.toJson? ≠ none) := by
  have described := Node.ofDocument_eq_ok.mp read
  have regular := described.regular distinct
  have formed := everywhere_of_accept regular (fun _ _ => everywhere_of_acceptSupplied regular) accepted
  have same := field_of_acceptAt accepted
  have present (inner : Value) (inside : node.HasNode inner) (needed : inner.field.required = true) :
      inner.isAbsent = false := by
    by_contra absent
    have regularInner := (same ▸ regular : node.field.Regular).node (Value.hasNode_field formed inside)
    have below : inner.Everywhere WellFormed := fun other deeper => formed other (inside.trans deeper)
    have optional := Value.required_eq_false_of_isAbsent regularInner below (Bool.not_eq_false _ ▸ absent)
    exact absurd (needed.symm.trans optional) (by decide)
  refine ⟨same, fun inner inside => ⟨formed inner inside, present inner inside⟩, fun needed unwritten => ?_⟩
  have absent := node.toJson?_eq_none_iff.mp unwritten
  have flagged : node.field.required = true := by rw [same, described.required_eq, needed]
  exact absurd (absent.symm.trans (present node .refl flagged)) (by decide)

theorem nodes_wellFormed_sample :
    Json.sampleSchema.DistinctKeys ∧ Attribute.ofDocument 4 Json.sampleSchema "" true = .ok Attribute.sample ∧
      ∃ node, Attribute.sample.accept (some Json.sampleCredential) = .ok node ∧ node.field = Attribute.sample ∧
        (∀ inner, node.HasNode inner → inner.WellFormed ∧ (inner.field.required = true → inner.isAbsent = false)) ∧
        node.toJson? ≠ none := by
  obtain ⟨same, formed, written⟩ := @nodes_wellFormed _ 4 Json.sampleSchema "" true Attribute.sample
    Json.distinctKeys_sampleSchema rfl (some Json.sampleCredential) rfl
  exact ⟨Json.distinctKeys_sampleSchema, rfl, _, rfl, same, formed, written rfl⟩

end Attribute

end Credential
