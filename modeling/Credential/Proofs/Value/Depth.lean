import Credential.Proofs.Schema.Depth
import Credential.Proofs.Value.Conflicts
import Credential.Proofs.Value.WellFormed

/-! The depth of values, as bounded by that of the schema.

A value that comes from outside may be nested as it likes. What accepting makes
of it has no more levels than the attribute, and neither has the place of a
rejection. Arrays and objects that the schema does not look into are one node.
-/

set_option autoImplicit false

namespace Credential

namespace Value

mutual

/-- The number of levels below a node. The items of an array and the properties of an object lie one level down, and
the winner of a union on the level of the union. -/
def depth : Value → Nat
  | arrayOf _ items => deepest items
  | record _ properties => deepest properties
  | union _ winner => winner.depth
  | _ => 0

def deepest : List Value → Nat
  | [] => 0
  | part :: rest => max (part.depth + 1) (deepest rest)

end

theorem deepest_le {levels : Nat} {parts : List Value} (each : ∀ part ∈ parts, part.depth < levels) :
    deepest parts ≤ levels := by
  induction parts with
  | nil => exact Nat.zero_le levels
  | cons part rest ih =>
    obtain ⟨first, each⟩ := List.forall_mem_cons.mp each
    exact Nat.max_le.mpr ⟨first, ih each⟩

theorem sizeOf_of_mem_children {value child : Value} (member : child ∈ value.children) :
    sizeOf child < sizeOf value := by
  cases value with
  | arrayOf field items =>
    have inside := @List.sizeOf_lt_of_mem _ _ _ items member
    simp only [arrayOf.sizeOf_spec]
    omega
  | record field properties =>
    have inside := @List.sizeOf_lt_of_mem _ _ _ properties member
    simp only [record.sizeOf_spec]
    omega
  | union field winner =>
    obtain rfl := List.mem_singleton.mp member
    simp only [union.sizeOf_spec]
    omega
  | _ => exact nomatch member

theorem depth_le {value : Value} (formed : value.Everywhere WellFormed) : value.depth ≤ value.field.depth := by
  obtain ⟨here, below⟩ := everywhere_iff.mp formed
  have parts (part : Value) (member : part ∈ value.children) : part.depth ≤ part.field.depth :=
    have smaller := sizeOf_of_mem_children member
    depth_le (below part member)
  -- A typed node and its attribute go down a level together. A union goes down none.
  cases here with
  | arrayOf each | record each =>
    rw [depth]
    refine deepest_le fun part member => Nat.lt_of_le_of_lt (parts part member) ?_
    exact Attribute.depth_child rfl ((everywhere_iff.mp formed).1.field_of_mem_children member)
  | @union info candidates winner inside typed =>
    rw [depth]
    exact Nat.le_trans (parts winner List.mem_cons_self) (Attribute.depth_candidate inside)
  | _ => exact Nat.zero_le _
termination_by sizeOf value

end Value

/-- A node of an accepted value, next to what was supplied for it. -/
structure Placed where
  value : Value
  document : Option Json

namespace Placed

open Attribute

/-- The parts of a node next to the parts of its document. The winner of a union stands for the whole of it. -/
inductive Step : Placed → Placed → Prop where
  | item {field : Attribute} {items : List Value} {elements : List Json} {position : Nat} {item : Value}
      {element : Json} : items[position]? = some item → elements[position]? = some element →
      Step ⟨.arrayOf field items, some (.array elements)⟩ ⟨item, some element⟩
  | property {field : Attribute} {properties : List Value} {property : Value} {members : Members} :
      property ∈ properties → Step ⟨.record field properties, some (.object members)⟩
        ⟨property, members.get? property.name⟩
  | winner {field : Attribute} {winner : Value} {document : Option Json} :
      Step ⟨.union field winner, document⟩ ⟨winner, document⟩

def Leads : Placed → Placed → Prop := Relation.ReflTransGen Step

/-- Where the schema does not look into arrays or objects, the node is the supplied one as a whole. -/
structure Verbatim (placed : Placed) : Prop where
  array : ∀ info items, placed.value.field = .anyArray info → placed.document = some (.array items) →
    placed.value = .anyArray (.anyArray info) items
  object : ∀ info members, placed.value.field = .anyObject info → placed.document = some (.object members) →
    placed.value = .anyObject (.anyObject info) members

structure Accepted (placed : Placed) : Prop where
  regular : placed.value.field.Regular
  accepted : placed.value.field.accept placed.document = .ok placed.value

theorem Accepted.verbatim {placed : Placed} (given : placed.Accepted) : placed.Verbatim := by
  obtain ⟨value, document⟩ := placed
  refine ⟨?_, ?_⟩
  · rintro info items same rfl
    have accepted := given.accepted
    simp only [same] at accepted
    exact (Except.ok.inj accepted).symm
  · rintro info members same rfl
    have accepted := given.accepted
    simp only [same] at accepted
    exact (Except.ok.inj accepted).symm

theorem Accepted.formed {placed : Placed} (given : placed.Accepted) : placed.value.Everywhere Value.WellFormed :=
  everywhere_of_accept given.regular (fun _ _ => everywhere_of_acceptSupplied given.regular) given.accepted

theorem Accepted.step {first second : Placed} (given : first.Accepted) (step : first.Step second) :
    second.Accepted := by
  have here := (Value.everywhere_iff.mp given.formed).1
  obtain ⟨regular, accepted⟩ := given
  cases step with
  | item stored supplied =>
    cases here with
    | arrayOf =>
      obtain ⟨_, ⟨⟩, accepted⟩ := exists_supplied accepted rfl
      obtain ⟨_, _, ⟨⟩, pairing, ⟨⟩⟩ := acceptSupplied_arrayOf.mp accepted
      obtain ⟨element, suppliedToo, taken⟩ := Pairing.exists_of_getElem? pairing stored
      obtain rfl := Option.some.inj (suppliedToo.symm.trans supplied)
      obtain rfl := field_of_acceptAt taken
      exact ⟨regular.items, taken⟩
  | property stored =>
    cases here with
    | record =>
      obtain ⟨_, ⟨⟩, accepted⟩ := exists_supplied accepted rfl
      obtain ⟨_, _, ⟨⟩, -, pairing, ⟨⟩⟩ := (acceptSupplied_record regular.record).mp accepted
      obtain ⟨property, -, member, -, taken⟩ := Pairing.exists_left (Pairing.with_members pairing) stored
      obtain rfl := field_of_acceptAt taken
      exact ⟨regular.property member, taken⟩
  | winner =>
    cases here with
    | union =>
      obtain ⟨before, candidate, after, _, split, taken, ⟨⟩, -⟩ := exists_first_candidate regular accepted
      obtain rfl := field_of_acceptAt taken
      exact ⟨regular.candidate (by simp [split]), taken⟩

theorem Accepted.reaches {placed : Placed} (given : placed.Accepted) {child : Value}
    (member : child ∈ placed.value.children) : ∃ part, placed.Step ⟨child, part⟩ := by
  have here := (Value.everywhere_iff.mp given.formed).1
  obtain ⟨value, document⟩ := placed
  obtain ⟨regular, accepted⟩ := given
  cases here with
  | arrayOf =>
    obtain ⟨_, rfl, accepted⟩ := exists_supplied accepted rfl
    obtain ⟨_, _, rfl, pairing, ⟨⟩⟩ := acceptSupplied_arrayOf.mp accepted
    obtain ⟨position, stored⟩ := List.getElem?_of_mem member
    obtain ⟨element, supplied, -⟩ := Pairing.exists_of_getElem? pairing stored
    exact ⟨some element, .item stored supplied⟩
  | record =>
    obtain ⟨_, rfl, accepted⟩ := exists_supplied accepted rfl
    obtain ⟨_, _, rfl, -⟩ := (acceptSupplied_record regular.record).mp accepted
    exact ⟨_, .property member⟩
  | union =>
    obtain rfl := List.mem_singleton.mp member
    exact ⟨document, .winner⟩
  | _ => exact nomatch member

theorem Accepted.leads {first second : Placed} (given : first.Accepted) (leads : first.Leads second) :
    second.Accepted := by
  induction leads with
  | refl => exact given
  | tail _ step ih => exact ih.step step

theorem Accepted.leads_to {value node : Value} {document : Option Json} (given : Accepted ⟨value, document⟩)
    (inside : value.HasNode node) : ∃ part, Leads ⟨value, document⟩ ⟨node, part⟩ := by
  induction inside using Relation.ReflTransGen.head_induction_on generalizing document with
  | refl => exact ⟨document, .refl⟩
  | head member _ ih =>
    obtain ⟨below, step⟩ := given.reaches member
    obtain ⟨part, leads⟩ := ih (given.step step)
    exact ⟨part, .head step leads⟩

end Placed

namespace Attribute

theorem Meets.length_le {field : Attribute} {value : Option Json} {path : Path} {rejection : Rejection}
    (meets : field.Meets value path rejection) : rejection.path.length ≤ path.length + field.depth := by
  -- Each step into a value goes down a level in the tree.
  induction meets with
  | @element info items elements position element path rejection supplied _ ih =>
    have lower : items.depth < (arrayOf info items).depth := depth_child rfl List.mem_cons_self
    simp only [Path.index, List.length_append, List.length_singleton] at ih
    omega
  | @member info properties property members document path rejection inside _ _ ih
  | @unsupplied info properties property members path rejection inside _ _ ih =>
    have lower : property.depth < (record info properties).depth := depth_child rfl inside
    simp only [Path.key, List.length_append, List.length_singleton] at ih
    omega
  | _ => exact Nat.le_add_right ..

/-- The limit on schemas carries over to values. However deep a document is, what it is accepted as keeps to the limit
of its schema, and so does the place that it is rejected for. What the schema does not look into is a single node. -/
theorem accept_depth_le {limit : Nat} {schema : Json} {name : String} {required : Bool} {field : Attribute}
    (distinct : schema.DistinctKeys) (read : Attribute.ofDocument limit schema name required = .ok field)
    (value : Option Json) :
    (∀ node, field.accept value = .ok node → node.depth ≤ limit ∧
      (∀ inner, node.HasNode inner → ∃ part, Placed.Leads ⟨node, value⟩ ⟨inner, part⟩) ∧
      ∀ placed, Placed.Leads ⟨node, value⟩ placed → placed.Verbatim) ∧
    ∀ rejection, field.accept value = .error rejection → rejection.path.length ≤ limit := by
  have described := Node.ofDocument_eq_ok.mp read
  have regular := described.regular distinct
  have shallow : field.depth ≤ limit := Nat.le_of_lt_succ described.depth_lt
  refine ⟨fun node accepted => ?_, fun rejection rejected => ?_⟩
  · obtain rfl := field_of_acceptAt accepted
    have given : Placed.Accepted ⟨node, value⟩ := ⟨regular, accepted⟩
    refine ⟨Nat.le_trans (Value.depth_le given.formed) shallow, fun inner inside => given.leads_to inside, ?_⟩
    exact fun placed leads => (given.leads leads).verbatim
  · have bounded := (meets_of_rejected regular rejected).length_le
    rw [List.length_nil, Nat.zero_add] at bounded
    exact Nat.le_trans bounded shallow

end Attribute

def Json.sampleDeep : Json :=
  .object [
    ("credentialSubject", .object [
      ("address", .object [("lines", .array [.array [.array [.string "a"]]])]),
      ("tags", .array [.null])])]

theorem Attribute.accept_depth_le_sample :
    Json.sampleSchema.DistinctKeys ∧ Attribute.ofDocument 3 Json.sampleSchema "" true = .ok Attribute.sample ∧
      (∃ node, Attribute.sample.accept (some Json.sampleDeep) = .ok node ∧ node.depth ≤ 3 ∧
        ∀ placed, Placed.Leads ⟨node, some Json.sampleDeep⟩ placed → placed.Verbatim) ∧
      ∃ rejection, Attribute.sample.accept (some Json.sampleConflicting) = .error rejection ∧
        rejection.path.length ≤ 3 := by
  have bounded := @Attribute.accept_depth_le 3 Json.sampleSchema "" true Attribute.sample
    Json.distinctKeys_sampleSchema rfl
  obtain ⟨shallow, -, verbatim⟩ := (bounded (some Json.sampleDeep)).1 _ rfl
  exact ⟨Json.distinctKeys_sampleSchema, rfl, ⟨_, rfl, shallow, verbatim⟩, _, rfl,
    (bounded (some Json.sampleConflicting)).2 _ rfl⟩

end Credential
