import Credential.Proofs.Attribute.Address
import Credential.Proofs.Value.Blame

/-! Which node of the schema a rejection comes from.

The place of a rejection is one in the value. With `items` for every position
it is also one in the attribute, and looking it up there leads to the node whose
demand was not met. This holds of every conflict of a value, not only of the
first: the proof follows the walk over all of them.
-/

set_option autoImplicit false

namespace Credential

/-- The step through the attribute that belongs to a step through a value: all items of an array have one schema. -/
def Step.schematic : Step → Step
  | .key name => .key name
  | .index _ => .key "items"

def Path.schematic (path : Path) : Path := path.map Step.schematic

/-- The node makes the demand that the conflict says was not met. -/
def Conflict.IssuedBy (node : Attribute) : Conflict → Prop
  | .missing => node.required = true
  | .typeMismatch expected _ => node.types = [expected]
  | .outsideEnum _ allowed => node.allowed? = some allowed
  | .unknownKey key => (∃ info properties, node = .record info properties) ∧ node.property? key = none
  | .noMatchingType candidates => (∃ info members, node = .union info members) ∧ node.types = candidates

/-- The rejection comes from a node of the attribute, found at the place in it, where the attribute itself applies
at `base`. -/
def Rejection.ComesFrom (field : Attribute) (base : Path) (rejection : Rejection) : Prop :=
  ∃ path node, rejection.path = base ++ path ∧ field.find? path.schematic = some node ∧
    rejection.conflict.IssuedBy node

namespace Attribute

open Rejection (ComesFrom)

variable {base : Path} {rejection : Rejection} {field : Attribute} {info : Info}

/-! ## Looking up -/

theorem find?_items (items : Attribute) (position : Nat) (rest : Path) :
    (arrayOf info items).find? (Path.schematic (.index position :: rest)) = items.find? rest.schematic := by
  simp [Path.schematic, Step.schematic, find?]

theorem find?_property {properties : List Attribute} (distinct : (properties.map name).Nodup) {property : Attribute}
    (listed : property ∈ properties) (rest : Path) :
    (record info properties).find? (Path.schematic (.key property.name :: rest)) = property.find? rest.schematic := by
  have found := (find?_name_eq_some distinct).mpr ⟨listed, rfl⟩
  simp [Path.schematic, Step.schematic, find?, property?, properties?, found]

/-! ## One step down -/

theorem comesFrom_here {conflict : Conflict} (issued : conflict.IssuedBy field) :
    ComesFrom field base ⟨base, conflict⟩ :=
  ⟨[], field, (List.append_nil base).symm, find?_root field, issued⟩

theorem comesFrom_items {items : Attribute} {position : Nat} (below : ComesFrom items (base.index position) rejection) :
    ComesFrom (.arrayOf info items) base rejection := by
  obtain ⟨path, node, same, found, issued⟩ := below
  exact ⟨.index position :: path, node, same.trans (List.append_assoc base _ path),
    (find?_items items position path).trans found, issued⟩

theorem comesFrom_property {properties : List Attribute} (distinct : (properties.map name).Nodup)
    {property : Attribute} (listed : property ∈ properties)
    (below : ComesFrom property (base.key property.name) rejection) :
    ComesFrom (.record info properties) base rejection := by
  obtain ⟨path, node, same, found, issued⟩ := below
  exact ⟨.key property.name :: path, node, same.trans (List.append_assoc base _ path),
    (find?_property distinct listed path).trans found, issued⟩

/-! ## The walk -/

theorem comesFrom_of_meets {value : Option Json} (meets : field.Meets value base rejection) (regular : field.Regular) :
    ComesFrom field base rejection := by
  induction meets with
  | missing _ required => exact comesFrom_here required
  | mismatch typed => exact comesFrom_here (types_of_type? typed)
  | outside listed => exact comesFrom_here listed
  -- The conflicts of candidates stay inside the union, which says what it would have taken.
  | refused => exact comesFrom_here ⟨⟨_, _, rfl⟩, rfl⟩
  | unknown _ undeclared => exact comesFrom_here ⟨⟨_, _, rfl⟩, undeclared⟩
  | element _ _ ih => exact comesFrom_items (ih regular.items)
  | member declared _ _ ih | unsupplied declared _ _ ih =>
    exact comesFrom_property regular.record.distinct declared (ih (regular.property declared))

/-- A rejection identifies the node of the schema that rejected: it is found at the place of the rejection, with
`items` for every position, and makes the demand that the conflict names. -/
theorem rejection_identifies_node {limit : Nat} {schema : Json} {name : String} {required : Bool}
    (distinct : schema.DistinctKeys) (read : Attribute.ofDocument limit schema name required = .ok field)
    {value : Option Json} {rejection : Rejection} (rejected : field.accept value = .error rejection) :
    ∃ node, field.find? rejection.path.schematic = some node ∧ rejection.conflict.IssuedBy node := by
  have regular := (Node.ofDocument_eq_ok.mp read).regular distinct
  have comes := comesFrom_of_meets (meets_of_rejected regular rejected) regular
  obtain ⟨path, node, rfl, found, issued⟩ := comes
  exact ⟨node, found, issued⟩

end Attribute

theorem Attribute.rejection_identifies_node_sample :
    Json.sampleOddKeys.DistinctKeys ∧
      ∃ field rejection, Attribute.ofDocument 4 Json.sampleOddKeys "" true = .ok field ∧
        field.accept (some Json.sampleMisplaced) = .error rejection ∧
        rejection.path.schematic = [.key "a/b", .key "items", .key "m~n"] ∧
        rejection.conflict = .typeMismatch .string .boolean ∧
        ∃ node, field.find? rejection.path.schematic = some node ∧ rejection.conflict.IssuedBy node := by
  have distinct : Json.sampleOddKeys.DistinctKeys := by
    simp [Json.sampleOddKeys, Json.DistinctKeys, Json.DistinctKeysMembers]
  refine ⟨distinct, _, _, rfl, rfl, rfl, rfl, ?_⟩
  exact @Attribute.rejection_identifies_node _ 4 Json.sampleOddKeys "" true distinct rfl (some Json.sampleMisplaced) _
    rfl

end Credential
