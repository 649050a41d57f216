import Credential.Proofs.Attribute.Populated
import Credential.Proofs.Schema.Readings
import Credential.Proofs.Value.Satisfaction

/-! What a node of a tree owes to the document it was read from.

The names, flags, candidates and allowed values of a tree are those that its
document states, node by node, and the tree is not deeper than reading goes.
-/

set_option autoImplicit false

namespace Credential

namespace Attribute

/-- The candidates of a union stand for the listed types, in their order. If all of them are scalars, some entry of
`enum` is left to one. -/
structure UnionOf (document : Json) (info : Info) (candidates : List Attribute) : Prop
    extends RegularUnion info candidates where
  listed : document.get? "type" = some (Json.strings ((candidates.filterMap type?).map JsonType.token))
  kept : (∀ candidate ∈ candidates, ∃ type ∈ candidate.type?, type.supportsEnum = true) →
    ∃ candidate ∈ candidates, candidate.allowed? ≠ some []

/-- The properties of an object are those that the document declares, with the flags that it gives them. -/
structure RecordOf (document : Json) (properties : List Attribute) : Prop where
  distinct : (properties.map name).Nodup
  declared : ∃ members : Members, document.get? "properties" = some (.object members) ∧
    (properties.map name).Perm members.keys
  required : ∀ property ∈ properties, property.required = document.requires property.name

def PartsOf (document : Json) : Attribute → Prop
  | arrayOf info items => items.name = "items" ∧ items.required = info.required
  | record _ properties => RecordOf document properties
  | union info candidates => UnionOf document info candidates
  | _ => True

mutual

/-- The number of levels below a node. Items and properties lie one level down, candidates on the level of their
union. -/
def depth : Attribute → Nat
  | arrayOf _ items => items.depth + 1
  | record _ properties => deepest 1 properties
  | union _ candidates => deepest 0 candidates
  | _ => 0

def deepest (down : Nat) : List Attribute → Nat
  | [] => 0
  | part :: rest => max (part.depth + down) (deepest down rest)

end

theorem deepest_le {down levels : Nat} {parts : List Attribute} (each : ∀ part ∈ parts, part.depth + down ≤ levels) :
    deepest down parts ≤ levels := by
  induction parts with
  | nil => exact Nat.zero_le levels
  | cons part rest ih =>
    obtain ⟨first, each⟩ := List.forall_mem_cons.mp each
    exact Nat.max_le.mpr ⟨first, ih each⟩

end Attribute

namespace Reading

open Attribute

/-- A well-formed node: its parts are those of the document, and a scalar allows the entries of `enum` that have its
type. Outside of unions there is one if `enum` is there. -/
structure WellFormed (reading : Reading) : Prop where
  parts : PartsOf reading.document reading.field
  allowed : ∀ type ∈ reading.field.type?, type.supportsEnum = true →
    ∃ entries : Option (List Json), reading.document.get? "enum" = entries.map .array ∧
      reading.field.allowed? = entries.map (·.filter fun entry => entry.hasShape type)
  populated : reading.inUnion = false → reading.field.allowed? ≠ some []

inductive Made : Reading → Prop where
  | as {levels : Nat} {node : Members} {info : Info} {inUnion : Bool} {type : JsonType} {field : Attribute} :
      (Json.object node).DistinctKeys → Node.ReadsAs (Node.Describes levels) node info inUnion type field →
      Made ⟨.object node, field, inUnion⟩
  | union {levels : Nat} {node : Members} {name : String} {required : Bool} {info : Info}
      {candidates : List Attribute} : (Json.object node).DistinctKeys →
      Node.Reads (Node.Describes levels) node name required (.union info candidates) →
      Made ⟨.object node, .union info candidates, false⟩

theorem made_of_describes {levels : Nat} {document : Json} {name : String} {required : Bool} {field : Attribute}
    (distinct : document.DistinctKeys) (described : Node.Describes levels document name required field) :
    Made ⟨document, field, false⟩ := by
  cases levels with
  | zero => exact described.elim
  | succ levels =>
    obtain ⟨node, rfl, reads⟩ := described
    cases field with
    | union info candidates =>
      cases reads with
      | single _ _ _ reading => cases reading
      | union title description type several types each kept =>
        exact .union distinct (.union title description type several types each kept)
    | _ =>
      cases reads with
      | single _ _ _ reading => exact .as distinct reading

-- Each reading is made from the one above it.
theorem Made.step {first second : Reading} (made : Made first) (step : first.Step second) : Made second := by
  cases step with
  | items present =>
    cases made with
    | as distinct reading =>
      cases reading with
      | arrayOf found described =>
        obtain rfl := Option.some.inj (found.symm.trans present)
        exact made_of_describes (distinct.get? present) described
  | property present member found =>
    cases made with
    | as distinct reading =>
      cases reading with
      | record _ presentToo described =>
        obtain rfl := Json.object.inj (Option.some.inj (presentToo.symm.trans present))
        obtain ⟨below, foundToo, distinctBelow, describes⟩ :=
          Node.exists_member (distinct.get? present) described member
        obtain rfl := Option.some.inj (foundToo.symm.trans found)
        exact made_of_describes distinctBelow describes
  | candidate member =>
    cases made with
    | as _ reading => cases reading
    | union distinct reads =>
      cases reads with
      | single _ _ _ reading => cases reading
      | union _ _ _ _ _ each _ =>
        obtain ⟨type, -, reading⟩ := Pairing.exists_left each member
        exact .as distinct reading

theorem Made.reaches {reading : Reading} (made : Made reading) {child : Attribute}
    (member : child ∈ reading.field.children) : ∃ below, reading.Step below ∧ below.field = child := by
  cases made with
  | as distinct reading =>
    cases reading with
    | arrayOf present _ =>
      obtain rfl := List.mem_singleton.mp member
      exact ⟨_, .items present, rfl⟩
    | record _ present described =>
      obtain ⟨below, found, -, -⟩ := Node.exists_member (distinct.get? present) described member
      exact ⟨_, .property present member found, rfl⟩
    | _ => exact nomatch member
  | union => exact ⟨_, .candidate member, rfl⟩

theorem made_invariant : Invariant Made :=
  ⟨fun _ _ made step => made.step step, fun _ made _ member => made.reaches member⟩

end Reading

namespace Node

open Attribute

variable {levels : Nat} {node : Members} {info : Info} {inUnion : Bool} {type : JsonType} {field : Attribute}

theorem ReadsAs.depth_le
    (below : ∀ {document : Json} {name : String} {required : Bool} {field : Attribute},
      Describes levels document name required field → field.depth < levels)
    (reading : ReadsAs (Describes levels) node info inUnion type field) : field.depth ≤ levels := by
  cases reading with
  | arrayOf _ described =>
    rw [depth]
    exact below described
  | record _ _ described =>
    rw [depth]
    refine deepest_le fun property member => ?_
    obtain ⟨_, -, describes⟩ := Pairing.exists_left described (mem_objectsLast.mp member)
    exact below describes
  | _ =>
    simp only [depth]
    exact Nat.zero_le levels

theorem Describes.depth_lt {document : Json} {name : String} {required : Bool}
    (described : Describes levels document name required field) : field.depth < levels := by
  induction levels generalizing document name required field with
  | zero => exact described.elim
  | succ levels ih =>
    obtain ⟨node, rfl, reads⟩ := described
    -- Going down in the tree uses up a level, trying another candidate does not.
    refine Nat.lt_succ_of_le ?_
    cases reads with
    | single _ _ _ reading => exact reading.depth_le ih
    | union _ _ _ _ _ each _ =>
      rw [depth]
      refine deepest_le fun candidate member => ?_
      obtain ⟨type, -, reading⟩ := Pairing.exists_left each member
      exact reading.depth_le ih

end Node

namespace Attribute

end Attribute

end Credential
