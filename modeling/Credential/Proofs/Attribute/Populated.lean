import Credential.Proofs.Attribute.Regular
import Credential.Proofs.Schema.Enumeration

/-! Populated trees: outside of unions no list of allowed values is empty.

A candidate of a union may be left without an allowed value, but not all of the
candidates are.
-/

set_option autoImplicit false

namespace Credential

namespace Attribute

def PopulatedNode : Attribute → Prop
  | arrayOf _ items => items.allowed? ≠ some []
  | record _ properties => ∀ property ∈ properties, property.allowed? ≠ some []
  | union _ candidates => ∃ candidate ∈ candidates, candidate.allowed? ≠ some []
  | _ => True

/-- Neither the attribute nor a node below it is left without allowed values, save for candidates of unions. -/
structure Populated (field : Attribute) : Prop where
  here : field.allowed? ≠ some []
  everywhere : field.Everywhere PopulatedNode

theorem Populated.items {info : Info} {items : Attribute} (populated : (arrayOf info items).Populated) :
    items.Populated := by
  obtain ⟨here, below⟩ := everywhere_iff.mp populated.everywhere
  exact ⟨here, below items List.mem_cons_self⟩

theorem Populated.property {info : Info} {properties : List Attribute}
    (populated : (Attribute.record info properties).Populated) {property : Attribute}
    (member : property ∈ properties) : property.Populated := by
  obtain ⟨here, below⟩ := everywhere_iff.mp populated.everywhere
  exact ⟨here property member, below property member⟩

theorem Populated.candidate {info : Info} {candidates : List Attribute}
    (populated : (union info candidates).Populated) : ∃ candidate ∈ candidates, candidate.Populated := by
  obtain ⟨⟨candidate, member, filled⟩, below⟩ := everywhere_iff.mp populated.everywhere
  exact ⟨candidate, member, filled, below candidate member⟩

end Attribute

namespace Node

open Attribute

variable {levels : Nat} {node : Members} {info : Info} {inUnion : Bool} {type : JsonType} {field : Attribute}

theorem ReadsAs.allowed?_ne_nil {below : Relation} (reading : ReadsAs below node info false type field) :
    field.allowed? ≠ some [] := by
  by_cases scalar : type.supportsEnum = true
  · obtain ⟨-, nonempty, all, allowed⟩ := reading.enumList?_spec scalar
    rw [allowed]
    cases listed : enumList? node with
    | none => simp [Json.entriesOf?]
    | some values =>
      rw [Json.entriesOf?, Option.map_some, List.filter_eq_self.mpr (all rfl values listed), ← listed]
      exact nonempty
  · simp [reading.allowed?_eq_none scalar]

theorem ReadsAs.everywhere_populated
    (populated : ∀ {document : Json} {name : String} {required : Bool} {field : Attribute},
      Describes levels document name required field → field.Populated)
    (reading : ReadsAs (Describes levels) node info inUnion type field) : field.Everywhere PopulatedNode := by
  refine everywhere_iff.mpr ?_
  cases reading with
  | arrayOf _ described =>
    refine ⟨(populated described).here, fun child member => ?_⟩
    obtain rfl := List.mem_singleton.mp member
    exact (populated described).everywhere
  | @record names members properties _ _ described =>
    have each : ∀ property ∈ objectsLast isObject properties, property.Populated := by
      intro property member
      obtain ⟨source, -, describes⟩ := Pairing.exists_left described (mem_objectsLast.mp member)
      exact populated describes
    exact ⟨fun property member => (each property member).here, fun property member => (each property member).everywhere⟩
  | _ => exact ⟨trivial, fun child member => nomatch member⟩

theorem Describes.populated {document : Json} {name : String} {required : Bool}
    (described : Describes levels document name required field) : field.Populated := by
  induction levels generalizing document name required field with
  | zero => exact described.elim
  | succ levels ih =>
    obtain ⟨node, rfl, reading⟩ := described
    cases reading with
    | single _ _ _ reading => exact ⟨reading.allowed?_ne_nil, reading.everywhere_populated ih⟩
    | @union title description types candidates _ _ _ _ _ each kept =>
      refine ⟨by simp [allowed?], everywhere_iff.mpr ⟨?_, fun candidate member => ?_⟩⟩
      · by_contra empty
        simp only [PopulatedNode, not_exists, not_and, not_not] at empty
        refine kept ⟨fun type inside => ?_, empty⟩
        obtain ⟨candidate, member, reading⟩ := Pairing.exists_right each inside
        by_contra other
        exact absurd (reading.allowed?_eq_none other) (by simp [empty candidate member])
      · obtain ⟨type, -, reading⟩ := Pairing.exists_left each member
        exact reading.everywhere_populated ih

end Node

end Credential
