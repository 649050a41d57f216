import Credential.Proofs.Schema.Description
import Credential.Proofs.Schema.Merging

/-! The allowed values of a scalar, as the part of the node's `enum` that has the scalar's shape. -/

set_option autoImplicit false

namespace Credential.Node

/-- `select` takes the values of the type's shape, and `toJson` gives them back. -/
def Selects {α : Type} (select : Json → Option α) (toJson : α → Json) (type : JsonType) : Prop :=
  ∀ value, (select value).map toJson = Option.guard (fun value => value.hasShape type) value

theorem selects_bool : Selects Json.bool? .bool .boolean := fun value => by
  cases value <;> simp [Json.bool?, Json.hasShape, Option.guard]

theorem selects_integer : Selects integer? .number .integer := fun value => by
  cases value with
  | number value =>
    by_cases integral : value.isIntegral = true <;>
      simp [integer?, Json.number?, Json.hasShape, Option.guard, Option.filter, integral]
  | _ => simp [integer?, Json.number?, Json.hasShape, Option.guard]

theorem selects_number : Selects Json.number? .number .number := fun value => by
  cases value <;> simp [Json.number?, Json.hasShape, Option.guard]

theorem selects_string : Selects Json.string? .string .string := fun value => by
  cases value <;> simp [Json.string?, Json.hasShape, Option.guard]

section

variable {α : Type} {select : Json → Option α} {toJson : α → Json} {type : JsonType} (takes : Selects select toJson type)

include takes

theorem Selects.isSome_iff {value : Json} : (select value).isSome = true ↔ value.hasShape type = true := by
  have taken := congrArg Option.isSome (takes value)
  rw [Option.isSome_map] at taken
  rw [taken]
  by_cases shape : value.hasShape type = true <;> simp [Option.guard, shape]

theorem Selects.map_filterMap (values : List Json) :
    (values.filterMap select).map toJson = values.filter fun value => value.hasShape type := by
  rw [List.map_filterMap, ← List.filterMap_eq_filter]
  exact congrArg (List.filterMap · values) (funext takes)

theorem Selects.entries_eq (entries : Option (List Json)) :
    (entries.map (·.filterMap select)).map (·.map toJson) = Json.entriesOf? entries type := by
  rw [Option.map_map]
  exact congrArg (Option.map · entries) (funext takes.map_filterMap)

theorem Selects.listed_iff {node : Members} {inUnion : Bool} {allowed : Option (List α)} :
    Listed node inUnion select allowed ↔
      ∃ entries : Option (List Json), node.get? "enum" = entries.map .array ∧ entries ≠ some [] ∧
        (inUnion = false → ∀ values ∈ entries, ∀ value ∈ values, value.hasShape type = true) ∧
        allowed = entries.map (·.filterMap select) := by
  simp only [Listed, takes.isSome_iff]

end

def enumList? (node : Members) : Option (List Json) :=
  match node.get? "enum" with
  | some (.array values) => some values
  | _ => none

theorem enumList?_eq_some {node : Members} {entries : List Json} :
    enumList? node = some entries ↔ node.get? "enum" = some (.array entries) := by
  unfold enumList?
  split
  next values found => simp [found]
  next other => exact iff_of_false nofun (other entries)

theorem enumList?_eq {node : Members} {entries : Option (List Json)} (listed : node.get? "enum" = entries.map .array) :
    enumList? node = entries := by
  cases entries <;> simp [enumList?, listed]

variable {below : Relation} {node : Members} {info : Info} {inUnion : Bool} {type : JsonType} {field : Attribute}

theorem ReadsAs.enumList?_spec (reading : ReadsAs below node info inUnion type field)
    (scalar : type.supportsEnum = true) :
    node.get? "enum" = (enumList? node).map .array ∧ enumList? node ≠ some [] ∧
      (inUnion = false → ∀ values ∈ enumList? node, ∀ value ∈ values, value.hasShape type = true) ∧
      field.allowed? = Json.entriesOf? (enumList? node) type := by
  have spec {α : Type} {select : Json → Option α} {toJson : α → Json} {allowed : Option (List α)}
      (takes : Selects select toJson type) (listed : Listed node inUnion select allowed) :
      node.get? "enum" = (enumList? node).map .array ∧ enumList? node ≠ some [] ∧
        (inUnion = false → ∀ values ∈ enumList? node, ∀ value ∈ values, value.hasShape type = true) ∧
        allowed.map (·.map toJson) = Json.entriesOf? (enumList? node) type := by
    obtain ⟨entries, present, nonempty, all, rfl⟩ := takes.listed_iff.mp listed
    rw [enumList?_eq present]
    exact ⟨present, nonempty, all, takes.entries_eq entries⟩
  cases reading with
  | boolean listed => exact spec selects_bool listed
  | integer listed => exact spec selects_integer listed
  | number listed => exact spec selects_number listed
  | string _ listed => exact spec selects_string listed
  | _ => simp [JsonType.supportsEnum] at scalar

theorem ReadsAs.allowed?_eq (reading : ReadsAs below node info inUnion type field)
    (scalar : type.supportsEnum = true) : field.allowed? = Json.entriesOf? (enumList? node) type :=
  (reading.enumList?_spec scalar).2.2.2

theorem ReadsAs.allowed?_eq_none (reading : ReadsAs below node info inUnion type field)
    (other : type.supportsEnum ≠ true) : field.allowed? = none := by
  cases reading with
  | boolean | integer | number | string => exact absurd rfl other
  | _ => rfl

-- What a reading writes into the list under `enum` is its share of the list it was read from.
theorem ReadsAs.allowed?_getD (reading : ReadsAs below node info inUnion type field) :
    field.allowed?.getD [] = Json.share (enumList? node) type := by
  by_cases scalar : type.supportsEnum = true
  · rw [reading.allowed?_eq scalar, Json.share, if_pos scalar]
  · rw [Json.share, if_neg scalar, reading.allowed?_eq_none scalar, Option.getD_none]

end Credential.Node
