import Credential.JsonType
import Credential.Proofs.Number.Integrality

/-! Runtime shapes of values, and the equality by which allowed values are found. -/

set_option autoImplicit false

namespace Credential.Json

/-- Whether the value has the shape of a type. A number without a fractional part is an integer in either form. -/
def hasShape : Json → JsonType → Bool
  | .null, .null | .bool _, .boolean | .number _, .number | .string _, .string | .array _, .array
  | .object _, .object => true
  | .number value, .integer => value.isIntegral
  | _, _ => false

/-- Equality of values; numbers are compared across their two forms. -/
def equals : Json → Json → Bool
  | .number first, .number second => first.agrees second
  | first, second => first == second

theorem eq_or_numeric_of_hasShape {value : Json} {first second : JsonType} (left : value.hasShape first = true)
    (right : value.hasShape second = true) :
    first = second ∨ value.hasShape .integer = true ∧
      (first = .integer ∧ second = .number ∨ first = .number ∧ second = .integer) := by
  cases value <;> cases first <;> cases second <;> simp_all [hasShape]

theorem eq_of_hasShape {value : Json} {first second : JsonType} (structured : first.supportsEnum = false)
    (left : value.hasShape first = true) (right : value.hasShape second = true) : second = first := by
  obtain same | ⟨-, ⟨rfl, -⟩ | ⟨rfl, -⟩⟩ := eq_or_numeric_of_hasShape left right
  · exact same.symm
  · exact absurd structured (by decide)
  · exact absurd structured (by decide)

theorem hasShape_type (document : Json) : document.hasShape document.type = true := by
  cases document with
  | number value => cases value <;> rfl
  | _ => rfl

theorem exists_hasShape (type : JsonType) : ∃ document : Json, document.hasShape type = true := by
  cases type with
  | boolean => exact ⟨.bool true, rfl⟩
  | integer | number => exact ⟨.number (.integer 0 (by decide)), rfl⟩
  | string => exact ⟨.string "", rfl⟩
  | null => exact ⟨.null, rfl⟩
  | array => exact ⟨.array [], rfl⟩
  | object => exact ⟨.object [], rfl⟩

theorem hasShape_null {type : JsonType} : Json.null.hasShape type = true ↔ type = .null := by
  cases type <;> simp [hasShape]

theorem eq_null_of_isNull {document : Json} (null : document.isNull = true) : document = .null := by
  cases document <;> simp_all [isNull]

theorem equals_self (document : Json) : document.equals document = true := by
  cases document with
  | number value => exact value.agrees_self
  | _ => simp [equals]

theorem eq_of_equals {entry document : Json} (other : ∀ value, document ≠ .number value)
    (same : entry.equals document = true) : entry = document := by
  cases document with
  | number value => exact absurd rfl (other value)
  | _ => cases entry <;> simp_all [equals]

-- A value equal to a scalar has its shape. For `integer` this needs that a number that agrees with a whole one is whole.
theorem hasShape_of_equals {entry document : Json} {type : JsonType} (scalar : type.supportsEnum = true)
    (shape : document.hasShape type = true) (same : entry.equals document = true) : entry.hasShape type = true := by
  cases document with
  | number value =>
    cases entry with
    | number other =>
      cases type with
      | integer => exact Number.isIntegral_of_agrees same shape
      | number => rfl
      | _ => simp [hasShape] at shape
    | _ => simp [equals] at same
  | _ => exact eq_of_equals (by simp) same ▸ shape

end Credential.Json
