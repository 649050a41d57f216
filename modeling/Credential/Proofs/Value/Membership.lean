import Credential.Proofs.Number.Agreement
import Credential.Proofs.Value.Taking
import Mathlib.Tactic.NormNum

/-! Which numbers a list of allowed numbers lets pass.

Every number that denotes the same as an entry passes, however the two are
written. Some others pass as well: a whole number beyond two to the 53rd for the
double nearest to it, and that double for the whole number.
-/

set_option autoImplicit false

namespace Credential

namespace Attribute

/-- The attribute restricts numbers to the listed ones, and the value is of its type: for `integer` a whole number. -/
def ListsNumbers (field : Attribute) (entries : List Number) (value : Number) : Prop :=
  ∃ info, field = .number info (some entries) ∨
    field = .integer info (some entries) ∧ ∃ whole : Int, value.rational = whole

variable {field : Attribute} {entries : List Number} {value : Number}

theorem ListsNumbers.accepts_iff (lists : field.ListsNumbers entries value) :
    field.Accepts (some (.number value)) ↔ ∃ entry ∈ entries, entry.agrees value = true := by
  have scalar {type : JsonType} (typed : field.type? = some type) (scalar : type.supportsEnum = true)
      (plain : field.isPlain = true) (shape : (Json.number value).hasShape type = true)
      (allowed : field.allowed? = some (entries.map .number)) :
      field.Accepts (some (.number value)) ↔ ∃ entry ∈ entries, entry.agrees value = true := by
    rw [accepts_some (regular_of_plain plain), lacks_of_ne_null Json.noConfusion, if_neg Bool.false_ne_true,
      takes_scalar typed scalar, and_iff_right shape, allowed]
    simp [Json.equals]
  obtain ⟨info, rfl | ⟨rfl, whole⟩⟩ := lists
  · exact scalar rfl rfl rfl rfl rfl
  · exact scalar rfl rfl rfl (Number.isIntegral_iff.mpr whole) rfl

/-- A number passes if it denotes the same as an entry, or if one of the two is the double nearest to the other. Below
two to the 53rd only the first of these applies. -/
theorem accepts_number_iff (lists : field.ListsNumbers entries value) :
    (field.Accepts (some (.number value)) ↔ ∃ entry ∈ entries, entry.rational = value.rational ∨ entry.Rounds value) ∧
      (|value.rational| < 2 ^ 53 →
        (field.Accepts (some (.number value)) ↔ ∃ entry ∈ entries, entry.rational = value.rational)) := by
  have accepts : field.Accepts (some (.number value)) ↔
      ∃ entry ∈ entries, entry.rational = value.rational ∨ entry.Rounds value := by
    rw [lists.accepts_iff]
    simp only [Number.agrees_iff]
  refine ⟨accepts, fun small => accepts.trans ?_⟩
  refine exists_congr fun entry => and_congr_right fun _ => ⟨fun either => ?_, .inl⟩
  exact either.elim id fun rounds => rounds.eq_of_lt small

def sampleNumbers : List Number :=
  [.integer 0x20000000000001 (by decide), .integer 0x20000000000002 (by decide)]

theorem accepts_number_iff_sample :
    (integer ⟨"serial", true, none, none⟩ (some sampleNumbers)).ListsNumbers sampleNumbers
        (.double ⟨false, 0x10000000000001, 1, by decide⟩) ∧
      (integer ⟨"serial", true, none, none⟩ (some sampleNumbers)).Accepts
        (some (.number (.double ⟨false, 0x10000000000001, 1, by decide⟩))) := by
  have same : Number.rational (.double ⟨false, 0x10000000000001, 1, by decide⟩) = (0x20000000000002 : Int) := by
    norm_num [Double.rational, Double.magnitude]
  have lists : (integer ⟨"serial", true, none, none⟩ (some sampleNumbers)).ListsNumbers sampleNumbers
      (.double ⟨false, 0x10000000000001, 1, by decide⟩) := ⟨_, .inr ⟨rfl, _, same⟩⟩
  exact ⟨lists, (accepts_number_iff lists).1.mpr ⟨_, .tail _ (.head _), .inl same.symm⟩⟩

end Attribute

def Json.sampleLimit : Json :=
  .object [("type", .string "integer"), ("enum", .array [.number (.double ⟨false, 0x10000000000000, 1, by decide⟩)])]

/-- The next whole number passes as well, which the only entry does not denote. -/
theorem Attribute.accepts_unlisted_number :
    ∃ field entry, Attribute.ofDocument 4 Json.sampleLimit "" true = .ok field ∧
      field.allowed? = some [.number entry] ∧
      (∃ node, field.accept (some (.number (.integer 0x20000000000001 (by decide)))) = .ok node) ∧
      entry.rational ≠ Number.rational (.integer 0x20000000000001 (by decide)) := by
  refine ⟨_, .double ⟨false, 0x10000000000000, 1, by decide⟩, rfl, rfl, ⟨_, rfl⟩, ?_⟩
  norm_num [Double.rational, Double.magnitude]

end Credential
