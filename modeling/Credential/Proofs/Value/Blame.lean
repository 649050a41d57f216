import Credential.Failure
import Credential.Proofs.Attribute.Populated
import Credential.Proofs.Pointer
import Credential.Proofs.Value.Conflicts

/-! Where a rejection points.

The place of a conflict is a JSON Pointer into the value. What stands there
bears the conflict out: it has the type, is the value or holds the key that the
conflict names. The proof follows the walk over all conflicts, so it holds of
each of them and not only of the first.
-/

set_option autoImplicit false

namespace Credential

/-- What stands at the path in the value bears the conflict out. -/
def Conflict.Concerns (value : Option Json) (path : Path) : Conflict → Prop
  | .missing =>
    path.target? value = some .null ∨
      path.target? value = none ∧
        ((∃ parent key, ∃ members : Members, path = Path.key parent key ∧
            parent.target? value = some (.object members) ∧ key ∉ members.keys) ∨
          path = [] ∧ value = none)
  | .typeMismatch expected found =>
    ∃ document, path.target? value = some document ∧ document ≠ .null ∧ document.type = found ∧ found ≠ expected
  | .outsideEnum document allowed =>
    path.target? value = some document ∧ allowed ≠ [] ∧ ∀ entry ∈ allowed, entry.equals document = false
  | .unknownKey key => ∃ members : Members, path.target? value = some (.object members) ∧ key ∈ members.keys
  | .noMatchingType _ => ∃ document, path.target? value = some document ∧ document ≠ .null

namespace Conflict

variable {conflict : Conflict} {path : Path}

theorem category_mem (conflict : Conflict) :
    conflict.category ∈
      [.missingRequired, .typeMismatch, .enumViolation, .unknownAttribute, .noMatchingType] := by
  cases conflict <;> simp [category]

theorem status_category (conflict : Conflict) : conflict.category.status = 422 := by
  cases conflict <;> rfl

/-! ## One step down -/

theorem Concerns.under {step : Step} {whole part : Json}
    (leads : ∀ rest, Path.target? (step :: rest) (some whole) = Path.target? rest (some part))
    (concerns : conflict.Concerns (some part) path) : conflict.Concerns (some whole) (step :: path) := by
  cases conflict with
  | missing =>
    simp only [Concerns, leads] at concerns ⊢
    refine concerns.imp_right fun ⟨nothing, place⟩ => ⟨nothing, .inl ?_⟩
    obtain ⟨parent, key, members, rfl, found, lacking⟩ | ⟨-, absent⟩ := place
    · exact ⟨step :: parent, key, members, rfl, by rw [leads, found], lacking⟩
    · exact nomatch absent
  | _ => simpa only [Concerns, leads] using concerns

theorem Concerns.under_index {elements : List Json} {position : Nat} {element : Json}
    (standing : elements[position]? = some element) (concerns : conflict.Concerns (some element) path) :
    conflict.Concerns (some (.array elements)) (.index position :: path) :=
  concerns.under fun rest => by rw [Path.target?_index, standing]

theorem Concerns.under_key {members : Members} {name : String}
    (concerns : conflict.Concerns (members.get? name) path) :
    conflict.Concerns (some (.object members)) (.key name :: path) := by
  cases found : members.get? name with
  | some member =>
    rw [found] at concerns
    exact concerns.under fun rest => by rw [Path.target?_key, found]
  -- Nothing but its being missing can be said of a member that is not there.
  | none =>
    rw [found] at concerns
    cases conflict with
    | missing =>
      obtain here | ⟨-, ⟨parent, key, others, -, there, -⟩ | ⟨rfl, -⟩⟩ := concerns
      · simp at here
      · simp at there
      · refine .inr ⟨by rw [Path.target?_key, found, Path.target?_none], .inl ⟨[], name, members, rfl, ?_⟩⟩
        exact ⟨Path.target?_root _, Members.get?_eq_none_iff.mp found⟩
    | _ => simp [Concerns] at concerns

end Conflict

/-- The rejection is at a place inside the value that bears it out, where the value itself stands at `base`. -/
def Rejection.PointsInto (value : Option Json) (base : Path) (rejection : Rejection) : Prop :=
  ∃ path, rejection.path = base ++ path ∧ rejection.conflict.Concerns value path

namespace Rejection

variable {base : Path} {rejection : Rejection}

theorem PointsInto.here {value : Option Json} {conflict : Conflict} (concerns : conflict.Concerns value []) :
    PointsInto value base ⟨base, conflict⟩ :=
  ⟨[], (List.append_nil base).symm, concerns⟩

theorem PointsInto.under_index {elements : List Json} {position : Nat} {element : Json}
    (standing : elements[position]? = some element)
    (points : PointsInto (some element) (base.index position) rejection) :
    PointsInto (some (.array elements)) base rejection := by
  obtain ⟨path, same, concerns⟩ := points
  exact ⟨.index position :: path, same.trans (List.append_assoc base _ path), concerns.under_index standing⟩

theorem PointsInto.under_key {members : Members} {name : String}
    (points : PointsInto (members.get? name) (base.key name) rejection) :
    PointsInto (some (.object members)) base rejection := by
  obtain ⟨path, same, concerns⟩ := points
  exact ⟨.key name :: path, same.trans (List.append_assoc base _ path), concerns.under_key⟩

end Rejection

namespace Attribute

open Rejection (PointsInto)

variable {base : Path} {rejection : Rejection}

/-! ## The conflicts of one node -/

theorem admitsNull_of_not_lacks {field : Attribute} (supplied : field.lacks .null = false) :
    field.admitsNull = true := by
  simpa [lacks, Json.isNull] using supplied

theorem eq_null_of_lacks {field : Attribute} {document : Json} (lacking : field.lacks document = true) :
    document = .null := by
  simp only [lacks, Bool.and_eq_true] at lacking
  exact Json.eq_null_of_isNull lacking.1

theorem ne_null_of_mismatch {field : Attribute} {type : JsonType} {document : Json} (typed : field.type? = some type)
    (supplied : field.lacks document = false) (other : document.hasShape type = false) : document ≠ .null := by
  rintro rfl
  have admits := admitsNull_of_not_lacks supplied
  obtain ⟨info, rfl⟩ : ∃ info, field = .null info := by cases field <;> simp_all [admitsNull, type?]
  obtain rfl := Option.some.inj typed
  exact Bool.eq_false_iff.mp other rfl

theorem ne_null_of_refused {info : Info} {candidates : List Attribute} {document : Json}
    (supplied : (union info candidates).lacks document = false)
    (refused : ∀ candidate ∈ candidates, candidate.suppliedConflicts document base ≠ []) : document ≠ .null := by
  rintro rfl
  obtain ⟨candidate, inside, null⟩ := List.any_eq_true.mp (admitsNull_of_not_lacks supplied)
  refine refused candidate inside ?_
  cases candidate with
  | null info =>
    rw [suppliedConflicts_own (.inl rfl)]
    rfl
  | _ => simp [isNull] at null

/-! ## The walk -/

theorem pointsInto_of_meets {field : Attribute} {value : Option Json} (meets : field.Meets value base rejection)
    (populated : field.Populated) (distinct : ∀ document ∈ value, document.DistinctKeys) :
    PointsInto value base rejection := by
  induction meets with
  | @missing field value path lacking required =>
    refine .here ?_
    cases value with
    | none => exact .inr ⟨rfl, .inr ⟨rfl, rfl⟩⟩
    | some document =>
      obtain rfl := eq_null_of_lacks (lacking document rfl)
      exact .inl (Path.target?_root _)
  | @mismatch field type document path typed supplied other =>
    refine .here ⟨document, Path.target?_root _, ne_null_of_mismatch typed supplied other, rfl, ?_⟩
    rintro rfl
    exact Bool.false_ne_true (other.symm.trans document.hasShape_type)
  | outside listed outside =>
    exact .here ⟨Path.target?_root _, fun empty => populated.here (empty ▸ listed), outside⟩
  | refused supplied refused => exact .here ⟨_, Path.target?_root _, ne_null_of_refused supplied refused⟩
  | unknown given => exact .here ⟨_, Path.target?_root _, given⟩
  | element standing _ ih =>
    have below := Json.distinctKeys_array_iff.mp (distinct _ rfl) _ (List.mem_of_getElem? standing)
    exact .under_index standing (ih populated.items fun _ same => Option.some.inj same ▸ below)
  | member declared given _ ih =>
    obtain ⟨distinctHere, distinctMembers⟩ := Json.distinctKeys_object_iff.mp (distinct _ rfl)
    have points := ih (populated.property declared) fun _ same => Option.some.inj same ▸ distinctMembers _ given
    rw [← Members.get?_of_mem distinctHere given] at points
    exact points.under_key
  -- No member has the name of a property that is asked for at the end.
  | unsupplied declared lacking _ ih =>
    have points := ih (populated.property declared) nofun
    rw [← Members.get?_eq_none_iff.mpr lacking] at points
    exact points.under_key

/-- A rejection has a place and one of the five categories of status 422, and evaluating its JSON Pointer against the
value leads to what the conflict is about. -/
theorem rejection_points {limit : Nat} {schema : Json} {name : String} {required : Bool} {field : Attribute}
    (distinct : schema.DistinctKeys) (read : Attribute.ofDocument limit schema name required = .ok field)
    {value : Option Json} (distinctValue : ∀ document ∈ value, document.DistinctKeys) {rejection : Rejection}
    (rejected : field.accept value = .error rejection) :
    (Failure.value rejection).path? = some rejection.path ∧
      (Failure.value rejection).category ∈
        [.missingRequired, .typeMismatch, .enumViolation, .unknownAttribute, .noMatchingType] ∧
      (Failure.value rejection).category.status = 422 ∧ rejection.conflict.Concerns value rejection.path := by
  have described := Node.ofDocument_eq_ok.mp read
  have regular := described.regular distinct
  have points := pointsInto_of_meets (meets_of_rejected regular rejected) described.populated distinctValue
  obtain ⟨path, rfl, concerns⟩ := points
  exact ⟨rfl, rejection.conflict.category_mem, rejection.conflict.status_category, concerns⟩

end Attribute

def Json.sampleOddKeys : Json :=
  .object [
    ("type", .string "object"),
    ("properties", .object [
      ("a/b", .object [
        ("type", .string "array"),
        ("items", .object [
          ("type", .string "object"),
          ("properties", .object [("m~n", .object [("type", .string "string")])])])])])]

def Json.sampleMisplaced : Json :=
  .object [("a/b", .array [.object [], .object [("m~n", .bool true)]])]

theorem Attribute.rejection_points_sample :
    Json.sampleOddKeys.DistinctKeys ∧ Json.sampleMisplaced.DistinctKeys ∧
      ∃ field rejection, Attribute.ofDocument 4 Json.sampleOddKeys "" true = .ok field ∧
        field.accept (some Json.sampleMisplaced) = .error rejection ∧ rejection.path.pointer = "/a~1b/1/m~0n" ∧
        rejection.conflict = .typeMismatch .string .boolean ∧
        rejection.conflict.Concerns (some Json.sampleMisplaced) rejection.path := by
  have distinct : Json.sampleOddKeys.DistinctKeys := by
    simp [Json.sampleOddKeys, Json.DistinctKeys, Json.DistinctKeysMembers]
  have distinctValue : Json.sampleMisplaced.DistinctKeys := by
    simp [Json.sampleMisplaced, Json.DistinctKeys, Json.DistinctKeysItems, Json.DistinctKeysMembers]
  refine ⟨distinct, distinctValue, _, _, rfl, rfl, rfl, rfl, ?_⟩
  exact (@Attribute.rejection_points 4 Json.sampleOddKeys "" true _ distinct rfl (some Json.sampleMisplaced)
    (by rintro _ ⟨⟩; exact distinctValue) _ rfl).2.2.2

end Credential
