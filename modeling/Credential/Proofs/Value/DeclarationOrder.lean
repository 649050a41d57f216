import Credential.Proofs.Schema.Widening
import Credential.Proofs.Value.Alternatives
import Mathlib.Data.List.Perm.Basic

/-! The order of the types of a union.

A node that lists the same types in another order is read as a union of the same
candidates in another order. At most one of them accepts a value, unless that is
a whole number. A whole number passes the list of values as an integer exactly
if it does as another number, so the order decides no more than which of the two
it counts as.
-/

set_option autoImplicit false

namespace Credential

def Json.withTypes : Json → List JsonType → Json
  | .object node, types => .object (Members.insert node "type" (Json.strings (types.map JsonType.token)))
  | other, _ => other

theorem Json.withTypes_object (node : Members) (types : List JsonType) :
    ∃ other : Members, (Json.object node).withTypes types = .object other ∧
      other.get? "type" = some (Json.strings (types.map JsonType.token)) ∧
      (∀ keyword, keyword ≠ "type" → other.get? keyword = node.get? keyword) ∧
      ((Json.object node).DistinctKeys → (Json.object other).DistinctKeys) := by
  refine ⟨_, rfl, ?_, fun keyword differs => ?_, fun distinct => ?_⟩
  · rw [Members.get?_insert, if_pos rfl]
  · rw [Members.get?_insert, if_neg differs]
  · exact distinct.insert (Attribute.distinctKeys_strings _)

def JsonType.isNumeric : JsonType → Bool
  | .integer | .number => true
  | _ => false

theorem Json.hasShape_of_whole {document : Json} (whole : document.hasShape .integer = true) (type : JsonType) :
    document.hasShape type = type.isNumeric := by
  cases document <;> cases type <;> simp_all [hasShape, JsonType.isNumeric]

/-! ## Candidates in another order -/

namespace Attribute

variable {info : Info} {candidates agains : List Attribute} {document : Json} {path : Path} {result other : Value}

theorem acceptSupplied_union_of_refused (refused : ¬(union info candidates).Takes document) :
    (union info candidates).acceptSupplied document path =
      .error ⟨path, .noMatchingType (candidates.filterMap type?)⟩ := by
  cases outcome : (union info candidates).acceptSupplied document path with
  | ok node => exact absurd ⟨node, acceptSupplied_eq_ok.mp outcome⟩ refused
  | error rejection =>
    rw [acceptSupplied] at outcome
    split at outcome
    · cases outcome
    · exact outcome.symm

theorem exists_candidate_of_effectiveType (regular : (union info candidates).Regular)
    (accepted : (union info candidates).acceptSupplied document [] = .ok result) :
    ∃ candidate ∈ candidates, candidate.type? = some result.effectiveType ∧ candidate.Takes document := by
  obtain ⟨before, candidate, after, winner, split, -, taken, rfl⟩ := acceptSupplied_union.mp accepted
  have member : candidate ∈ candidates := by simp [split]
  obtain ⟨type, typed⟩ := Option.isSome_iff_exists.mp (regular.union.typed candidate member)
  have effective := effectiveType_of_acceptSupplied (regular.candidate member) typed taken
  exact ⟨candidate, member, by rw [typed, Value.effectiveType, effective], winner, taken⟩

section

variable (regularAgain : (union info agains).Regular) (reordered : candidates.Perm agains)

include regularAgain reordered

theorem preserves_reordered : (union info candidates).Preserves (union info agains) :=
  preserves_union regularAgain.union fun candidate member =>
    ⟨candidate, reordered.mem_iff.mp member, fun _ node accepted => ⟨node, accepted, rfl⟩⟩

theorem effectiveType_reordered (regular : (union info candidates).Regular)
    (accepted : (union info candidates).acceptSupplied document [] = .ok result)
    (acceptedAgain : (union info agains).acceptSupplied document [] = .ok other) :
    other.effectiveType = result.effectiveType ∨ document.hasShape .integer = true ∧
      (∃ candidate ∈ candidates, candidate.type? = some .integer) ∧
      ∃ candidate ∈ candidates, candidate.type? = some .number := by
  obtain ⟨first, member, typed, taken⟩ := exists_candidate_of_effectiveType regular accepted
  obtain ⟨second, memberToo, typedToo, takenToo⟩ := exists_candidate_of_effectiveType regularAgain acceptedAgain
  rw [← reordered.mem_iff] at memberToo
  obtain same | ⟨whole, ⟨integer, number⟩ | ⟨number, integer⟩⟩ :=
    Json.eq_or_numeric_of_hasShape (hasShape_of_takes typed taken) (hasShape_of_takes typedToo takenToo)
  · exact .inl same.symm
  · exact .inr ⟨whole, ⟨first, member, integer ▸ typed⟩, second, memberToo, number ▸ typedToo⟩
  · exact .inr ⟨whole, ⟨second, memberToo, integer ▸ typedToo⟩, first, member, number ▸ typed⟩

end

end Attribute

namespace Node

open Attribute

variable {levels : Nat} {node other : Members} {info : Info} {inUnion : Bool} {type : JsonType} {field : Attribute}
  {document : Json} {name : String} {required : Bool} {types others : List JsonType} {candidates : List Attribute}

theorem Describes.reordered (agrees : ∀ keyword, keyword ≠ "type" → other.get? keyword = node.get? keyword)
    (listed : node.get? "type" = some (Json.strings (types.map JsonType.token)))
    (listedToo : other.get? "type" = some (Json.strings (others.map JsonType.token))) (reordered : types.Perm others)
    (described : Describes (levels + 1) (.object node) name required field) :
    ∃ info candidates agains, field = .union info candidates ∧ candidates.Perm agains ∧
      List.Forall₂ (ReadsAs (Describes levels) node info true) types candidates ∧
      List.Forall₂ (ReadsAs (Describes levels) node info true) others agains ∧
      Describes (levels + 1) (.object other) name required (.union info agains) := by
  obtain ⟨several, distinct, texts, candidates, each, left, rfl⟩ := (describes_types listed).mp described
  obtain ⟨agains, eachToo, perm⟩ := List.perm_comp_forall₂ reordered.symm each
  have sameInfo : ownInfo other name required = ownInfo node name required := by
    rw [ownInfo, ownInfo, agrees "title" (by decide), agrees "description" (by decide)]
  refine ⟨_, candidates, agains, rfl, perm.symm, each, eachToo, (describes_types listedToo).mpr ?_⟩
  rw [sameInfo]
  refine ⟨reordered.length_eq ▸ several, reordered.nodup distinct, ?_, agains, ?_, ?_, rfl⟩
  · rwa [HasTexts, agrees "title" (by decide), agrees "description" (by decide)]
  · exact eachToo.imp fun type again reading =>
      reading.of_agrees agrees fun given => by rwa [Listed, agrees "enum" (by decide)]
  · rintro ⟨scalars, exhausted⟩
    exact left ⟨fun type inside => scalars type (reordered.mem_iff.mp inside),
      fun candidate member => exhausted candidate (perm.mem_iff.mpr member)⟩

theorem ReadsAs.takes_whole_iff (reading : ReadsAs (Describes levels) node info inUnion type field)
    (numeric : type.isNumeric = true) (whole : document.hasShape .integer = true) :
    field.Takes document ↔ ∀ entries, node.get? "enum" = some (.array entries) →
      ∃ entry ∈ entries, entry.equals document = true := by
  have scalar : type.supportsEnum = true := by cases type <;> simp_all [JsonType.isNumeric, JsonType.supportsEnum]
  rw [Takes, reading.acceptSupplied_scalar_iff scalar, Json.hasShape_of_whole whole, and_iff_right numeric]

theorem find?_isNumeric_of_accepted (regular : (union info candidates).Regular)
    (each : List.Forall₂ (ReadsAs (Describes levels) node info true) types candidates)
    (whole : document.hasShape .integer = true) {result : Value}
    (accepted : (union info candidates).acceptSupplied document [] = .ok result) :
    types.find? JsonType.isNumeric = some result.effectiveType := by
  have typesEq := filterMap_type?_of_readsAs each
  obtain ⟨before, candidate, after, winner, rfl, refused, taken, rfl⟩ := acceptSupplied_union.mp accepted
  have member : candidate ∈ before ++ candidate :: after := by simp
  obtain ⟨type, -, reading⟩ := Pairing.exists_left each member
  have numeric : type.isNumeric = true := by
    rw [← Json.hasShape_of_whole whole]
    exact hasShape_of_acceptSupplied reading.type?_eq taken
  have effective := effectiveType_of_acceptSupplied (regular.candidate member) reading.type?_eq taken
  rw [Value.effectiveType, effective, List.find?_eq_some_iff_append]
  refine ⟨numeric, before.filterMap type?, after.filterMap type?, ?_, fun earlier inside => ?_⟩
  · rw [← typesEq, List.filterMap_append, List.filterMap_cons, reading.type?_eq]
  -- An earlier type of numbers would have taken the value.
  · obtain ⟨first, inBefore, typed⟩ := List.mem_filterMap.mp inside
    obtain ⟨typeToo, -, readingToo⟩ := Pairing.exists_left each (List.mem_append_left _ inBefore)
    obtain rfl := Option.some.inj (typed.symm.trans readingToo.type?_eq)
    rw [Bool.not_eq_true', Bool.eq_false_iff]
    intro numericToo
    obtain ⟨result, takenToo⟩ :=
      (readingToo.takes_whole_iff numericToo whole).mpr ((reading.takes_whole_iff numeric whole).mp ⟨winner, taken⟩)
    exact refused first inBefore result takenToo

end Node

namespace Attribute

/-- The order in which a union lists its types decides only whether a whole number counts as an integer or as a number.
In any order the schema is read or not, and a value is accepted with the same document or rejected at the same place for
matching no type. It is accepted as the same type, unless it is a whole number and both types of numbers are listed, of
which the first one then counts. -/
theorem union_reordered {limit : Nat} {schema : Json} {types others : List JsonType}
    (distinctKeys : schema.DistinctKeys)
    (listed : schema.get? "type" = some (Json.strings (types.map JsonType.token))) (reordered : types.Perm others)
    (name : String) (required : Bool) :
    ((∃ field, ofDocument limit schema name required = .ok field) ↔
      ∃ again, ofDocument limit (schema.withTypes others) name required = .ok again) ∧
    ∀ field again, ofDocument limit schema name required = .ok field →
      ofDocument limit (schema.withTypes others) name required = .ok again → ∀ value path, value ≠ Json.null →
        (∃ node other, field.acceptAt (some value) path = .ok node ∧ again.acceptAt (some value) path = .ok other ∧
          other.toJson? = node.toJson? ∧
          if value.hasShape .integer = true ∧ .integer ∈ types ∧ .number ∈ types then
            types.find? JsonType.isNumeric = some node.effectiveType ∧
              others.find? JsonType.isNumeric = some other.effectiveType
          else other.effectiveType = node.effectiveType) ∨
        field.acceptAt (some value) path = .error ⟨path, .noMatchingType types⟩ ∧
          again.acceptAt (some value) path = .error ⟨path, .noMatchingType others⟩ := by
  cases schema with
  | object node =>
    obtain ⟨other, same, listedToo, agrees, distinctKeysToo⟩ := Json.withTypes_object node others
    simp only [Node.ofDocument_eq_ok, same]
    refine ⟨⟨?_, ?_⟩, fun field again described describedToo value path present => ?_⟩
    · rintro ⟨field, described⟩
      obtain ⟨info, candidates, agains, -, -, -, -, describedToo⟩ :=
        described.reordered agrees listed listedToo reordered
      exact ⟨_, describedToo⟩
    · rintro ⟨again, describedToo⟩
      obtain ⟨info, candidates, agains, -, -, -, -, described⟩ :=
        describedToo.reordered (fun keyword differs => (agrees keyword differs).symm) listedToo listed reordered.symm
      exact ⟨_, described⟩
    have regular := described.regular distinctKeys
    have regularAgain := describedToo.regular (distinctKeysToo distinctKeys)
    obtain ⟨info, candidates, agains, rfl, perm, each, eachToo, describedAgain⟩ :=
      described.reordered agrees listed listedToo reordered
    obtain rfl := describedToo.unique describedAgain
    simp only [acceptAt, lacks_of_ne_null present, if_neg Bool.false_ne_true]
    by_cases taken : (union info candidates).Takes value
    · obtain ⟨node, accepted⟩ := taken
      obtain ⟨other, acceptedToo, same⟩ := preserves_reordered regularAgain perm value node accepted
      refine .inl ⟨node, other, acceptSupplied_eq_ok.mpr accepted, acceptSupplied_eq_ok.mpr acceptedToo, same, ?_⟩
      split
      next both =>
        exact ⟨Node.find?_isNumeric_of_accepted regular each both.1 accepted,
          Node.find?_isNumeric_of_accepted regularAgain eachToo both.1 acceptedToo⟩
      next apart =>
        refine (effectiveType_reordered regularAgain perm regular accepted acceptedToo).resolve_right ?_
        refine fun both => apart ?_
        rw [← Node.filterMap_type?_of_readsAs each]
        exact ⟨both.1, List.mem_filterMap.mpr both.2.1, List.mem_filterMap.mpr both.2.2⟩
    · have takenToo : ¬(union info agains).Takes value := by
        simpa only [takes_union, perm.mem_iff] using taken
      rw [acceptSupplied_union_of_refused taken, acceptSupplied_union_of_refused takenToo,
        Node.filterMap_type?_of_readsAs each, Node.filterMap_type?_of_readsAs eachToo]
      exact .inr ⟨rfl, rfl⟩
  | _ => simp [Json.get?] at listed

end Attribute

def Json.sampleNumeric : Json :=
  .object [("type", strings ["integer", "null", "number"]), ("enum", .array [.number (.integer 7 (by decide))])]

theorem Attribute.union_reordered_sample :
    Json.sampleNumeric.DistinctKeys ∧ [JsonType.integer, .null, .number].Perm [.number, .null, .integer] ∧
      ∃ field again, ofDocument 1 Json.sampleNumeric "floor" false = .ok field ∧
        ofDocument 1 (Json.sampleNumeric.withTypes [.number, .null, .integer]) "floor" false = .ok again ∧
        ∃ node other, field.accept (some (.number (.integer 7 (by decide)))) = .ok node ∧
          again.accept (some (.number (.integer 7 (by decide)))) = .ok other ∧ other.toJson? = node.toJson? ∧
          node.effectiveType = .integer ∧ other.effectiveType = .number := by
  have distinct : Json.sampleNumeric.DistinctKeys := by
    simp [Json.sampleNumeric, Json.strings, Json.DistinctKeys, Json.DistinctKeysItems, Json.DistinctKeysMembers]
  have reordered : [JsonType.integer, .null, .number].Perm [.number, .null, .integer] := by decide
  refine ⟨distinct, reordered, _, _, rfl, rfl, ?_⟩
  obtain ⟨node, other, accepted, acceptedToo, same, effective⟩ | ⟨refused, -⟩ :=
    (@union_reordered 1 Json.sampleNumeric _ _ distinct rfl reordered "floor" false).2 _ _ rfl rfl
      (.number (.integer 7 (by decide))) [] (by simp)
  · rw [if_pos (by decide)] at effective
    exact ⟨node, other, accepted, acceptedToo, same, (Option.some.inj effective.1).symm,
      (Option.some.inj effective.2).symm⟩
  · cases refused

end Credential
