import Credential.Proofs.Schema.Depth
import Credential.Proofs.Value.Taking

/-! Unions as alternatives.

A node with a list of types and without `enum` stands for nodes that have one of
the types each, and are otherwise the same. It is read exactly if all of these
are, it accepts what any of them accepts, and makes of it what the first such
one does.
-/

set_option autoImplicit false

namespace Credential

def Json.withType : Json → JsonType → Json
  | .object node, type => .object (Members.insert node "type" (.string type.token))
  | other, _ => other

/-! ## Values of unions -/

namespace Attribute

variable {info : Info} {candidates : List Attribute}

theorem takes_null_of_admitsNull (admits : (union info candidates).admitsNull = true) :
    (union info candidates).Takes .null := by
  obtain ⟨candidate, member, null⟩ := List.any_eq_true.mp admits
  refine takes_union.mpr ⟨candidate, member, ?_⟩
  cases candidate with
  | null own => exact ⟨_, rfl⟩
  | _ => exact absurd null Bool.false_ne_true

theorem accepts_union (regular : (union info candidates).Regular) (value : Option Json) :
    (union info candidates).Accepts value ↔ ∃ candidate ∈ candidates, candidate.Accepts value := by
  constructor
  · rintro ⟨node, accepted⟩
    obtain ⟨before, candidate, after, winner, split, taken, -, -⟩ := exists_first_candidate regular accepted
    exact ⟨candidate, by simp [split], winner, taken⟩
  · rintro ⟨candidate, member, accepted⟩
    have same : candidate.required = (union info candidates).required :=
      congrArg Info.required (regular.union.alike candidate member)
    cases value with
    | none => rwa [accepts_none regular, ← same, ← accepts_none (regular.candidate member)]
    | some document =>
      rw [accepts_some (regular.candidate member), same] at accepted
      rw [accepts_some regular]
      cases lacking : (union info candidates).lacks document with
      | true => simpa [regular.union.lacks_candidate member lacking] using accepted
      | false =>
        cases lackingToo : candidate.lacks document with
        | false =>
          rw [lackingToo] at accepted
          exact takes_union.mpr ⟨candidate, member, accepted⟩
        -- To the candidate alone `null` is no value. Then another candidate takes it.
        | true =>
          simp only [lacks, Bool.and_eq_true] at lackingToo
          obtain rfl := Json.eq_null_of_isNull lackingToo.1
          exact takes_null_of_admitsNull (by simpa [lacks, Json.isNull] using lacking)

end Attribute

/-! ## Nodes that differ in their type -/

namespace Node

open Attribute

variable {below : Relation} {levels : Nat} {node other : Members} {info : Info} {inUnion : Bool} {type : JsonType}
  {field : Attribute} {name : String} {required : Bool}

theorem listed_iff_of_unlisted {α : Type} {select : Json → Option α} {allowed : Option (List α)}
    (unlisted : node.get? "enum" = none) : Listed node inUnion select allowed ↔ allowed = none := by
  constructor
  · rintro ⟨entries, present, -, -, rfl⟩
    rw [unlisted] at present
    cases entries with
    | none => rfl
    | some values => exact nomatch present
  · rintro rfl
    exact ⟨none, unlisted, by simp, by simp, rfl⟩

theorem ReadsAs.of_agrees (agrees : ∀ keyword, keyword ≠ "type" → other.get? keyword = node.get? keyword)
    {inUnionToo : Bool} (listed : ∀ {α : Type} {select : Json → Option α} {allowed : Option (List α)},
      Listed node inUnion select allowed → Listed other inUnionToo select allowed)
    (reading : ReadsAs below node info inUnion type field) : ReadsAs below other info inUnionToo type field := by
  have requires {names : List String} (given : Requires node names) : Requires other names := by
    rwa [Requires, agrees "required" (by decide)]
  cases reading with
  | boolean given => exact .boolean (listed given)
  | integer given => exact .integer (listed given)
  | number given => exact .number (listed given)
  | string tagged given => exact .string ((agrees "format" (by decide)).trans tagged) (listed given)
  | null => exact .null
  | anyArray absent => exact .anyArray ((agrees "items" (by decide)).trans absent)
  | arrayOf present described => exact .arrayOf ((agrees "items" (by decide)).trans present) described
  | anyObject given absent => exact .anyObject (requires given) ((agrees "properties" (by decide)).trans absent)
  | record given present described =>
    exact .record (requires given) ((agrees "properties" (by decide)).trans present) described

-- Without `enum` it does not matter whether the node is read inside of a union.
theorem ReadsAs.of_unlisted (agrees : ∀ keyword, keyword ≠ "type" → other.get? keyword = node.get? keyword)
    (unlisted : node.get? "enum" = none) (inUnionToo : Bool) (reading : ReadsAs below node info inUnion type field) :
    ReadsAs below other info inUnionToo type field := by
  refine reading.of_agrees agrees fun given => ?_
  rw [listed_iff_of_unlisted unlisted] at given
  rwa [listed_iff_of_unlisted ((agrees "enum" (by decide)).trans unlisted)]

def HasTexts (node : Members) : Prop :=
  ∃ title description : Option String,
    node.get? "title" = title.map .string ∧ node.get? "description" = description.map .string

def ownInfo (node : Members) (name : String) (required : Bool) : Info :=
  ⟨name, required, (node.get? "title").bind Json.string?, (node.get? "description").bind Json.string?⟩

theorem ownInfo_eq {title description : Option String} (titled : node.get? "title" = title.map .string)
    (described : node.get? "description" = description.map .string) :
    ownInfo node name required = ⟨name, required, title, description⟩ := by
  rw [ownInfo, titled, described]
  cases title <;> cases description <;> rfl

theorem describes_withType (unlisted : node.get? "enum" = none) :
    Describes (levels + 1) ((Json.object node).withType type) name required field ↔
      HasTexts node ∧ ReadsAs (Describes levels) node (ownInfo node name required) true type field := by
  have agrees (keyword : String) (differs : keyword ≠ "type") :
      (node.insert "type" (.string type.token)).get? keyword = node.get? keyword := by
    rw [Members.get?_insert, if_neg differs]
  have typed : (node.insert "type" (.string type.token)).get? "type" = some (.string type.token) := by
    rw [Members.get?_insert, if_pos rfl]
  constructor
  · rintro ⟨_, ⟨⟩, reads⟩
    cases reads with
    | single titled described present reading =>
      rw [agrees "title" (by decide)] at titled
      rw [agrees "description" (by decide)] at described
      obtain rfl := JsonType.token_injective (Json.string.inj (Option.some.inj (typed.symm.trans present)))
      refine ⟨⟨_, _, titled, described⟩, ownInfo_eq titled described ▸ ?_⟩
      exact reading.of_unlisted (fun keyword differs => (agrees keyword differs).symm)
        ((agrees "enum" (by decide)).trans unlisted) true
    | union _ _ present => exact nomatch typed.symm.trans present
  · rintro ⟨⟨title, description, titled, described⟩, reading⟩
    rw [ownInfo_eq titled described] at reading
    refine ⟨_, rfl, .single ?_ ?_ typed (reading.of_unlisted agrees unlisted false)⟩
    · rw [agrees "title" (by decide), titled]
    · rw [agrees "description" (by decide), described]

section

variable {types : List JsonType} (listed : node.get? "type" = some (Json.strings (types.map JsonType.token)))

include listed

theorem describes_types :
    Describes (levels + 1) (.object node) name required field ↔
      2 ≤ types.length ∧ types.Nodup ∧ HasTexts node ∧ ∃ candidates,
        List.Forall₂ (ReadsAs (Describes levels) node (ownInfo node name required) true) types candidates ∧
        ¬((∀ type ∈ types, type.supportsEnum = true) ∧ ∀ candidate ∈ candidates, candidate.allowed? = some []) ∧
        field = .union (ownInfo node name required) candidates := by
  constructor
  · rintro ⟨_, ⟨⟩, reads⟩
    cases reads with
    | single _ _ present => exact nomatch listed.symm.trans present
    | union titled described present several distinct each left =>
      obtain rfl := List.map_injective_iff.mpr JsonType.token_injective
        (Json.strings_injective (Option.some.inj (listed.symm.trans present)))
      rw [← @ownInfo_eq _ name required _ _ titled described] at each ⊢
      exact ⟨several, distinct, ⟨_, _, titled, described⟩, _, each, left, rfl⟩
  · rintro ⟨several, distinct, ⟨title, description, titled, described⟩, candidates, each, left, rfl⟩
    rw [ownInfo_eq titled described] at each ⊢
    exact ⟨node, rfl, .union titled described listed several distinct each left⟩

variable (several : 2 ≤ types.length) (distinct : types.Nodup) (unlisted : node.get? "enum" = none)

include several distinct unlisted

theorem describes_union :
    Describes (levels + 1) (.object node) name required field ↔
      HasTexts node ∧ ∃ candidates,
        List.Forall₂ (ReadsAs (Describes levels) node (ownInfo node name required) true) types candidates ∧
        field = .union (ownInfo node name required) candidates := by
  rw [describes_types listed, and_iff_right several, and_iff_right distinct]
  refine and_congr_right fun _ => exists_congr fun candidates => and_congr_right fun each => and_iff_right ?_
  -- No list restricts the candidates, so none of them is left without values.
  rintro ⟨-, exhausted⟩
  obtain ⟨first, inside⟩ := List.exists_mem_of_length_pos (Nat.lt_of_lt_of_le Nat.zero_lt_two several)
  obtain ⟨candidate, member, reading⟩ := Pairing.exists_right each inside
  exact (reading.of_unlisted (fun _ _ => rfl) unlisted false).allowed?_ne_nil (exhausted candidate member)

theorem describes_union_iff_each :
    Describes (levels + 1) (.object node) name required field ↔
      ∃ candidates, List.Forall₂ (fun type candidate =>
          Describes (levels + 1) ((Json.object node).withType type) name required candidate) types candidates ∧
        field = .union (ownInfo node name required) candidates := by
  rw [describes_union listed several distinct unlisted]
  simp only [describes_withType unlisted, List.forall₂_and_left]
  have some : ∃ type, type ∈ types := List.exists_mem_of_length_pos (Nat.lt_of_lt_of_le Nat.zero_lt_two several)
  constructor
  · rintro ⟨texts, candidates, each, rfl⟩
    exact ⟨candidates, ⟨fun _ _ => texts, each⟩, rfl⟩
  · rintro ⟨candidates, ⟨texts, each⟩, rfl⟩
    obtain ⟨type, inside⟩ := some
    exact ⟨texts type inside, candidates, each, rfl⟩

end

end Node

namespace Attribute

/-- A union is the alternative of its types. Where there is no `enum`, a node with a list of types is read exactly if it
is with each single one of them, and accepts a value exactly if it does with some one of them. Of a value other than
`null` it then makes what it does with the first type that accepts it. -/
theorem union_of_alternatives {limit : Nat} {schema : Json} {types : List JsonType} (distinctKeys : schema.DistinctKeys)
    (listed : schema.get? "type" = some (Json.strings (types.map JsonType.token))) (several : 2 ≤ types.length)
    (distinct : types.Nodup) (unlisted : schema.get? "enum" = none) (name : String) (required : Bool) :
    ((∃ field, ofDocument limit schema name required = .ok field) ↔
      ∀ type ∈ types, ∃ field, ofDocument limit (schema.withType type) name required = .ok field) ∧
    ∀ (field : Attribute) (alternative : JsonType → Attribute), ofDocument limit schema name required = .ok field →
      (∀ type ∈ types, ofDocument limit (schema.withType type) name required = .ok (alternative type)) →
      ∀ value, (field.Accepts value ↔ ∃ type ∈ types, (alternative type).Accepts value) ∧
        ∀ node, field.accept value = .ok node → value ≠ some .null →
          ∃ before type after winner, types = before ++ type :: after ∧
            (∀ earlier ∈ before, ¬(alternative earlier).Accepts value) ∧
            (alternative type).accept value = .ok winner ∧ node.toJson? = winner.toJson? ∧
            node.effectiveType = winner.effectiveType := by
  cases schema with
  | object members =>
    have reads (field : Attribute) := @Node.describes_union_iff_each limit members field name required types
      listed several distinct unlisted
    simp only [Node.ofDocument_eq_ok]
    refine ⟨⟨?_, fun each => ?_⟩, fun field alternative described describedEach value => ?_⟩
    · rintro ⟨field, described⟩ type inside
      obtain ⟨candidates, each, -⟩ := (reads field).mp described
      obtain ⟨candidate, -, describedToo⟩ := Pairing.exists_right each inside
      exact ⟨candidate, describedToo⟩
    · obtain ⟨candidates, each⟩ := Pairing.exists_pairing each
      exact ⟨_, (reads _).mpr ⟨candidates, each, rfl⟩⟩
    -- The candidates are the attributes of the single types, in the order of these.
    have regular := described.regular distinctKeys
    obtain ⟨candidates, each, rfl⟩ := (reads field).mp described
    obtain rfl : types.map alternative = candidates := by
      refine (Pairing.map_eq (Pairing.with_members each) fun type candidate related => ?_).trans (List.map_id _)
      exact (describedEach type related.1).unique related.2.2
    refine ⟨by simp [accepts_union regular], fun node accepted other => ?_⟩
    obtain ⟨before, candidate, after, winner, split, taken, rfl, first⟩ := exists_first_candidate regular accepted
    obtain ⟨typesBefore, _, rfl, rfl, later⟩ := List.map_eq_append_iff.mp split
    obtain ⟨type, typesAfter, rfl, rfl, rfl⟩ := List.map_eq_cons_iff.mp later
    refine ⟨typesBefore, type, typesAfter, winner, rfl, ?_, taken, rfl, rfl⟩
    rintro earlier inside ⟨result, acceptedToo⟩
    exact first other (alternative earlier) (List.mem_map_of_mem inside) result acceptedToo
  | _ => exact nomatch listed

end Attribute

def Json.sampleAlternatives : Json :=
  .object [("type", strings ["string", "array", "null"]), ("items", .object [("type", .string "integer")])]

def Attribute.sampleAlternative : JsonType → Attribute
  | .array => .arrayOf ⟨"phones", false, none, none⟩ (.integer ⟨"items", false, none, none⟩ none)
  | .null => .null ⟨"phones", false, none, none⟩
  | _ => .string ⟨"phones", false, none, none⟩ none none

def Attribute.sampleUnion : Attribute :=
  .union ⟨"phones", false, none, none⟩ ([.string, .array, .null].map sampleAlternative)

theorem Attribute.union_of_alternatives_sample :
    Json.sampleAlternatives.DistinctKeys ∧ ofDocument 1 Json.sampleAlternatives "phones" false = .ok sampleUnion ∧
      (∀ type ∈ [JsonType.string, .array, .null],
        ofDocument 1 (Json.sampleAlternatives.withType type) "phones" false = .ok (sampleAlternative type)) ∧
      ∃ node, sampleUnion.accept (some (.array [.null])) = .ok node ∧
        ∃ before type after winner, [JsonType.string, .array, .null] = before ++ type :: after ∧
          (∀ earlier ∈ before, ¬(sampleAlternative earlier).Accepts (some (.array [.null]))) ∧
          (sampleAlternative type).accept (some (.array [.null])) = .ok winner ∧ node.toJson? = winner.toJson? ∧
          node.effectiveType = winner.effectiveType := by
  have distinct : Json.sampleAlternatives.DistinctKeys := by
    simp [Json.sampleAlternatives, Json.strings, Json.DistinctKeys, Json.DistinctKeysItems, Json.DistinctKeysMembers]
  have each : ∀ type ∈ [JsonType.string, .array, .null],
      ofDocument 1 (Json.sampleAlternatives.withType type) "phones" false = .ok (sampleAlternative type) :=
    List.forall_mem_cons.mpr ⟨rfl, List.forall_mem_cons.mpr ⟨rfl, List.forall_mem_singleton.mpr rfl⟩⟩
  obtain ⟨-, accepts⟩ := @union_of_alternatives 1 Json.sampleAlternatives [.string, .array, .null] distinct rfl
    (by decide) (by decide) rfl "phones" false
  refine ⟨distinct, rfl, each, _, rfl, ?_⟩
  exact (accepts sampleUnion sampleAlternative rfl each (some (.array [.null]))).2 _ rfl (by simp)

end Credential
