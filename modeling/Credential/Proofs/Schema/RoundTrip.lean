import Credential.Proofs.Schema.Emission
import Credential.Proofs.Schema.Enumeration

/-! Reading back the document of an attribute.

It can always be read, within the same limit. The tree is the same unless a
union has whole numbers as entries of two candidates, or entries for none.
-/

set_option autoImplicit false

namespace Credential

namespace Attribute

def isScalar (field : Attribute) : Bool := field.type?.any JsonType.supportsEnum

/-- Whole numbers are listed, and a candidate for numbers takes them as well. -/
def Overlapping (candidates : List Attribute) : Prop :=
  (∃ whole ∈ candidates, whole.type? = some .integer ∧ ∃ entries, whole.allowed? = some entries ∧ entries ≠ []) ∧
    ∃ other ∈ candidates, other.type? = some .number

/-- There are scalar candidates, and a list without entries for each of them. -/
def Emptied (candidates : List Attribute) : Prop :=
  (∃ candidate ∈ candidates, candidate.isScalar = true) ∧
    ∀ candidate ∈ candidates, candidate.isScalar = true → candidate.allowed? = some []

def LosslessNode : Attribute → Prop
  | union _ candidates => ¬Overlapping candidates ∧ ¬Emptied candidates
  | _ => True

def Lossless (field : Attribute) : Prop := field.Everywhere LosslessNode

theorem losslessNode_of_typed {field : Attribute} (typed : field.type?.isSome = true) : field.LosslessNode := by
  cases field with
  | union => simp [type?] at typed
  | _ => trivial

theorem lossless_iff {field : Attribute} :
    field.Lossless ↔ ¬∃ info candidates, field.HasNode (.union info candidates) ∧
      (Overlapping candidates ∨ Emptied candidates) :=
  everywhere_iff_unions (fun _ _ => not_or.symm) fun _ => losslessNode_of_typed

-- Outside of a union only the nodes below count.
theorem lossless_iff_of_typed {field : Attribute} {type : JsonType} (typed : field.type? = some type) :
    field.Lossless ↔ ∀ child ∈ field.children, child.Lossless :=
  everywhere_iff.trans (and_iff_right (losslessNode_of_typed (by simp [typed])))

theorem isObject_iff {field : Attribute} : field.isObject = true ↔ field.type? = some .object := by
  cases field <;> simp [isObject, type?]

end Attribute

namespace Node

open Attribute

variable {levels : Nat} {node members : Members} {info : Info} {inUnion : Bool} {type : JsonType} {field : Attribute}

/-! ## Lists under `enum` -/

theorem Selects.relisted {α : Type} {select : Json → Option α} {toJson : α → Json} (takes : Selects select toJson type)
    (injective : Function.Injective toJson) {entries : Option (List Json)}
    (listed : members.get? "enum" = entries.map .array) (nonempty : entries ≠ some [])
    (strict : inUnion = false → ∀ values ∈ entries, ∀ value ∈ values, value.hasShape type = true)
    (allowed : Option (List α)) :
    ∃ again, Listed members inUnion select again ∧
      (again = allowed ↔ Json.entriesOf? entries type = allowed.map (·.map toJson)) := by
  refine ⟨_, takes.listed_iff.mpr ⟨entries, listed, nonempty, strict, rfl⟩, ?_⟩
  rw [← takes.entries_eq entries]
  exact (Option.map_injective (List.map_injective_iff.mpr injective)).eq_iff.symm

section

variable {below : Relation} {types : List JsonType} {candidates : List Attribute}

theorem ReadsAs.enumEntries_eq (reading : ReadsAs below node info inUnion type field) :
    field.enumEntries = Json.merged (enumList? node) [type] := by
  have own : field.enumEntries = field.allowed?.getD [] := by cases reading <;> rfl
  rw [own, reading.allowed?_getD, Json.merged, List.flatMap_singleton]

-- Outside of a union the list is written as it was read: all of its entries have the one type.
theorem ReadsAs.entriesOf?_single (reading : ReadsAs below node info false type field)
    (scalar : type.supportsEnum = true) :
    Json.entriesOf? (Json.nonEmpty? (Json.merged (enumList? node) [type])) type = field.allowed? := by
  obtain ⟨-, nonempty, all, allowed⟩ := reading.enumList?_spec scalar
  rw [allowed]
  refine (Json.entriesOf?_merged_iff (List.nodup_singleton type)).mpr ⟨Json.not_sharesIntegers_singleton, ?_⟩ type
    List.mem_cons_self scalar
  rintro ⟨-, empty⟩
  have none := empty type List.mem_cons_self scalar
  cases list : enumList? node with
  | none => simp [list, Json.entriesOf?] at none
  | some values =>
    have whole := List.filter_eq_self.mpr (all rfl values list)
    rw [list, Json.entriesOf?, Option.map_some, whole] at none
    exact nonempty (list.trans none)

variable (each : List.Forall₂ (ReadsAs below node info inUnion) types candidates)

include each

theorem enumEntries_of_readsAs :
    candidates.flatMap (fun candidate => candidate.allowed?.getD []) = Json.merged (enumList? node) types :=
  (Pairing.flatMap_eq each fun _ _ reading => reading.allowed?_getD.symm).symm

theorem overlapping_iff : Overlapping candidates ↔ Json.SharesIntegers (enumList? node) types := by
  have share {whole : Attribute} (reading : ReadsAs below node info inUnion .integer whole) :
      (∃ entries, whole.allowed? = some entries ∧ entries ≠ []) ↔ Json.share (enumList? node) .integer ≠ [] := by
    rw [← reading.allowed?_getD]
    cases whole.allowed? <;> simp
  constructor
  · rintro ⟨⟨whole, member, typed, present⟩, other, memberToo, typedToo⟩
    obtain ⟨type, inside, reading⟩ := Pairing.exists_left each member
    obtain ⟨second, insideToo, readingToo⟩ := Pairing.exists_left each memberToo
    obtain rfl := Option.some.inj (typed.symm.trans reading.type?_eq)
    obtain rfl := Option.some.inj (typedToo.symm.trans readingToo.type?_eq)
    exact ⟨inside, insideToo, (share reading).mp present⟩
  · rintro ⟨inside, insideToo, present⟩
    obtain ⟨whole, member, reading⟩ := Pairing.exists_right each inside
    obtain ⟨other, memberToo, readingToo⟩ := Pairing.exists_right each insideToo
    exact ⟨⟨whole, member, reading.type?_eq, (share reading).mpr present⟩, other, memberToo, readingToo.type?_eq⟩

theorem emptied_iff : Emptied candidates ↔ Json.LeavesNothing (enumList? node) types := by
  have scalar_iff {candidate : Attribute} {type : JsonType} (reading : ReadsAs below node info inUnion type candidate) :
      candidate.isScalar = true ↔ type.supportsEnum = true := by
    simp [isScalar, reading.type?_eq]
  constructor
  · rintro ⟨⟨candidate, member, scalar⟩, empty⟩
    obtain ⟨type, inside, reading⟩ := Pairing.exists_left each member
    refine ⟨⟨type, inside, (scalar_iff reading).mp scalar⟩, fun other insideToo scalarToo => ?_⟩
    obtain ⟨second, memberToo, readingToo⟩ := Pairing.exists_right each insideToo
    rw [← readingToo.allowed?_eq scalarToo]
    exact empty second memberToo ((scalar_iff readingToo).mpr scalarToo)
  · rintro ⟨⟨type, inside, scalar⟩, empty⟩
    obtain ⟨candidate, member, reading⟩ := Pairing.exists_right each inside
    refine ⟨⟨candidate, member, (scalar_iff reading).mpr scalar⟩, fun second memberToo scalarToo => ?_⟩
    obtain ⟨other, insideToo, readingToo⟩ := Pairing.exists_left each memberToo
    have scalarType := (scalar_iff readingToo).mp scalarToo
    rw [readingToo.allowed?_eq scalarType]
    exact empty other insideToo scalarType

theorem losslessNode_union_iff (distinct : types.Nodup) :
    (union info candidates).LosslessNode ↔ ∀ type ∈ types, type.supportsEnum = true →
      Json.entriesOf? (Json.nonEmpty? (Json.merged (enumList? node) types)) type =
        Json.entriesOf? (enumList? node) type := by
  rw [LosslessNode, overlapping_iff each, emptied_iff each, Json.entriesOf?_merged_iff distinct]

end

/-! ## Readings of the written node

What is described one level down can be read back, by the hypothesis `below`.
-/

section

variable (distinct : (Json.object node).DistinctKeys)
  (below : ∀ {document : Json} {name : String} {required : Bool} {field : Attribute}, document.DistinctKeys →
    Describes levels document name required field →
      ∃ again, Describes levels field.toDocument name required again ∧ again.type? = field.type? ∧
        (again = field ↔ field.Lossless))

include distinct below

-- Declared properties are written in their stored order, and are read back in it.
theorem readsAs_record_again {names : List String} {documents : Members} {fields : List Attribute}
    (requires : Requires node names) (present : node.get? "properties" = some (.object documents))
    (described : List.Forall₂ (fun member property => Describes levels member.2 member.1 (names.contains member.1)
      property) documents fields)
    (owned : ∀ keyword, keywordOwner? keyword = some .object →
      members.get? keyword = Members.get? (record info (objectsLast isObject fields)).keywords keyword) :
    ∃ again, ReadsAs (Describes levels) members info inUnion .object again ∧
      (again = record info (objectsLast isObject fields) ↔
        ∀ property ∈ objectsLast isObject fields, property.Lossless) := by
  have reading : ReadsAs (Describes levels) node info inUnion .object (record info (objectsLast isObject fields)) :=
    .record requires present described
  have regular := (reading.regular distinct Describes.regular).record
  have describedAll : ∀ property ∈ objectsLast isObject fields, ∃ document, document.DistinctKeys ∧
      Describes levels document property.name property.required property :=
    fun _ => exists_source (distinct.get? present) described
  generalize objectsLast isObject fields = properties at owned regular describedAll ⊢
  have each : ∀ property ∈ properties, ∃ again,
      Describes levels property.toDocument property.name property.required again ∧ again.type? = property.type? ∧
        (again = property ↔ property.Lossless) := by
    intro property member
    obtain ⟨source, distinctSource, describes⟩ := describedAll property member
    exact below distinctSource describes
  obtain ⟨agains, paired⟩ := Pairing.exists_pairing each
  have requiresAgain : Requires members (Attribute.requiredNames properties) := by
    have found := (owned "required" rfl).trans (get?_required_record info properties)
    cases listed : Attribute.requiredNames properties with
    | nil => exact .inl ⟨by simpa [listed, Json.nonEmpty?] using found, rfl⟩
    | cons first rest => exact .inr (by simpa [listed, Json.nonEmpty?, Json.strings] using found)
  have again : List.Forall₂ (fun member property =>
      Describes levels member.2 member.1 ((Attribute.requiredNames properties).contains member.1) property)
        (propertyNodes properties) agains := by
    rw [propertyNodes_eq, List.forall₂_map_left_iff]
    apply (Pairing.with_members paired).imp
    intro property child both
    obtain ⟨member, -, describes, -, -⟩ := both
    rw [requiredNames_contains regular.distinct member]
    exact describes
  have inOrder : objectsLast isObject agains = agains := by
    refine objectsLast_eq_self_of_map_eq regular.ordered (Pairing.map_eq paired fun property child both => ?_).symm
    rw [Bool.eq_iff_iff, isObject_iff, isObject_iff, both.2.1]
  have written := (owned "properties" rfl).trans (get?_properties_record regular.distinct)
  refine ⟨.record info agains, inOrder ▸ .record requiresAgain written again, ?_⟩
  rw [record.injEq, and_iff_right rfl]
  exact Pairing.eq_iff (paired.imp fun _ _ both => both.2.2)

theorem ReadsAs.again (reading : ReadsAs (Describes levels) node info inUnion type field)
    (owned : ∀ keyword, keywordOwner? keyword = some type →
      members.get? keyword = Members.get? field.keywords keyword)
    {entries : Option (List Json)} (listed : members.get? "enum" = entries.map .array) (nonempty : entries ≠ some [])
    (strict : inUnion = false → ∀ values ∈ entries, ∀ value ∈ values, value.hasShape type = true) :
    ∃ again, ReadsAs (Describes levels) members info inUnion type again ∧
      (again = field ↔ (type.supportsEnum = true → Json.entriesOf? entries type = field.allowed?) ∧
        ∀ child ∈ field.children, child.Lossless) := by
  cases reading with
  | @boolean allowed =>
    obtain ⟨again, relisted, same⟩ :=
      selects_bool.relisted (fun _ _ => Json.bool.inj) listed nonempty strict allowed
    exact ⟨.boolean info again, .boolean relisted, by simp [JsonType.supportsEnum, allowed?, children, same]⟩
  | @integer allowed =>
    obtain ⟨again, relisted, same⟩ :=
      selects_integer.relisted (fun _ _ => Json.number.inj) listed nonempty strict allowed
    exact ⟨.integer info again, .integer relisted, by simp [JsonType.supportsEnum, allowed?, children, same]⟩
  | @number allowed =>
    obtain ⟨again, relisted, same⟩ :=
      selects_number.relisted (fun _ _ => Json.number.inj) listed nonempty strict allowed
    exact ⟨.number info again, .number relisted, by simp [JsonType.supportsEnum, allowed?, children, same]⟩
  | @string format allowed tagged =>
    obtain ⟨again, relisted, same⟩ :=
      selects_string.relisted (fun _ _ => Json.string.inj) listed nonempty strict allowed
    have taggedAgain : members.get? "format" = format.map .string := by
      rw [owned "format" rfl, keywords, get?_textKeyword, if_pos rfl]
    exact ⟨.string info format again, .string taggedAgain relisted,
      by simp [JsonType.supportsEnum, allowed?, children, same]⟩
  | null => exact ⟨.null info, .null, by simp [JsonType.supportsEnum, children]⟩
  | anyArray => exact ⟨.anyArray info, .anyArray (owned "items" rfl), by simp [JsonType.supportsEnum, children]⟩
  | @arrayOf document items present described =>
    obtain ⟨again, describedAgain, -, same⟩ := below (distinct.get? present) described
    have written : members.get? "items" = some items.toDocument := by
      rw [owned "items" rfl, keywords, Members.get?_cons, if_pos rfl]
      rfl
    exact ⟨.arrayOf info again, .arrayOf written describedAgain, by simp [JsonType.supportsEnum, children, same]⟩
  | anyObject =>
    exact ⟨.anyObject info, .anyObject (.inl ⟨owned "required" rfl, rfl⟩) (owned "properties" rfl),
      by simp [JsonType.supportsEnum, children]⟩
  | record requires present described =>
    obtain ⟨again, readingAgain, same⟩ := readsAs_record_again distinct below requires present described owned
    exact ⟨again, readingAgain, by simp [JsonType.supportsEnum, children, same]⟩

theorem readsAs_each_again {types : List JsonType} {candidates : List Attribute} (distinctTypes : types.Nodup)
    (each : List.Forall₂ (ReadsAs (Describes levels) node info true) types candidates)
    (owned : ∀ candidate ∈ candidates, ∀ keyword, keywordOwner? keyword = candidate.type? →
      members.get? keyword = Members.get? candidate.keywords keyword)
    (listed : members.get? "enum" = (Json.nonEmpty? (Json.merged (enumList? node) types)).map .array) :
    ∃ agains, List.Forall₂ (ReadsAs (Describes levels) members info true) types agains ∧
      (agains = candidates ↔ (union info candidates).Lossless) := by
  let entries := Json.nonEmpty? (Json.merged (enumList? node) types)
  let Kept (candidate : Attribute) : Prop := ∀ type, candidate.type? = some type →
    type.supportsEnum = true → Json.entriesOf? entries type = candidate.allowed?
  have once {type : JsonType} {candidate : Attribute} (member : candidate ∈ candidates)
      (reading : ReadsAs (Describes levels) node info true type candidate) :
      ∃ again, ReadsAs (Describes levels) members info true type again ∧
        (again = candidate ↔ Kept candidate ∧ candidate.Lossless) := by
    have typed := reading.type?_eq
    obtain ⟨again, readingAgain, same⟩ := reading.again distinct below
      (fun keyword owner => owned candidate member keyword (owner.trans typed.symm)) listed
      (fun empty => (Json.nonEmpty?_eq_some.mp empty).2 rfl) nofun
    refine ⟨again, readingAgain, ?_⟩
    rw [same, lossless_iff_of_typed typed]
    simp only [Kept, typed, Option.some.injEq, forall_eq']
    rfl
  obtain ⟨agains, readings, changes⟩ := Pairing.exists_third (Pairing.with_members each)
    fun _ _ both => once both.2.1 both.2.2
  -- All candidates keep their entries exactly if the union is not one of the two lossy ones.
  have kept : (∀ candidate ∈ candidates, Kept candidate) ↔ (union info candidates).LosslessNode := by
    rw [losslessNode_union_iff each distinctTypes]
    constructor
    · intro all type inside scalar
      obtain ⟨candidate, member, reading⟩ := Pairing.exists_right each inside
      rw [← reading.allowed?_eq scalar]
      exact all candidate member type reading.type?_eq scalar
    · intro all candidate member type typed scalar
      obtain ⟨other, inside, reading⟩ := Pairing.exists_left each member
      obtain rfl := Option.some.inj (typed.symm.trans reading.type?_eq)
      rw [reading.allowed?_eq scalar]
      exact all type inside scalar
  refine ⟨agains, readings, ?_⟩
  rw [Pairing.eq_iff changes, Lossless, everywhere_iff, ← kept]
  exact ⟨fun all => ⟨fun candidate member => (all candidate member).1, fun candidate member => (all candidate member).2⟩,
    fun all candidate member => ⟨all.1 candidate member, all.2 candidate member⟩⟩

/-! ## The whole node -/

theorem reads_single_again {name : String} {required : Bool} {title description : Option String}
    (reading : ReadsAs (Describes levels) node ⟨name, required, title, description⟩ false type field)
    (holds : Holds members field field.keywords) :
    ∃ again, Reads (Describes levels) members name required again ∧ again.type? = field.type? ∧
      (again = field ↔ field.Lossless) := by
  have typed := reading.type?_eq
  obtain ⟨typeIs, enumIs, titleIs, descriptionIs, owned⟩ := holds
  rw [typeDocument, typed] at typeIs
  rw [reading.enumEntries_eq] at enumIs
  rw [reading.info_eq] at titleIs descriptionIs
  obtain ⟨again, readingAgain, same⟩ := reading.again distinct below
    (fun keyword owner => owned keyword (by simp [owner])) enumIs
    (fun empty => (Json.nonEmpty?_eq_some.mp empty).2 rfl) (fun _ _ written _ => Json.hasShape_of_mem_single written)
  refine ⟨again, .single titleIs descriptionIs typeIs readingAgain, ?_, ?_⟩
  · rw [readingAgain.type?_eq, typed]
  · rw [same, lossless_iff_of_typed typed, and_iff_right reading.entriesOf?_single]

theorem reads_union_again {name : String} {required : Bool} {title description : Option String}
    {types : List JsonType} {candidates : List Attribute} (several : 2 ≤ types.length) (distinctTypes : types.Nodup)
    (each : List.Forall₂ (ReadsAs (Describes levels) node ⟨name, required, title, description⟩ true) types candidates)
    (regular : RegularUnion ⟨name, required, title, description⟩ candidates)
    (holds : Holds members (union ⟨name, required, title, description⟩ candidates) (candidateKeywords candidates)) :
    ∃ agains, Reads (Describes levels) members name required (union ⟨name, required, title, description⟩ agains) ∧
      (agains = candidates ↔ (union ⟨name, required, title, description⟩ candidates).Lossless) := by
  have owned := holds.candidate regular
  obtain ⟨typeIs, enumIs, titleIs, descriptionIs, -⟩ := holds
  rw [typeDocument, type?, Attribute.types, filterMap_type?_of_readsAs each] at typeIs
  rw [enumEntries, enumEntries_of_readsAs each] at enumIs
  obtain ⟨agains, readings, same⟩ := readsAs_each_again distinct below distinctTypes each owned enumIs
  -- An entry in the written list has a type, which finds it there again.
  have entry : ¬((∀ type ∈ types, type.supportsEnum = true) ∧ ∀ again ∈ agains, again.allowed? = some []) := by
    rintro ⟨scalars, empty⟩
    obtain ⟨type, inside, filled⟩ := @Json.exists_entriesOf?_merged_ne (enumList? node) types
      (List.ne_nil_of_length_pos (Nat.lt_of_lt_of_le Nat.zero_lt_two several))
    obtain ⟨again, member, readingAgain⟩ := Pairing.exists_right readings inside
    have allowed := readingAgain.allowed?_eq (scalars type inside)
    rw [enumList?_eq enumIs, empty again member] at allowed
    exact filled allowed.symm
  exact ⟨agains, .union titleIs descriptionIs typeIs several distinctTypes readings entry, same⟩

end

/-- The document of a described attribute describes an attribute again, on as many levels. -/
theorem Describes.again {document : Json} {name : String} {required : Bool} (distinct : document.DistinctKeys)
    (described : Describes levels document name required field) :
    ∃ again, Describes levels field.toDocument name required again ∧ again.type? = field.type? ∧
      (again = field ↔ field.Lossless) := by
  -- The written document is as deep as the tree, and the tree is no deeper than the levels.
  induction levels generalizing document name required field with
  | zero => exact described.elim
  | succ levels ih =>
    have regular := described.regular distinct
    obtain ⟨members, written, holds⟩ := toDocument_holds regular
    obtain ⟨node, rfl, reading⟩ := described
    rw [written]
    cases reading with
    | single _ _ _ reading =>
      obtain ⟨again, readsAgain, typed, same⟩ := reads_single_again distinct ih reading holds
      exact ⟨again, ⟨members, rfl, readsAgain⟩, typed, same⟩
    | union _ _ _ several distinctTypes each _ =>
      obtain ⟨agains, readsAgain, same⟩ :=
        reads_union_again distinct ih several distinctTypes each regular.union holds
      refine ⟨_, ⟨members, rfl, readsAgain⟩, rfl, ?_⟩
      rw [union.injEq, and_iff_right rfl, same]

end Node

/-- The document of an attribute that was read can be read within the same limit. The outcome is the same attribute
exactly if no union of the tree lists whole numbers for two candidates, or has an empty list for each scalar one. -/
theorem Attribute.reread_eq_iff {limit : Nat} {schema : Json} {name : String} {required : Bool} {field : Attribute}
    (distinct : schema.DistinctKeys) (read : Attribute.ofDocument limit schema name required = .ok field) :
    ∃ again, Attribute.ofDocument limit field.toDocument name required = .ok again ∧
      (again = field ↔ ¬∃ info candidates, field.HasNode (.union info candidates) ∧
        (Overlapping candidates ∨ Emptied candidates)) := by
  obtain ⟨again, described, -, same⟩ := (Node.ofDocument_eq_ok.mp read).again distinct
  exact ⟨again, Node.ofDocument_eq_ok.mpr described, same.trans lossless_iff⟩

theorem Attribute.reread_eq_iff_sample :
    Json.sampleSchema.DistinctKeys ∧ Attribute.ofDocument 4 Json.sampleSchema "" true = .ok Attribute.sample ∧
      ∃ again, Attribute.ofDocument 4 Attribute.sample.toDocument "" true = .ok again ∧
        (again = Attribute.sample ↔ ¬∃ info candidates, Attribute.sample.HasNode (.union info candidates) ∧
          (Overlapping candidates ∨ Emptied candidates)) :=
  ⟨Json.distinctKeys_sampleSchema, rfl,
    @Attribute.reread_eq_iff 4 Json.sampleSchema "" true Attribute.sample Json.distinctKeys_sampleSchema rfl⟩

end Credential
