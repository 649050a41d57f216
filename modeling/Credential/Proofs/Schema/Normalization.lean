import Credential.Proofs.Schema.Meaning

/-! Normalizing a schema document: reading it and writing the attribute again.

Whatever is read can be normalized any number of times. From the first time on
the document stays the same, unless some union lists whole numbers for both of
its candidates for numbers: these are then written once for each of the two, and
every time both of them take all that was written.
-/

set_option autoImplicit false

namespace Credential

namespace Attribute

/-- A node whose entries are merged without repetition, so that they are the same when they are merged again. -/
def SettledNode : Attribute → Prop
  | union _ candidates => ¬Overlapping candidates
  | _ => True

def Settled (field : Attribute) : Prop := field.Everywhere SettledNode

theorem settledNode_of_typed {field : Attribute} (typed : field.type?.isSome = true) : field.SettledNode := by
  cases field with
  | union => simp [type?] at typed
  | _ => trivial

theorem settled_iff {field : Attribute} :
    field.Settled ↔ ¬∃ info candidates, field.HasNode (.union info candidates) ∧ Overlapping candidates :=
  everywhere_iff_unions (fun _ _ => Iff.rfl) fun _ => settledNode_of_typed

theorem requiredNames_eq (properties : List Attribute) :
    requiredNames properties =
      properties.filterMap fun property => if property.required then some property.name else none := by
  induction properties with
  | nil => rfl
  | cons property rest ih =>
    cases flag : property.required <;> simp [requiredNames, flag, ← ih]

theorem settled_iff_of_typed {field : Attribute} {type : JsonType} (typed : field.type? = some type) :
    field.Settled ↔ ∀ child ∈ field.children, child.Settled :=
  everywhere_iff.trans (and_iff_right (settledNode_of_typed (by simp [typed])))

end Attribute

namespace Node

open Attribute

variable {levels : Nat} {node members : Members} {info : Info} {inUnion : Bool} {type : JsonType}
  {field again : Attribute}

section

variable (distinct : (Json.object node).DistinctKeys)
  (below : ∀ {document : Json} {name : String} {required : Bool} {field again : Attribute}, document.DistinctKeys →
    Describes levels document name required field → Describes levels field.toDocument name required again →
      (again.toDocument = field.toDocument ↔ field.Settled))

include below

theorem record_rewritten {properties agains : List Attribute} (regular : (record info properties).Regular)
    (regularAgain : (record info agains).Regular) (each : List.Forall₂ (ReadAgain levels) properties agains) :
    (record info agains).keywords.length = (record info properties).keywords.length ∧
      ((record info agains).keywords = (record info properties).keywords ↔
        ∀ property ∈ properties, property.Settled) := by
  have names : Attribute.requiredNames agains = Attribute.requiredNames properties := by
    rw [requiredNames_eq, requiredNames_eq]
    refine (Pairing.filterMap_eq each fun property again both => ?_).symm
    obtain ⟨document, -, -, describesAgain⟩ := both
    rw [describesAgain.name_eq, describesAgain.required_eq]
  have pairs : List.Forall₂ (fun property again : Attribute =>
      (again.name, again.toDocument) = (property.name, property.toDocument) ↔ property.Settled) properties agains := by
    refine each.imp fun property again both => ?_
    obtain ⟨document, distinct, describes, describesAgain⟩ := both
    rw [Prod.mk.injEq, and_iff_right describesAgain.name_eq]
    exact below distinct describes describesAgain
  rw [keywords, keywords, Members.ofPairs_eq_self (keys_propertyNodes agains ▸ regularAgain.record.distinct),
    Members.ofPairs_eq_self (keys_propertyNodes properties ▸ regular.record.distinct), names]
  refine ⟨rfl, ?_⟩
  rw [← Pairing.map_eq_iff pairs, ← propertyNodes_eq, ← propertyNodes_eq]
  simp

include distinct

theorem ReadsAs.rewritten (reading : ReadsAs (Describes levels) node info inUnion type field)
    (readingAgain : ReadsAs (Describes levels) members info inUnion type again)
    (regularAgain : again.Regular)
    (owned : ∀ keyword, keywordOwner? keyword = some type →
      members.get? keyword = Members.get? field.keywords keyword) :
    again.keywords.length = field.keywords.length ∧
      (again.keywords = field.keywords ↔ ∀ child ∈ field.children, child.Settled) := by
  have regular := reading.regular distinct Describes.regular
  cases reading with
  | boolean | integer | number | null =>
    cases readingAgain
    exact ⟨rfl, iff_of_true rfl (List.forall_mem_nil _)⟩
  | @string format _ =>
    have written : members.get? "format" = format.map .string := by
      rw [owned "format" rfl, keywords, get?_textKeyword, if_pos rfl]
    cases readingAgain with
    | string tagged =>
      obtain rfl := text_unique written tagged
      exact ⟨rfl, iff_of_true rfl (List.forall_mem_nil _)⟩
  | anyArray =>
    have unwritten : members.get? "items" = none := owned "items" rfl
    cases readingAgain with
    | anyArray => exact ⟨rfl, iff_of_true rfl (List.forall_mem_nil _)⟩
    | arrayOf present => simp [unwritten] at present
  | @arrayOf document items present described =>
    have written : members.get? "items" = some items.toDocument := owned "items" rfl
    cases readingAgain with
    | anyArray absent => simp [written] at absent
    | @arrayOf documentAgain itemsAgain presentAgain describedAgain =>
      obtain rfl := Option.some.inj (written.symm.trans presentAgain)
      have same := below (distinct.get? present) described describedAgain
      refine ⟨rfl, ?_⟩
      rw [children, List.forall_mem_singleton, ← same, keywords, keywords]
      simp [toDocument]
  | anyObject =>
    have unwritten : members.get? "properties" = none := owned "properties" rfl
    cases readingAgain with
    | anyObject => exact ⟨rfl, iff_of_true rfl (List.forall_mem_nil _)⟩
    | record _ present => simp [unwritten] at present
  | record _ present described =>
    obtain ⟨agains, rfl, each⟩ :=
      readingAgain.record_again (distinct.get? present) described regular.record owned
    exact record_rewritten below regular regularAgain each

theorem settled_single (reading : ReadsAs (Describes levels) node info false type field)
    (readingAgain : ReadsAs (Describes levels) members info false type again) (regularAgain : again.Regular)
    (written : enumList? members = Json.nonEmpty? (Json.merged (enumList? node) [type]))
    (owned : ∀ keyword, keywordOwner? keyword = some type →
      members.get? keyword = Members.get? field.keywords keyword) :
    again.toDocument = field.toDocument ↔ field.Settled := by
  have regular := reading.regular distinct Describes.regular
  have typed := reading.type?_eq
  have typedAgain := readingAgain.type?_eq
  have sameType : again.typeDocument = field.typeDocument := by simp only [typeDocument, typed, typedAgain]
  have sameEntries : again.enumEntries = field.enumEntries := by
    rw [readingAgain.enumEntries_eq, reading.enumEntries_eq, written]
    exact (Json.merged_merged_iff (List.nodup_singleton type)).mpr Json.not_sharesIntegers_singleton
  rw [toDocument_eq_iff regular regularAgain (readingAgain.info_eq.trans reading.info_eq.symm) sameType,
    and_iff_left sameEntries, settled_iff_of_typed typed]
  exact (reading.rewritten distinct below readingAgain regularAgain owned).2

theorem settled_union {types : List JsonType} {candidates agains : List Attribute} (distinctTypes : types.Nodup)
    (regular : (union info candidates).Regular) (regularAgain : (union info agains).Regular)
    (each : List.Forall₂ (ReadsAs (Describes levels) node info true) types candidates)
    (eachAgain : List.Forall₂ (ReadsAs (Describes levels) members info true) types agains)
    (written : enumList? members = Json.nonEmpty? (Json.merged (enumList? node) types))
    (owned : ∀ candidate ∈ candidates, ∀ keyword, keywordOwner? keyword = candidate.type? →
      members.get? keyword = Members.get? candidate.keywords keyword) :
    (union info agains).toDocument = (union info candidates).toDocument ↔ (union info candidates).Settled := by
  have sameType : (union info agains).typeDocument = (union info candidates).typeDocument := by
    simp only [typeDocument, type?, Attribute.types, filterMap_type?_of_readsAs each,
      filterMap_type?_of_readsAs eachAgain]
  have entries : (union info agains).enumEntries = (union info candidates).enumEntries ↔ ¬Overlapping candidates := by
    rw [enumEntries, enumEntries, enumEntries_of_readsAs each, enumEntries_of_readsAs eachAgain, written,
      overlapping_iff each, Json.merged_merged_iff distinctTypes]
  have pairs : List.Forall₂ (fun candidate again : Attribute => again.keywords.length = candidate.keywords.length ∧
      (again.keywords = candidate.keywords ↔ candidate.Settled)) candidates agains := by
    refine (Pairing.with_members (Pairing.of_common each eachAgain)).imp fun candidate again both => ?_
    obtain ⟨inside, insideAgain, type, -, reading, readingAgain⟩ := both
    rw [settled_iff_of_typed reading.type?_eq]
    exact reading.rewritten distinct below readingAgain (regularAgain.candidate insideAgain)
      fun keyword owner => owned candidate inside keyword (owner.trans reading.type?_eq.symm)
  rw [toDocument_eq_iff regular regularAgain rfl sameType, entries, keywords, keywords,
    regular.union.candidateKeywords_eq, regularAgain.union.candidateKeywords_eq, Pairing.flatMap_eq_iff pairs, Settled,
    everywhere_iff]
  exact and_comm

end

theorem Describes.toDocument_again_iff {document : Json} {name : String} {required : Bool}
    (distinct : document.DistinctKeys) (described : Describes levels document name required field)
    (describedAgain : Describes levels field.toDocument name required again) :
    again.toDocument = field.toDocument ↔ field.Settled := by
  induction levels generalizing document name required field again with
  | zero => exact described.elim
  | succ levels ih =>
    have regular := described.regular distinct
    have regularAgain := describedAgain.regular (distinctKeys_toDocument field)
    obtain ⟨members, written, holds⟩ := toDocument_holds regular
    obtain ⟨node, rfl, reading⟩ := described
    obtain ⟨_, same, readingAgain⟩ := describedAgain
    obtain rfl := Json.object.inj (written.symm.trans same)
    cases reading with
    | single _ _ _ reading =>
      obtain ⟨readingAgain, written, owned⟩ := reading.single_again holds readingAgain
      exact settled_single distinct ih reading readingAgain regularAgain written owned
    | union _ _ _ _ distinctTypes each _ =>
      obtain ⟨agains, rfl, eachAgain, written, owned⟩ := Reads.union_again regular.union each holds readingAgain
      exact settled_union distinct ih distinctTypes regular regularAgain each eachAgain written owned

end Node

namespace Attribute

def normalizeSchema (limit : Nat) (name : String) (required : Bool) (document : Json) : Except SchemaFault Json :=
  (ofDocument limit document name required).map toDocument

def normalizeRounds (limit : Nat) (name : String) (required : Bool) : (rounds : Nat) → Json → Except SchemaFault Json
  | 0, document => .ok document
  | rounds + 1, document => do
    let again ← normalizeSchema limit name required document
    normalizeRounds limit name required rounds again

variable {limit : Nat} {name : String} {required : Bool} {schema document : Json} {field : Attribute}

theorem normalizeSchema_of_read (read : ofDocument limit schema name required = .ok field) :
    normalizeSchema limit name required schema = .ok field.toDocument := by
  rw [normalizeSchema, read]
  rfl

theorem normalizeRounds_of_read (read : ofDocument limit schema name required = .ok field) (rounds : Nat) :
    normalizeRounds limit name required (rounds + 1) schema =
      normalizeRounds limit name required rounds field.toDocument := by
  rw [normalizeRounds, normalizeSchema_of_read read]
  rfl

theorem exists_read_toDocument (distinct : schema.DistinctKeys)
    (read : ofDocument limit schema name required = .ok field) :
    ∃ again, ofDocument limit field.toDocument name required = .ok again := by
  obtain ⟨again, described, -⟩ := (Node.ofDocument_eq_ok.mp read).again distinct
  exact ⟨again, Node.ofDocument_eq_ok.mpr described⟩

-- A document that was written can be read, so that no round fails.
theorem exists_normalizeRounds (distinct : schema.DistinctKeys)
    (read : ofDocument limit schema name required = .ok field) (rounds : Nat) :
    ∃ document, normalizeRounds limit name required rounds schema = .ok document := by
  induction rounds generalizing schema field with
  | zero => exact ⟨schema, rfl⟩
  | succ rounds ih =>
    obtain ⟨again, readAgain⟩ := exists_read_toDocument distinct read
    rw [normalizeRounds_of_read read]
    exact ih (distinctKeys_toDocument field) readAgain

theorem normalizeRounds_of_fixed (fixed : normalizeSchema limit name required document = .ok document) (rounds : Nat) :
    normalizeRounds limit name required rounds document = .ok document := by
  induction rounds with
  | zero => rfl
  | succ rounds ih =>
    rw [normalizeRounds, fixed]
    exact ih

/-- A schema can be normalized any number of times. From the first time on the document stays the same, unless some
union of the tree lists whole numbers and has a candidate for all numbers too. -/
theorem normalizeRounds_fixed_iff (distinct : schema.DistinctKeys)
    (read : ofDocument limit schema name required = .ok field) :
    (∀ rounds, ∃ document, normalizeRounds limit name required rounds schema = .ok document) ∧
      ((∀ rounds, normalizeRounds limit name required (rounds + 1) schema = .ok field.toDocument) ↔
        ¬∃ info candidates, field.HasNode (.union info candidates) ∧ Overlapping candidates) := by
  obtain ⟨again, readAgain⟩ := exists_read_toDocument distinct read
  have described := Node.ofDocument_eq_ok.mp read
  have same := described.toDocument_again_iff distinct (Node.ofDocument_eq_ok.mp readAgain)
  simp only [normalizeRounds_of_read read]
  refine ⟨exists_normalizeRounds distinct read, ?_⟩
  rw [← settled_iff, ← same]
  constructor
  · intro fixed
    have once := fixed 1
    rw [normalizeRounds_of_read readAgain] at once
    exact Except.ok.inj once
  · intro unchanged rounds
    have fixed := normalizeSchema_of_read readAgain
    rw [unchanged] at fixed
    exact normalizeRounds_of_fixed fixed rounds

theorem normalizeRounds_fixed_iff_sample :
    Json.sampleSchema.DistinctKeys ∧ ofDocument 4 Json.sampleSchema "" true = .ok Attribute.sample ∧
      (∀ rounds, ∃ document, normalizeRounds 4 "" true rounds Json.sampleSchema = .ok document) ∧
      ((∀ rounds, normalizeRounds 4 "" true (rounds + 1) Json.sampleSchema = .ok Attribute.sample.toDocument) ↔
        ¬∃ info candidates, Attribute.sample.HasNode (.union info candidates) ∧ Overlapping candidates) :=
  ⟨Json.distinctKeys_sampleSchema, rfl,
    @normalizeRounds_fixed_iff 4 "" true Json.sampleSchema Attribute.sample Json.distinctKeys_sampleSchema rfl⟩

end Attribute

def Json.sampleShared (times : Nat) : Json :=
  .object [
    ("type", strings ["integer", "number"]),
    ("enum", .array (List.replicate times (.number (.integer 2 (by decide)))))]

/-- Both candidates take all entries, so that the list doubles each time the schema is normalized. -/
theorem Attribute.normalizeRounds_doubles :
    normalizeRounds 4 "" true 1 (Json.sampleShared 1) = .ok (Json.sampleShared 2) ∧
      normalizeRounds 4 "" true 2 (Json.sampleShared 1) = .ok (Json.sampleShared 4) ∧
      Json.sampleShared 4 ≠ Json.sampleShared 2 :=
  ⟨rfl, rfl, by decide⟩

end Credential
