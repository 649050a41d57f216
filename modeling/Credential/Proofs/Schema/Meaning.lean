import Credential.Proofs.Schema.Depth
import Credential.Proofs.Schema.Rewriting

/-! What the document of an attribute means.

The attribute that is read back from it accepts all that the first one does, and
makes the same of it. It accepts more exactly if some union has an empty list of
values for each scalar candidate: such a list is not written, and its candidates
are read back without restriction.
-/

set_option autoImplicit false

namespace Credential

namespace Node

open Attribute

variable {levels : Nat} {node members : Members} {info : Info} {inUnion : Bool} {type : JsonType}
  {field again : Attribute}

theorem text_unique {keyword : String} {first second : Option String} (one : members.get? keyword = first.map .string)
    (other : members.get? keyword = second.map .string) : first = second :=
  Option.map_injective (fun _ _ => Json.string.inj) (one.symm.trans other)

theorem isPlain_of_scalar (typed : field.type? = some type) (scalar : type.supportsEnum = true) :
    field.isPlain = true :=
  isPlain_of_isScalar (by simp [isScalar, typed, scalar])

theorem Requires.names_eq {names others : List String} (requires : Requires members names)
    (written : members.get? "required" = (Json.nonEmpty? (others.map .string)).map .array) : names = others := by
  obtain ⟨absent, rfl⟩ | present := requires
  · cases others with
    | nil => rfl
    | cons first rest => simp [written, Json.nonEmpty?] at absent
  · cases others with
    | nil => simp [written, Json.nonEmpty?] at present
    | cons first rest => exact Json.strings_injective (Option.some.inj (present.symm.trans written))

theorem Describes.type?_again {document : Json} {name : String} {required : Bool} (distinct : document.DistinctKeys)
    (described : Describes levels document name required field)
    (describedAgain : Describes levels field.toDocument name required again) : again.type? = field.type? := by
  obtain ⟨other, describedToo, typed, -⟩ := described.again distinct
  exact describedAgain.unique describedToo ▸ typed

def ReadAgain (levels : Nat) (field again : Attribute) : Prop :=
  ∃ document : Json, document.DistinctKeys ∧ Describes levels document field.name field.required field ∧
    Describes levels field.toDocument field.name field.required again

theorem ReadsAs.record_again {names : List String} {documents : Members} {fields : List Attribute}
    (distinct : (Json.object documents).DistinctKeys)
    (described : List.Forall₂ (fun member property => Describes levels member.2 member.1 (names.contains member.1)
      property) documents fields)
    (readingAgain : ReadsAs (Describes levels) members info inUnion .object again)
    (regular : RegularRecord (objectsLast isObject fields))
    (owned : ∀ keyword, keywordOwner? keyword = some .object →
      members.get? keyword = Members.get? (Attribute.record info (objectsLast isObject fields)).keywords keyword) :
    ∃ agains, again = .record info agains ∧ List.Forall₂ (ReadAgain levels) (objectsLast isObject fields) agains := by
  have describedAll : ∀ property ∈ objectsLast isObject fields, ∃ document, document.DistinctKeys ∧
      Describes levels document property.name property.required property := fun _ => exists_source distinct described
  generalize objectsLast isObject fields = properties at owned regular describedAll ⊢
  have written := (owned "properties" rfl).trans (get?_properties_record regular.distinct)
  cases readingAgain with
  | anyObject _ absent => simp [written] at absent
  | @record namesAgain membersAgain agains requiresAgain presentAgain describedAgain =>
    obtain rfl := Json.object.inj (Option.some.inj (written.symm.trans presentAgain))
    obtain rfl := requiresAgain.names_eq ((owned "required" rfl).trans (get?_required_record info properties))
    rw [propertyNodes_eq, List.forall₂_map_left_iff] at describedAgain
    have each : List.Forall₂ (ReadAgain levels) properties agains := by
      refine (Pairing.with_members describedAgain).imp fun property again both => ?_
      obtain ⟨member, -, describesAgain⟩ := both
      rw [requiredNames_contains regular.distinct member] at describesAgain
      obtain ⟨document, distinct, describes⟩ := describedAll property member
      exact ⟨document, distinct, describes, describesAgain⟩
    have inOrder : objectsLast isObject agains = agains := by
      apply objectsLast_eq_self_of_map_eq regular.ordered
      refine (Pairing.map_eq each fun property child both => ?_).symm
      obtain ⟨document, distinct, describes, describesAgain⟩ := both
      rw [Bool.eq_iff_iff, isObject_iff, isObject_iff, describes.type?_again distinct describesAgain]
    exact ⟨agains, by rw [inOrder], each⟩

theorem ReadsAs.single_again {name : String} {required : Bool} {title description : Option String}
    (reading : ReadsAs (Describes levels) node ⟨name, required, title, description⟩ false type field)
    (holds : Holds members field field.keywords) (readingAgain : Reads (Describes levels) members name required again) :
    ReadsAs (Describes levels) members ⟨name, required, title, description⟩ false type again ∧
      enumList? members = Json.nonEmpty? (Json.merged (enumList? node) [type]) ∧
      ∀ keyword, keywordOwner? keyword = some type →
        members.get? keyword = Members.get? field.keywords keyword := by
  obtain ⟨typeIs, enumIs, titleIs, descriptionIs, owned⟩ := holds
  rw [typeDocument, reading.type?_eq] at typeIs
  rw [reading.info_eq] at titleIs descriptionIs
  rw [reading.enumEntries_eq] at enumIs
  refine ⟨?_, enumList?_eq enumIs, fun keyword owner => owned keyword (by simp [owner])⟩
  cases readingAgain with
  | union _ _ present => simp [typeIs, Json.strings] at present
  | single titled described present readingAgain =>
    obtain rfl := JsonType.token_injective (Json.string.inj (Option.some.inj (typeIs.symm.trans present)))
    obtain rfl := text_unique titleIs titled
    obtain rfl := text_unique descriptionIs described
    exact readingAgain

theorem Reads.union_again {name : String} {required : Bool} {title description : Option String} {types : List JsonType}
    {candidates : List Attribute} (regular : RegularUnion ⟨name, required, title, description⟩ candidates)
    (each : List.Forall₂ (ReadsAs (Describes levels) node ⟨name, required, title, description⟩ true) types candidates)
    (holds : Holds members (Attribute.union ⟨name, required, title, description⟩ candidates)
      (candidateKeywords candidates))
    (readingAgain : Reads (Describes levels) members name required again) :
    ∃ agains, again = .union ⟨name, required, title, description⟩ agains ∧
      List.Forall₂ (ReadsAs (Describes levels) members ⟨name, required, title, description⟩ true) types agains ∧
      enumList? members = Json.nonEmpty? (Json.merged (enumList? node) types) ∧
      ∀ candidate ∈ candidates, ∀ keyword, keywordOwner? keyword = candidate.type? →
        members.get? keyword = Members.get? candidate.keywords keyword := by
  have owned := holds.candidate regular
  obtain ⟨typeIs, enumIs, titleIs, descriptionIs, -⟩ := holds
  rw [typeDocument, type?, Attribute.types, filterMap_type?_of_readsAs each] at typeIs
  rw [enumEntries, enumEntries_of_readsAs each] at enumIs
  cases readingAgain with
  | single _ _ present => simp [typeIs, Json.strings] at present
  | union titled described present _ _ eachAgain _ =>
    obtain rfl := List.map_injective_iff.mpr JsonType.token_injective
      (Json.strings_injective (Option.some.inj (typeIs.symm.trans present)))
    obtain rfl := text_unique titleIs titled
    obtain rfl := text_unique descriptionIs described
    exact ⟨_, rfl, eachAgain, enumList?_eq enumIs, owned⟩

section

variable (distinct : (Json.object node).DistinctKeys) (distinctAgain : (Json.object members).DistinctKeys)
  (below : ∀ {document : Json} {name : String} {required : Bool} {field again : Attribute}, document.DistinctKeys →
    Describes levels document name required field → Describes levels field.toDocument name required again →
      field.Rewrites again)

include distinct distinctAgain below

theorem ReadsAs.rewrites (reading : ReadsAs (Describes levels) node info inUnion type field)
    (readingAgain : ReadsAs (Describes levels) members info inUnion type again) (other : type.supportsEnum ≠ true)
    (owned : ∀ keyword, keywordOwner? keyword = some type →
      members.get? keyword = Members.get? field.keywords keyword) : field.Rewrites again := by
  have regular := reading.regular distinct Describes.regular
  have regularAgain := readingAgain.regular distinctAgain Describes.regular
  cases reading with
  | boolean | integer | number | string => exact absurd rfl other
  | null =>
    cases readingAgain
    exact .of_plain rfl rfl rfl rfl fun _ => Iff.rfl
  | anyArray =>
    have unwritten : members.get? "items" = none := owned "items" rfl
    cases readingAgain with
    | anyArray => exact .of_plain rfl rfl rfl rfl fun _ => Iff.rfl
    | arrayOf present => simp [unwritten] at present
  | arrayOf present described =>
    have written : members.get? "items" = some _ := owned "items" rfl
    cases readingAgain with
    | anyArray absent => simp [written] at absent
    | arrayOf presentAgain describedAgain =>
      obtain rfl := Option.some.inj (written.symm.trans presentAgain)
      exact .arrayOf (below (distinct.get? present) described describedAgain)
  | anyObject =>
    have unwritten : members.get? "properties" = none := owned "properties" rfl
    cases readingAgain with
    | anyObject => exact .of_plain rfl rfl rfl rfl fun _ => Iff.rfl
    | record _ present => simp [unwritten] at present
  | record _ present described =>
    obtain ⟨agains, rfl, each⟩ :=
      readingAgain.record_again (distinct.get? present) described regular.record owned
    refine .record regular regularAgain (each.imp fun property child both => ?_) fun child inside => ?_
    · obtain ⟨document, distinctBelow, describes, describesAgain⟩ := both
      exact below distinctBelow describes describesAgain
    · obtain ⟨property, -, document, -, -, describesAgain⟩ := Pairing.exists_left each inside
      exact describesAgain.exists_takes (distinctKeys_toDocument property)

theorem rewrites_single (reading : ReadsAs (Describes levels) node info false type field)
    (readingAgain : ReadsAs (Describes levels) members info false type again)
    (written : enumList? members = Json.nonEmpty? (Json.merged (enumList? node) [type]))
    (owned : ∀ keyword, keywordOwner? keyword = some type →
      members.get? keyword = Members.get? field.keywords keyword) : field.Rewrites again := by
  by_cases scalar : type.supportsEnum = true
  -- All entries that were written have the one type, so that the list is as it was.
  · have typed := reading.type?_eq
    have typedAgain := readingAgain.type?_eq
    have allowed := readingAgain.allowed?_eq scalar
    rw [written, reading.entriesOf?_single scalar] at allowed
    refine .of_plain (isPlain_of_scalar typed scalar) (isPlain_of_scalar typedAgain scalar)
      (readingAgain.info_eq.trans reading.info_eq.symm) (typedAgain.trans typed.symm) fun document => ?_
    rw [takes_scalar typedAgain scalar, takes_scalar typed scalar, allowed]
  · exact reading.rewrites distinct distinctAgain below readingAgain scalar owned

theorem rewrites_union {types : List JsonType} {candidates agains : List Attribute}
    (regular : (union info candidates).Regular) (regularAgain : (union info agains).Regular)
    (each : List.Forall₂ (ReadsAs (Describes levels) node info true) types candidates)
    (eachAgain : List.Forall₂ (ReadsAs (Describes levels) members info true) types agains)
    (written : enumList? members = Json.nonEmpty? (Json.merged (enumList? node) types))
    (owned : ∀ candidate ∈ candidates, ∀ keyword, keywordOwner? keyword = candidate.type? →
      members.get? keyword = Members.get? candidate.keywords keyword) :
    (union info candidates).Rewrites (union info agains) := by
  have pairs := Pairing.with_members (Pairing.of_common each eachAgain)
  have typed {type : JsonType} {candidate again : Attribute}
      (reading : ReadsAs (Describes levels) node info true type candidate)
      (readingAgain : ReadsAs (Describes levels) members info true type again) : again.type? = candidate.type? :=
    readingAgain.type?_eq.trans reading.type?_eq.symm
  -- Candidates that take no list are rewritten in any case.
  have other {type : JsonType} {candidate again : Attribute} (inside : candidate ∈ candidates)
      (reading : ReadsAs (Describes levels) node info true type candidate)
      (readingAgain : ReadsAs (Describes levels) members info true type again) (other : type.supportsEnum ≠ true) :
      candidate.Rewrites again :=
    reading.rewrites distinct distinctAgain below readingAgain other
      fun keyword owner => owned candidate inside keyword (owner.trans reading.type?_eq.symm)
  by_cases emptied : Emptied candidates
  · have lost := (emptied_iff each).mp emptied
    refine .union_of_emptied regular regularAgain emptied (pairs.imp fun candidate again both => ?_) ?_
    · obtain ⟨inside, -, type, -, reading, readingAgain⟩ := both
      refine ⟨typed reading readingAgain, ?_⟩
      by_cases scalar : type.supportsEnum = true
      · intro document node accepted
        have empty := emptied.2 candidate inside (by simp [isScalar, reading.type?_eq, scalar])
        obtain ⟨entry, listed, -⟩ := ((takes_scalar reading.type?_eq scalar).mp ⟨node, accepted⟩).2 [] empty
        exact absurd listed List.not_mem_nil
      · exact (other inside reading readingAgain scalar).preserves
    · obtain ⟨type, inside, scalar⟩ := lost.1
      obtain ⟨again, member, readingAgain⟩ := Pairing.exists_right eachAgain inside
      refine ⟨again, member, type, readingAgain.type?_eq, scalar, ?_⟩
      rw [readingAgain.allowed?_eq scalar, written, Json.nonEmpty?_merged_of_leavesNothing lost]
      rfl
  · have kept := mt (emptied_iff each).mpr emptied
    refine .union_of_kept regular regularAgain emptied (pairs.imp fun candidate again both => ?_)
    obtain ⟨inside, -, type, memberType, reading, readingAgain⟩ := both
    by_cases scalar : type.supportsEnum = true
    · refine .of_plain (isPlain_of_scalar reading.type?_eq scalar) (isPlain_of_scalar readingAgain.type?_eq scalar)
        (readingAgain.info_eq.trans reading.info_eq.symm) (typed reading readingAgain) fun document => ?_
      rw [takes_scalar readingAgain.type?_eq scalar, takes_scalar reading.type?_eq scalar,
        readingAgain.allowed?_eq scalar, reading.allowed?_eq scalar, written,
        Json.exists_entry_merged_iff kept memberType scalar]
    · exact other inside reading readingAgain scalar

end

/-- What is described by the document of a described attribute stands for that attribute. -/
theorem Describes.rewrites {document : Json} {name : String} {required : Bool} (distinct : document.DistinctKeys)
    (described : Describes levels document name required field)
    (describedAgain : Describes levels field.toDocument name required again) : field.Rewrites again := by
  induction levels generalizing document name required field again with
  | zero => exact described.elim
  | succ levels ih =>
    have regular := described.regular distinct
    have regularAgain := describedAgain.regular (distinctKeys_toDocument field)
    obtain ⟨members, written, holds⟩ := toDocument_holds regular
    have distinctAgain := written ▸ distinctKeys_toDocument field
    obtain ⟨node, rfl, reading⟩ := described
    obtain ⟨_, same, readingAgain⟩ := describedAgain
    obtain rfl := Json.object.inj (written.symm.trans same)
    cases reading with
    | single _ _ _ reading =>
      obtain ⟨readingAgain, written, owned⟩ := reading.single_again holds readingAgain
      exact rewrites_single distinct distinctAgain ih reading readingAgain written owned
    | union _ _ _ _ _ each _ =>
      obtain ⟨agains, rfl, eachAgain, written, owned⟩ := Reads.union_again regular.union each holds readingAgain
      exact rewrites_union distinct distinctAgain ih regular regularAgain each eachAgain written owned

end Node

/-- What an attribute accepts, the attribute that is read back from its document accepts as well, and yields the same
document for it. It accepts nothing else exactly if no union of the tree has an empty list for each scalar candidate. -/
theorem Attribute.reread_accepts {limit : Nat} {schema : Json} {name : String} {required : Bool} {field : Attribute}
    (distinct : schema.DistinctKeys) (read : Attribute.ofDocument limit schema name required = .ok field) :
    ∃ again, Attribute.ofDocument limit field.toDocument name required = .ok again ∧
      (∀ value node, field.accept value = .ok node →
        ∃ other, again.accept value = .ok other ∧ other.toJson? = node.toJson?) ∧
      ((∀ value, (∃ node, field.accept value = .ok node) ↔ ∃ other, again.accept value = .ok other) ↔
        ¬∃ info candidates, field.HasNode (.union info candidates) ∧ Emptied candidates) := by
  have described := Node.ofDocument_eq_ok.mp read
  obtain ⟨again, describedAgain, -⟩ := described.again distinct
  have rewrites := described.rewrites distinct describedAgain
  refine ⟨again, Node.ofDocument_eq_ok.mpr describedAgain, fun value node => rewrites.widens.preserves_accept, ?_⟩
  rw [← kept_iff]
  constructor
  · intro same
    by_contra lost
    obtain ⟨document, taken, refused⟩ := rewrites.exceeds lost
    exact rewrites.not_accepts_of_exceeds taken refused ((same _).mpr (accepts_of_takes rewrites.regularAgain taken))
  · exact fun kept value => ⟨rewrites.widens.accepts, rewrites.accepts_of_kept kept⟩

theorem Attribute.reread_accepts_sample :
    Json.sampleSchema.DistinctKeys ∧ Attribute.ofDocument 4 Json.sampleSchema "" true = .ok Attribute.sample ∧
      ∃ again, Attribute.ofDocument 4 Attribute.sample.toDocument "" true = .ok again ∧
        ∀ value, (∃ node, Attribute.sample.accept value = .ok node) ↔ ∃ other, again.accept value = .ok other := by
  have kept : Attribute.sample.Kept := by
    simp only [Attribute.sample, kept_record, kept_arrayOf, kept_union, List.forall_mem_cons]
    refine ⟨⟨⟨?_, kept_of_plain rfl, kept_of_plain rfl, nofun⟩, kept_of_plain rfl, kept_of_plain rfl, nofun⟩, nofun⟩
    simp [Emptied, isScalar, type?, JsonType.supportsEnum, allowed?]
  obtain ⟨again, readAgain, -, same⟩ :=
    @Attribute.reread_accepts 4 Json.sampleSchema "" true Attribute.sample Json.distinctKeys_sampleSchema rfl
  exact ⟨Json.distinctKeys_sampleSchema, rfl, again, readAgain, same.mpr (kept_iff.mp kept)⟩

def Json.sampleUnlisted : Json :=
  .object [("type", strings ["string", "null"]), ("enum", .array [.number (.integer 1 (by decide))])]

/-- The list of values is not written for the schema above, so that a text is rejected before and accepted after. -/
theorem Attribute.reread_accepts_more :
    ∃ field again, Attribute.ofDocument 4 Json.sampleUnlisted "" true = .ok field ∧
      Attribute.ofDocument 4 field.toDocument "" true = .ok again ∧
      field.accept (some (.string "a")) = .error ⟨[], .noMatchingType [.string, .null]⟩ ∧
      ∃ node, again.accept (some (.string "a")) = .ok node :=
  ⟨_, _, rfl, rfl, rfl, _, rfl⟩

end Credential
