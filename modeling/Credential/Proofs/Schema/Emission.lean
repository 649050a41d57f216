import Credential.Proofs.Attribute.Regular
import Credential.Proofs.Schema.Merging
import Credential.Schema.Writing

/-! What the document of an attribute holds under each keyword.

Candidates of a union write their keywords into one node. They do not get in
each other's way, since each keyword belongs to one type and a type has one
candidate.
-/

set_option autoImplicit false

namespace Credential

namespace Attribute

/-- The type whose attributes write a keyword; none for what every attribute may write. -/
def keywordOwner? (keyword : String) : Option JsonType :=
  if keyword = "format" then some .string
  else if keyword = "items" then some .array
  else if keyword = "properties" ∨ keyword = "required" then some .object
  else none

section

variable {keyword other : String}

theorem get?_textKeyword (value : Option String) :
    Members.get? (textKeyword keyword value) other = if other = keyword then value.map .string else none := by
  cases value with
  | none => exact (ite_self none).symm
  | some text => exact Members.get?_cons keyword _ [] other

theorem get?_listKeyword (values : List Json) :
    Members.get? (listKeyword keyword values) other =
      if other = keyword then (Json.nonEmpty? values).map .array else none := by
  unfold listKeyword Json.nonEmpty?
  split
  · exact (ite_self none).symm
  · exact Members.get?_cons keyword _ [] other

theorem keys_textKeyword (value : Option String) :
    (Members.keys (textKeyword keyword value)).Sublist [keyword] := by
  cases value <;> simp [textKeyword, Members.keys]

theorem keys_listKeyword (values : List Json) : (Members.keys (listKeyword keyword values)).Sublist [keyword] := by
  unfold listKeyword
  split <;> simp [Members.keys]

end

/-! ## Keywords of one type -/

theorem owner_of_mem_keywords {field : Attribute} {type : JsonType} (typed : field.type? = some type) {keyword : String}
    (member : keyword ∈ Members.keys field.keywords) : keywordOwner? keyword = some type := by
  cases field with
  | string info format allowed =>
    obtain rfl := List.mem_singleton.mp ((keys_textKeyword format).subset member)
    exact typed
  | arrayOf info items =>
    obtain rfl := List.mem_singleton.mp member
    exact typed
  | record info properties =>
    rw [keywords] at member
    obtain rfl | member := List.mem_cons.mp member
    · exact typed
    · obtain rfl := List.mem_singleton.mp ((keys_listKeyword _).subset member)
      exact typed
  | union => simp [type?] at typed
  | _ => exact absurd member List.not_mem_nil

theorem nodup_keys_keywords {field : Attribute} {type : JsonType} (typed : field.type? = some type) :
    (Members.keys field.keywords).Nodup := by
  cases field with
  | string info format allowed => exact (keys_textKeyword format).nodup (List.nodup_singleton _)
  | arrayOf info items => exact List.nodup_singleton _
  | record info properties =>
    rw [keywords]
    refine List.nodup_cons.mpr ⟨fun member => ?_, (keys_listKeyword _).nodup (List.nodup_singleton _)⟩
    have same : "properties" = "required" := List.mem_singleton.mp ((keys_listKeyword _).subset member)
    exact absurd same (by decide)
  | union => simp [type?] at typed
  | _ => exact List.nodup_nil

theorem propertyNodes_eq (properties : List Attribute) :
    propertyNodes properties = properties.map fun property => (property.name, property.toDocument) := by
  induction properties with
  | nil => rfl
  | cons property rest ih => rw [propertyNodes, ih]; rfl

theorem keys_propertyNodes (properties : List Attribute) :
    Members.keys (propertyNodes properties) = properties.map name := by
  rw [propertyNodes_eq, Members.keys, List.map_map]
  rfl

theorem get?_propertyNodes {properties : List Attribute} (distinct : (properties.map name).Nodup)
    {property : Attribute} (member : property ∈ properties) :
    Members.get? (propertyNodes properties) property.name = some property.toDocument := by
  refine Members.get?_of_mem (keys_propertyNodes properties ▸ distinct) ?_
  rw [propertyNodes_eq]
  exact List.mem_map_of_mem member

theorem get?_properties_record {info : Info} {properties : List Attribute} (distinct : (properties.map name).Nodup) :
    Members.get? (record info properties).keywords "properties" = some (.object (propertyNodes properties)) := by
  rw [keywords, Members.ofPairs_eq_self (keys_propertyNodes properties ▸ distinct)]
  rfl

theorem get?_required_record (info : Info) (properties : List Attribute) :
    Members.get? (record info properties).keywords "required" =
      (Json.nonEmpty? ((requiredNames properties).map .string)).map .array := by
  rw [keywords, Members.get?_cons, if_neg (by decide), get?_listKeyword, if_pos rfl]

-- A name leads to one property, so the list of required names tells the flag of each.
theorem requiredNames_contains {properties : List Attribute} (distinct : (properties.map name).Nodup)
    {property : Attribute} (member : property ∈ properties) :
    (requiredNames properties).contains property.name = property.required := by
  rw [Bool.eq_iff_iff, List.contains_iff_mem, requiredNames, List.mem_map]
  constructor
  · rintro ⟨other, inside, same⟩
    obtain ⟨memberToo, required⟩ := List.mem_filter.mp inside
    obtain rfl := List.inj_on_of_nodup_map distinct memberToo member same
    exact required
  · intro required
    exact ⟨property, List.mem_filter.mpr ⟨member, required⟩, rfl⟩

/-! ## Keywords of candidates -/

section

variable {info : Info} {candidates : List Attribute} (regular : RegularUnion info candidates)

include regular

theorem RegularUnion.owner_of_mem {candidate : Attribute} (inside : candidate ∈ candidates) {keyword : String}
    (member : keyword ∈ Members.keys candidate.keywords) : keywordOwner? keyword = candidate.type? := by
  obtain ⟨type, typed⟩ := Option.isSome_iff_exists.mp (regular.typed candidate inside)
  rw [owner_of_mem_keywords typed member, typed]

theorem RegularUnion.candidateKeywords_eq : candidateKeywords candidates = candidates.flatMap keywords := by
  have typed := regular.typed
  clear regular
  induction candidates with
  | nil => rfl
  | cons candidate rest ih =>
    obtain ⟨first, typed⟩ := List.forall_mem_cons.mp typed
    rw [List.flatMap_cons, ← ih typed]
    cases candidate with
    | union => simp [type?] at first
    | _ => rfl

theorem RegularUnion.nodup_keys : (Members.keys (candidates.flatMap keywords)).Nodup := by
  rw [Members.keys, List.map_flatMap, List.nodup_flatMap]
  constructor
  · intro candidate inside
    obtain ⟨type, typed⟩ := Option.isSome_iff_exists.mp (regular.typed candidate inside)
    exact nodup_keys_keywords typed
  · refine List.Pairwise.imp_of_mem ?_ (List.pairwise_map.mp regular.distinct)
    intro first second insideFirst insideSecond differ keyword left right
    exact differ ((regular.owner_of_mem insideFirst left).symm.trans (regular.owner_of_mem insideSecond right))

-- Under a keyword of its type, a candidate finds what it has written.
theorem RegularUnion.get?_keywords {candidate : Attribute} (inside : candidate ∈ candidates) {keyword : String}
    (owned : keywordOwner? keyword = candidate.type?) :
    Members.get? (union info candidates).keywords keyword = Members.get? candidate.keywords keyword := by
  rw [keywords, regular.candidateKeywords_eq]
  cases found : Members.get? candidate.keywords keyword with
  | some value =>
    have member := List.mem_flatMap.mpr ⟨candidate, inside, Members.mem_of_get? found⟩
    exact Members.get?_of_mem regular.nodup_keys member
  -- What another candidate writes belongs to another type.
  | none =>
    refine Members.get?_eq_none_iff.mpr fun present => ?_
    rw [Members.keys, List.map_flatMap] at present
    obtain ⟨other, insideOther, member⟩ := List.mem_flatMap.mp present
    have same := (regular.owner_of_mem insideOther member).symm.trans owned
    obtain rfl := List.inj_on_of_nodup_map regular.distinct insideOther inside same
    exact Members.get?_eq_none_iff.mp found member

end

/-! ## The node -/

/-- What a written node holds: the type, the texts and the `enum` entries of the attribute, and else the given
keywords. -/
structure Holds (node : Members) (field : Attribute) (keywords : Members) : Prop where
  type : node.get? "type" = some field.typeDocument
  enum : node.get? "enum" = (Json.nonEmpty? field.enumEntries).map .array
  title : node.get? "title" = field.info.title.map .string
  description : node.get? "description" = field.info.description.map .string
  owned : ∀ keyword, (keywordOwner? keyword).isSome → node.get? keyword = keywords.get? keyword

theorem Holds.candidate {node : Members} {info : Info} {candidates : List Attribute}
    (holds : Holds node (union info candidates) (candidateKeywords candidates))
    (regular : RegularUnion info candidates) :
    ∀ candidate ∈ candidates, ∀ keyword, keywordOwner? keyword = candidate.type? →
      node.get? keyword = Members.get? candidate.keywords keyword := by
  intro candidate member keyword owner
  rw [holds.owned keyword (owner ▸ regular.typed candidate member)]
  exact regular.get?_keywords member owner

theorem node_eq (field : Attribute) {keywords : Members} (distinct : keywords.keys.Nodup)
    (owned : ∀ keyword ∈ keywords.keys, (keywordOwner? keyword).isSome) :
    field.node keywords = .object (("type", field.typeDocument) :: keywords ++ listKeyword "enum" field.enumEntries ++
      textKeyword "title" field.info.title ++ textKeyword "description" field.info.description) := by
  have free {keyword : String} (unowned : keywordOwner? keyword = none) : keyword ∉ keywords.keys := by
    intro member
    have given := owned keyword member
    simp [unowned] at given
  -- No two of the keywords are the same, so that the node holds all of them in a row.
  have single : (Members.keys (("type", field.typeDocument) :: keywords ++ listKeyword "enum" field.enumEntries ++
      textKeyword "title" field.info.title ++ textKeyword "description" field.info.description)).Nodup := by
    have whole : (("type" :: keywords.keys) ++ ["enum"] ++ ["title"] ++ ["description"]).Nodup := by
      simp only [← List.concat_eq_append, List.nodup_concat, List.nodup_cons]
      simp [@free "type" rfl, @free "enum" rfl, @free "title" rfl, @free "description" rfl, distinct]
    refine List.Sublist.nodup ?_ whole
    simp only [Members.keys_append]
    exact (((List.Sublist.refl _).append (keys_listKeyword _)).append (keys_textKeyword _)).append (keys_textKeyword _)
  rw [Attribute.node, Members.ofPairs_eq_self single]

theorem node_holds (field : Attribute) {keywords : Members} (distinct : keywords.keys.Nodup)
    (owned : ∀ keyword ∈ keywords.keys, (keywordOwner? keyword).isSome) :
    ∃ node, field.node keywords = .object node ∧ Holds node field keywords := by
  refine ⟨_, node_eq field distinct owned, ?_⟩
  have lacks {keyword : String} (unowned : keywordOwner? keyword = none) : keywords.get? keyword = none := by
    refine Members.get?_eq_none_iff.mpr fun member => ?_
    have given := owned keyword member
    simp [unowned] at given
  constructor
  · rfl
  · simp [Members.get?_append, Members.get?_cons, get?_listKeyword, get?_textKeyword, @lacks "enum" rfl]
  · simp [Members.get?_append, Members.get?_cons, get?_listKeyword, get?_textKeyword, @lacks "title" rfl]
  · simp [Members.get?_append, Members.get?_cons, get?_listKeyword, get?_textKeyword, @lacks "description" rfl]
  · intro keyword given
    have differs {other : String} (unowned : keywordOwner? other = none) : keyword ≠ other := by
      rintro rfl
      simp [unowned] at given
    simp [Members.get?_append, Members.get?_cons, get?_listKeyword, get?_textKeyword, @differs "type" rfl,
      @differs "enum" rfl, @differs "title" rfl, @differs "description" rfl]

theorem Regular.keywords {field : Attribute} (regular : field.Regular) :
    (Members.keys field.keywords).Nodup ∧ ∀ keyword ∈ Members.keys field.keywords, (keywordOwner? keyword).isSome := by
  cases typed : field.type? with
  | some type =>
    refine ⟨nodup_keys_keywords typed, fun keyword member => ?_⟩
    simp [owner_of_mem_keywords typed member]
  | none =>
    cases field with
    | union info candidates =>
      rw [Attribute.keywords, regular.union.candidateKeywords_eq]
      refine ⟨regular.union.nodup_keys, fun keyword member => ?_⟩
      rw [Members.keys, List.map_flatMap] at member
      obtain ⟨candidate, inside, member⟩ := List.mem_flatMap.mp member
      rw [regular.union.owner_of_mem inside member]
      exact regular.union.typed candidate inside
    | _ => simp [type?] at typed

theorem toDocument_holds {field : Attribute} (regular : field.Regular) :
    ∃ node, field.toDocument = .object node ∧ Holds node field field.keywords :=
  node_holds field regular.keywords.1 regular.keywords.2

theorem toDocument_eq_iff {field again : Attribute} (regular : field.Regular) (regularAgain : again.Regular)
    (info : again.info = field.info) (type : again.typeDocument = field.typeDocument) :
    again.toDocument = field.toDocument ↔ again.keywords = field.keywords ∧ again.enumEntries = field.enumEntries := by
  constructor
  · intro same
    obtain ⟨node, written, holds⟩ := toDocument_holds regular
    obtain ⟨other, writtenAgain, holdsAgain⟩ := toDocument_holds regularAgain
    obtain rfl := Json.object.inj (writtenAgain.symm.trans (same.trans written))
    have entries : again.enumEntries = field.enumEntries := by
      have listed := Option.map_injective (fun _ _ => Json.array.inj) (holdsAgain.enum.symm.trans holds.enum)
      exact Json.nonEmpty?_injective listed
    refine ⟨?_, entries⟩
    rw [toDocument, toDocument, node_eq again regularAgain.keywords.1 regularAgain.keywords.2,
      node_eq field regular.keywords.1 regular.keywords.2, info, type, entries] at same
    simpa only [Json.object.injEq, List.append_left_inj, List.cons_append, List.cons.injEq, true_and] using same
  · rintro ⟨keywords, entries⟩
    rw [toDocument, toDocument, node, node, keywords, entries, info, type]

/-! ## Distinct keys -/

theorem distinctKeys_strings (values : List String) : (Json.strings values).DistinctKeys :=
  Json.distinctKeys_array_iff.mpr (List.forall_mem_map.mpr fun _ _ => trivial)

theorem distinctKeys_textKeyword {keyword : String} {value : Option String} :
    ∀ pair ∈ textKeyword keyword value, pair.2.DistinctKeys :=
  List.forall_mem_map.mpr fun _ _ => trivial

theorem distinctKeys_listKeyword {keyword : String} {values : List Json} (each : ∀ value ∈ values, value.DistinctKeys) :
    ∀ pair ∈ listKeyword keyword values, pair.2.DistinctKeys := by
  intro pair member
  unfold listKeyword at member
  split at member
  · exact nomatch member
  · obtain rfl := List.mem_singleton.mp member
    exact Json.distinctKeys_array_iff.mpr each

theorem distinctKeys_allowed {field : Attribute} : ∀ entry ∈ field.allowed?.getD [], entry.DistinctKeys := by
  have scalars {α : Type} {toJson : α → Json} (scalar : ∀ value, (toJson value).DistinctKeys)
      (allowed : Option (List α)) : ∀ entry ∈ (allowed.map (·.map toJson)).getD [], entry.DistinctKeys := by
    cases allowed with
    | none => exact List.forall_mem_nil _
    | some values => exact List.forall_mem_map.mpr fun value _ => scalar value
  cases field with
  | boolean info allowed => exact @scalars _ Json.bool (fun _ => trivial) allowed
  | integer info allowed | number info allowed => exact @scalars _ Json.number (fun _ => trivial) allowed
  | string info format allowed => exact @scalars _ Json.string (fun _ => trivial) allowed
  | _ => simp [allowed?]

theorem distinctKeys_node {field : Attribute} {keywords : Members} (each : ∀ pair ∈ keywords, pair.2.DistinctKeys) :
    (field.node keywords).DistinctKeys := by
  have type : field.typeDocument.DistinctKeys := by
    unfold typeDocument
    split
    · trivial
    · exact distinctKeys_strings _
  have entries : ∀ entry ∈ field.enumEntries, entry.DistinctKeys := by
    cases field with
    | union info candidates =>
      intro entry member
      obtain ⟨candidate, -, listed⟩ := List.mem_flatMap.mp member
      exact distinctKeys_allowed entry listed
    | boolean | integer | number | string => exact distinctKeys_allowed
    | _ => simp [enumEntries, allowed?]
  refine Members.distinctKeys_ofPairs fun pair member => ?_
  simp only [List.cons_append, List.mem_cons, List.mem_append] at member
  obtain rfl | ((member | member) | member) | member := member
  · exact type
  · exact each pair member
  · exact distinctKeys_listKeyword entries pair member
  · exact distinctKeys_textKeyword pair member
  · exact distinctKeys_textKeyword pair member

theorem mem_candidateKeywords {candidates : List Attribute} {pair : String × Json}
    (member : pair ∈ candidateKeywords candidates) : ∃ candidate ∈ candidates, pair ∈ candidate.keywords := by
  induction candidates with
  | nil => exact nomatch member
  | cons candidate rest ih =>
    have later (inside : pair ∈ candidateKeywords rest) : ∃ other ∈ candidate :: rest, pair ∈ other.keywords := by
      obtain ⟨other, listed, written⟩ := ih inside
      exact ⟨other, List.mem_cons_of_mem _ listed, written⟩
    cases candidate with
    | union => exact later member
    | _ =>
      obtain here | inside := List.mem_append.mp member
      · exact ⟨_, List.mem_cons_self, here⟩
      · exact later inside

theorem distinctKeys_keywords (field : Attribute) : ∀ pair ∈ field.keywords, pair.2.DistinctKeys := by
  induction field with
  | string info format allowed => exact distinctKeys_textKeyword
  | arrayOf info items ih =>
    intro pair member
    obtain rfl := List.mem_singleton.mp member
    exact distinctKeys_node ih
  | record info properties ih =>
    intro pair member
    rw [keywords] at member
    obtain rfl | member := List.mem_cons.mp member
    · rw [propertyNodes_eq]
      refine Members.distinctKeys_ofPairs (List.forall_mem_map.mpr fun property inside => ?_)
      exact distinctKeys_node (ih property inside)
    · have names : ∀ value ∈ (requiredNames properties).map Json.string, value.DistinctKeys :=
        List.forall_mem_map.mpr fun _ _ => trivial
      exact distinctKeys_listKeyword names pair member
  | union info candidates ih =>
    intro pair member
    obtain ⟨candidate, inside, written⟩ := mem_candidateKeywords member
    exact ih candidate inside pair written
  | _ => simp [keywords]

theorem distinctKeys_toDocument (field : Attribute) : field.toDocument.DistinctKeys :=
  distinctKeys_node (distinctKeys_keywords field)

end Attribute

end Credential
