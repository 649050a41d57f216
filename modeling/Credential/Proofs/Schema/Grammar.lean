import Credential.Proofs.Attribute.Regular
import Credential.Proofs.Schema.Enumeration
import Credential.Schema.Basic

/-! The grammar of schema documents.

The grammar is stated on documents, without attributes and without the order of
checks. The main statement is that reading succeeds exactly on the documents in
the grammar, so that it refuses nothing else and lets nothing else through.
-/

set_option autoImplicit false

namespace Credential

def Json.IsText (value : Json) : Prop := ∃ text, value = .string text

namespace Node

/-! ## The grammar -/

/-- The types that a node declares: one known word, or a list of several known words that differ. -/
inductive Declares (node : Members) : List JsonType → Prop where
  | single {type : JsonType} : node.get? "type" = some (.string type.token) → Declares node [type]
  | union {types : List JsonType} : node.get? "type" = some (Json.strings (types.map JsonType.token)) →
      2 ≤ types.length → types.Nodup → Declares node types

/-- What the list under `enum`, if there is one, has to be for the declared types. A single type takes all the entries.
Several types that all take an `enum` leave no list without an entry for one of them. -/
def Enumerates (node : Members) (types : List JsonType) : Prop :=
  ∀ value ∈ node.get? "enum", ∃ entries, value = .array entries ∧ entries ≠ [] ∧
    (∀ type, types = [type] → ∀ entry ∈ entries, entry.hasShape type = true) ∧
    (2 ≤ types.length → (∀ type ∈ types, type.supportsEnum = true) →
      ∃ entry ∈ entries, ∃ type ∈ types, entry.hasShape type = true)

/-- What a declared type has to find under its own keywords, where `below` is the grammar one level down. -/
def Asks (below : Json → Prop) (node : Members) : JsonType → Prop
  | .string => ∀ format ∈ node.get? "format", format.IsText
  | .array => ∀ items ∈ node.get? "items", below items
  | .object =>
    (∀ required ∈ node.get? "required", ∃ names, required = Json.strings names) ∧
      ∀ value ∈ node.get? "properties", ∃ properties, value = .object properties ∧
        ∀ property ∈ properties, below property.2
  | .boolean | .integer | .number | .null => True

structure Fits (below : Json → Prop) (node : Members) (types : List JsonType) : Prop where
  declares : Declares node types
  title : ∀ title ∈ node.get? "title", title.IsText
  description : ∀ description ∈ node.get? "description", description.IsText
  enumerates : (∃ type ∈ types, type.supportsEnum = true) → Enumerates node types
  asks : ∀ type ∈ types, Asks below node type

end Node

/-- The document is in the grammar of schema nodes, on at most the given number of levels. -/
def Json.InGrammar : (levels : Nat) → Json → Prop
  | 0 => fun _ => False
  | levels + 1 => fun document => ∃ node types, document = .object node ∧ Node.Fits (InGrammar levels) node types

/-- The metadata block that a credential schema needs. -/
def Json.HasMetadata (document : Json) : Prop :=
  ∃ block uris context, document.get? "$metadata" = some block ∧ block.get? "uris" = some uris ∧
    uris.get? "jsonLdContext" = some (.string context) ∧
    (∀ type ∈ block.get? "type", type.IsText) ∧ ∀ version ∈ block.get? "version", version.IsText

namespace Node

variable {below : Relation} {related : Json → Prop} {node : Members} {info : Info} {inUnion : Bool} {type : JsonType}

/-! ## Keywords -/

theorem exists_text_iff {value : Option Json} :
    (∃ text : Option String, value = text.map .string) ↔ ∀ given ∈ value, given.IsText := by
  constructor
  · rintro ⟨text, rfl⟩ given present
    obtain ⟨text, -, rfl⟩ := Option.map_eq_some_iff.mp present
    exact ⟨text, rfl⟩
  · intro all
    cases value with
    | none => exact ⟨none, rfl⟩
    | some given =>
      obtain ⟨text, rfl⟩ := all given rfl
      exact ⟨some text, rfl⟩

theorem exists_requires_iff :
    (∃ names, Requires node names) ↔ ∀ required ∈ node.get? "required", ∃ names, required = Json.strings names := by
  unfold Requires
  cases node.get? "required" <;> simp

def EnumeratesFor (node : Members) (inUnion : Bool) (type : JsonType) : Prop :=
  ∀ value ∈ node.get? "enum", ∃ entries, value = .array entries ∧ entries ≠ [] ∧
    (inUnion = false → ∀ entry ∈ entries, entry.hasShape type = true)

theorem Selects.exists_listed_iff {α : Type} {select : Json → Option α} {toJson : α → Json}
    (takes : Selects select toJson type) :
    (∃ allowed, Listed node inUnion select allowed) ↔ EnumeratesFor node inUnion type := by
  simp only [takes.listed_iff]
  constructor
  · rintro ⟨-, entries, listed, nonempty, all, -⟩ value present
    obtain ⟨values, same, rfl⟩ := Option.map_eq_some_iff.mp (listed.symm.trans present)
    exact ⟨values, rfl, fun empty => nonempty (same.trans (congrArg some empty)), fun alone => all alone values same⟩
  · intro suits
    cases found : node.get? "enum" with
    | none => exact ⟨_, none, rfl, nofun, nofun, rfl⟩
    | some value =>
      obtain ⟨entries, rfl, nonempty, all⟩ := suits value found
      refine ⟨_, some entries, rfl, fun empty => nonempty (Option.some.inj empty), ?_, rfl⟩
      rintro alone _ ⟨⟩
      exact all alone

/-! ## A node as one of its types -/

theorem Selects.exists_readsAs_iff {α : Type} {select : Json → Option α} {toJson : α → Json}
    (takes : Selects select toJson type) {build : Option (List α) → Attribute}
    (reads : ∀ allowed, Listed node inUnion select allowed → ReadsAs below node info inUnion type (build allowed))
    (listed : ∀ field, ReadsAs below node info inUnion type field → ∃ allowed, Listed node inUnion select allowed) :
    (∃ field, ReadsAs below node info inUnion type field) ↔ EnumeratesFor node inUnion type := by
  rw [← takes.exists_listed_iff]
  constructor
  · rintro ⟨field, reading⟩
    exact listed field reading
  · rintro ⟨allowed, suits⟩
    exact ⟨build allowed, reads allowed suits⟩

-- No candidate keeps an entry exactly if no entry has a type of the node.
theorem exhausted_iff {types : List JsonType} {candidates : List Attribute}
    (each : List.Forall₂ (ReadsAs below node info inUnion) types candidates) (several : types ≠ [])
    (scalars : ∀ type ∈ types, type.supportsEnum = true) :
    (∀ candidate ∈ candidates, candidate.allowed? = some []) ↔
      ∃ entries, node.get? "enum" = some (.array entries) ∧
        ∀ entry ∈ entries, ∀ type ∈ types, entry.hasShape type = false := by
  have ofTypes : (∀ candidate ∈ candidates, candidate.allowed? = some []) ↔
      ∀ type ∈ types, Json.entriesOf? (enumList? node) type = some [] := by
    constructor
    · intro empty type inside
      obtain ⟨candidate, member, reading⟩ := Pairing.exists_right each inside
      rw [← reading.allowed?_eq (scalars type inside), empty candidate member]
    · intro empty candidate member
      obtain ⟨type, inside, reading⟩ := Pairing.exists_left each member
      rw [reading.allowed?_eq (scalars type inside), empty type inside]
  simp only [ofTypes, ← enumList?_eq_some]
  cases enumList? node with
  | none =>
    obtain ⟨type, inside⟩ := List.exists_mem_of_ne_nil types several
    exact iff_of_false (fun empty => nomatch empty type inside) nofun
  | some entries =>
    simp only [Json.entriesOf?, Option.map_some, Option.some.injEq, List.filter_eq_nil_iff, Bool.not_eq_true,
      exists_eq_left']
    exact ⟨fun all entry listed type inside => all type inside entry listed,
      fun all type inside entry listed => all entry listed type inside⟩

section

variable (exact : ∀ document name required, (∃ field, below document name required field) ↔ related document)

include exact

theorem exists_describes_iff {required : String → Bool} {members : Members} :
    (∃ properties, List.Forall₂ (fun member property => below member.2 member.1 (required member.1) property)
      members properties) ↔ ∀ member ∈ members, related member.2 := by
  constructor
  · rintro ⟨properties, each⟩ member inside
    obtain ⟨property, -, described⟩ := Pairing.exists_right each inside
    exact (exact _ _ _).mp ⟨property, described⟩
  · intro all
    exact Pairing.exists_pairing fun member inside => (exact _ _ _).mpr (all member inside)

theorem exists_readsAs_iff :
    (∃ field, ReadsAs below node info inUnion type field) ↔
      (type.supportsEnum = true → EnumeratesFor node inUnion type) ∧ Asks related node type := by
  cases type with
  | boolean =>
    simp only [JsonType.supportsEnum, forall_const, Asks, and_true]
    refine selects_bool.exists_readsAs_iff (fun _ => .boolean) fun _ reading => ?_
    cases reading with
    | boolean listed => exact ⟨_, listed⟩
  | integer =>
    simp only [JsonType.supportsEnum, forall_const, Asks, and_true]
    refine selects_integer.exists_readsAs_iff (fun _ => .integer) fun _ reading => ?_
    cases reading with
    | integer listed => exact ⟨_, listed⟩
  | number =>
    simp only [JsonType.supportsEnum, forall_const, Asks, and_true]
    refine selects_number.exists_readsAs_iff (fun _ => .number) fun _ reading => ?_
    cases reading with
    | number listed => exact ⟨_, listed⟩
  | string =>
    rw [← selects_string.exists_listed_iff, Asks, ← exists_text_iff]
    simp only [JsonType.supportsEnum, forall_const]
    constructor
    · rintro ⟨_, reading⟩
      cases reading with
      | string tagged listed => exact ⟨⟨_, listed⟩, _, tagged⟩
    · rintro ⟨⟨_, listed⟩, _, tagged⟩
      exact ⟨_, .string tagged listed⟩
  | null => exact iff_of_true ⟨_, .null⟩ ⟨by simp [JsonType.supportsEnum], trivial⟩
  | array =>
    simp only [JsonType.supportsEnum, false_implies, Bool.false_eq_true, true_and, Asks]
    constructor
    · rintro ⟨_, reading⟩ items present
      cases reading with
      | anyArray absent => simp [absent] at present
      | arrayOf found described =>
        obtain rfl := Option.some.inj (found.symm.trans present)
        exact (exact _ _ _).mp ⟨_, described⟩
    · intro all
      cases found : node.get? "items" with
      | none => exact ⟨_, .anyArray found⟩
      | some items =>
        obtain ⟨_, described⟩ := (exact _ _ _).mpr (all items found)
        exact ⟨_, .arrayOf found described⟩
  | object =>
    simp only [JsonType.supportsEnum, false_implies, Bool.false_eq_true, true_and, Asks,
      ← exists_requires_iff]
    constructor
    · rintro ⟨_, reading⟩
      cases reading with
      | anyObject requires absent => exact ⟨⟨_, requires⟩, by simp [absent]⟩
      | record requires found described =>
        refine ⟨⟨_, requires⟩, fun value present => ?_⟩
        obtain rfl := Option.some.inj (found.symm.trans present)
        exact ⟨_, rfl, (exists_describes_iff exact).mp ⟨_, described⟩⟩
    · rintro ⟨⟨names, requires⟩, all⟩
      cases found : node.get? "properties" with
      | none => exact ⟨_, .anyObject requires found⟩
      | some value =>
        obtain ⟨members, rfl, each⟩ := all value found
        obtain ⟨_, described⟩ := (@exists_describes_iff _ _ exact names.contains members).mpr each
        exact ⟨_, .record requires found described⟩

theorem Reads.fits {name : String} {required : Bool} {field : Attribute}
    (reading : Reads below node name required field) : ∃ types, Fits related node types := by
  cases reading with
  | @single title description type _ titled described present reading =>
    obtain ⟨suits, asks⟩ := (exists_readsAs_iff exact).mp ⟨field, reading⟩
    refine ⟨[type], .single present, exists_text_iff.mp ⟨_, titled⟩, exists_text_iff.mp ⟨_, described⟩, ?_, ?_⟩
    · rintro ⟨other, inside, scalar⟩ value given
      obtain rfl := List.mem_singleton.mp inside
      obtain ⟨entries, rfl, nonempty, all⟩ := suits scalar value given
      refine ⟨entries, rfl, nonempty, ?_, fun several => absurd several (Nat.not_le_of_lt (Nat.lt_succ_self 1))⟩
      rintro _ ⟨⟩
      exact all rfl
    · rintro other inside
      obtain rfl := List.mem_singleton.mp inside
      exact asks
  | @union title description types candidates titled described present several distinct each kept =>
    refine ⟨types, .union present several distinct, exists_text_iff.mp ⟨_, titled⟩, exists_text_iff.mp ⟨_, described⟩,
      ?_, ?_⟩
    · rintro ⟨type, inside, scalar⟩ value given
      obtain ⟨candidate, -, reading⟩ := Pairing.exists_right each inside
      obtain ⟨entries, rfl, nonempty, -⟩ := ((exists_readsAs_iff exact).mp ⟨candidate, reading⟩).1 scalar value given
      refine ⟨entries, rfl, nonempty, ?_, fun _ scalars => ?_⟩
      · rintro _ rfl
        exact absurd several (Nat.not_le_of_lt (Nat.lt_succ_self 1))
      · by_contra none
        simp only [not_exists, not_and, Bool.not_eq_true] at none
        refine kept ⟨scalars, (exhausted_iff each ?_ scalars).mpr ⟨entries, given, none⟩⟩
        exact List.ne_nil_of_mem inside
    · intro type inside
      obtain ⟨candidate, -, reading⟩ := Pairing.exists_right each inside
      exact ((exists_readsAs_iff exact).mp ⟨candidate, reading⟩).2

theorem Fits.reads {types : List JsonType} (fits : Fits related node types) (name : String) (required : Bool) :
    ∃ field, Reads below node name required field := by
  obtain ⟨declares, titles, descriptions, enumerates, asks⟩ := fits
  obtain ⟨title, titled⟩ := exists_text_iff.mpr titles
  obtain ⟨description, described⟩ := exists_text_iff.mpr descriptions
  cases declares with
  | @single type present =>
    have suits (scalar : type.supportsEnum = true) : EnumeratesFor node false type := by
      intro value given
      obtain ⟨entries, rfl, nonempty, all, -⟩ := enumerates ⟨type, List.mem_cons_self, scalar⟩ value given
      exact ⟨entries, rfl, nonempty, fun _ => all type rfl⟩
    obtain ⟨field, reading⟩ := (exists_readsAs_iff exact).mpr ⟨suits, asks type List.mem_cons_self⟩
    exact ⟨field, .single titled described present reading⟩
  | union present several distinct =>
    have readable : ∀ type ∈ types, ∃ candidate,
        ReadsAs below node ⟨name, required, title, description⟩ true type candidate := by
      intro type inside
      refine (exists_readsAs_iff exact).mpr ⟨fun scalar value given => ?_, asks type inside⟩
      obtain ⟨entries, rfl, nonempty, -⟩ := enumerates ⟨type, inside, scalar⟩ value given
      exact ⟨entries, rfl, nonempty, nofun⟩
    obtain ⟨candidates, each⟩ := Pairing.exists_pairing readable
    refine ⟨_, .union titled described present several distinct each ?_⟩
    rintro ⟨scalars, empty⟩
    have nonempty : types ≠ [] := List.ne_nil_of_length_pos (Nat.lt_of_lt_of_le Nat.zero_lt_two several)
    obtain ⟨entries, given, none⟩ := (exhausted_iff each nonempty scalars).mp empty
    obtain ⟨type, inside⟩ := List.exists_mem_of_ne_nil types nonempty
    obtain ⟨_, ⟨⟩, -, -, some⟩ := enumerates ⟨type, inside, scalars type inside⟩ _ given
    obtain ⟨entry, listed, other, insideToo, shape⟩ := some several scalars
    exact absurd (none entry listed other insideToo) (by simp [shape])

end

/-- Documents on the levels of the grammar describe attributes, and no others do. -/
theorem exists_describes_iff_inGrammar {levels : Nat} {document : Json} {name : String} {required : Bool} :
    (∃ field, Describes levels document name required field) ↔ document.InGrammar levels := by
  induction levels generalizing document name required with
  | zero => exact ⟨fun ⟨_, described⟩ => described, False.elim⟩
  | succ levels ih =>
    have below : ∀ document name required,
        (∃ field, Describes levels document name required field) ↔ document.InGrammar levels := fun _ _ _ => ih
    constructor
    · rintro ⟨field, node, rfl, reading⟩
      obtain ⟨types, fits⟩ := reading.fits below
      exact ⟨node, types, rfl, fits⟩
    · rintro ⟨node, types, rfl, fits⟩
      obtain ⟨field, reading⟩ := fits.reads below name required
      exact ⟨field, node, rfl, reading⟩

end Node

/-! ## Credential schemas -/

open Success

theorem Metadata.text?_eq_ok {block : Json} {keyword : String} {path : Path} {value : Option String} :
    text? block keyword path = .ok value ↔ block.get? keyword = value.map .string := by
  unfold text?
  split
  next absent => cases value <;> simp [absent]
  next text present => cases value <;> simp [present]
  next other noText present =>
    refine iff_of_false nofun fun same => ?_
    obtain ⟨text, -, rfl⟩ := Option.map_eq_some_iff.mp (same.symm.trans present)
    exact noText text rfl

theorem Metadata.context?_eq_some {block : Json} {context : String} :
    ((block.get? "uris").bind (·.get? "jsonLdContext")).bind Json.string? = some context ↔
      ∃ uris, block.get? "uris" = some uris ∧ uris.get? "jsonLdContext" = some (.string context) := by
  have text {value : Json} : value.string? = some context ↔ value = .string context := by
    cases value <;> simp [Json.string?]
  simp only [Option.bind_eq_some_iff, text]
  constructor
  · rintro ⟨_, ⟨uris, present, found⟩, rfl⟩
    exact ⟨uris, present, found⟩
  · rintro ⟨uris, present, found⟩
    exact ⟨_, ⟨uris, present, found⟩, rfl⟩

theorem Metadata.exists_ofDocument_iff {document : Json} :
    (∃ metadata, Metadata.ofDocument document = .ok metadata) ↔ document.HasMetadata := by
  unfold Metadata.ofDocument Json.HasMetadata
  simp only
  split
  next absent => simp [SchemaFault.throw, absent]
  next block present =>
    split
    next noContext =>
      refine iff_of_false nofun ?_
      rintro ⟨_, uris, context, same, found, text, -⟩
      obtain rfl := Option.some.inj (present.symm.trans same)
      exact nomatch noContext.symm.trans (Metadata.context?_eq_some.mpr ⟨uris, found, text⟩)
    next context found =>
      obtain ⟨uris, given, text⟩ := Metadata.context?_eq_some.mp found
      simp only [bind_eq_ok, pure_eq_ok, Metadata.text?_eq_ok, ← Node.exists_text_iff]
      constructor
      · rintro ⟨_, schemaType, typed, version, versioned, -⟩
        exact ⟨block, uris, context, present, given, text, ⟨schemaType, typed⟩, version, versioned⟩
      · rintro ⟨_, _, _, same, -, -, ⟨schemaType, typed⟩, version, versioned⟩
        obtain rfl := Option.some.inj (present.symm.trans same)
        exact ⟨_, schemaType, typed, version, versioned, rfl⟩

/-- Reading an attribute succeeds exactly on the documents of the grammar. Reading a credential schema succeeds
exactly on those of them that declare the type of objects and have the metadata. -/
theorem readable_iff_inGrammar (limit : Nat) (document : Json) :
    (∀ name required, (∃ field, Attribute.ofDocument limit document name required = .ok field) ↔
      document.InGrammar (limit + 1)) ∧
    ((∃ schema, Schema.ofDocument limit document = .ok schema) ↔
      document.HasMetadata ∧ document.InGrammar (limit + 1) ∧
        document.get? "type" = some (.string JsonType.object.token)) := by
  have readable (name : String) (required : Bool) :
      (∃ field, Attribute.ofDocument limit document name required = .ok field) ↔ document.InGrammar (limit + 1) := by
    simp only [Node.ofDocument_eq_ok, Node.exists_describes_iff_inGrammar]
  refine ⟨readable, ?_⟩
  rw [← Metadata.exists_ofDocument_iff, ← readable "" true]
  simp only [Schema.ofDocument, bind_eq_ok]
  constructor
  · rintro ⟨schema, metadata, given, root, read, outcome⟩
    split at outcome
    next object =>
      have described := Node.ofDocument_eq_ok.mp read
      exact ⟨⟨metadata, given⟩, ⟨root, read⟩, described.isObject_iff.mp object⟩
    next => simp [SchemaFault.throw] at outcome
  · rintro ⟨⟨metadata, given⟩, ⟨root, read⟩, typed⟩
    have described := Node.ofDocument_eq_ok.mp read
    refine ⟨⟨root, metadata⟩, metadata, given, root, read, ?_⟩
    rw [if_pos (described.isObject_iff.mpr typed)]
    rfl

end Credential
