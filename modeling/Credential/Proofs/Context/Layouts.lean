import Credential.Proofs.Attribute.Regular

/-! What the two layouts make of a context, told from the shape of the context alone.

For each layout a relation lists the outcomes and when each of them arises. The
tests of a layout build on one another, so an outcome that names a failed test
says that the tests before it were passed. The main statements are that an
attempt has exactly the outcome that the relation gives.
-/

set_option autoImplicit false

namespace Credential.Context

/-! ## Definitions and their terms -/

/-- The entry defines a type: it has `@context`, and its `@id` is the given URI. -/
structure Defines (check : String → Option UriFault) (entry : Json) (id : String) : Prop where
  context : (entry.get? "@context").isSome
  identified : entry.get? "@id" = some (.string id)
  uri : check id = none

def IsTerm (definition : Json) (name : String) : Prop :=
  ∃ terms : Members, definition.get? "@context" = some (.object terms) ∧ name ∈ terms.keys

/-- All names are terms. Where there are no names, it does not matter what stands under `@context`. -/
def Covers (definition : Json) (names : List String) : Prop :=
  ∀ name ∈ names, IsTerm definition name

theorem any_terms {definition : Json} {name : String} :
    ((definition.get? "@context").bind Json.object?).any (fun terms => terms.keys.contains name) = true ↔
      IsTerm definition name := by
  simp only [IsTerm, Option.any_eq_true, Option.bind_eq_some_iff, Json.object?_eq_some, exists_eq_right,
    List.contains_iff_mem]

instance (definition : Json) (name : String) : Decidable (IsTerm definition name) :=
  decidable_of_iff _ any_terms

def lacking (definition : Json) (names : List String) : List String :=
  names.filter fun name => ¬IsTerm definition name

theorem lacking_eq_nil {definition : Json} {names : List String} :
    lacking definition names = [] ↔ Covers definition names := by
  simp [lacking, Covers, List.filter_eq_nil_iff]

theorem missing_eq (definition : Json) (names : List String) :
    missing ((definition.get? "@context").bind Json.object?) names = lacking definition names := by
  refine List.filter_congr fun name _ => ?_
  rw [Bool.eq_iff_iff, Bool.not_eq_true', decide_eq_true_iff, ← any_terms, Bool.not_eq_true]

theorem definition?_eq_some {check : String → Option UriFault} {entry : Json} {id : String} {terms : Option Members} :
    definition? check entry = some (id, terms) ↔
      Defines check entry id ∧ (entry.get? "@context").bind Json.object? = terms := by
  simp only [definition?, Option.bind_eq_bind, Option.bind_eq_some_iff, Json.object?_eq_some, Json.string?_eq_some]
  constructor
  · rintro ⟨members, rfl, context, present, _, given, text, rfl, outcome⟩
    split at outcome
    next uri =>
      obtain ⟨rfl, rfl⟩ := Prod.mk.inj (Option.some.inj outcome)
      have defined : (Json.object members).get? "@context" = some context := present
      exact ⟨⟨Option.isSome_of_eq_some defined, given, Option.isNone_iff_eq_none.mp uri⟩, by rw [defined]; rfl⟩
    next => exact nomatch outcome
  · rintro ⟨⟨given, identified, uri⟩, rfl⟩
    obtain ⟨context, present⟩ := Option.isSome_iff_exists.mp given
    -- Only an object has members at all.
    cases entry with
    | object members => exact ⟨members, rfl, context, present, _, identified, id, rfl, by simp [uri, present]⟩
    | _ => exact nomatch present

/-! ## Entries of a mapping -/

/-- All that some entry is found to hold, each under the key of its entry, in the order of the entries. -/
structure Collects {α : Type} (entries : Members) (key : α → String) (holds : Json → α → Prop) (items : List α) :
    Prop where
  complete : ∀ item, item ∈ items ↔ ∃ entry, (key item, entry) ∈ entries ∧ holds entry item
  ordered : (items.map key).Sublist entries.keys

theorem sublist_unique {α : Type} [DecidableEq α] {whole first second : List α} (distinct : whole.Nodup)
    (left : first.Sublist whole) (right : second.Sublist whole) (same : ∀ item, item ∈ first ↔ item ∈ second) :
    first = second := by
  have filtered {part : List α} (inside : part.Sublist whole) : whole.filter (· ∈ part) = part := by
    have kept := inside.filter (· ∈ part)
    rw [List.filter_eq_self.mpr fun item member => decide_eq_true member] at kept
    have perm : (whole.filter (· ∈ part)).Perm part := by
      refine (List.perm_ext_iff_of_nodup (distinct.filter _) (inside.nodup distinct)).mpr fun item => ?_
      simpa using fun member => inside.subset member
    exact (kept.eq_of_length perm.length_eq.symm).symm
  rw [← filtered left, ← filtered right]
  exact List.filter_congr fun item _ => by simp [same]

theorem Collects.unique {α : Type} {entries : Members} {key : α → String} {holds : Json → α → Prop}
    {first second : List α} (distinct : entries.keys.Nodup) (left : Collects entries key holds first)
    (right : Collects entries key holds second) : first = second := by
  have same (item : α) : item ∈ first ↔ item ∈ second := (left.complete item).trans (right.complete item).symm
  have keys : first.map key = second.map key :=
    sublist_unique distinct left.ordered right.ordered fun name => by simp [same]
  have paired : List.Forall₂ (fun one other => key one = key other) first second := by
    have images : List.Forall₂ Eq (first.map key) (second.map key) := by rw [List.forall₂_eq_eq_eq, keys]
    rwa [List.forall₂_map_left_iff, List.forall₂_map_right_iff] at images
  -- Items of one key are the same item, since no key comes twice.
  refine List.forall₂_eq_eq_eq ▸ (Pairing.with_members paired).imp fun one other both => ?_
  obtain ⟨inside, insideToo, sameKey⟩ := both
  exact List.inj_on_of_nodup_map (left.ordered.nodup distinct) inside ((same other).mpr insideToo) sameKey

/-! ## The nested layout -/

/-- What the nested layout makes of a context, which should hold one mapping from names to types in a list. -/
inductive NestedYields (check : String → Option UriFault) (names : List String) (context : Json) : Attempt → Prop where
  | bound {entries : Members} {bindings : List TypeBinding} :
      context.get? "@context" = some (.array [.object entries]) →
      Collects entries TypeBinding.name (fun entry binding => Defines check entry binding.id ∧ Covers entry names)
        bindings →
      bindings ≠ [] → NestedYields check names context (.bound bindings)
  | noTypes {entries : Members} :
      context.get? "@context" = some (.array [.object entries]) →
      (∀ entry ∈ entries, ∀ id, ¬Defines check entry.2 id) →
      NestedYields check names context (.uncovered .noTypes)
  | typesLack {entries : Members} {types : List (String × List String)} :
      context.get? "@context" = some (.array [.object entries]) →
      Collects entries Prod.fst (fun entry type => (∃ id, Defines check entry id) ∧ type.2 = lacking entry names) types →
      types ≠ [] → (∀ type ∈ types, type.2 ≠ []) → NestedYields check names context (.uncovered (.typesLack types))
  | notSingleArray : (∀ items, context.get? "@context" ≠ some (.array items)) →
      NestedYields check names context (.mismatch .notSingleArray)
  | entryCount {items : List Json} : context.get? "@context" = some (.array items) → items.length ≠ 1 →
      NestedYields check names context (.mismatch (.entryCount items.length))
  | entryNotMapping {item : Json} : context.get? "@context" = some (.array [item]) →
      (∀ entries, item ≠ .object entries) → NestedYields check names context (.mismatch .entryNotMapping)

section

variable {check : String → Option UriFault} {names : List String} {entries : Members}

theorem mem_definitions {binding : TypeBinding} {lack : List String} :
    (binding, lack) ∈ definitions check names entries ↔
      ∃ entry, (binding.name, entry) ∈ entries ∧ Defines check entry binding.id ∧ lack = lacking entry names := by
  simp only [definitions, List.mem_filterMap, Option.map_eq_some_iff, Prod.exists, definition?_eq_some, Prod.mk.injEq]
  constructor
  · rintro ⟨name, entry, inside, id, _, ⟨defines, rfl⟩, rfl, rfl⟩
    exact ⟨entry, inside, defines, missing_eq entry names⟩
  · rintro ⟨entry, inside, defines, rfl⟩
    exact ⟨_, entry, inside, _, _, ⟨defines, rfl⟩, rfl, missing_eq entry names⟩

theorem definitions_ordered :
    ((definitions check names entries).map fun found => found.1.name).Sublist entries.keys := by
  induction entries with
  | nil => exact .refl _
  | cons entry rest ih =>
    obtain ⟨name, entry⟩ := entry
    simp only [definitions, List.filterMap_cons] at ih ⊢
    cases definition? check entry with
    | none => exact ih.cons _
    | some found => exact ih.cons_cons _

theorem collects_covering :
    Collects entries TypeBinding.name (fun entry binding => Defines check entry binding.id ∧ Covers entry names)
      (((definitions check names entries).filter fun found => found.2.isEmpty).map Prod.fst) := by
  constructor
  · intro binding
    simp only [List.mem_map, List.mem_filter, List.isEmpty_iff, Prod.exists, mem_definitions, ← lacking_eq_nil]
    constructor
    · rintro ⟨_, _, ⟨⟨entry, inside, defines, rfl⟩, none⟩, rfl⟩
      exact ⟨entry, inside, defines, none⟩
    · rintro ⟨entry, inside, defines, none⟩
      exact ⟨binding, _, ⟨⟨entry, inside, defines, rfl⟩, none⟩, rfl⟩
  · rw [List.map_map]
    exact (List.filter_sublist.map _).trans definitions_ordered

theorem collects_lacks :
    Collects entries Prod.fst (fun entry type => (∃ id, Defines check entry id) ∧ type.2 = lacking entry names)
      ((definitions check names entries).map fun found => (found.1.name, found.2)) := by
  constructor
  · rintro ⟨name, lack⟩
    simp only [List.mem_map, Prod.exists, mem_definitions, Prod.mk.injEq]
    constructor
    · rintro ⟨binding, _, ⟨entry, inside, defines, rfl⟩, rfl, rfl⟩
      exact ⟨entry, inside, ⟨_, defines⟩, rfl⟩
    · rintro ⟨entry, inside, ⟨id, defines⟩, rfl⟩
      exact ⟨⟨id, name⟩, _, ⟨entry, inside, defines, rfl⟩, rfl, rfl⟩
  · rw [List.map_map]
    exact definitions_ordered

theorem definitions_eq_nil :
    definitions check names entries = [] ↔ ∀ entry ∈ entries, ∀ id, ¬Defines check entry.2 id := by
  constructor
  · intro empty entry inside id defines
    have found : (⟨id, entry.1⟩, lacking entry.2 names) ∈ definitions check names entries :=
      mem_definitions.mpr ⟨entry.2, inside, defines, rfl⟩
    exact List.not_mem_nil (empty ▸ found)
  · intro none
    refine List.eq_nil_iff_forall_not_mem.mpr fun found member => ?_
    obtain ⟨entry, inside, defines, -⟩ := mem_definitions.mp member
    exact none _ inside _ defines

theorem covering_eq_nil :
    ((definitions check names entries).filter fun found => found.2.isEmpty) = [] ↔
      ∀ found ∈ definitions check names entries, found.2 ≠ [] := by
  simp only [List.filter_eq_nil_iff, List.isEmpty_iff, ne_eq]

theorem nested_of_entries {context : Json} (present : context.get? "@context" = some (.array [.object entries])) :
    nested check names context =
      if !((definitions check names entries).filter fun found => found.2.isEmpty).isEmpty then
        .bound (((definitions check names entries).filter fun found => found.2.isEmpty).map Prod.fst)
      else if (definitions check names entries).isEmpty then .uncovered .noTypes
      else .uncovered (.typesLack ((definitions check names entries).map fun found => (found.1.name, found.2))) := by
  rw [nested, present]

theorem nested_of_not_listed {context : Json} (other : ∀ items, context.get? "@context" ≠ some (.array items)) :
    nested check names context = .mismatch .notSingleArray := by
  unfold nested
  split
  next present => exact absurd present (other _)
  next present => exact absurd present (other _)
  next present => exact absurd present (other _)
  next => rfl

theorem exists_nestedYields (check : String → Option UriFault) (names : List String) (context : Json) :
    ∃ attempt, NestedYields check names context attempt := by
  by_cases listed : ∃ items, context.get? "@context" = some (.array items)
  swap
  · exact ⟨_, .notSingleArray (not_exists.mp listed)⟩
  obtain ⟨items, present⟩ := listed
  by_cases single : items.length = 1
  swap
  · exact ⟨_, .entryCount present single⟩
  obtain ⟨item, rfl⟩ := List.length_eq_one_iff.mp single
  by_cases mapping : ∃ entries, item = .object entries
  swap
  · exact ⟨_, .entryNotMapping present (not_exists.mp mapping)⟩
  obtain ⟨entries, rfl⟩ := mapping
  by_cases none : ((definitions check names entries).filter fun found => found.2.isEmpty) = []
  swap
  · exact ⟨_, .bound present collects_covering (by simpa using none)⟩
  by_cases empty : definitions check names entries = []
  · exact ⟨_, .noTypes present (definitions_eq_nil.mp empty)⟩
  · refine ⟨_, .typesLack present collects_lacks (by simpa using empty) fun type member => ?_⟩
    obtain ⟨definition, inside, rfl⟩ := List.mem_map.mp member
    exact covering_eq_nil.mp none definition inside

theorem NestedYields.nested_eq {context : Json} (distinct : context.DistinctKeys) {attempt : Attempt}
    (yields : NestedYields check names context attempt) : nested check names context = attempt := by
  have keys {entries : Members} (present : context.get? "@context" = some (.array [.object entries])) :
      entries.keys.Nodup :=
    (Json.distinctKeys_object_iff.mp
      (Json.distinctKeys_array_iff.mp (distinct.member present) _ List.mem_cons_self)).1
  cases yields with
  | bound present collects nonempty =>
    have same := collects_covering.unique (keys present) collects
    rw [nested_of_entries present, same, if_pos]
    simpa [← same] using nonempty
  | noTypes present none =>
    rw [nested_of_entries present, definitions_eq_nil.mpr none]
    rfl
  | typesLack present collects nonempty lack =>
    obtain rfl := collects_lacks.unique (keys present) collects
    have none : ((definitions check names _).filter fun found => found.2.isEmpty) = [] :=
      covering_eq_nil.mpr fun found member => lack _ (List.mem_map_of_mem member)
    rw [nested_of_entries present, none, if_neg (by simp), if_neg (by simpa using nonempty)]
  | notSingleArray other => exact nested_of_not_listed other
  | @entryCount items present other =>
    rw [nested, present]
    match items with
    | [item] => exact absurd rfl other
    | [] => rfl
    | _ :: _ :: _ => simp
  | @entryNotMapping item present other =>
    rw [nested, present]
    cases item with
    | object entries => exact absurd rfl (other entries)
    | _ => rfl

theorem nested_eq_iff {context : Json} (distinct : context.DistinctKeys) {attempt : Attempt} :
    nested check names context = attempt ↔ NestedYields check names context attempt := by
  refine ⟨?_, fun yields => yields.nested_eq distinct⟩
  rintro rfl
  obtain ⟨attempt, yields⟩ := exists_nestedYields check names context
  rwa [yields.nested_eq distinct]

end

/-! ## The flat layout -/

structure HoldsTerms (context : Json) (outer : Members) (subject : Json) : Prop where
  mapping : context.get? "@context" = some (.object outer)
  given : outer.get? "credentialSubject" = some subject
  terms : ∃ terms, subject.get? "@context" = some (.object terms)

structure NamesBase (context : Json) (outer : Members) (subject : Json) (base : String) : Prop
    extends HoldsTerms context outer subject where
  base : outer.get? "schema-id" = some (.string base)

/-- The base is a URI, and exactly one entry is bound to it. -/
structure BindsBase (check : String → Option UriFault) (context subject : Json) (base name : String) : Prop where
  uri : check base = none
  bound : ∃ outer, NamesBase context outer subject base ∧ ∀ key, (key, marker) ∈ outer ↔ key = name

/-- What the flat layout makes of a context, which should hold a base, the terms of the subject and one type. -/
inductive FlatYields (check : String → Option UriFault) (names : List String) (context : Json) : Attempt → Prop where
  | bound {subject : Json} {base name : String} :
      BindsBase check context subject base name → check (base ++ name) = none → Covers subject names →
      FlatYields check names context (.bound [⟨base ++ name, name⟩])
  | subjectLacks {subject : Json} {base name : String} :
      BindsBase check context subject base name → check (base ++ name) = none → ¬Covers subject names →
      FlatYields check names context (.uncovered (.subjectLacks (lacking subject names)))
  | idNotUri {subject : Json} {base name : String} {fault : UriFault} :
      BindsBase check context subject base name → check (base ++ name) = some fault →
      FlatYields check names context (.mismatch (.idNotUri fault))
  | ambiguousBase {outer : Members} {subject : Json} {base first second : String} :
      NamesBase context outer subject base → check base = none → first ≠ second → (first, marker) ∈ outer →
      (second, marker) ∈ outer → FlatYields check names context (.mismatch .ambiguousBase)
  | unboundBase {outer : Members} {subject : Json} {base : String} :
      NamesBase context outer subject base → check base = none → (∀ key, (key, marker) ∉ outer) →
      FlatYields check names context (.mismatch .unboundBase)
  | baseNotUri {outer : Members} {subject : Json} {base : String} {fault : UriFault} :
      NamesBase context outer subject base → check base = some fault →
      FlatYields check names context (.mismatch (.baseNotUri fault))
  | missingBase {outer : Members} {subject : Json} :
      HoldsTerms context outer subject → (∀ base, outer.get? "schema-id" ≠ some (.string base)) →
      FlatYields check names context (.mismatch .missingBase)
  | missingSubjectTerms {outer : Members} :
      context.get? "@context" = some (.object outer) → (∀ subject, ¬HoldsTerms context outer subject) →
      FlatYields check names context (.mismatch .missingSubjectTerms)
  | notMapping : (∀ outer, context.get? "@context" ≠ some (.object outer)) →
      FlatYields check names context (.mismatch .notMapping)

section

variable {check : String → Option UriFault} {names : List String}

theorem mapping_iff {value : Option Json} {members : Members} :
    value.bind Json.object? = some members ↔ value = some (.object members) := by
  simp only [Option.bind_eq_some_iff, Json.object?_eq_some, exists_eq_right]

theorem text_iff {value : Option Json} {text : String} :
    value.bind Json.string? = some text ↔ value = some (.string text) := by
  simp only [Option.bind_eq_some_iff, Json.string?_eq_some, exists_eq_right]

theorem filter_marker {outer : Members} (distinct : outer.keys.Nodup) {name : String} :
    (outer.filter fun entry => entry.2 == marker) = [(name, marker)] ↔ ∀ key, (key, marker) ∈ outer ↔ key = name := by
  rw [filter_eq_singleton (List.Nodup.of_map Prod.fst distinct)]
  constructor
  · intro only key
    simpa using only (key, marker)
  · rintro only ⟨key, value⟩
    simp only [beq_iff_eq, Prod.mk.injEq]
    constructor
    · rintro ⟨inside, rfl⟩
      exact ⟨(only key).mp inside, rfl⟩
    · rintro ⟨same, rfl⟩
      exact ⟨(only key).mpr same, rfl⟩

theorem exists_flatYields (check : String → Option UriFault) (names : List String) (context : Json) :
    ∃ attempt, FlatYields check names context attempt := by
  by_cases mapping : ∃ outer, context.get? "@context" = some (.object outer)
  swap
  · exact ⟨_, .notMapping (not_exists.mp mapping)⟩
  obtain ⟨outer, mapping⟩ := mapping
  by_cases holding : ∃ subject, HoldsTerms context outer subject
  swap
  · exact ⟨_, .missingSubjectTerms mapping (not_exists.mp holding)⟩
  obtain ⟨subject, holding⟩ := holding
  by_cases based : ∃ base, Members.get? outer "schema-id" = some (.string base)
  swap
  · exact ⟨_, .missingBase holding (not_exists.mp based)⟩
  obtain ⟨base, given⟩ := based
  have based : NamesBase context outer subject base := ⟨holding, given⟩
  cases uri : check base with
  | some fault => exact ⟨_, .baseNotUri based uri⟩
  | none =>
    by_cases marked : ∃ name, (name, marker) ∈ outer
    swap
    · exact ⟨_, .unboundBase based uri (not_exists.mp marked)⟩
    obtain ⟨name, marked⟩ := marked
    by_cases single : ∀ key, (key, marker) ∈ outer → key = name
    swap
    · push Not at single
      obtain ⟨other, markedToo, differs⟩ := single
      exact ⟨_, .ambiguousBase based uri differs markedToo marked⟩
    have bound : BindsBase check context subject base name :=
      ⟨uri, outer, based, fun key => ⟨single key, fun same => same ▸ marked⟩⟩
    cases joined : check (base ++ name) with
    | some fault => exact ⟨_, .idNotUri bound joined⟩
    | none =>
      by_cases covers : Covers subject names
      · exact ⟨_, .bound bound joined covers⟩
      · exact ⟨_, .subjectLacks bound joined covers⟩

theorem HoldsTerms.found {context : Json} {outer : Members} {subject : Json}
    (holding : HoldsTerms context outer subject) :
    ∃ terms, ((outer.get? "credentialSubject").bind (·.get? "@context")).bind Json.object? = some terms ∧
      ∀ names, missing (some terms) names = lacking subject names := by
  obtain ⟨terms, holds⟩ := holding.terms
  have found := mapping_iff.mpr holds
  refine ⟨terms, by rw [holding.given]; exact found, fun names => ?_⟩
  rw [← missing_eq, found]

theorem BindsBase.found {context subject : Json} {base name : String} (distinct : context.DistinctKeys)
    (bound : BindsBase check context subject base name) :
    ∃ outer, NamesBase context outer subject base ∧
      (outer.filter fun entry => entry.2 == marker) = [(name, marker)] := by
  obtain ⟨outer, based, only⟩ := bound.bound
  have keys := (Json.distinctKeys_object_iff.mp (distinct.member based.mapping)).1
  exact ⟨outer, based, (filter_marker keys).mpr only⟩

theorem FlatYields.flat_eq {context : Json} (distinct : context.DistinctKeys) {attempt : Attempt}
    (yields : FlatYields check names context attempt) : flat check names context = attempt := by
  unfold flat
  cases yields with
  | notMapping other =>
    have none : (context.get? "@context").bind Json.object? = none :=
      Option.eq_none_iff_forall_ne_some.mpr fun outer found => other outer (mapping_iff.mp found)
    simp only [none]
  | @missingSubjectTerms outer mapping other =>
    have none : ((Members.get? outer "credentialSubject").bind (·.get? "@context")).bind Json.object? = none := by
      refine Option.eq_none_iff_forall_ne_some.mpr fun terms found => ?_
      obtain ⟨subject, given, holds⟩ := Option.bind_eq_some_iff.mp (mapping_iff.mp found)
      exact other subject ⟨mapping, given, terms, holds⟩
    simp only [mapping_iff.mpr mapping, none]
  | @missingBase outer subject holding other =>
    obtain ⟨terms, found, -⟩ := holding.found
    have none : (Members.get? outer "schema-id").bind Json.string? = none :=
      Option.eq_none_iff_forall_ne_some.mpr fun base found => other base (text_iff.mp found)
    simp only [mapping_iff.mpr holding.mapping, found, none]
  | baseNotUri based fault =>
    obtain ⟨terms, found, -⟩ := based.found
    simp only [mapping_iff.mpr based.mapping, found, text_iff.mpr based.base, fault]
  | @unboundBase outer _ _ based uri unmarked =>
    obtain ⟨terms, found, -⟩ := based.found
    have none : (outer.filter fun entry => entry.2 == marker) = [] := by
      rw [List.filter_eq_nil_iff]
      rintro ⟨key, value⟩ inside same
      exact unmarked key (eq_of_beq same ▸ inside)
    simp only [mapping_iff.mpr based.mapping, found, text_iff.mpr based.base, uri, none]
  | @ambiguousBase outer _ _ one other based uri differs first second =>
    obtain ⟨terms, found, -⟩ := based.found
    have kept {key : String} (marked : (key, marker) ∈ outer) :
        (key, marker) ∈ outer.filter fun entry => entry.2 == marker :=
      List.mem_filter.mpr ⟨marked, beq_iff_eq.mpr rfl⟩
    simp only [mapping_iff.mpr based.mapping, found, text_iff.mpr based.base, uri]
    -- The list of entries bound to the base has two different ones.
    split
    next empty => exact nomatch empty ▸ kept first
    next name value single =>
      have left := kept first
      have right := kept second
      rw [single, List.mem_singleton] at left right
      exact absurd (congrArg Prod.fst (left.trans right.symm)) differs
    next => rfl
  | idNotUri bound joined =>
    obtain ⟨outer, based, single⟩ := bound.found distinct
    obtain ⟨terms, found, -⟩ := based.found
    simp only [mapping_iff.mpr based.mapping, found, text_iff.mpr based.base, bound.uri, single, joined]
  | subjectLacks bound joined lacks =>
    obtain ⟨outer, based, single⟩ := bound.found distinct
    obtain ⟨terms, found, same⟩ := based.found
    have nonempty := mt lacking_eq_nil.mp lacks
    simp [mapping_iff.mpr based.mapping, found, text_iff.mpr based.base, bound.uri, single, joined, same, nonempty]
  | bound bound joined covers =>
    obtain ⟨outer, based, single⟩ := bound.found distinct
    obtain ⟨terms, found, same⟩ := based.found
    have empty := lacking_eq_nil.mpr covers
    simp [mapping_iff.mpr based.mapping, found, text_iff.mpr based.base, bound.uri, single, joined, same, empty]

theorem flat_eq_iff {context : Json} (distinct : context.DistinctKeys) {attempt : Attempt} :
    flat check names context = attempt ↔ FlatYields check names context attempt := by
  refine ⟨?_, fun yields => yields.flat_eq distinct⟩
  rintro rfl
  obtain ⟨attempt, yields⟩ := exists_flatYields check names context
  rwa [yields.flat_eq distinct]

end

end Credential.Context
