import Credential.Proofs.Success
import Credential.Schema.Reading

/-! Which attribute a schema document describes, as a relation.

The relation leaves out what only matters when a document is refused: the order
of the checks, the places and the faults. The main statement is that reading
succeeds with exactly the attribute that the document describes.
-/

set_option autoImplicit false

namespace Credential

theorem JsonType.ofToken?_token (type : JsonType) : ofToken? type.token = some type := by
  cases type <;> decide

theorem JsonType.ofToken?_eq_some {token : String} {type : JsonType} :
    ofToken? token = some type ↔ token = type.token := by
  constructor
  · intro found
    unfold ofToken? at found
    have taken := List.find?_some found
    exact (eq_of_beq taken).symm
  · rintro rfl
    exact ofToken?_token type

theorem JsonType.token_injective : Function.Injective token := fun first second same =>
  Option.some.inj ((ofToken?_token first).symm.trans ((congrArg ofToken? same).trans (ofToken?_token second)))

theorem Json.strings_injective : Function.Injective strings := fun _ _ same =>
  List.map_injective_iff.mpr (fun _ _ => Json.string.inj) (Json.array.inj same)

namespace Node

open Success

abbrev Relation := Json → (name : String) → (required : Bool) → Attribute → Prop

/-- The allowed values of a type: the entries of `enum` that `select` takes, all of them outside of a union. -/
def Listed {α : Type} (node : Members) (inUnion : Bool) (select : Json → Option α) (allowed : Option (List α)) : Prop :=
  ∃ entries : Option (List Json), node.get? "enum" = entries.map .array ∧ entries ≠ some [] ∧
    (inUnion = false → ∀ values ∈ entries, ∀ value ∈ values, (select value).isSome) ∧
    allowed = entries.map (·.filterMap select)

def Requires (node : Members) (names : List String) : Prop :=
  node.get? "required" = none ∧ names = [] ∨ node.get? "required" = some (Json.strings names)

/-- The node read as one of its types. -/
inductive ReadsAs (below : Relation) (node : Members) (info : Info) (inUnion : Bool) : JsonType → Attribute → Prop where
  | boolean {allowed : Option (List Bool)} : Listed node inUnion Json.bool? allowed →
      ReadsAs below node info inUnion .boolean (.boolean info allowed)
  | integer {allowed : Option (List Number)} : Listed node inUnion integer? allowed →
      ReadsAs below node info inUnion .integer (.integer info allowed)
  | number {allowed : Option (List Number)} : Listed node inUnion Json.number? allowed →
      ReadsAs below node info inUnion .number (.number info allowed)
  | string {format : Option String} {allowed : Option (List String)} : node.get? "format" = format.map .string →
      Listed node inUnion Json.string? allowed → ReadsAs below node info inUnion .string (.string info format allowed)
  | null : ReadsAs below node info inUnion .null (.null info)
  | anyArray : node.get? "items" = none → ReadsAs below node info inUnion .array (.anyArray info)
  | arrayOf {document : Json} {items : Attribute} : node.get? "items" = some document →
      below document "items" info.required items → ReadsAs below node info inUnion .array (.arrayOf info items)
  | anyObject {names : List String} : Requires node names → node.get? "properties" = none →
      ReadsAs below node info inUnion .object (.anyObject info)
  | record {names : List String} {members : Members} {properties : List Attribute} : Requires node names →
      node.get? "properties" = some (.object members) →
      List.Forall₂ (fun member property => below member.2 member.1 (names.contains member.1) property)
        members properties →
      ReadsAs below node info inUnion .object (.record info (objectsLast Attribute.isObject properties))

/-- The whole node read. A union of enumerable types keeps an entry for one of them. -/
inductive Reads (below : Relation) (node : Members) (name : String) (required : Bool) : Attribute → Prop where
  | single {title description : Option String} {type : JsonType} {field : Attribute} :
      node.get? "title" = title.map .string → node.get? "description" = description.map .string →
      node.get? "type" = some (.string type.token) →
      ReadsAs below node ⟨name, required, title, description⟩ false type field → Reads below node name required field
  | union {title description : Option String} {types : List JsonType} {candidates : List Attribute} :
      node.get? "title" = title.map .string → node.get? "description" = description.map .string →
      node.get? "type" = some (Json.strings (types.map JsonType.token)) → 2 ≤ types.length → types.Nodup →
      List.Forall₂ (ReadsAs below node ⟨name, required, title, description⟩ true) types candidates →
      ¬((∀ type ∈ types, type.supportsEnum = true) ∧ ∀ candidate ∈ candidates, candidate.allowed? = some []) →
      Reads below node name required (.union ⟨name, required, title, description⟩ candidates)

/-- The attribute a document of at most the given number of levels describes. -/
def Describes : (levels : Nat) → Relation
  | 0 => fun _ _ _ _ => False
  | levels + 1 => fun document name required field =>
    ∃ node, document = .object node ∧ Reads (Describes levels) node name required field

/-! ## Reading keeps to the relation -/

theorem text?_eq_ok {node : Members} {keyword : String} {path : Path} {value : Option String} :
    text? node keyword path = .ok value ↔ node.get? keyword = value.map .string := by
  unfold text?
  split
  next absent => cases value <;> simp [absent]
  next text present => cases value <;> simp [present]
  next other noText present =>
    simp only [SchemaFault.throw, reduceCtorEq, present, false_iff]
    cases value with
    | none => simp
    | some text => exact fun same => noText text (Option.some.inj same)

theorem typeOfToken_eq_ok {token : String} {path : Path} {type : JsonType} :
    typeOfToken token path = .ok type ↔ token = type.token := by
  rw [← JsonType.ofToken?_eq_some]
  unfold typeOfToken
  split <;> simp_all [SchemaFault.throw]

theorem typesFrom_eq_ok {path : Path} {position : Nat} {before types : List JsonType} {tokens : List Json} :
    typesFrom path position before tokens = .ok types ↔
      tokens = types.map (fun type => Json.string type.token) ∧ types.Nodup ∧ ∀ type ∈ types, type ∉ before := by
  fun_induction typesFrom path position before tokens generalizing types with
  | case1 position before => cases types <;> simp
  | case2 position before token rest ih =>
    simp only [bind_eq_ok, typeOfToken_eq_ok]
    constructor
    · rintro ⟨type, rfl, outcome⟩
      split at outcome
      · simp [SchemaFault.throw] at outcome
      -- The rest is read with this type among those before, which is what makes the list distinct.
      next fresh =>
        simp only [bind_eq_ok, pure_eq_ok, ih] at outcome
        obtain ⟨others, ⟨rfl, distinct, new⟩, rfl⟩ := outcome
        refine ⟨rfl, List.nodup_cons.mpr ⟨fun again => new type again List.mem_cons_self, distinct⟩, ?_⟩
        exact List.forall_mem_cons.mpr ⟨fresh, fun other inside old => new other inside (List.mem_cons_of_mem type old)⟩
    · rintro ⟨same, distinct, new⟩
      cases types with
      | nil => simp at same
      | cons type others =>
        simp only [List.map_cons, List.cons.injEq, Json.string.injEq] at same
        obtain ⟨rfl, rfl⟩ := same
        obtain ⟨fresh, new⟩ := List.forall_mem_cons.mp new
        obtain ⟨once, distinct⟩ := List.nodup_cons.mp distinct
        refine ⟨type, rfl, ?_⟩
        simp only [if_neg fresh, bind_eq_ok, pure_eq_ok, ih]
        refine ⟨others, ⟨rfl, distinct, fun other inside => ?_⟩, rfl⟩
        exact List.not_mem_cons_of_ne_of_not_mem (fun same => once (same ▸ inside)) (new other inside)
  | case3 position before other rest noText =>
    simp only [SchemaFault.throw, reduceCtorEq, false_iff, not_and]
    cases types with
    | nil => simp
    | cons type others =>
      simp only [List.map_cons, List.cons.injEq]
      exact fun same => absurd same.1 (noText _)

theorem declared_eq_single {node : Members} {path : Path} {type : JsonType} :
    declared node path = .ok (.single type) ↔ node.get? "type" = some (.string type.token) := by
  unfold declared
  split
  next absent => simp [SchemaFault.throw, absent]
  next token present => simp [present, typeOfToken_eq_ok]
  next tokens present => split <;> simp [SchemaFault.throw, present]
  next other noText noList present =>
    simp only [SchemaFault.throw, reduceCtorEq, present, Option.some.injEq, false_iff]
    exact noText _

theorem declared_eq_union {node : Members} {path : Path} {types : List JsonType} :
    declared node path = .ok (.union types) ↔
      node.get? "type" = some (Json.strings (types.map JsonType.token)) ∧ 2 ≤ types.length ∧ types.Nodup := by
  have tokens_eq : (types.map JsonType.token).map Json.string = types.map fun type => Json.string type.token := by
    simp [List.map_map, Function.comp_def]
  unfold declared
  split
  next absent => simp [SchemaFault.throw, absent]
  next token present => simp [present, Json.strings]
  next tokens present =>
    simp only [present, Option.some.injEq, Json.strings, Json.array.injEq, tokens_eq]
    split
    next few =>
      simp only [SchemaFault.throw, reduceCtorEq, false_iff, not_and]
      rintro rfl
      simp only [List.length_map] at few
      omega
    next enough =>
      simp only [bind_eq_ok, pure_eq_ok, Declared.union.injEq, exists_eq_right, typesFrom_eq_ok]
      constructor
      · rintro ⟨rfl, distinct, -⟩
        rw [List.length_map, Nat.not_lt] at enough
        exact ⟨rfl, enough, distinct⟩
      · rintro ⟨rfl, -, distinct⟩
        exact ⟨rfl, distinct, fun _ _ => List.not_mem_nil⟩
  next other noText noList present =>
    simp only [SchemaFault.throw, reduceCtorEq, present, Option.some.injEq, false_iff, not_and]
    exact fun same => absurd same (noList _)

theorem entriesFrom_eq_ok {α : Type} {path : Path} {type : JsonType} {strict : Bool} {select : Json → Option α}
    {position : Nat} {values : List Json} {entries : List α} :
    entriesFrom path type strict select position values = .ok entries ↔
      (strict = true → ∀ value ∈ values, (select value).isSome) ∧ entries = values.filterMap select := by
  fun_induction entriesFrom path type strict select position values generalizing entries with
  | case1 position => cases entries <;> simp
  | case2 position value rest entry taken ih =>
    simp only [bind_eq_ok, pure_eq_ok, ih, List.filterMap_cons, taken, List.forall_mem_cons, Option.isSome_some,
      true_and]
    constructor
    · rintro ⟨_, ⟨all, rfl⟩, rfl⟩
      exact ⟨all, rfl⟩
    · rintro ⟨all, rfl⟩
      exact ⟨_, ⟨all, rfl⟩, rfl⟩
  | case3 position value rest refused strict =>
    simp [SchemaFault.throw, refused, strict]
  | case4 position value rest refused lenient ih =>
    rw [ih]
    simp [refused, lenient]

theorem enum?_eq_ok {α : Type} {node : Members} {path : Path} {type : JsonType} {inUnion : Bool}
    {select : Json → Option α} {allowed : Option (List α)} :
    enum? node path type inUnion select = .ok allowed ↔ Listed node inUnion select allowed := by
  unfold enum? Listed
  split
  next absent =>
    constructor
    · rintro ⟨⟩
      exact ⟨none, absent, by simp, by simp, rfl⟩
    · rintro ⟨entries, present, -, -, rfl⟩
      cases entries with
      | none => rfl
      | some values => simp [absent] at present
  next empty =>
    simp only [SchemaFault.throw, reduceCtorEq, false_iff]
    rintro ⟨entries, present, nonempty, -, -⟩
    cases entries with
    | none => simp [empty] at present
    | some values => simp_all
  next values nonempty found =>
    simp only [bind_eq_ok, pure_eq_ok, entriesFrom_eq_ok, Bool.not_eq_true']
    constructor
    · rintro ⟨_, ⟨all, rfl⟩, rfl⟩
      refine ⟨some values, found, ?_, ?_, rfl⟩
      · exact fun same => nonempty (Option.some.inj same)
      · rintro outside _ ⟨⟩
        exact all outside
    · rintro ⟨entries, present, -, all, rfl⟩
      cases entries with
      | none => simp [found] at present
      | some others =>
        obtain rfl : values = others := by simpa [found] using present
        exact ⟨_, ⟨fun outside => all outside values rfl, rfl⟩, rfl⟩
  next other _ noList found =>
    simp only [SchemaFault.throw, reduceCtorEq, false_iff]
    rintro ⟨entries, present, -, -, -⟩
    cases entries with
    | none => simp [found] at present
    | some values => exact noList values (by simpa [found] using present)

theorem namesFrom_eq_ok {path : Path} {position : Nat} {values : List Json} {names : List String} :
    namesFrom path position values = .ok names ↔ values = names.map .string := by
  fun_induction namesFrom path position values generalizing names with
  | case1 position => cases names <;> simp
  | case2 position name rest ih =>
    simp only [bind_eq_ok, pure_eq_ok, ih]
    cases names with
    | nil => simp
    | cons first others => simp [and_comm]
  | case3 position other rest noText =>
    cases names with
    | nil => simp [SchemaFault.throw]
    | cons first others =>
      simp only [SchemaFault.throw, reduceCtorEq, List.map_cons, List.cons.injEq, false_iff, not_and]
      exact fun same => absurd same (noText first)

theorem requiredNames_eq_ok {node : Members} {path : Path} {names : List String} :
    requiredNames node path = .ok names ↔ Requires node names := by
  unfold requiredNames Requires
  split
  next absent => simp [absent, eq_comm]
  next values present => simp [present, namesFrom_eq_ok, Json.strings]
  next other noList present =>
    simp only [SchemaFault.throw, reduceCtorEq, present, Option.some.injEq, false_and, false_or, false_iff]
    exact noList _

/-! ## The node as a whole

The lemmas below take the readings one level down as given by a relation.
-/

section

variable {below : Below} {related : Relation}
  (exact : ∀ document name required path field,
    below document name required path = .ok field ↔ related document name required field)

include exact

theorem propertiesOf_eq_ok {names : List String} {path : Path} {members : Members} {properties : List Attribute} :
    propertiesOf below names path members = .ok properties ↔
      List.Forall₂ (fun member property => related member.2 member.1 (names.contains member.1) property)
        members properties := by
  induction members generalizing properties with
  | nil => cases properties <;> simp [propertiesOf]
  | cons member rest ih =>
    obtain ⟨key, node⟩ := member
    simp only [propertiesOf, bind_eq_ok, pure_eq_ok, exact, ih, List.forall₂_cons_left_iff]
    constructor
    · rintro ⟨property, first, others, tail, rfl⟩
      exact ⟨property, others, first, tail, rfl⟩
    · rintro ⟨property, others, first, tail, rfl⟩
      exact ⟨property, first, others, tail, rfl⟩

theorem readAs_eq_ok {node : Members} {info : Info} {path : Path} {inUnion : Bool} {type : JsonType}
    {field : Attribute} :
    readAs below node info path inUnion type = .ok field ↔ ReadsAs related node info inUnion type field := by
  cases type with
  | boolean =>
    simp only [readAs, bind_eq_ok, pure_eq_ok, enum?_eq_ok]
    constructor
    · rintro ⟨allowed, listed, rfl⟩
      exact .boolean listed
    · intro reading
      cases reading with
      | boolean listed => exact ⟨_, listed, rfl⟩
  | integer =>
    simp only [readAs, bind_eq_ok, pure_eq_ok, enum?_eq_ok]
    constructor
    · rintro ⟨allowed, listed, rfl⟩
      exact .integer listed
    · intro reading
      cases reading with
      | integer listed => exact ⟨_, listed, rfl⟩
  | number =>
    simp only [readAs, bind_eq_ok, pure_eq_ok, enum?_eq_ok]
    constructor
    · rintro ⟨allowed, listed, rfl⟩
      exact .number listed
    · intro reading
      cases reading with
      | number listed => exact ⟨_, listed, rfl⟩
  | string =>
    simp only [readAs, bind_eq_ok, pure_eq_ok, enum?_eq_ok, text?_eq_ok]
    constructor
    · rintro ⟨format, tagged, allowed, listed, rfl⟩
      exact .string tagged listed
    · intro reading
      cases reading with
      | string tagged listed => exact ⟨_, tagged, _, listed, rfl⟩
  | null =>
    simp only [readAs, Except.ok.injEq]
    constructor
    · rintro rfl
      exact .null
    · rintro ⟨⟩
      rfl
  | array =>
    simp only [readAs]
    split
    next absent =>
      constructor
      · rintro ⟨⟩
        exact .anyArray absent
      · intro reading
        cases reading with
        | anyArray => rfl
        | arrayOf present => simp [absent] at present
    next document present =>
      simp only [bind_eq_ok, pure_eq_ok, exact]
      constructor
      · rintro ⟨items, described, rfl⟩
        exact .arrayOf present described
      · intro reading
        cases reading with
        | anyArray absent => simp [present] at absent
        | arrayOf found described =>
          obtain rfl : document = _ := by simpa [present] using found
          exact ⟨_, described, rfl⟩
  | object =>
    simp only [readAs, bind_eq_ok, requiredNames_eq_ok]
    constructor
    · rintro ⟨names, requires, outcome⟩
      split at outcome
      next absent =>
        obtain rfl := pure_eq_ok.mp outcome
        exact .anyObject requires absent
      next members present =>
        simp only [bind_eq_ok, pure_eq_ok, propertiesOf_eq_ok exact] at outcome
        obtain ⟨properties, described, rfl⟩ := outcome
        exact .record requires present described
      next other noObject present => simp [SchemaFault.throw] at outcome
    · intro reading
      cases reading with
      | anyObject requires absent => exact ⟨_, requires, by simp [absent]⟩
      | record requires present described =>
        refine ⟨_, requires, ?_⟩
        simp only [present, bind_eq_ok, pure_eq_ok, propertiesOf_eq_ok exact]
        exact ⟨_, described, rfl⟩

theorem readEach_eq_ok {node : Members} {info : Info} {path : Path} {types : List JsonType}
    {candidates : List Attribute} :
    readEach below node info path types = .ok candidates ↔
      List.Forall₂ (ReadsAs related node info true) types candidates := by
  induction types generalizing candidates with
  | nil => cases candidates <;> simp [readEach]
  | cons type rest ih =>
    simp only [readEach, bind_eq_ok, pure_eq_ok, readAs_eq_ok exact, ih, List.forall₂_cons_left_iff]
    constructor
    · rintro ⟨candidate, first, others, tail, rfl⟩
      exact ⟨candidate, others, first, tail, rfl⟩
    · rintro ⟨candidate, others, first, tail, rfl⟩
      exact ⟨candidate, first, others, tail, rfl⟩

theorem read_eq_ok {node : Members} {name : String} {required : Bool} {path : Path} {field : Attribute} :
    read below node name required path = .ok field ↔ Reads related node name required field := by
  simp only [read, bind_eq_ok, text?_eq_ok]
  constructor
  · rintro ⟨title, titled, description, described, kind, outcome, reading⟩
    cases kind with
    | single type => exact .single titled described (declared_eq_single.mp outcome) ((readAs_eq_ok exact).mp reading)
    | union types =>
      obtain ⟨present, enough, distinct⟩ := declared_eq_union.mp outcome
      simp only [bind_eq_ok, readEach_eq_ok exact] at reading
      obtain ⟨candidates, each, reading⟩ := reading
      split at reading
      · simp [SchemaFault.throw] at reading
      next kept =>
        obtain rfl := pure_eq_ok.mp reading
        exact .union titled described present enough distinct each (by simpa using kept)
  · intro reading
    cases reading with
    | single titled described present reading =>
      exact ⟨_, titled, _, described, _, declared_eq_single.mpr present, (readAs_eq_ok exact).mpr reading⟩
    | union titled described present enough distinct each kept =>
      refine ⟨_, titled, _, described, _, declared_eq_union.mpr ⟨present, enough, distinct⟩, ?_⟩
      simp only [bind_eq_ok, readEach_eq_ok exact]
      exact ⟨_, each, by rw [if_neg (by simpa using kept)]; rfl⟩

end

theorem readLevels_of_noNode {document : Json} (noNode : ∀ members, document ≠ .object members) (limit levels : Nat)
    (name : String) (required : Bool) (path : Path) :
    Attribute.readLevels limit (levels + 1) document name required path =
      SchemaFault.throw path [.object] (.notNode document.type) := by
  cases document with
  | object members => exact absurd rfl (noNode members)
  | _ => rfl

/-- Reading yields exactly what the document describes, whatever the limit that faults name and the place. -/
theorem readLevels_eq_ok {limit levels : Nat} {document : Json} {name : String} {required : Bool} {path : Path}
    {field : Attribute} :
    Attribute.readLevels limit levels document name required path = .ok field ↔
      Describes levels document name required field := by
  induction levels generalizing document name required path field with
  | zero => simp [Attribute.readLevels, SchemaFault.throw, Describes]
  | succ levels ih =>
    have below : ∀ document name required path field,
        Attribute.readLevels limit levels document name required path = .ok field ↔
          Describes levels document name required field := fun _ _ _ _ _ => ih
    simp only [Attribute.readLevels, Describes]
    cases document with
    | object node => simp [read_eq_ok below]
    | _ => simp [SchemaFault.throw]

theorem ofDocument_eq_ok {limit : Nat} {document : Json} {name : String} {required : Bool} {field : Attribute} :
    Attribute.ofDocument limit document name required = .ok field ↔
      Describes (limit + 1) document name required field :=
  readLevels_eq_ok

end Node

/-! ## A schema to look at -/

def Json.sampleSchema : Json :=
  .object [
    ("$metadata", .object [("uris", .object [("jsonLdContext", .string "https://example/ctx")])]),
    ("type", .string "object"),
    ("properties", .object [
      ("credentialSubject", .object [
        ("type", .string "object"),
        ("properties", .object [
          ("address", .object [("type", .string "object")]),
          ("tags", .object [("type", .string "array"), ("items", .object [("type", strings ["string", "null"])])]),
          ("age", .object [("type", .string "integer")])]),
        ("required", strings ["tags"])])])]

def Json.sampleCredential : Json :=
  .object [
    ("credentialSubject", .object [
      ("address", .null),
      ("age", .number (.integer 30 (by decide))),
      ("tags", .array [.string "a", .null])])]

def Attribute.sample : Attribute :=
  .record ⟨"", true, none, none⟩ [
    .record ⟨"credentialSubject", false, none, none⟩ [
      .arrayOf ⟨"tags", true, none, none⟩ (.union ⟨"items", true, none, none⟩ [
        .string ⟨"items", true, none, none⟩ none none,
        .null ⟨"items", true, none, none⟩]),
      .integer ⟨"age", false, none, none⟩ none,
      .anyObject ⟨"address", false, none, none⟩]]

example : Attribute.ofDocument 4 Json.sampleSchema "" true = .ok Attribute.sample := rfl

theorem Json.distinctKeys_sampleSchema : sampleSchema.DistinctKeys := by
  simp [sampleSchema, strings, DistinctKeys, DistinctKeysItems, DistinctKeysMembers]

end Credential
