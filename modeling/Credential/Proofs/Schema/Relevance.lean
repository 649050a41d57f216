import Credential.Proofs.Schema.Grammar

/-! What the reading of a schema depends on.

Two nodes agree if they hold the same under the keywords that are read: those of
every node, and those of the types that the node declares. All else may differ,
and so may the order of the keywords. The main statement is that documents which
agree at every node are read as the same tree or refused with the same fault.
-/

set_option autoImplicit false

namespace Credential

namespace Node

/-! ## Agreement -/

/-- What stands under `properties` agrees: objects with the same keys in the same order, member by member, or one and
the same value of another type. -/
inductive AgreeOnProperties (below : Json → Json → Prop) : Json → Json → Prop where
  | object {members others : Members} :
      List.Forall₂ (fun member other => member.1 = other.1 ∧ below member.2 other.2) members others →
      AgreeOnProperties below (.object members) (.object others)
  | same {value : Json} : (∀ members, value ≠ .object members) → AgreeOnProperties below value value

def AgreeAs (below : Json → Json → Prop) (node other : Members) : JsonType → Prop
  | .boolean | .integer | .number => node.get? "enum" = other.get? "enum"
  | .string => node.get? "format" = other.get? "format" ∧ node.get? "enum" = other.get? "enum"
  | .null => True
  | .array => Option.Rel below (node.get? "items") (other.get? "items")
  | .object =>
    node.get? "required" = other.get? "required" ∧
      Option.Rel (AgreeOnProperties below) (node.get? "properties") (other.get? "properties")

/-- The nodes agree on all keywords that are read. A node whose `type` is malformed declares no types. -/
structure Agree (below : Json → Json → Prop) (node other : Members) : Prop where
  title : node.get? "title" = other.get? "title"
  description : node.get? "description" = other.get? "description"
  type : node.get? "type" = other.get? "type"
  declared : ∀ types, Declares node types → ∀ type ∈ types, AgreeAs below node other type

/-- Documents in the place of nodes. Those that are no objects have no keywords, and only their type is read. -/
inductive AgreeAt (below : Json → Json → Prop) : Json → Json → Prop where
  | node {node other : Members} : Agree below node other → AgreeAt below (.object node) (.object other)
  | noNode {document other : Json} : (∀ members, document ≠ .object members) → (∀ members, other ≠ .object members) →
      document.type = other.type → AgreeAt below document other

end Node

/-- The documents agree at every schema node on the given number of levels. What lies deeper is not looked at. -/
def Json.Agrees : (levels : Nat) → Json → Json → Prop
  | 0 => fun _ _ => True
  | levels + 1 => Node.AgreeAt (Json.Agrees levels)

namespace Node

open Success

/-! ## A node that is read -/

variable {below : Below} {related : Json → Json → Prop} {node other : Members} {info : Info} {path : Path}

theorem declares_of_single {type : JsonType} (found : declared node path = .ok (.single type)) : Declares node [type] :=
  .single (declared_eq_single.mp found)

theorem declares_of_union {types : List JsonType} (found : declared node path = .ok (.union types)) :
    Declares node types := by
  obtain ⟨present, several, distinct⟩ := declared_eq_union.mp found
  exact .union present several distinct

theorem Declares.unique {types others : List JsonType} (declares : Declares node types)
    (declaresToo : Declares node others) : types = others := by
  cases declares with
  | single present =>
    cases declaresToo with
    | single presentToo =>
      have same := Json.string.inj (Option.some.inj (present.symm.trans presentToo))
      rw [JsonType.token_injective same]
    | union presentToo => exact nomatch present.symm.trans presentToo
  | union present =>
    cases declaresToo with
    | single presentToo => exact nomatch present.symm.trans presentToo
    | union presentToo =>
      have same := Json.strings_injective (Option.some.inj (present.symm.trans presentToo))
      exact List.map_injective_iff.mpr JsonType.token_injective same

theorem Agree.of_declares {types : List JsonType} (title : node.get? "title" = other.get? "title")
    (description : node.get? "description" = other.get? "description") (type : node.get? "type" = other.get? "type")
    (declares : Declares node types) (each : ∀ type ∈ types, AgreeAs related node other type) :
    Agree related node other :=
  ⟨title, description, type, fun _ declaresToo => declaresToo.unique declares ▸ each⟩

section

variable (congr : ∀ document other, related document other → ∀ name required path,
  below document name required path = below other name required path)

include congr

theorem propertiesOf_congr {names : List String} {members others : Members}
    (pairing : List.Forall₂ (fun member other => member.1 = other.1 ∧ related member.2 other.2) members others) :
    propertiesOf below names path members = propertiesOf below names path others := by
  induction pairing with
  | nil => rfl
  | @cons member other _ _ pair _ ih =>
    obtain ⟨key, document⟩ := member
    obtain ⟨otherKey, otherDocument⟩ := other
    obtain ⟨rfl, agree⟩ := pair
    simp only [propertiesOf, congr _ _ agree, ih]

theorem readAs_congr {inUnion : Bool} {type : JsonType} (agree : AgreeAs related node other type) :
    readAs below node info path inUnion type = readAs below other info path inUnion type := by
  cases type with
  | boolean | integer | number => simp only [readAs, enum?, show node.get? "enum" = other.get? "enum" from agree]
  | string =>
    obtain ⟨format, listed⟩ := agree
    simp only [readAs, text?, enum?, format, listed]
  | null => rfl
  | array =>
    simp only [AgreeAs] at agree
    simp only [readAs]
    generalize node.get? "items" = items at agree ⊢
    generalize other.get? "items" = otherItems at agree ⊢
    cases agree with
    | none => rfl
    | some agree => simp only [congr _ _ agree]
  | object =>
    obtain ⟨required, properties⟩ := agree
    simp only [readAs, requiredNames, required]
    generalize node.get? "properties" = value at properties ⊢
    generalize other.get? "properties" = otherValue at properties ⊢
    cases properties with
    | none => rfl
    | some agree =>
      cases agree with
      | object pairing => simp only [propertiesOf_congr congr pairing]
      | same => rfl

theorem readEach_congr {types : List JsonType} (agree : ∀ type ∈ types, AgreeAs related node other type) :
    readEach below node info path types = readEach below other info path types := by
  induction types with
  | nil => rfl
  | cons type rest ih =>
    obtain ⟨here, after⟩ := List.forall_mem_cons.mp agree
    simp only [readEach, readAs_congr congr here, ih after]

theorem read_congr (agree : Agree related node other) (name : String) (required : Bool) :
    read below node name required path = read below other name required path := by
  have titled : text? node "title" path = text? other "title" path := by simp only [text?, agree.title]
  have described : text? node "description" path = text? other "description" path := by
    simp only [text?, agree.description]
  have typed : declared node path = declared other path := by simp only [declared, agree.type]
  simp only [read, titled, described, ← typed]
  refine bind_congr fun title => bind_congr fun description => ?_
  -- Only the keywords of declared types are known to agree.
  cases found : declared node path with
  | error fault => rfl
  | ok kind =>
    cases kind with
    | single type => exact readAs_congr congr (agree.declared _ (declares_of_single found) type List.mem_cons_self)
    | union types => simp only [ok_bind, readEach_congr congr (agree.declared types (declares_of_union found))]

end

/-! ## Documents -/

theorem readLevels_congr {limit levels : Nat} {document other : Json} (agrees : document.Agrees levels other)
    (name : String) (required : Bool) (path : Path) :
    Attribute.readLevels limit levels document name required path =
      Attribute.readLevels limit levels other name required path := by
  induction levels generalizing document other name required path with
  | zero => rfl
  | succ levels ih =>
    have below : ∀ document other, document.Agrees levels other → ∀ name required path,
        Attribute.readLevels limit levels document name required path =
          Attribute.readLevels limit levels other name required path := fun _ _ => ih
    cases agrees with
    | node agree => exact read_congr below agree name required
    | noNode document other same => rw [readLevels_of_noNode document, readLevels_of_noNode other, same]

end Node

namespace Attribute

/-- Documents that agree at every node on the keywords that are read there give the same tree, or the same fault: its
place, the types that are expected there, and the breach with its message. -/
theorem ofDocument_eq_of_agrees {limit : Nat} {document other : Json} (agrees : document.Agrees (limit + 1) other)
    (name : String) (required : Bool) :
    ofDocument limit document name required = ofDocument limit other name required :=
  Node.readLevels_congr agrees name required []

end Attribute

def Json.sampleTerse : Json :=
  .object [
    ("type", strings ["object", "string"]),
    ("enum", strings ["none"]),
    ("properties", .object [
      ("size", .object [("type", .string "integer"), ("enum", .array [.bool true])])])]

def Json.sampleVerbose : Json :=
  .object [
    ("items", .bool true),
    ("properties", .object [
      ("size", .object [
        ("properties", .null),
        ("enum", .array [.bool true]),
        ("format", .array []),
        ("type", .string "integer")])]),
    ("$comment", .string "sizes"),
    ("type", strings ["object", "string"]),
    ("enum", strings ["none"])]

theorem Attribute.ofDocument_eq_of_agrees_sample :
    Json.sampleTerse.Agrees 5 Json.sampleVerbose ∧
      ∃ fault, ofDocument 4 Json.sampleTerse "" true = .error fault ∧ fault.path.pointer = "/properties/size/enum/0" ∧
        ofDocument 4 Json.sampleVerbose "" true = .error fault := by
  have size : Node.AgreeAs (Json.Agrees 3)
      [("type", .string "integer"), ("enum", .array [.bool true])]
      [("properties", .null), ("enum", .array [.bool true]), ("format", .array []), ("type", .string "integer")]
      .integer := rfl
  have agrees : Json.sampleTerse.Agrees 5 Json.sampleVerbose := by
    refine .node (.of_declares rfl rfl rfl (.union rfl (by decide) (by decide) : Node.Declares _ [.object, .string]) ?_)
    intro type inside
    obtain rfl | rfl : type = .object ∨ type = .string := by simpa using inside
    · refine ⟨rfl, .some (.object (.cons ⟨rfl, .node ?_⟩ .nil))⟩
      exact .of_declares rfl rfl rfl (.single rfl) (List.forall_mem_singleton.mpr size)
    · exact ⟨rfl, rfl⟩
  refine ⟨agrees, _, rfl, rfl, ?_⟩
  exact (@Attribute.ofDocument_eq_of_agrees 4 _ _ agrees "" true).symm

end Credential
