import Credential.Failure
import Credential.Proofs.Pointer
import Credential.Proofs.Schema.Depth
import Credential.Proofs.Schema.Grammar

/-! Where a schema fault points.

Every fault is the fault of one schema node. It is found at the place of the
node, at a keyword there, or at an entry of a list under a keyword. One step of
reading says what a node can be refused for, and the run follows the levels
down to the node that is at fault.
-/

set_option autoImplicit false

namespace Credential

/-- The keywords that a declared type adds to those of every node. What stands under `items` is a node of its own. -/
def JsonType.keywords : JsonType → List String
  | .boolean | .integer | .number => ["enum"]
  | .string => ["format", "enum"]
  | .object => ["required", "properties"]
  | .null | .array => []

namespace Json

def keywords (node : Json) : List String :=
  ["title", "description", "type"] ++ node.declaredTypes.flatMap JsonType.keywords

/-- What a fault of a schema node may point to, by the steps from the node on: the node itself, a keyword that it has,
the `type` that it does not have, or an entry of a list under a keyword. -/
inductive HasPart (node : Json) : Path → Prop where
  | whole : HasPart node []
  | keyword {keyword : String} {value : Json} : keyword ∈ node.keywords → node.get? keyword = some value →
      HasPart node [.key keyword]
  | missingType {members : Members} : node = .object members → "type" ∉ members.keys → HasPart node [.key "type"]
  | entry {keyword : String} {entries : List Json} {position : Nat} : keyword ∈ node.keywords →
      keyword ∈ ["type", "enum", "required"] → node.get? keyword = some (.array entries) →
      position < entries.length → HasPart node [.key keyword, .index position]

end Json

namespace SchemaFault

def AtEntry (path : Path) (position count : Nat) (fault : SchemaFault) : Prop :=
  fault.expected ≠ [] ∧ ∃ offset < count, fault.path = path.index (position + offset)

variable {path : Path} {position count : Nat} {fault : SchemaFault}

theorem AtEntry.first (expected : fault.expected ≠ []) (place : fault.path = path.index position) :
    AtEntry path position (count + 1) fault :=
  ⟨expected, 0, Nat.succ_pos count, place⟩

theorem AtEntry.later (after : AtEntry path (position + 1) count fault) : AtEntry path position (count + 1) fault := by
  obtain ⟨expected, offset, inside, place⟩ := after
  exact ⟨expected, offset + 1, Nat.succ_lt_succ inside, place.trans (by rw [Nat.add_right_comm, Nat.add_assoc])⟩

end SchemaFault

namespace Node

open Success
open SchemaFault (AtEntry)

theorem all_ne_nil : JsonType.all ≠ [] := List.cons_ne_nil _ _

/-! ## Lists under keywords -/

section

variable {path : Path} {position : Nat} {fault : SchemaFault}

theorem typeOfToken_eq_error {token : String} (failed : typeOfToken token path = .error fault) :
    fault.expected ≠ [] ∧ fault.path = path := by
  unfold typeOfToken at failed
  split at failed
  · cases failed
  · obtain rfl := Except.error.inj failed
    exact ⟨all_ne_nil, rfl⟩

theorem atEntry_of_typesFrom {before : List JsonType} {tokens : List Json}
    (failed : typesFrom path position before tokens = .error fault) : AtEntry path position tokens.length fault := by
  fun_induction typesFrom path position before tokens with
  | case1 => cases failed
  | case2 position before token rest ih =>
    obtain unknown | ⟨type, -, failed⟩ := bind_eq_error.mp failed
    · exact .first (typeOfToken_eq_error unknown).1 (typeOfToken_eq_error unknown).2
    · split at failed
      · obtain rfl := Except.error.inj failed
        exact .first all_ne_nil rfl
      · obtain failed | ⟨_, -, ⟨⟩⟩ := bind_eq_error.mp failed
        exact (ih type failed).later
  | case3 =>
    obtain rfl := Except.error.inj failed
    exact .first all_ne_nil rfl

theorem atEntry_of_entriesFrom {α : Type} {type : JsonType} {strict : Bool} {select : Json → Option α}
    {values : List Json} (failed : entriesFrom path type strict select position values = .error fault) :
    AtEntry path position values.length fault := by
  fun_induction entriesFrom path type strict select position values with
  | case1 => cases failed
  | case2 position value rest entry taken ih =>
    obtain failed | ⟨_, -, ⟨⟩⟩ := bind_eq_error.mp failed
    exact (ih failed).later
  | case3 =>
    obtain rfl := Except.error.inj failed
    exact .first (List.cons_ne_nil _ _) rfl
  | case4 position value rest refused lenient ih => exact (ih failed).later

theorem atEntry_of_namesFrom {values : List Json} (failed : namesFrom path position values = .error fault) :
    AtEntry path position values.length fault := by
  fun_induction namesFrom path position values with
  | case1 => cases failed
  | case2 position name rest ih =>
    obtain failed | ⟨_, -, ⟨⟩⟩ := bind_eq_error.mp failed
    exact (ih failed).later
  | case3 =>
    obtain rfl := Except.error.inj failed
    exact .first (List.cons_ne_nil _ _) rfl

end

/-! ## One node -/

/-- What a node is refused for: a part of its own, or a node one level down. -/
inductive Refused (below : Below) (node : Members) (path : Path) (fault : SchemaFault) : Prop where
  | own {rest : Path} : (Json.object node).HasPart rest → rest ≠ [] → fault.expected ≠ [] →
      fault.path = path ++ rest → Refused below node path fault
  | items {items : Json} {name : String} {required : Bool} : .array ∈ (Json.object node).declaredTypes →
      node.get? "items" = some items → below items name required (path.key "items") = .error fault →
      Refused below node path fault
  | property {members : Members} {key : String} {property : Json} {required : Bool} :
      .object ∈ (Json.object node).declaredTypes → node.get? "properties" = some (.object members) →
      (key, property) ∈ members → below property key required ((path.key "properties").key key) = .error fault →
      Refused below node path fault

section

variable {below : Below} {node : Members} {info : Info} {inUnion : Bool} {type : JsonType} {path : Path}
  {fault : SchemaFault} {keyword : String}

theorem Refused.at_keyword {value : Json} (listed : keyword ∈ (Json.object node).keywords)
    (present : node.get? keyword = some value) (expected : fault.expected ≠ []) (place : fault.path = path.key keyword) :
    Refused below node path fault :=
  .own (.keyword listed present) (List.cons_ne_nil _ _) expected place

theorem Refused.at_entry {entries : List Json} (listed : keyword ∈ (Json.object node).keywords)
    (hasEntries : keyword ∈ ["type", "enum", "required"]) (present : node.get? keyword = some (.array entries))
    (atEntry : AtEntry (path.key keyword) 0 entries.length fault) : Refused below node path fault := by
  obtain ⟨expected, offset, inside, place⟩ := atEntry
  refine .own (.entry listed hasEntries present inside) (List.cons_ne_nil _ _) expected (place.trans ?_)
  rw [Nat.zero_add, Path.index, Path.key, List.append_assoc]
  rfl

theorem refused_of_throw {α : Type} {value : Json} {expected : List JsonType} {breach : Breach}
    (listed : keyword ∈ (Json.object node).keywords) (present : node.get? keyword = some value)
    (nonempty : expected ≠ [])
    (failed : (SchemaFault.throw (path.key keyword) expected breach : Except SchemaFault α) = .error fault) :
    Refused below node path fault := by
  obtain rfl := Except.error.inj failed
  exact .at_keyword listed present nonempty rfl

theorem mem_keywords (declared : type ∈ (Json.object node).declaredTypes) (listed : keyword ∈ type.keywords) :
    keyword ∈ (Json.object node).keywords :=
  List.mem_append_right _ (List.mem_flatMap.mpr ⟨type, declared, listed⟩)

theorem enum_mem_keywords (declared : type ∈ (Json.object node).declaredTypes) (scalar : type.supportsEnum = true) :
    "enum" ∈ (Json.object node).keywords := by
  refine mem_keywords declared ?_
  cases type <;> simp_all [JsonType.supportsEnum, JsonType.keywords]

theorem refused_of_text? (listed : keyword ∈ (Json.object node).keywords)
    (failed : text? node keyword path = .error fault) : Refused below node path fault := by
  unfold text? at failed
  split at failed
  · cases failed
  · cases failed
  next present => exact refused_of_throw listed present (List.cons_ne_nil _ _) failed

theorem refused_of_declared (failed : declared node path = .error fault) : Refused below node path fault := by
  have listed : "type" ∈ (Json.object node).keywords := List.mem_append_left _ (by simp)
  unfold declared at failed
  split at failed
  next absent =>
    obtain rfl := Except.error.inj failed
    exact .own (.missingType rfl (Members.get?_eq_none_iff.mp absent)) (List.cons_ne_nil _ _) all_ne_nil rfl
  next present =>
    obtain unknown | ⟨_, -, ⟨⟩⟩ := bind_eq_error.mp failed
    exact .at_keyword listed present (typeOfToken_eq_error unknown).1 (typeOfToken_eq_error unknown).2
  next present =>
    split at failed
    · exact refused_of_throw listed present all_ne_nil failed
    · obtain failed | ⟨_, -, ⟨⟩⟩ := bind_eq_error.mp failed
      exact .at_entry listed (by simp) present (atEntry_of_typesFrom failed)
  next present => exact refused_of_throw listed present all_ne_nil failed

theorem refused_of_enum? {α : Type} {select : Json → Option α} (declared : type ∈ (Json.object node).declaredTypes)
    (scalar : type.supportsEnum = true) (failed : enum? node path type inUnion select = .error fault) :
    Refused below node path fault := by
  have listed := enum_mem_keywords declared scalar
  unfold enum? at failed
  split at failed
  · cases failed
  next present => exact refused_of_throw listed present (List.cons_ne_nil _ _) failed
  next present =>
    obtain failed | ⟨_, -, ⟨⟩⟩ := bind_eq_error.mp failed
    exact .at_entry listed (by simp) present (atEntry_of_entriesFrom failed)
  next present => exact refused_of_throw listed present (List.cons_ne_nil _ _) failed

theorem refused_of_requiredNames (declared : .object ∈ (Json.object node).declaredTypes)
    (failed : requiredNames node path = .error fault) : Refused below node path fault := by
  have listed : "required" ∈ (Json.object node).keywords := mem_keywords declared (by simp [JsonType.keywords])
  unfold requiredNames at failed
  split at failed
  · cases failed
  next present => exact .at_entry listed (by simp) present (atEntry_of_namesFrom failed)
  next present => exact refused_of_throw listed present (List.cons_ne_nil _ _) failed

theorem refused_of_readAs (declared : type ∈ (Json.object node).declaredTypes)
    (failed : readAs below node info path inUnion type = .error fault) : Refused below node path fault := by
  cases type with
  | boolean | integer | number =>
    obtain failed | ⟨_, -, ⟨⟩⟩ := bind_eq_error.mp failed
    exact refused_of_enum? declared rfl failed
  | string =>
    obtain failed | ⟨_, -, failed⟩ := bind_eq_error.mp failed
    · exact refused_of_text? (mem_keywords declared (by simp [JsonType.keywords])) failed
    · obtain failed | ⟨_, -, ⟨⟩⟩ := bind_eq_error.mp failed
      exact refused_of_enum? declared rfl failed
  | null => cases failed
  | array =>
    simp only [readAs] at failed
    split at failed
    · cases failed
    next present =>
      obtain failed | ⟨_, -, ⟨⟩⟩ := bind_eq_error.mp failed
      exact .items declared present failed
  | object =>
    obtain failed | ⟨names, -, failed⟩ := bind_eq_error.mp failed
    · exact refused_of_requiredNames declared failed
    · split at failed
      · cases failed
      next present =>
        rw [propertiesOf_eq] at failed
        obtain failed | ⟨_, -, ⟨⟩⟩ := bind_eq_error.mp failed
        obtain ⟨member, given, failed⟩ := exists_of_mapM_eq_error failed
        exact .property declared present given failed
      next present =>
        have listed : "properties" ∈ (Json.object node).keywords := mem_keywords declared (by simp [JsonType.keywords])
        exact refused_of_throw listed present (List.cons_ne_nil _ _) failed

theorem refused_of_read {limit levels : Nat} {name : String} {required : Bool}
    (failed : read (Attribute.readLevels limit levels) node name required path = .error fault) :
    Refused (Attribute.readLevels limit levels) node path fault := by
  obtain failed | ⟨title, -, failed⟩ := bind_eq_error.mp failed
  · exact refused_of_text? (List.mem_append_left _ (by simp)) failed
  obtain failed | ⟨description, -, failed⟩ := bind_eq_error.mp failed
  · exact refused_of_text? (List.mem_append_left _ (by simp)) failed
  obtain failed | ⟨kind, found, failed⟩ := bind_eq_error.mp failed
  · exact refused_of_declared failed
  cases kind with
  | single type =>
    refine refused_of_readAs ?_ failed
    simp [Json.declaredTypes_of_single (declared_eq_single.mp found)]
  | union types =>
    obtain ⟨present, several, -⟩ := declared_eq_union.mp found
    have declared := Json.declaredTypes_of_union present
    obtain failed | ⟨candidates, read, failed⟩ := bind_eq_error.mp failed
    · rw [readEach_eq] at failed
      obtain ⟨type, listed, failed⟩ := exists_of_mapM_eq_error failed
      exact refused_of_readAs (declared ▸ listed) failed
    · split at failed
      -- Scalar candidates without values have been read from a list under `enum`.
      next exhausted =>
        have nonempty : types ≠ [] := List.ne_nil_of_length_pos (Nat.lt_of_lt_of_le Nat.zero_lt_two several)
        obtain ⟨scalars, empty⟩ : (∀ type ∈ types, type.supportsEnum = true) ∧
            ∀ candidate ∈ candidates, candidate.allowed? = some [] := by simpa using exhausted
        obtain ⟨entries, given, -⟩ := (exhausted_iff (readEach_levels_eq_ok.mp read) nonempty scalars).mp empty
        obtain ⟨type, listed⟩ := List.exists_mem_of_ne_nil types nonempty
        exact refused_of_throw (enum_mem_keywords (declared ▸ listed) (scalars type listed)) given nonempty failed
      next => cases failed

end

end Node

/-! ## The document -/

namespace SchemaFault

/-- The fault is that of the node at the end of the chain, in a schema that itself stands at the given path and is read
on the given number of levels. It points to the part of the node that `rest` leads to, and reading the node where it
stands fails with the same fault. -/
structure IsOf (limit levels : Nat) (schema : Json) (path : Path) (fault : SchemaFault) (chain : Path) (level : Nat)
    (node : Json) (rest : Path) : Prop where
  inside : schema.HasNode chain level node
  level_le : level ≤ levels
  part : node.HasPart rest
  place : fault.path = path ++ (chain ++ rest)
  whole : rest = [] → (∀ members, node ≠ .object members) ∨ level = levels
  failed : ∃ name required, Attribute.readLevels limit (levels - level) node name required (path ++ chain) = .error fault

variable {limit levels level : Nat} {schema below node : Json} {path chain rest : Path} {fault : SchemaFault}

theorem IsOf.here {name : String} {required : Bool} (part : schema.HasPart rest) (place : fault.path = path ++ rest)
    (whole : rest = [] → (∀ members, schema ≠ .object members) ∨ 0 = levels)
    (failed : Attribute.readLevels limit levels schema name required path = .error fault) :
    IsOf limit levels schema path fault [] 0 schema rest where
  inside := .root schema
  level_le := Nat.zero_le levels
  part := part
  place := place
  whole := whole
  failed := ⟨name, required, by rwa [List.append_nil, Nat.sub_zero]⟩

theorem IsOf.items (declared : .array ∈ schema.declaredTypes) (present : schema.get? "items" = some below)
    (isOf : IsOf limit levels below (path.key "items") fault chain level node rest) :
    IsOf limit (levels + 1) schema path fault (.key "items" :: chain) (level + 1) node rest where
  inside := .items declared present isOf.inside
  level_le := Nat.succ_le_succ isOf.level_le
  part := isOf.part
  place := by simpa [Path.key] using isOf.place
  whole := fun empty => (isOf.whole empty).imp_right (congrArg Nat.succ)
  failed := by simpa [Path.key] using isOf.failed

theorem IsOf.property {members : Members} {key : String} (declared : .object ∈ schema.declaredTypes)
    (present : schema.get? "properties" = some (.object members)) (given : (key, below) ∈ members)
    (isOf : IsOf limit levels below ((path.key "properties").key key) fault chain level node rest) :
    IsOf limit (levels + 1) schema path fault (.key "properties" :: .key key :: chain) (level + 1) node rest where
  inside := .property declared present given isOf.inside
  level_le := Nat.succ_le_succ isOf.level_le
  part := isOf.part
  place := by simpa [Path.key] using isOf.place
  whole := fun empty => (isOf.whole empty).imp_right (congrArg Nat.succ)
  failed := by simpa [Path.key] using isOf.failed

theorem isOf_of_readLevels {name : String} {required : Bool}
    (failed : Attribute.readLevels limit levels schema name required path = .error fault) :
    fault.expected ≠ [] ∧ ∃ chain level node rest, IsOf limit levels schema path fault chain level node rest := by
  induction levels generalizing schema name required path with
  | zero =>
    obtain rfl := Except.error.inj failed
    exact ⟨List.cons_ne_nil _ _, _, _, _, _, .here .whole (List.append_nil path).symm (fun _ => .inr rfl) failed⟩
  | succ levels ih =>
    by_cases object : ∃ members, schema = .object members
    swap
    · have noNode := not_exists.mp object
      have refused := Node.readLevels_of_noNode noNode limit levels name required path
      obtain rfl := Except.error.inj (refused.symm.trans failed)
      exact ⟨List.cons_ne_nil _ _, _, _, _, _, .here .whole (List.append_nil path).symm (fun _ => .inl noNode) failed⟩
    obtain ⟨node, rfl⟩ := object
    cases Node.refused_of_read failed with
    | own part proper expected place =>
      exact ⟨expected, _, _, _, _, .here part place (fun empty => absurd empty proper) failed⟩
    | items declared present failedBelow =>
      obtain ⟨expected, _, _, _, _, isOf⟩ := ih failedBelow
      exact ⟨expected, _, _, _, _, isOf.items declared present⟩
    | property declared present given failedBelow =>
      obtain ⟨expected, _, _, _, _, isOf⟩ := ih failedBelow
      exact ⟨expected, _, _, _, _, isOf.property declared present given⟩

end SchemaFault

/-! ## Pointers into the document -/

namespace Json

variable {schema node other : Json} {chain rest : Path} {level more : Nat}

theorem HasNode.target?_append (distinct : schema.DistinctKeys) (inside : schema.HasNode chain level node)
    (rest : Path) : Path.target? (chain ++ rest) (some schema) = rest.target? (some node) := by
  induction inside with
  | root => rfl
  | items _ present _ ih => exact (Path.target?_of_get? present _).trans (ih (distinct.member present))
  | property _ present given _ ih =>
    obtain ⟨distinctHere, distinctMembers⟩ := distinctKeys_object_iff.mp (distinct.member present)
    refine (Path.target?_of_get? present _).trans ((Path.target?_of_get? ?_ _).trans (ih (distinctMembers _ given)))
    exact Members.get?_of_mem distinctHere given

theorem HasNode.cases_path (inside : schema.HasNode chain level node) :
    chain = [] ∧ level = 0 ∧ node = schema ∨
      (∃ items rest below, chain = .key "items" :: rest ∧ level = below + 1 ∧ schema.get? "items" = some items ∧
        items.HasNode rest below node) ∨
      ∃ members key property rest below, chain = .key "properties" :: .key key :: rest ∧ level = below + 1 ∧
        schema.get? "properties" = some (.object members) ∧ (key, property) ∈ members ∧
        property.HasNode rest below node := by
  cases inside with
  | root => exact .inl ⟨rfl, rfl, rfl⟩
  | items _ present inside => exact .inr (.inl ⟨_, _, _, rfl, rfl, present, inside⟩)
  | property _ present given inside => exact .inr (.inr ⟨_, _, _, _, _, rfl, rfl, present, given, inside⟩)

theorem HasNode.of_append (distinct : schema.DistinctKeys) (inside : schema.HasNode chain level node)
    (further : schema.HasNode (chain ++ rest) more other) :
    ∃ deeper, more = level + deeper ∧ node.HasNode rest deeper other := by
  induction inside generalizing more with
  | root => exact ⟨more, (Nat.zero_add more).symm, further⟩
  | items _ present _ ih =>
    obtain ⟨empty, -⟩ | ⟨items, _, below, same, rfl, presentToo, further⟩ | ⟨_, _, _, _, _, same, -⟩ :=
      further.cases_path
    · exact nomatch empty
    · obtain rfl := Option.some.inj (present.symm.trans presentToo)
      obtain ⟨deeper, rfl, found⟩ := ih (distinct.member present) ((List.cons.inj same).2 ▸ further)
      exact ⟨deeper, Nat.add_right_comm .., found⟩
    · simp at same
  | property _ present given _ ih =>
    obtain ⟨empty, -⟩ | ⟨_, _, _, same, -⟩ |
      ⟨members, key, property, _, below, same, rfl, presentToo, givenToo, further⟩ := further.cases_path
    · exact nomatch empty
    · simp at same
    · obtain ⟨sameKey, rfl⟩ : _ ∧ _ := by simpa using same
      obtain rfl := Json.object.inj (Option.some.inj (present.symm.trans presentToo))
      obtain ⟨distinctHere, distinctMembers⟩ := distinctKeys_object_iff.mp (distinct.member present)
      -- One key stands for one property.
      have found := Members.get?_of_mem distinctHere given
      rw [sameKey, Members.get?_of_mem distinctHere givenToo] at found
      obtain rfl := Option.some.inj found
      obtain ⟨deeper, rfl, found⟩ := ih (distinctMembers _ given) further
      exact ⟨deeper, Nat.add_right_comm .., found⟩

theorem items_not_mem_keywords : "items" ∉ node.keywords := by
  simp only [keywords, List.mem_append, List.mem_flatMap, not_or, not_exists, not_and]
  refine ⟨by decide, fun type _ => ?_⟩
  cases type <;> decide

theorem HasPart.cases_path (part : node.HasPart rest) : rest = [] ∨
    ∃ keyword ∈ node.keywords, rest = [.key keyword] ∨ ∃ position, rest = [.key keyword, .index position] := by
  cases part with
  | whole => exact .inl rfl
  | keyword listed => exact .inr ⟨_, listed, .inl rfl⟩
  | missingType => exact .inr ⟨"type", List.mem_append_left _ (by simp), .inl rfl⟩
  | entry listed => exact .inr ⟨_, listed, .inr ⟨_, rfl⟩⟩

theorem HasPart.eq_nil (part : node.HasPart rest) (inside : node.HasNode rest level other) : rest = [] := by
  obtain rfl | ⟨keyword, listed, shape⟩ := part.cases_path
  · rfl
  obtain ⟨rfl, -⟩ | ⟨_, _, _, rfl, -⟩ | ⟨_, _, _, _, _, rfl, -⟩ := inside.cases_path
  · rfl
  · obtain rfl : "items" = keyword := by obtain same | ⟨_, same⟩ := shape <;> simp_all
    exact absurd listed items_not_mem_keywords
  · simp at shape

theorem HasPart.target? (part : node.HasPart rest) :
    (∃ value, rest.target? (some node) = some value) ∨
      rest = [.key "type"] ∧ ∃ members : Members, node = .object members ∧ "type" ∉ members.keys := by
  cases part with
  | whole => exact .inl ⟨node, Path.target?_root _⟩
  | keyword _ present => exact .inl ⟨_, (Path.target?_of_get? present _).trans (Path.target?_root _)⟩
  | missingType object absent => exact .inr ⟨rfl, _, object, absent⟩
  | @entry _ entries position _ _ present inside =>
    refine .inl ⟨entries[position], ?_⟩
    rw [Path.target?_of_get? present, Path.target?_index, List.getElem?_eq_getElem inside, Path.target?_root]

end Json

def Json.sampleMistyped : Json :=
  .object [
    ("type", .string "object"),
    ("properties", .object [
      ("a/b", .object [("type", .string "array"), ("items", .object [("type", strings ["string", "float"])])])])]

namespace Attribute

/-- A document that is not read is refused as an invalid schema, with a place in it and with types that would do there.
The pointer of the place leads to a value, unless what is wrong is that the `type` of an object is missing. The place is
that of a schema node or of a part of one, and the node is itself refused with the same fault. A fault at a whole node
says that it is no object or too deep. -/
theorem fault_points {limit : Nat} {document : Json} {name : String} {required : Bool} {fault : SchemaFault}
    (distinct : document.DistinctKeys) (failed : ofDocument limit document name required = .error fault) :
    ((Failure.schema fault).category = .invalidSchema ∧ (Failure.schema fault).path? = some fault.path ∧
      fault.expected ≠ []) ∧
    ((∃ value, document.atPointer? fault.path.pointer = some value) ∨
      ∃ parent, ∃ members : Members, fault.path = Path.key parent "type" ∧
        document.atPointer? parent.pointer = some (.object members) ∧ "type" ∉ members.keys) ∧
    (∃ chain level node rest, fault.path = chain ++ rest ∧ document.HasNode chain level node ∧ level ≤ limit + 1 ∧
      node.HasPart rest ∧ ∃ inner flag, readLevels limit (limit + 1 - level) node inner flag chain = .error fault) ∧
    ∀ level node, document.HasNode fault.path level node → (∀ members, node ≠ .object members) ∨ limit < level := by
  obtain ⟨expected, chain, level, node, rest, isOf⟩ := SchemaFault.isOf_of_readLevels failed
  have place : fault.path = chain ++ rest := isOf.place
  refine ⟨⟨rfl, rfl, expected⟩, ?_, ?_, fun more other further => ?_⟩
  · obtain ⟨value, found⟩ | ⟨rfl, members, rfl, absent⟩ := isOf.part.target?
    · exact .inl ⟨value, place ▸ (isOf.inside.target?_append distinct rest).trans found⟩
    · refine .inr ⟨chain, members, place, ?_, absent⟩
      have there := isOf.inside.target?_append distinct []
      rwa [List.append_nil, Path.target?_root] at there
  · exact ⟨chain, level, node, rest, place, isOf.inside, isOf.level_le, isOf.part, isOf.failed⟩
  · rw [place] at further
    obtain ⟨deeper, rfl, below⟩ := isOf.inside.of_append distinct further
    -- The node that the whole place leads to is the one at fault.
    obtain rfl := isOf.part.eq_nil below
    obtain ⟨-, rfl, rfl⟩ | ⟨_, _, _, empty, -⟩ | ⟨_, _, _, _, _, empty, -⟩ := below.cases_path
    · exact (isOf.whole rfl).imp_right fun deep => by omega
    · exact nomatch empty
    · exact nomatch empty

theorem fault_points_sample :
    Json.sampleMistyped.DistinctKeys ∧
      ∃ fault, ofDocument 4 Json.sampleMistyped "" true = .error fault ∧
        fault.path.pointer = "/properties/a~1b/items/type/1" ∧
        (∃ value, Json.sampleMistyped.atPointer? fault.path.pointer = some value) ∧
        ∃ chain level node rest, fault.path = chain ++ rest ∧ Json.sampleMistyped.HasNode chain level node ∧
          level ≤ 5 ∧ node.HasPart rest := by
  have distinct : Json.sampleMistyped.DistinctKeys := by
    simp [Json.sampleMistyped, Json.strings, Json.DistinctKeys, Json.DistinctKeysMembers, Json.DistinctKeysItems]
  refine ⟨distinct, _, rfl, rfl, ?_⟩
  obtain ⟨-, found | ⟨parent, members, missing, -⟩, ⟨chain, level, node, rest, place, inside, le, part, -⟩, -⟩ :=
    @fault_points 4 Json.sampleMistyped "" true _ distinct rfl
  · exact ⟨found, chain, level, node, rest, place, inside, le, part⟩
  -- The place ends in a position, and not in the key of a missing type.
  · have last := congrArg List.getLast? missing
    simp [Path.key, Path.index] at last

end Attribute

end Credential
