import Credential.Proofs.Attribute.Regular
import Credential.Proofs.Pieces

/-! Dotted addresses of the fields of an attribute.

A field is reached by a chain of steps through objects and arrays. What stands
inside a union is no field of its own: which candidate applies is known only
for a value. Looking an address up follows the chain of its names, so an address
leads to one field or to none.
-/

set_option autoImplicit false

namespace Credential

/-! ## Names between dots -/

namespace Path

def IsLabel (name : String) : Prop := name ≠ "" ∧ '.' ∉ name.toList

instance (name : String) : Decidable (IsLabel name) := inferInstanceAs (Decidable (_ ∧ _))

/-- The names that a dotted text lists: its pieces between dots, the empty ones left out. -/
def dottedNames (text : String) : List String :=
  ((text.toList.splitOn '.').filter fun piece => piece ≠ []).map String.ofList

theorem ofDotted_eq (text : String) : ofDotted text = (dottedNames text).map .key := by
  rw [ofDotted, pieces_eq_splitOn, dottedNames, List.map_map]
  congr 2
  funext piece
  cases piece <;> rfl

theorem isLabel_of_mem_dottedNames {text name : String} (listed : name ∈ dottedNames text) : IsLabel name := by
  obtain ⟨piece, kept, rfl⟩ := List.mem_map.mp listed
  obtain ⟨cut, full⟩ := List.mem_filter.mp kept
  rw [← pieces_eq_splitOn] at cut
  refine ⟨fun empty => of_decide_eq_true full (String.ofList_injective empty), ?_⟩
  rw [String.toList_ofList]
  exact not_mem_of_mem_pieces cut

theorem dottedNames_intercalate {names : List String} (labels : ∀ name ∈ names, IsLabel name) :
    dottedNames (".".intercalate names) = names := by
  have full : ∀ piece ∈ names.map String.toList, decide (piece ≠ []) = true := by
    intro piece member
    obtain ⟨name, inside, rfl⟩ := List.mem_map.mp member
    simpa using (labels name inside).1
  have free : ∀ piece ∈ names.map String.toList, '.' ∉ piece := by
    intro piece member
    obtain ⟨name, inside, rfl⟩ := List.mem_map.mp member
    exact (labels name inside).2
  cases names with
  | nil => rfl
  | cons first rest =>
    have cut := List.splitOn_intercalate '.' free (List.cons_ne_nil _ _)
    rw [dottedNames, String.toList_intercalate, show ".".toList = ['.'] from rfl, cut, List.filter_eq_self.mpr full,
      List.map_map]
    exact List.map_id'' (fun name => String.ofList_toList) _

-- The dotted form of keys is their names joined with dots. That of the root is a text of its own.
theorem display_keys {names : List String} (some : names ≠ []) :
    display (names.map .key) = ".".intercalate names := by
  obtain ⟨first, rest, rfl⟩ := List.exists_cons_of_ne_nil some
  rw [List.map_cons, display]
  induction rest generalizing first with
  | nil => rw [List.map_nil, displayRest, String.append_empty, String.intercalate_singleton]
  | cons second rest ih =>
    rw [String.intercalate_cons_cons, ← ih second (List.cons_ne_nil _ _), List.map_cons, displayRest]
    simp only [String.append_assoc]

theorem ofDotted_display {text : String} (below : ofDotted text ≠ []) :
    ofDotted (ofDotted text).display = ofDotted text := by
  rw [ofDotted_eq text] at below ⊢
  rw [display_keys fun none => below (by rw [none, List.map_nil]), ofDotted_eq,
    dottedNames_intercalate fun _ => isLabel_of_mem_dottedNames]

end Path

namespace Attribute

variable {field child node : Attribute} {name : String} {names : List String}

/-! ## Chains of steps -/

/-- One step down: from an object to the declared property of a name, and from an array to its items, which are called
`items`. -/
inductive Part : Attribute → String → Attribute → Prop where
  | property {info : Info} {properties : List Attribute} {property : Attribute} : property ∈ properties →
      Part (.record info properties) property.name property
  | items (info : Info) (items : Attribute) : Part (.arrayOf info items) "items" items

/-- `field.Chain names node`: steps of these names, one after another, lead from the attribute to the node. -/
inductive Chain : Attribute → List String → Attribute → Prop where
  | nil (field : Attribute) : Chain field [] field
  | cons {field child node : Attribute} {name : String} {names : List String} : field.Part name child →
      Chain child names node → Chain field (name :: names) node

theorem Part.regular (part : field.Part name child) (regular : field.Regular) : child.Regular := by
  cases part with
  | property member => exact regular.property member
  | items => exact regular.items

theorem Chain.split {rest : List String} (chain : field.Chain (names ++ rest) node) :
    ∃ middle, field.Chain names middle ∧ middle.Chain rest node := by
  induction names generalizing field with
  | nil => exact ⟨field, .nil field, chain⟩
  | cons name names ih =>
    obtain _ | ⟨part, chain⟩ := chain
    obtain ⟨middle, first, second⟩ := ih chain
    exact ⟨middle, .cons part first, second⟩

theorem Chain.eq_nil_of_union {info : Info} {candidates : List Attribute}
    (chain : (Attribute.union info candidates).Chain names node) : names = [] := by
  obtain _ | ⟨⟨⟩, -⟩ := chain
  rfl

/-! ## Looking up -/

@[simp] theorem find?_root (field : Attribute) : field.find? [] = some field := by
  cases field <;> rfl

theorem find?_key_eq_some (regular : field.Regular) {rest : Path} :
    field.find? (.key name :: rest) = some node ↔ ∃ child, field.Part name child ∧ child.find? rest = some node := by
  constructor
  · intro found
    cases field with
    | record info properties =>
      simp only [find?, property?, properties?, Option.getD_some, Option.bind_eq_some_iff] at found
      obtain ⟨property, first, found⟩ := found
      obtain ⟨member, rfl⟩ := (find?_image_eq_some regular.record.distinct).mp first
      exact ⟨property, .property member, found⟩
    | arrayOf info items =>
      simp only [find?] at found
      split at found
      next named =>
        subst named
        exact ⟨items, .items info items, found⟩
      next => cases found
    -- What declares no properties has no property of any name.
    | _ => simp [find?, property?, properties?] at found
  · rintro ⟨child, part, found⟩
    cases part with
    | property member =>
      have first := (find?_image_eq_some regular.record.distinct).mpr ⟨member, rfl⟩
      simp only [find?, property?, properties?, Option.getD_some, first, Option.bind_some, found]
    | items => simp only [find?, if_pos, found]

theorem find?_keys_eq_some (regular : field.Regular) :
    field.find? (names.map .key) = some node ↔ field.Chain names node := by
  induction names generalizing field with
  | nil =>
    rw [List.map_nil, find?_root, Option.some_inj]
    constructor
    · rintro rfl
      exact .nil field
    · rintro ⟨⟩
      rfl
  | cons name names ih =>
    rw [List.map_cons, find?_key_eq_some regular]
    constructor
    · rintro ⟨child, part, found⟩
      exact .cons part ((ih (part.regular regular)).mp found)
    · rintro (_ | ⟨part, chain⟩)
      exact ⟨_, part, (ih (part.regular regular)).mpr chain⟩

theorem Chain.unique (regular : field.Regular) {other : Attribute} (first : field.Chain names node)
    (second : field.Chain names other) : node = other :=
  Option.some.inj (((find?_keys_eq_some regular).mpr first).symm.trans ((find?_keys_eq_some regular).mpr second))

-- A chain that goes on from a union has no end.
theorem find?_keys_eq_none_of_union (regular : field.Regular) {rest : List String} {info : Info}
    {candidates : List Attribute} (chain : field.Chain names (.union info candidates)) (further : rest ≠ []) :
    field.find? ((names ++ rest).map .key) = none := by
  by_contra found
  obtain ⟨node, found⟩ := Option.ne_none_iff_exists'.mp found
  obtain ⟨middle, first, second⟩ := ((find?_keys_eq_some regular).mp found).split
  obtain rfl := first.unique regular chain
  exact further second.eq_nil_of_union

/-- Dotted addresses reach exactly the fields at the end of chains. Names that can stand between dots, joined with dots,
lead to the end of their chain. What a text leads to is the end of the chain of the names that it lists, and it leads
nowhere if they go on from a union. The dotted form of a path other than the root leads back to the path. -/
theorem dotted_addresses_exact {limit : Nat} {schema : Json} {name : String} {required : Bool} {field : Attribute}
    (distinct : schema.DistinctKeys) (read : Attribute.ofDocument limit schema name required = .ok field) :
    (∀ names node, (∀ label ∈ names, Path.IsLabel label) → field.Chain names node →
        field.find? (Path.ofDotted (".".intercalate names)) = some node) ∧
      (∀ text node, field.find? (Path.ofDotted text) = some node → field.Chain (Path.dottedNames text) node) ∧
      (∀ text names rest info candidates, Path.dottedNames text = names ++ rest → rest ≠ [] →
        field.Chain names (.union info candidates) → field.find? (Path.ofDotted text) = none) ∧
      ∀ text, Path.ofDotted text ≠ [] → Path.ofDotted (Path.ofDotted text).display = Path.ofDotted text := by
  have regular := (Node.ofDocument_eq_ok.mp read).regular distinct
  refine ⟨fun names node labels chain => ?_, fun text node found => ?_,
    fun text names rest info candidates listed further chain => ?_, fun text => Path.ofDotted_display⟩
  · rw [Path.ofDotted_eq, Path.dottedNames_intercalate labels]
    exact (find?_keys_eq_some regular).mpr chain
  · rw [Path.ofDotted_eq] at found
    exact (find?_keys_eq_some regular).mp found
  · rw [Path.ofDotted_eq, listed]
    exact find?_keys_eq_none_of_union regular chain further

end Attribute

def Json.sampleInventory : Json :=
  .object [
    ("type", .string "object"),
    ("properties", .object [
      ("items", .object [
        ("type", .string "array"),
        ("items", .object [
          ("type", .string "object"),
          ("properties", .object [
            ("items", .object [("type", .string "array"), ("items", .object [("type", .string "string")])]),
            ("a.b", .object [("type", .string "integer")])])])]),
      ("owner", .object [
        ("type", Json.strings ["object", "null"]),
        ("properties", .object [("name", .object [("type", .string "string")])])])])]

def Attribute.sampleInventory : Attribute :=
  .record ⟨"", true, none, none⟩ [
    .arrayOf ⟨"items", false, none, none⟩ (.record ⟨"items", false, none, none⟩ [
      .arrayOf ⟨"items", false, none, none⟩ (.string ⟨"items", false, none, none⟩ none none),
      .integer ⟨"a.b", false, none, none⟩ none]),
    .union ⟨"owner", false, none, none⟩ [
      .record ⟨"owner", false, none, none⟩ [.string ⟨"name", false, none, none⟩ none none],
      .null ⟨"owner", false, none, none⟩]]

-- The three names mean a property, the items of its list, and a property again. The name of the owner has no address.
theorem Attribute.dotted_addresses_exact_sample :
    Json.sampleInventory.DistinctKeys ∧
      Attribute.ofDocument 4 Json.sampleInventory "" true = .ok Attribute.sampleInventory ∧
      (∀ label ∈ ["items", "items", "items"], Path.IsLabel label) ∧
      ∃ list info candidates, Attribute.sampleInventory.Chain ["items", "items", "items"] list ∧
        list.types = [.array] ∧ Attribute.sampleInventory.find? (Path.ofDotted "items.items.items") = some list ∧
        Attribute.sampleInventory.find? (Path.ofDotted ".owner.") = some (.union info candidates) ∧
        Attribute.sampleInventory.Chain ["owner"] (.union info candidates) ∧
        Path.dottedNames "owner.name" = ["owner"] ++ ["name"] ∧
        Attribute.sampleInventory.find? (Path.ofDotted "owner.name") = none ∧
        Path.ofDotted ".owner." ≠ [] ∧ Path.ofDotted (Path.ofDotted ".owner.").display = Path.ofDotted ".owner." := by
  have distinct : Json.sampleInventory.DistinctKeys := by
    simp [Json.sampleInventory, Json.strings, Json.DistinctKeys, Json.DistinctKeysItems, Json.DistinctKeysMembers]
  have read : Attribute.ofDocument 4 Json.sampleInventory "" true = .ok Attribute.sampleInventory := rfl
  obtain ⟨reached, followed, blocked, displayed⟩ := Attribute.dotted_addresses_exact distinct read
  have labels : ∀ label ∈ ["items", "items", "items"], Path.IsLabel label := by decide
  have chain : Attribute.sampleInventory.Chain ["items", "items", "items"] _ :=
    .cons (.property (.head _)) (.cons (.items _ _) (.cons (.property (.head _)) (.nil _)))
  have owner := followed ".owner." _ rfl
  have listed : Path.dottedNames "owner.name" = ["owner"] ++ ["name"] := by decide
  have below : Path.ofDotted ".owner." ≠ [] := by decide
  exact ⟨distinct, read, labels, _, _, _, chain, rfl, reached _ _ labels chain, rfl, owner, listed,
    blocked _ _ _ _ _ listed (List.cons_ne_nil _ _) owner, below, displayed _ below⟩

end Credential
