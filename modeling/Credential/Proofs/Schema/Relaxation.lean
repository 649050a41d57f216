import Credential.Proofs.Schema.Widening
import Credential.Proofs.Value.Satisfaction
import Mathlib.Logic.Relation

/-! Relaxing a schema.

A schema is relaxed by requiring fewer properties, by adding values to a list
under `enum`, or by dropping such a list, at any of its nodes. The schemas on the
way need not be schemas that can be read, so several steps are first taken
together: a relation of two documents, level by level, that compares what they
hold under each keyword. Of two documents in this relation that can be read, the
attribute of the second widens that of the first.
-/

set_option autoImplicit false

namespace Credential

/-- One step of relaxing a schema, at its root or at a node below. -/
inductive Json.Relaxes : Json → Json → Prop where
  | unrequire {before after : Members} {name : Json} {first last : List Json} :
      Relaxes (.object (before ++ ("required", .array (first ++ name :: last)) :: after))
        (.object (before ++ ("required", .array (first ++ last)) :: after))
  | list {before after : Members} {entry : Json} {first last : List Json} :
      Relaxes (.object (before ++ ("enum", .array (first ++ last)) :: after))
        (.object (before ++ ("enum", .array (first ++ entry :: last)) :: after))
  | unlist {node : Members} : Relaxes (.object node) (.object (node.filter fun member => member.1 ≠ "enum"))
  | items {before after : Members} {items relaxed : Json} : Relaxes items relaxed →
      Relaxes (.object (before ++ ("items", items) :: after)) (.object (before ++ ("items", relaxed) :: after))
  | property {before after first last : Members} {key : String} {property relaxed : Json} : Relaxes property relaxed →
      Relaxes (.object (before ++ ("properties", .object (first ++ (key, property) :: last)) :: after))
        (.object (before ++ ("properties", .object (first ++ (key, relaxed) :: last)) :: after))

/-! ## Several steps together -/

namespace Relaxation

/-- The second value is a list only if the first one is, and the two lists are related. -/
def Loosened (related : List Json → List Json → Prop) (value relaxed : Option Json) : Prop :=
  ∀ items, relaxed = some (.array items) → ∃ before, value = some (.array before) ∧ related before items

def Memberwise (below : Json → Json → Prop) (value relaxed : Json) : Prop :=
  ∀ members, value = .object members → ∃ others, relaxed = .object others ∧
    List.Forall₂ (fun member other => member.1 = other.1 ∧ below member.2 other.2) members others

def At (below : Json → Json → Prop) (keyword : String) (value relaxed : Option Json) : Prop :=
  if keyword = "required" then Loosened (fun names fewer => fewer ⊆ names) value relaxed
  else if keyword = "enum" then Loosened (fun entries more => entries ⊆ more) value relaxed
  else if keyword = "items" then Option.Rel below value relaxed
  else if keyword = "properties" then Option.Rel (Memberwise below) value relaxed
  else relaxed = value

def Node (below : Json → Json → Prop) (node relaxed : Members) : Prop :=
  ∀ keyword, At below keyword (node.get? keyword) (relaxed.get? keyword)

def Within : (levels : Nat) → Json → Json → Prop
  | 0 => fun _ _ => True
  | levels + 1 => fun schema relaxed => ∀ node, schema = .object node → ∃ other, relaxed = .object other ∧
    Node (Within levels) node other

variable {below : Json → Json → Prop} {keyword : String} {first second third : Option Json}

section

variable {related : List Json → List Json → Prop}

theorem loosened_refl (refl : ∀ items, related items items) (value : Option Json) : Loosened related value value :=
  fun items present => ⟨items, present, refl items⟩

theorem Loosened.trans (trans : ∀ first second third, related first second → related second third →
    related first third) (left : Loosened related first second) (right : Loosened related second third) :
    Loosened related first third := by
  intro items present
  obtain ⟨between, presentToo, later⟩ := right items present
  obtain ⟨before, found, earlier⟩ := left between presentToo
  exact ⟨before, found, trans _ _ _ earlier later⟩

end

section

variable {related : Json → Json → Prop}

theorem rel_refl (refl : ∀ document, related document document) (value : Option Json) :
    Option.Rel related value value := by
  cases value with
  | none => exact .none
  | some document => exact .some (refl document)

theorem rel_trans (trans : ∀ first second third, related first second → related second third →
    related first third) (left : Option.Rel related first second) (right : Option.Rel related second third) :
    Option.Rel related first third := by
  cases left with
  | none => exact right
  | some earlier =>
    cases right with
    | some later => exact .some (trans _ _ _ earlier later)

end

theorem memberwise_refl (refl : ∀ document, below document document) (document : Json) :
    Memberwise below document document :=
  fun members same => ⟨members, same, List.forall₂_same.mpr fun _ _ => ⟨rfl, refl _⟩⟩

theorem Memberwise.trans (trans : ∀ first second third, below first second → below second third → below first third)
    {first second third : Json} (left : Memberwise below first second) (right : Memberwise below second third) :
    Memberwise below first third := by
  intro members same
  obtain ⟨others, sameToo, each⟩ := left members same
  obtain ⟨thirds, written, eachToo⟩ := right others sameToo
  refine ⟨thirds, written, (Pairing.of_common each.flip eachToo).imp fun member third between => ?_⟩
  obtain ⟨other, -, ⟨key, earlier⟩, keyToo, later⟩ := between
  exact ⟨key.trans keyToo, trans _ _ _ earlier later⟩

theorem at_refl (refl : ∀ document, below document document) (value : Option Json) : At below keyword value value := by
  unfold At
  split_ifs
  · exact @loosened_refl (fun names fewer => fewer ⊆ names) List.Subset.refl value
  · exact loosened_refl List.Subset.refl value
  · exact rel_refl refl value
  · exact rel_refl (memberwise_refl refl) value
  · rfl

theorem At.trans (trans : ∀ first second third, below first second → below second third → below first third)
    (left : At below keyword first second) (right : At below keyword second third) : At below keyword first third := by
  unfold At at *
  split_ifs at *
  · exact Loosened.trans (fun _ _ _ earlier later => List.Subset.trans later earlier) left right
  · exact Loosened.trans (fun _ _ _ => List.Subset.trans) left right
  · exact rel_trans trans left right
  · exact rel_trans (fun _ _ _ => Memberwise.trans trans) left right
  · exact right.trans left

theorem within_refl (levels : Nat) (schema : Json) : Within levels schema schema := by
  induction levels generalizing schema with
  | zero => trivial
  | succ levels ih => exact fun node same => ⟨node, same, fun keyword => at_refl ih _⟩

theorem Within.trans {levels : Nat} {first second third : Json} (left : Within levels first second)
    (right : Within levels second third) : Within levels first third := by
  induction levels generalizing first second third with
  | zero => trivial
  | succ levels ih =>
    intro node same
    obtain ⟨between, sameToo, earlier⟩ := left node same
    obtain ⟨other, written, later⟩ := right between sameToo
    exact ⟨other, written, fun keyword => (earlier keyword).trans (fun _ _ _ => ih) (later keyword)⟩

/-! ## One step -/

theorem node_replace (refl : ∀ document, below document document) {before after : Members} {name : String}
    {value relaxed : Json} (changed : At below name (some value) (some relaxed)) :
    Node below (before ++ (name, value) :: after) (before ++ (name, relaxed) :: after) := by
  intro keyword
  rw [Members.get?_append, Members.get?_append, Members.get?_cons, Members.get?_cons]
  cases before.get? keyword with
  | some earlier => exact at_refl refl _
  | none =>
    split
    next same => exact same ▸ changed
    next => exact at_refl refl _

theorem get?_filter (node : Members) (name keyword : String) :
    Members.get? (node.filter fun member => member.1 ≠ name) keyword =
      if keyword = name then none else node.get? keyword := by
  induction node with
  | nil => exact (ite_self none).symm
  | cons member rest ih =>
    obtain ⟨first, value⟩ := member
    rw [Members.get?_cons, List.filter_cons]
    by_cases same : first = name
    · simp only [same, ne_eq, not_true_eq_false, decide_false, Bool.false_eq_true, if_false, ih]
      split <;> rfl
    · simp only [same, ne_eq, not_false_eq_true, decide_true, if_true, Members.get?_cons, ih]
      split
      next here => rw [if_neg (here ▸ same)]
      next => rfl

-- What happens to the members happens to the node, on one level more.
theorem within_object {node relaxed : Members} (each : ∀ levels, Node (Within levels) node relaxed) (levels : Nat) :
    Within levels (.object node) (.object relaxed) := by
  cases levels with
  | zero => trivial
  | succ levels =>
    rintro _ ⟨⟩
    exact ⟨relaxed, rfl, each levels⟩

theorem within_of_relaxes {schema relaxed : Json} (step : schema.Relaxes relaxed) (levels : Nat) :
    Within levels schema relaxed := by
  induction step generalizing levels with
  | @unrequire before after name first last =>
    refine within_object (fun levels => node_replace (within_refl levels) ?_) levels
    rintro _ ⟨⟩
    exact ⟨_, rfl, by simp⟩
  | @list before after entry first last =>
    refine within_object (fun levels => node_replace (within_refl levels) ?_) levels
    rintro _ ⟨⟩
    exact ⟨_, rfl, by simp⟩
  | @unlist node =>
    refine within_object (fun levels keyword => ?_) levels
    rw [get?_filter]
    split
    next same =>
      subst same
      exact fun _ absent => nomatch absent
    next => exact at_refl (within_refl levels) _
  | items _ ih =>
    refine within_object (fun levels => node_replace (within_refl levels) ?_) levels
    exact Option.Rel.some (ih levels)
  | @property before after first last key property relaxed _ ih =>
    refine within_object (fun levels => node_replace (within_refl levels) ?_) levels
    have same (members : Members) : List.Forall₂ (fun member other : String × Json =>
        member.1 = other.1 ∧ Within levels member.2 other.2) members members :=
      List.forall₂_same.mpr fun _ _ => ⟨rfl, within_refl levels _⟩
    refine Option.Rel.some fun members written => ?_
    obtain rfl := Json.object.inj written
    exact ⟨_, rfl, List.rel_append (same first) (.cons ⟨rfl, ih levels⟩ (same last))⟩

theorem within_of_steps {schema relaxed : Json} (steps : Relation.ReflTransGen Json.Relaxes schema relaxed)
    (levels : Nat) : Within levels schema relaxed := by
  induction steps with
  | refl => exact within_refl levels schema
  | tail _ step ih => exact ih.trans (within_of_relaxes step levels)

end Relaxation

/-! ## Readings of related documents -/

namespace Node

open Attribute

variable {levels : Nat} {node other : Members} {info infoAgain : Info} {inUnion : Bool} {type : JsonType}
  {field again : Attribute}

theorem Requires.subset {below : Json → Json → Prop} {names fewer : List String} (requires : Requires node names)
    (requiresAgain : Requires other fewer) (relaxed : Relaxation.Node below node other) : fewer ⊆ names := by
  obtain ⟨-, rfl⟩ | presentAgain := requiresAgain
  · exact List.nil_subset names
  · obtain ⟨before, present, subset⟩ := relaxed "required" _ presentAgain
    obtain ⟨absent, -⟩ | listed := requires
    · exact nomatch absent.symm.trans present
    · obtain rfl := Json.array.inj (Option.some.inj (listed.symm.trans present))
      intro name inside
      obtain ⟨same, member, equal⟩ := List.mem_map.mp (subset (List.mem_map_of_mem inside))
      exact Json.string.inj equal ▸ member

theorem ReadsAs.preserves_scalar {below : Json → Json → Prop} (relaxed : Relaxation.Node below node other)
    (scalar : type.supportsEnum = true) (reading : ReadsAs (Describes levels) node info inUnion type field)
    (readingAgain : ReadsAs (Describes levels) other infoAgain inUnion type again) : field.Preserves again := by
  refine preserves_of_plain (isPlain_of_isScalar (by simp [isScalar, reading.type?_eq, scalar]))
    (isPlain_of_isScalar (by simp [isScalar, readingAgain.type?_eq, scalar])) fun document taken => ?_
  rw [Takes, reading.acceptSupplied_scalar_iff scalar] at taken
  rw [Takes, readingAgain.acceptSupplied_scalar_iff scalar]
  refine ⟨taken.1, fun more listed => ?_⟩
  obtain ⟨entries, present, subset⟩ := relaxed "enum" more listed
  obtain ⟨entry, inside, same⟩ := taken.2 entries present
  exact ⟨entry, subset inside, same⟩

-- Properties stay in step when the objects among them are moved behind the rest.
theorem widens_objectsLast {fields agains : List Attribute} (each : List.Forall₂ Widens fields agains) :
    List.Forall₂ Widens (objectsLast isObject fields) (objectsLast isObject agains) := by
  have same (field again : Attribute) (widens : field.Widens again) : field.isObject = again.isObject := by
    rw [Bool.eq_iff_iff, isObject_iff, isObject_iff, widens.type]
  refine List.rel_append (List.rel_filter ?_ each) (List.rel_filter ?_ each)
  · intro field again widens
    simp [same field again widens]
  · intro field again widens
    simp [same field again widens]

section

variable (below : ∀ {schema relaxed : Json} {name : String} {required requiredAgain : Bool} {field again : Attribute},
  schema.DistinctKeys → relaxed.DistinctKeys → Relaxation.Within levels schema relaxed →
  (requiredAgain = true → required = true) → Describes levels schema name required field →
  Describes levels relaxed name requiredAgain again → field.Widens again)

include below

theorem widens_each {names fewer : List String} (subset : fewer ⊆ names) {documents others : Members}
    {fields agains : List Attribute} (distinct : (Json.object documents).DistinctKeys)
    (distinctAgain : (Json.object others).DistinctKeys)
    (related : List.Forall₂ (fun member other => member.1 = other.1 ∧ Relaxation.Within levels member.2 other.2)
      documents others)
    (described : List.Forall₂ (fun member property => Describes levels member.2 member.1 (names.contains member.1)
      property) documents fields)
    (describedAgain : List.Forall₂ (fun member property => Describes levels member.2 member.1
      (fewer.contains member.1) property) others agains) : List.Forall₂ Widens fields agains := by
  have sources := Pairing.of_common described related
  refine (Pairing.of_common sources.flip describedAgain).imp fun field again both => ?_
  obtain ⟨other, listed, ⟨member, inside, describes, key, within⟩, describesAgain⟩ := both
  rw [key] at describes
  refine below ((Json.distinctKeys_object_iff.mp distinct).2 member inside)
    ((Json.distinctKeys_object_iff.mp distinctAgain).2 other listed) within ?_ describes describesAgain
  simpa only [List.contains_iff_mem] using fun again => subset again

variable (distinct : (Json.object node).DistinctKeys) (distinctAgain : (Json.object other).DistinctKeys)
  (relaxed : Relaxation.Node (Relaxation.Within levels) node other)

include distinct distinctAgain relaxed

theorem ReadsAs.preserves (optional : infoAgain.required = true → info.required = true)
    (reading : ReadsAs (Describes levels) node info inUnion type field)
    (readingAgain : ReadsAs (Describes levels) other infoAgain inUnion type again) : field.Preserves again := by
  have regular := reading.regular distinct Describes.regular
  have regularAgain := readingAgain.regular distinctAgain Describes.regular
  by_cases scalar : type.supportsEnum = true
  · exact reading.preserves_scalar relaxed scalar readingAgain
  have plain (whole : field.isPlain = true) (wholeAgain : again.isPlain = true) : field.Preserves again := by
    rw [Bool.not_eq_true] at scalar
    refine preserves_of_plain whole wholeAgain fun document taken => ?_
    rwa [takes_plain readingAgain.type?_eq wholeAgain scalar, ← takes_plain reading.type?_eq whole scalar]
  -- Items and properties are declared in both nodes or in neither.
  have items : Option.Rel (Relaxation.Within levels) (node.get? "items") (other.get? "items") := relaxed "items"
  have properties : Option.Rel (Relaxation.Memberwise (Relaxation.Within levels)) (node.get? "properties")
      (other.get? "properties") := relaxed "properties"
  cases reading with
  | boolean | integer | number | string => exact absurd rfl scalar
  | null =>
    cases readingAgain
    exact plain rfl rfl
  | anyArray absent =>
    cases readingAgain with
    | anyArray => exact plain rfl rfl
    | arrayOf present =>
      rw [absent, present] at items
      cases items
  | arrayOf present described =>
    cases readingAgain with
    | anyArray absent =>
      rw [absent, present] at items
      cases items
    | arrayOf presentAgain describedAgain =>
      rw [present, presentAgain] at items
      obtain ⟨within⟩ := items
      exact preserves_arrayOf (below (distinct.get? present) (distinctAgain.get? presentAgain) within optional described
        describedAgain)
  | anyObject _ absent =>
    cases readingAgain with
    | anyObject => exact plain rfl rfl
    | record _ present =>
      rw [absent, present] at properties
      cases properties
  | record requires present described =>
    cases readingAgain with
    | anyObject _ absent =>
      rw [absent, present] at properties
      cases properties
    | record requiresAgain presentAgain describedAgain =>
      rw [present, presentAgain] at properties
      obtain ⟨memberwise⟩ := properties
      obtain ⟨others, written, related⟩ := memberwise _ rfl
      obtain rfl := Json.object.inj written
      have each := widens_each below (requires.subset requiresAgain relaxed) (distinct.get? present)
        (distinctAgain.get? presentAgain) related described describedAgain
      exact preserves_record regular.record regularAgain.record (widens_objectsLast each)

end

/-- What a relaxed document describes widens what the document itself does. -/
theorem Describes.widens {schema relaxed : Json} {name : String} {required requiredAgain : Bool}
    (distinct : schema.DistinctKeys) (distinctAgain : relaxed.DistinctKeys)
    (within : Relaxation.Within levels schema relaxed) (optional : requiredAgain = true → required = true)
    (described : Describes levels schema name required field)
    (describedAgain : Describes levels relaxed name requiredAgain again) : field.Widens again := by
  induction levels generalizing schema relaxed name required requiredAgain field again with
  | zero => exact described.elim
  | succ levels ih =>
    have regular := described.regular distinct
    have regularAgain := describedAgain.regular distinctAgain
    have name := describedAgain.name_eq.trans described.name_eq.symm
    have flag : again.required = true → field.required = true := by
      rwa [described.required_eq, describedAgain.required_eq]
    obtain ⟨node, rfl, reading⟩ := described
    obtain ⟨other, rfl, readingAgain⟩ := describedAgain
    obtain ⟨_, ⟨⟩, each⟩ := within node rfl
    have types : Members.get? other "type" = Members.get? node "type" := each "type"
    cases reading with
    | single _ _ present reading =>
      rw [present] at types
      cases readingAgain with
      | union _ _ presentAgain => exact nomatch presentAgain.symm.trans types
      | single _ _ presentAgain readingAgain =>
        obtain rfl := JsonType.token_injective (Json.string.inj (Option.some.inj (presentAgain.symm.trans types)))
        have typed := readingAgain.type?_eq.trans reading.type?_eq.symm
        exact ⟨regular, regularAgain, name, flag, typed, admitsNull_eq_of_type? (by simp [reading.type?_eq]) typed,
          reading.preserves ih distinct distinctAgain each optional readingAgain⟩
    | union _ _ present _ _ readings _ =>
      rw [present] at types
      cases readingAgain with
      | single _ _ presentAgain => exact nomatch presentAgain.symm.trans types
      | union _ _ presentAgain _ _ readingsAgain _ =>
        obtain rfl := List.map_injective_iff.mpr JsonType.token_injective
          (Json.strings_injective (Option.some.inj (presentAgain.symm.trans types)))
        have typed := (types_of_readsAs readingsAgain).trans (types_of_readsAs readings).symm
        refine ⟨regular, regularAgain, name, flag, rfl, admitsNull_union_eq typed,
          preserves_union regularAgain.union fun candidate member => ?_⟩
        obtain ⟨type, listed, reading⟩ := Pairing.exists_left readings member
        obtain ⟨again, memberAgain, readingAgain⟩ := Pairing.exists_right readingsAgain listed
        exact ⟨again, memberAgain, reading.preserves ih distinct distinctAgain each optional readingAgain⟩

end Node

namespace Attribute

/-- A relaxed schema accepts all that was accepted, with the same document. -/
theorem accepts_of_relaxed {limit : Nat} {schema relaxed : Json} {name : String} {required requiredAgain : Bool}
    {field again : Attribute} (steps : Relation.ReflTransGen Json.Relaxes schema relaxed)
    (distinct : schema.DistinctKeys) (distinctAgain : relaxed.DistinctKeys)
    (optional : requiredAgain = true → required = true) (read : ofDocument limit schema name required = .ok field)
    (readAgain : ofDocument limit relaxed name requiredAgain = .ok again) {value : Option Json} {node : Value}
    (accepted : field.accept value = .ok node) :
    ∃ other, again.accept value = .ok other ∧ other.toJson? = node.toJson? := by
  have widens := (Node.ofDocument_eq_ok.mp read).widens distinct distinctAgain
    (Relaxation.within_of_steps steps (limit + 1)) optional (Node.ofDocument_eq_ok.mp readAgain)
  exact widens.preserves_accept accepted

end Attribute

def Json.sampleGraded (required grades : List String) : Json :=
  .object [
    ("type", .string "object"),
    ("required", strings required),
    ("properties", .object [("grade", .object [("type", .string "string"), ("enum", strings grades)])])]

theorem Attribute.accepts_of_relaxed_sample :
    Relation.ReflTransGen Json.Relaxes (Json.sampleGraded ["grade"] ["pass"]) (Json.sampleGraded [] ["pass", "fail"]) ∧
      ∃ field again, ofDocument 1 (Json.sampleGraded ["grade"] ["pass"]) "" true = .ok field ∧
        ofDocument 1 (Json.sampleGraded [] ["pass", "fail"]) "" false = .ok again ∧
        ∃ node other, field.accept (some (.object [("grade", .string "pass")])) = .ok node ∧
          again.accept (some (.object [("grade", .string "pass")])) = .ok other ∧ other.toJson? = node.toJson? := by
  have first : (Json.sampleGraded ["grade"] ["pass"]).Relaxes (Json.sampleGraded [] ["pass"]) :=
    @Json.Relaxes.unrequire [_] [_] _ [] []
  have second : (Json.sampleGraded [] ["pass"]).Relaxes (Json.sampleGraded [] ["pass", "fail"]) :=
    @Json.Relaxes.property [_, _] [] [] [] _ _ _ (@Json.Relaxes.list [_] [] _ [_] [])
  have steps := (Relation.ReflTransGen.single first).tail second
  have distinct (required grades : List String) : (Json.sampleGraded required grades).DistinctKeys := by
    simp [Json.sampleGraded, Json.DistinctKeys, Json.DistinctKeysMembers, distinctKeys_strings]
  refine ⟨steps, _, _, rfl, rfl, ?_⟩
  obtain ⟨other, accepted, same⟩ := @accepts_of_relaxed 1 _ _ "" true false _ _ steps (distinct _ _) (distinct _ _)
    (by decide) rfl rfl (some (.object [("grade", .string "pass")])) _ rfl
  exact ⟨_, other, rfl, accepted, same⟩

end Credential
