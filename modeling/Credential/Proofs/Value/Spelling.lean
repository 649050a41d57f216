import Credential.Proofs.Value.Record
import Mathlib.Logic.Relation

/-! Spellings of one value.

Where an object has declared properties, the order of its members is a matter of
spelling, and so is a `null` in the place of a missing member. Neither decides
whether a value is accepted, nor as what.
-/

set_option autoImplicit false

namespace Credential

namespace Attribute

open Success

variable {path : Path} {info : Info} {properties : List Attribute} {field : Attribute} {first second : Json}

/-! ## Spellings -/

/-- One change of spelling: the members of an object are put in another order, or a property that does not take `null`
as a value gets a member that is `null`, at the front. The object may be any typed part of the value, and of a union any
candidate may say what its parts are. -/
inductive Respells : Attribute → Json → Json → Prop where
  | reorder {info : Info} {properties : List Attribute} {members others : Members} :
      members.Perm others → Respells (.record info properties) (.object members) (.object others)
  | fill {info : Info} {properties : List Attribute} {property : Attribute} {members : Members} :
      property ∈ properties → property.admitsNull = false → property.name ∉ members.keys →
      Respells (.record info properties) (.object members) (.object ((property.name, .null) :: members))
  | member {info : Info} {properties : List Attribute} {property : Attribute} {before after : Members}
      {first second : Json} :
      property ∈ properties → Respells property first second →
      Respells (.record info properties) (.object (before ++ (property.name, first) :: after))
        (.object (before ++ (property.name, second) :: after))
  | element {info : Info} {items : Attribute} {before after : List Json} {first second : Json} :
      Respells items first second →
      Respells (.arrayOf info items) (.array (before ++ first :: after)) (.array (before ++ second :: after))
  | candidate {info : Info} {candidates : List Attribute} {candidate : Attribute} {first second : Json} :
      candidate ∈ candidates → Respells candidate first second → Respells (.union info candidates) first second

/-- The documents are spellings of one value: changes of spelling, made or undone, lead from one to the other. -/
def Alike (field : Attribute) : Json → Json → Prop :=
  Relation.EqvGen field.Respells

namespace Respells

theorem not_null (respelled : field.Respells first second) : first.isNull = false ∧ second.isNull = false := by
  induction respelled with
  | candidate _ _ ih => exact ih
  | _ => exact ⟨rfl, rfl⟩

theorem hasShape {type : JsonType} (typed : field.type? = some type) (respelled : field.Respells first second) :
    type.supportsEnum = false ∧ first.hasShape type = true ∧ second.hasShape type = true := by
  cases respelled with
  | candidate => simp [type?] at typed
  | _ =>
    obtain rfl := Option.some.inj typed
    exact ⟨rfl, rfl, rfl⟩

theorem distinctKeys_iff (respelled : field.Respells first second) : first.DistinctKeys ↔ second.DistinctKeys := by
  induction respelled with
  | reorder reordered =>
    have keys : (Members.keys _).Perm (Members.keys _) := reordered.map Prod.fst
    simp only [Json.distinctKeys_object_iff, keys.nodup_iff, reordered.mem_iff]
  | fill _ _ lacking =>
    simp only [Json.distinctKeys_object_iff, Members.keys, List.map_cons, List.nodup_cons, List.forall_mem_cons]
    exact ⟨fun both => ⟨⟨lacking, both.1⟩, trivial, both.2⟩, fun both => ⟨both.1.2, both.2.2⟩⟩
  | member _ _ ih =>
    simp only [Json.distinctKeys_object_iff, Members.keys, List.map_append, List.map_cons, List.forall_mem_append,
      List.forall_mem_cons, ih]
  | element _ ih =>
    simp only [Json.distinctKeys_array_iff, List.forall_mem_append, List.forall_mem_cons, ih]
  | candidate _ _ ih => exact ih

end Respells

/-! ## Objects -/

section

variable {members others : Members} {node : Value}

theorem acceptSupplied_object (regular : RegularRecord properties) (distinct : members.keys.Nodup) :
    (record info properties).acceptSupplied (.object members) path = .ok node ↔
      members.keys ⊆ properties.map name ∧ ∃ nodes,
        List.Forall₂ (fun property child => property.accept (members.get? property.name) = .ok child)
          properties nodes ∧
        node = .record (.record info properties) nodes := by
  rw [acceptSupplied_record regular]
  constructor
  · rintro ⟨_, nodes, ⟨⟩, declared, children, rfl⟩
    refine ⟨fun key inside => ?_, nodes, children, rfl⟩
    obtain ⟨member, given, rfl⟩ := List.mem_map.mp inside
    obtain ⟨property, listed, named, -⟩ := declared member given
    exact List.mem_map.mpr ⟨property, listed, named⟩
  · rintro ⟨declared, nodes, children, rfl⟩
    refine ⟨members, nodes, rfl, fun member given => ?_, children, rfl⟩
    -- The property of the key is accepted with this very member.
    obtain ⟨property, listed, named⟩ := List.mem_map.mp (declared (Members.mem_keys_of_mem given))
    obtain ⟨child, -, accepted⟩ := Pairing.exists_right children listed
    rw [named, Members.get?_of_mem distinct given] at accepted
    exact ⟨property, listed, named, child, accepted⟩

theorem acceptSupplied_object_congr (regular : RegularRecord properties) (distinct : members.keys.Nodup)
    (distinctToo : others.keys.Nodup)
    (declared : members.keys ⊆ properties.map name ↔ others.keys ⊆ properties.map name)
    (same : ∀ property ∈ properties, ∀ child, property.accept (members.get? property.name) = .ok child ↔
      property.accept (others.get? property.name) = .ok child) :
    (record info properties).acceptSupplied (.object members) path = .ok node ↔
      (record info properties).acceptSupplied (.object others) path = .ok node := by
  rw [acceptSupplied_object regular distinct, acceptSupplied_object regular distinctToo, declared]
  refine and_congr_right fun _ => exists_congr fun nodes => and_congr_left fun _ => ?_
  exact Pairing.congr_left same

theorem acceptSupplied_perm (regular : RegularRecord properties) (distinct : members.keys.Nodup)
    (reordered : members.Perm others) :
    (record info properties).acceptSupplied (.object members) path = .ok node ↔
      (record info properties).acceptSupplied (.object others) path = .ok node := by
  have keys : members.keys.Perm others.keys := reordered.map Prod.fst
  refine acceptSupplied_object_congr regular distinct (keys.nodup distinct) ?_ fun property _ child => ?_
  · exact forall_congr' fun key => by rw [keys.mem_iff]
  · rw [Members.get?_perm distinct reordered]

variable {property : Attribute}

theorem accept_null (barred : property.admitsNull = false) :
    property.accept (some .null) = property.accept none := by
  simp [accept, acceptAt, lacks, Json.isNull, barred]

theorem acceptSupplied_cons_null (regular : RegularRecord properties) (distinct : members.keys.Nodup)
    (listed : property ∈ properties) (barred : property.admitsNull = false)
    (lacking : property.name ∉ members.keys) :
    (record info properties).acceptSupplied (.object members) path = .ok node ↔
      (record info properties).acceptSupplied (.object ((property.name, .null) :: members)) path = .ok node := by
  have distinctToo : (Members.keys ((property.name, .null) :: members)).Nodup := distinct.cons lacking
  refine acceptSupplied_object_congr regular distinct distinctToo ?_ fun other inside child => ?_
  · exact (List.cons_subset.trans (and_iff_right (List.mem_map_of_mem listed))).symm
  · rw [Members.get?_cons]
    split
    -- The property of the new member found nothing before.
    next same =>
      obtain rfl := List.inj_on_of_nodup_map regular.distinct inside listed same
      rw [accept_null barred, Members.get?_eq_none_iff.mpr lacking]
    next => rfl

theorem acceptSupplied_replace (regular : RegularRecord properties) (listed : property ∈ properties)
    {before after : Members} (distinct : (Members.keys (before ++ (property.name, first) :: after)).Nodup)
    (same : ∀ child, property.accept (some first) = .ok child ↔ property.accept (some second) = .ok child) :
    (record info properties).acceptSupplied (.object (before ++ (property.name, first) :: after)) path = .ok node ↔
      (record info properties).acceptSupplied (.object (before ++ (property.name, second) :: after)) path =
        .ok node := by
  have keys : Members.keys (before ++ (property.name, first) :: after) =
      Members.keys (before ++ (property.name, second) :: after) := by
    simp only [Members.keys, List.map_append, List.map_cons]
  have fresh : property.name ∉ Members.keys before := by
    rw [Members.keys_append] at distinct
    exact fun old => List.disjoint_of_nodup_append distinct old List.mem_cons_self
  refine acceptSupplied_object_congr regular distinct (keys ▸ distinct) (by rw [keys]) fun other inside child => ?_
  rw [Members.get?_replace fresh, Members.get?_replace fresh]
  split
  next named =>
    obtain rfl := List.inj_on_of_nodup_map regular.distinct inside listed named
    exact same child
  next => rfl

end

/-! ## Arrays and unions -/

theorem acceptSupplied_array_replace {items : Attribute} {before after : List Json} {node : Value}
    (same : ∀ child, items.accept (some first) = .ok child ↔ items.accept (some second) = .ok child) :
    (arrayOf info items).acceptSupplied (.array (before ++ first :: after)) path = .ok node ↔
      (arrayOf info items).acceptSupplied (.array (before ++ second :: after)) path = .ok node := by
  simp only [acceptSupplied_arrayOf, Json.array.injEq, exists_and_left, exists_eq_left']
  refine exists_congr fun nodes => and_congr_left fun _ => ?_
  exact Pairing.replace_iff same

theorem acceptSupplied_union_congr {candidates : List Attribute} {node : Value}
    (same : ∀ candidate ∈ candidates, ∀ winner,
      candidate.acceptSupplied first [] = .ok winner ↔ candidate.acceptSupplied second [] = .ok winner) :
    (union info candidates).acceptSupplied first [] = .ok node ↔
      (union info candidates).acceptSupplied second [] = .ok node := by
  have alike : firstSupplied first [] candidates = firstSupplied second [] candidates := by
    rw [firstSupplied_eq, firstSupplied_eq]
    refine findSome?_congr fun candidate member => Option.ext fun winner => ?_
    rw [toOption_eq_some, toOption_eq_some]
    exact same candidate member winner
  have taken (document : Json) : (union info candidates).acceptSupplied document [] = .ok node ↔
      ∃ winner, firstSupplied document [] candidates = some winner ∧
        .union (.union info candidates) winner = node := by
    rw [acceptSupplied]
    cases firstSupplied document [] candidates <;> simp [Rejection.throw]
  rw [taken, taken, alike]

/-! ## One change -/

theorem accept_of_acceptSupplied (notNull : first.isNull = false ∧ second.isNull = false)
    (same : ∀ node, field.acceptSupplied first [] = .ok node ↔ field.acceptSupplied second [] = .ok node)
    (node : Value) : field.accept (some first) = .ok node ↔ field.accept (some second) = .ok node := by
  simp only [accept, acceptAt, lacks, notNull.1, notNull.2, Bool.false_and, Bool.false_eq_true, if_false, same]

theorem Respells.acceptSupplied_iff (regular : field.Regular) (distinct : first.DistinctKeys)
    (respelled : field.Respells first second) :
    ∀ node, field.acceptSupplied first [] = .ok node ↔ field.acceptSupplied second [] = .ok node := by
  induction respelled with
  | reorder reordered =>
    intro node
    exact acceptSupplied_perm regular.record (Json.distinctKeys_object_iff.mp distinct).1 reordered
  | fill listed barred lacking =>
    intro node
    exact acceptSupplied_cons_null regular.record (Json.distinctKeys_object_iff.mp distinct).1 listed barred lacking
  | member listed respelled ih =>
    obtain ⟨distinctHere, distinctMembers⟩ := Json.distinctKeys_object_iff.mp distinct
    have below := distinctMembers _ (List.mem_append_right _ List.mem_cons_self)
    intro node
    refine acceptSupplied_replace regular.record listed distinctHere ?_
    exact accept_of_acceptSupplied respelled.not_null (ih (regular.property listed) below)
  | element respelled ih =>
    have below := Json.distinctKeys_array_iff.mp distinct _ (List.mem_append_right _ List.mem_cons_self)
    intro node
    exact acceptSupplied_array_replace (accept_of_acceptSupplied respelled.not_null (ih regular.items below))
  | @candidate info candidates candidate first second listed respelled ih =>
    obtain ⟨type, typed⟩ := Option.isSome_iff_exists.mp (regular.union.typed candidate listed)
    obtain ⟨structured, shape, shapeToo⟩ := respelled.hasShape typed
    have only {document : Json} (shape : document.hasShape type = true) {other : Attribute}
        (inside : other ∈ candidates) {winner : Value}
        (accepted : other.acceptSupplied document [] = .ok winner) : other = candidate :=
      regular.union.eq_of_hasShape listed inside typed structured shape accepted
    intro node
    refine acceptSupplied_union_congr fun other inside winner => ⟨fun accepted => ?_, fun accepted => ?_⟩
    · obtain rfl := only shape inside accepted
      exact (ih (regular.candidate listed) distinct winner).mp accepted
    · obtain rfl := only shapeToo inside accepted
      exact (ih (regular.candidate listed) distinct winner).mpr accepted

/-! ## Any number of changes -/

theorem Alike.distinctKeys_iff (alike : field.Alike first second) : first.DistinctKeys ↔ second.DistinctKeys := by
  induction alike with
  | rel _ _ respelled => exact respelled.distinctKeys_iff
  | refl => rfl
  | symm _ _ _ ih => exact ih.symm
  | trans _ _ _ _ _ ih ihToo => exact ih.trans ihToo

theorem Alike.accept_iff (regular : field.Regular) (distinct : first.DistinctKeys) (alike : field.Alike first second)
    (node : Value) : field.accept (some first) = .ok node ↔ field.accept (some second) = .ok node := by
  induction alike with
  | rel _ _ respelled =>
    exact accept_of_acceptSupplied respelled.not_null (respelled.acceptSupplied_iff regular distinct) node
  | refl => rfl
  | symm first second alike ih => exact (ih ((Alike.distinctKeys_iff alike).mpr distinct)).symm
  | trans first second third alike _ ih ihToo =>
    exact (ih distinct).trans (ihToo ((Alike.distinctKeys_iff alike).mp distinct))

/-- Member order and explicit nulls never decide acceptance: of two spellings of one value, both are accepted, as equal
nodes, or both are rejected. -/
theorem spellings_accepted_alike {limit : Nat} {schema : Json} {name : String} {required : Bool}
    (distinct : schema.DistinctKeys) (read : Attribute.ofDocument limit schema name required = .ok field)
    (distinctValue : first.DistinctKeys) (alike : field.Alike first second) :
    (∃ node, field.accept (some first) = .ok node ∧ field.accept (some second) = .ok node) ∨
      ∃ rejection other, field.accept (some first) = .error rejection ∧
        field.accept (some second) = .error other := by
  have same := alike.accept_iff ((Node.ofDocument_eq_ok.mp read).regular distinct) distinctValue
  cases here : field.accept (some first) with
  | ok node => exact .inl ⟨node, rfl, (same node).mp here⟩
  | error rejection =>
    cases there : field.accept (some second) with
    | ok node => exact nomatch here.symm.trans ((same node).mpr there)
    | error other => exact .inr ⟨rejection, other, rfl, rfl⟩

end Attribute

def Json.sampleGuests : Json :=
  .object [
    ("type", .string "object"),
    ("properties", .object [
      ("guests", .object [
        ("type", .string "array"),
        ("items", .object [
          ("type", strings ["string", "object"]),
          ("properties", .object [
            ("name", .object [("type", .string "string")]),
            ("mail", .object [("type", .string "string")]),
            ("age", .object [("type", .string "integer")])])])])])]

def Attribute.sampleGuest : Attribute :=
  .record ⟨"items", false, none, none⟩ [
    .string ⟨"name", false, none, none⟩ none none,
    .string ⟨"mail", false, none, none⟩ none none,
    .integer ⟨"age", false, none, none⟩ none]

def Attribute.sampleGuests : Attribute :=
  .record ⟨"", true, none, none⟩ [
    .arrayOf ⟨"guests", false, none, none⟩ (.union ⟨"items", false, none, none⟩ [
      .string ⟨"items", false, none, none⟩ none none, sampleGuest])]

def Json.sampleListed (members : Members) : Json :=
  .object [("guests", .array [.string "a", .object members])]

def Members.sampleShort : Members :=
  [("name", .string "b"), ("mail", .string "c")]

def Members.sampleLong : Members :=
  [("mail", .string "c"), ("age", .null), ("name", .string "b")]

theorem Attribute.respells_sampleListed {members others : Members}
    (respelled : sampleGuest.Respells (.object members) (.object others)) :
    sampleGuests.Respells (Json.sampleListed members) (Json.sampleListed others) := by
  have listed : sampleGuest ∈ [.string ⟨"items", false, none, none⟩ none none, sampleGuest] :=
    List.mem_cons_of_mem _ List.mem_cons_self
  have seen := @Respells.candidate ⟨"items", false, none, none⟩ _ _ _ _ listed respelled
  have second := @Respells.element ⟨"guests", false, none, none⟩ _ [.string "a"] [] _ _ seen
  exact @Respells.member ⟨"", true, none, none⟩ _ _ [] [] _ _ (List.mem_singleton_self _) second

theorem Attribute.alike_sampleListed :
    sampleGuests.Alike (Json.sampleListed Members.sampleShort) (Json.sampleListed Members.sampleLong) := by
  have filled : sampleGuest.Respells (.object Members.sampleShort)
      (.object (("age", .null) :: Members.sampleShort)) :=
    .fill (List.mem_cons_of_mem _ (List.mem_cons_of_mem _ List.mem_cons_self)) rfl (by decide)
  have reordered : sampleGuest.Respells (.object (("age", .null) :: Members.sampleShort))
      (.object Members.sampleLong) :=
    .reorder (@List.perm_append_comm _ [("age", Json.null), ("name", .string "b")] [("mail", .string "c")])
  exact .trans _ _ _ (.rel _ _ (respells_sampleListed filled)) (.rel _ _ (respells_sampleListed reordered))

theorem Attribute.spellings_accepted_alike_sample :
    Json.sampleGuests.DistinctKeys ∧ Attribute.ofDocument 4 Json.sampleGuests "" true = .ok Attribute.sampleGuests ∧
      (Json.sampleListed Members.sampleShort).DistinctKeys ∧
      sampleGuests.Alike (Json.sampleListed Members.sampleShort) (Json.sampleListed Members.sampleLong) ∧
      ∃ node, sampleGuests.accept (some (Json.sampleListed Members.sampleShort)) = .ok node ∧
        sampleGuests.accept (some (Json.sampleListed Members.sampleLong)) = .ok node := by
  have distinct : Json.sampleGuests.DistinctKeys := by
    simp [Json.sampleGuests, Json.strings, Json.DistinctKeys, Json.DistinctKeysItems, Json.DistinctKeysMembers]
  have distinctValue : (Json.sampleListed Members.sampleShort).DistinctKeys := by
    simp [Json.sampleListed, Members.sampleShort, Json.DistinctKeys, Json.DistinctKeysItems, Json.DistinctKeysMembers]
  refine ⟨distinct, rfl, distinctValue, alike_sampleListed, ?_⟩
  obtain accepted | ⟨rejection, other, rejected, -⟩ := @Attribute.spellings_accepted_alike sampleGuests _ _ 4
    Json.sampleGuests "" true distinct rfl distinctValue alike_sampleListed
  · exact accepted
  · have accepted : ∃ node, sampleGuests.accept (some (Json.sampleListed Members.sampleShort)) = .ok node := ⟨_, rfl⟩
    simp [rejected] at accepted

end Credential
