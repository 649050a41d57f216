import Credential.Json.Basic
import Mathlib.Data.List.Nodup

/-! Members of objects whose keys are distinct.

A key then leads to exactly one value, and inserting the members one after
another gives them back in their order.
-/

set_option autoImplicit false

namespace Credential.Members

theorem keys_append (first rest : Members) : keys (first ++ rest) = keys first ++ keys rest :=
  List.map_append

theorem mem_keys_of_mem {members : Members} {key : String} {value : Json} (member : (key, value) ∈ members) :
    key ∈ members.keys :=
  List.mem_map.mpr ⟨(key, value), member, rfl⟩

theorem get?_eq_none_iff {members : Members} {key : String} : members.get? key = none ↔ key ∉ members.keys := by
  simp only [get?, keys, List.lookup_eq_none_iff, List.mem_map, bne_iff_ne, not_exists, not_and]
  exact ⟨fun absent member inside same => absent member inside same.symm,
    fun absent member inside same => absent member inside same.symm⟩

theorem get?_append (first rest : Members) (key : String) :
    get? (first ++ rest) key = (first.get? key).or (rest.get? key) :=
  List.lookup_append

theorem get?_cons (first : String) (value : Json) (rest : Members) (key : String) :
    get? ((first, value) :: rest) key = if key = first then some value else rest.get? key := by
  rw [get?, List.lookup_cons]
  by_cases same : key = first
  · simp [same]
  · rw [beq_false_of_ne same, if_neg same]
    rfl

theorem mem_of_get? {members : Members} {key : String} {value : Json} (found : members.get? key = some value) :
    (key, value) ∈ members := by
  obtain ⟨before, after, rfl, -⟩ := List.lookup_eq_some_iff.mp found
  exact List.mem_append_right before List.mem_cons_self

theorem get?_of_mem {members : Members} (distinct : members.keys.Nodup) {key : String} {value : Json}
    (member : (key, value) ∈ members) : members.get? key = some value := by
  obtain ⟨before, after, rfl⟩ := List.append_of_mem member
  refine List.lookup_eq_some_iff.mpr ⟨before, after, rfl, ?_⟩
  intro earlier inside
  have disjoint := List.disjoint_of_nodup_append ((keys_append before ((key, value) :: after)) ▸ distinct)
  simp only [bne_iff_ne, ne_eq]
  rintro rfl
  exact disjoint (mem_keys_of_mem inside) List.mem_cons_self

theorem get?_eq_some_iff {members : Members} (distinct : members.keys.Nodup) {key : String} {value : Json} :
    members.get? key = some value ↔ (key, value) ∈ members :=
  ⟨mem_of_get?, get?_of_mem distinct⟩

theorem get?_perm {members others : Members} (distinct : members.keys.Nodup) (reordered : members.Perm others)
    (key : String) : members.get? key = others.get? key := by
  have distinctToo : others.keys.Nodup := (reordered.map Prod.fst).nodup distinct
  ext value
  rw [get?_eq_some_iff distinct, get?_eq_some_iff distinctToo, reordered.mem_iff]

theorem get?_replace {before after : Members} {name : String} (fresh : name ∉ before.keys) (value : Json)
    (key : String) :
    get? (before ++ (name, value) :: after) key = if key = name then some value else get? (before ++ after) key := by
  rw [get?_append, get?_append, get?_cons]
  split
  next same => rw [same, get?_eq_none_iff.mpr fresh, Option.none_or]
  next => rfl

theorem insert_of_not_mem {members : Members} {key : String} (fresh : key ∉ members.keys) (value : Json) :
    members.insert key value = members ++ [(key, value)] := by
  induction members with
  | nil => rfl
  | cons member rest ih =>
    obtain ⟨first, old⟩ := member
    simp only [keys, List.map_cons, List.mem_cons, not_or] at fresh
    simp only [insert, if_neg (Ne.symm fresh.1), ih fresh.2, List.cons_append]

theorem keys_insert_of_mem {members : Members} {key : String} (inside : key ∈ members.keys) (value : Json) :
    (members.insert key value).keys = members.keys := by
  induction members with
  | nil => exact nomatch inside
  | cons member rest ih =>
    obtain ⟨first, old⟩ := member
    rw [insert]
    split
    next => rfl
    next differs =>
      have later : key ∈ keys rest := (List.mem_cons.mp inside).resolve_left (Ne.symm differs)
      exact congrArg (first :: ·) (ih later)

theorem get?_insert (members : Members) (key : String) (value : Json) (other : String) :
    (members.insert key value).get? other = if other = key then some value else members.get? other := by
  induction members with
  | nil => exact get?_cons key value [] other
  | cons member rest ih =>
    obtain ⟨first, old⟩ := member
    rw [insert]
    split
    next same =>
      rw [get?_cons, get?_cons, same]
      split <;> rfl
    next differs =>
      rw [get?_cons, get?_cons, ih]
      split
      next here => rw [if_neg (here ▸ differs)]
      next => rfl

theorem nodup_keys_insert {members : Members} (distinct : members.keys.Nodup) (key : String) (value : Json) :
    (members.insert key value).keys.Nodup := by
  by_cases inside : key ∈ members.keys
  · rw [keys_insert_of_mem inside]
    exact distinct
  · rw [insert_of_not_mem inside, keys_append]
    refine List.nodup_append'.mpr ⟨distinct, List.nodup_singleton key, ?_⟩
    exact List.disjoint_singleton.mpr inside

theorem mem_insert {members : Members} {key : String} {value : Json} {pair : String × Json}
    (member : pair ∈ members.insert key value) : pair ∈ members ∨ pair.2 = value := by
  induction members with
  | nil =>
    obtain rfl := List.mem_singleton.mp member
    exact .inr rfl
  | cons first rest ih =>
    obtain ⟨other, old⟩ := first
    rw [insert] at member
    split at member
    · obtain rfl | member := List.mem_cons.mp member
      · exact .inr rfl
      · exact .inl (List.mem_cons_of_mem _ member)
    · obtain rfl | member := List.mem_cons.mp member
      · exact .inl List.mem_cons_self
      · exact (ih member).imp_left (List.mem_cons_of_mem _)

theorem foldl_insert {members pairs : Members} (distinct : (keys (members ++ pairs)).Nodup) :
    pairs.foldl (fun members pair => members.insert pair.1 pair.2) members = members ++ pairs := by
  induction pairs generalizing members with
  | nil => simp
  | cons pair rest ih =>
    have fresh : pair.1 ∉ members.keys := by
      rw [keys_append] at distinct
      exact fun old => List.disjoint_of_nodup_append distinct old List.mem_cons_self
    rw [List.foldl_cons, insert_of_not_mem fresh, ih] <;> simp only [List.append_assoc, List.singleton_append]
    exact distinct

theorem ofPairs_eq_self {pairs : Members} (distinct : pairs.keys.Nodup) : ofPairs pairs = pairs :=
  foldl_insert distinct

end Credential.Members

namespace Credential.Json

@[simp] theorem get?_object (members : Members) (key : String) : (Json.object members).get? key = members.get? key :=
  rfl

theorem distinctKeysItems_iff {items : List Json} : DistinctKeysItems items ↔ ∀ item ∈ items, item.DistinctKeys := by
  induction items with
  | nil => simp [DistinctKeysItems]
  | cons item rest ih => simp [DistinctKeysItems, ih]

theorem distinctKeys_array_iff {items : List Json} :
    (Json.array items).DistinctKeys ↔ ∀ item ∈ items, item.DistinctKeys :=
  distinctKeysItems_iff

theorem distinctKeysMembers_iff {members : Members} :
    DistinctKeysMembers members ↔ ∀ member ∈ members, member.2.DistinctKeys := by
  induction members with
  | nil => simp [DistinctKeysMembers]
  | cons member rest ih => simp [DistinctKeysMembers, ih]

theorem distinctKeys_object_iff {members : Members} :
    (Json.object members).DistinctKeys ↔ members.keys.Nodup ∧ ∀ member ∈ members, member.2.DistinctKeys := by
  rw [DistinctKeys, distinctKeysMembers_iff]
  rfl

theorem DistinctKeys.get? {members : Members} (distinct : (Json.object members).DistinctKeys) {key : String}
    {value : Json} (found : members.get? key = some value) : value.DistinctKeys :=
  (distinctKeys_object_iff.mp distinct).2 _ (Members.mem_of_get? found)

theorem object?_eq_some {document : Json} {members : Members} :
    document.object? = some members ↔ document = .object members := by
  cases document <;> simp [object?]

theorem string?_eq_some {document : Json} {text : String} :
    document.string? = some text ↔ document = .string text := by
  cases document <;> simp [string?]

theorem DistinctKeys.member {document : Json} (distinct : document.DistinctKeys) {key : String} {value : Json}
    (found : document.get? key = some value) : value.DistinctKeys := by
  cases document with
  | object members => exact distinct.get? found
  | _ => exact nomatch found

end Credential.Json

namespace Credential

theorem Json.DistinctKeys.insert {members : Members} {key : String} {value : Json}
    (distinct : (Json.object members).DistinctKeys) (distinctValue : value.DistinctKeys) :
    (Json.object (Members.insert members key value)).DistinctKeys := by
  obtain ⟨distinct, values⟩ := Json.distinctKeys_object_iff.mp distinct
  refine Json.distinctKeys_object_iff.mpr ⟨Members.nodup_keys_insert distinct _ _, fun member inside => ?_⟩
  exact (Members.mem_insert inside).elim (values member) fun same => same ▸ distinctValue

theorem Members.distinctKeys_ofPairs {pairs : Members} (each : ∀ pair ∈ pairs, pair.2.DistinctKeys) :
    (Json.object (ofPairs pairs)).DistinctKeys := by
  have folded (members : Members) (start : (Json.object members).DistinctKeys) :
      (Json.object (pairs.foldl (fun members pair => Members.insert members pair.1 pair.2) members)).DistinctKeys := by
    induction pairs generalizing members with
    | nil => exact start
    | cons pair rest ih =>
      obtain ⟨first, each⟩ := List.forall_mem_cons.mp each
      exact ih each _ (start.insert first)
  exact folded [] (Json.distinctKeys_object_iff.mpr ⟨List.nodup_nil, fun _ member => nomatch member⟩)

end Credential
