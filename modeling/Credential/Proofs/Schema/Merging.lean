import Credential.Proofs.Value.Shape
import Mathlib.Data.List.Nodup

/-! Merging the `enum` entries of several types into one list and splitting them again.

A list is split by type, and only numbers can have two types. So a type gets its
entries back, unless both `integer` and `number` took part and whole numbers
were written twice. A list without entries is not written at all, and types with
no entries then become unrestricted.
-/

set_option autoImplicit false

namespace Credential

namespace Json

def nonEmpty? (values : List Json) : Option (List Json) :=
  if values.isEmpty then none else some values

def entriesOf? (entries : Option (List Json)) (type : JsonType) : Option (List Json) :=
  entries.map (·.filter fun value => value.hasShape type)

def share (entries : Option (List Json)) (type : JsonType) : List Json :=
  if type.supportsEnum then (entriesOf? entries type).getD [] else []

def merged (entries : Option (List Json)) (types : List JsonType) : List Json :=
  types.flatMap (share entries)

/-- Whole numbers are in the list, and both types of numbers get them. -/
def SharesIntegers (entries : Option (List Json)) (types : List JsonType) : Prop :=
  .integer ∈ types ∧ .number ∈ types ∧ share entries .integer ≠ []

/-- The list has no entry for any scalar type, and there is such a type. -/
def LeavesNothing (entries : Option (List Json)) (types : List JsonType) : Prop :=
  (∃ type ∈ types, type.supportsEnum = true) ∧
    ∀ type ∈ types, type.supportsEnum = true → entriesOf? entries type = some []

variable {entries : Option (List Json)} {types : List JsonType} {type : JsonType}

theorem mem_share {entry : Json} :
    entry ∈ share entries type ↔
      type.supportsEnum = true ∧ entry ∈ entries.getD [] ∧ entry.hasShape type = true := by
  unfold share
  split
  next scalar => cases entries <;> simp [entriesOf?, scalar]
  next other => simp [other]

theorem share_eq_filter (scalar : type.supportsEnum = true) :
    share entries type = (entries.getD []).filter fun value => value.hasShape type := by
  rw [share, if_pos scalar]
  cases entries <;> rfl

theorem nonEmpty?_eq_some {values others : List Json} : nonEmpty? values = some others ↔ values = others ∧ others ≠ [] := by
  unfold nonEmpty?
  cases values <;> simp
  rintro rfl
  simp

theorem nonEmpty?_injective : Function.Injective nonEmpty? := fun first second same => by
  cases first <;> cases second <;> simp_all [nonEmpty?]

theorem mem_merged {entry : Json} : entry ∈ merged entries types ↔ ∃ type ∈ types, entry ∈ share entries type :=
  List.mem_flatMap

theorem hasShape_of_mem_single {values : List Json} (written : nonEmpty? (merged entries [type]) = some values)
    {value : Json} (member : value ∈ values) : value.hasShape type = true := by
  obtain ⟨rfl, -⟩ := nonEmpty?_eq_some.mp written
  obtain ⟨other, here, shared⟩ := mem_merged.mp member
  obtain rfl := List.mem_singleton.mp here
  exact (mem_share.mp shared).2.2

theorem flatMap_eq_of_only {α β : Type} {items : List α} {image : α → List β} (distinct : items.Nodup) {item : α}
    (member : item ∈ items) (only : ∀ other ∈ items, other ≠ item → image other = []) :
    items.flatMap image = image item := by
  obtain ⟨before, after, rfl⟩ := List.append_of_mem member
  have apart := List.nodup_middle.mp distinct
  obtain ⟨fresh, -⟩ := List.nodup_cons.mp apart
  have nothing {part : List α} (inside : ∀ other ∈ part, other ∈ before ++ after) : part.flatMap image = [] := by
    apply List.flatMap_eq_nil_iff.mpr
    intro other here
    have elsewhere := inside other here
    refine only other (List.mem_append.mpr ?_) fun same => fresh (same ▸ elsewhere)
    exact (List.mem_append.mp elsewhere).imp_right (List.mem_cons_of_mem item)
  rw [List.flatMap_append, List.flatMap_cons, nothing fun _ => List.mem_append_left after,
    nothing fun _ => List.mem_append_right before, List.nil_append, List.append_nil]

-- A type gets its own entries back, and no others: those of another type would have two shapes.
theorem filter_merged (distinct : types.Nodup) (member : type ∈ types) (scalar : type.supportsEnum = true)
    (apart : ¬SharesIntegers entries types) :
    (merged entries types).filter (fun value => value.hasShape type) = share entries type := by
  have own : (share entries type).filter (fun value => value.hasShape type) = share entries type :=
    List.filter_eq_self.mpr fun entry inside => (mem_share.mp inside).2.2
  rw [merged, List.filter_flatMap, ← own]
  apply flatMap_eq_of_only distinct member
  intro other memberToo differ
  apply List.filter_eq_nil_iff.mpr
  intro entry inside shape
  obtain ⟨scalarToo, listed, shapeToo⟩ := mem_share.mp inside
  obtain same | ⟨whole, numeric⟩ := eq_or_numeric_of_hasShape shapeToo shape
  · exact differ same
  · have shared : share entries .integer ≠ [] := List.ne_nil_of_mem (mem_share.mpr ⟨rfl, listed, whole⟩)
    obtain ⟨rfl, rfl⟩ | ⟨rfl, rfl⟩ := numeric
    · exact apart ⟨memberToo, member, shared⟩
    · exact apart ⟨member, memberToo, shared⟩

theorem perm_numeric (integer : JsonType.integer ∈ types) (number : JsonType.number ∈ types) :
    ∃ others, types.Perm (.number :: .integer :: others) := by
  have inside : JsonType.integer ∈ types.erase .number := (List.mem_erase_of_ne (by decide)).mpr integer
  exact ⟨_, (List.perm_cons_erase number).trans ((List.perm_cons_erase inside).cons _)⟩

-- Numbers get whole numbers a second time, if those have a type of their own.
theorem filter_merged_ne (shared : SharesIntegers entries types) :
    (merged entries types).filter (fun value => value.hasShape .number) ≠ share entries .number := by
  obtain ⟨integer, number, present⟩ := shared
  intro same
  -- With both types at the front, the list is longer by the whole numbers than what `number` has added.
  obtain ⟨others, perm⟩ := perm_numeric integer number
  have length := (perm.flatMap_right fun type =>
    (share entries type).filter fun value => value.hasShape .number).length_eq
  have all {type : JsonType} (numeric : ∀ value : Json, value.hasShape type = true → value.hasShape .number = true) :
      (share entries type).filter (fun value => value.hasShape .number) = share entries type :=
    List.filter_eq_self.mpr fun entry inside => numeric entry (mem_share.mp inside).2.2
  have wholeNumeric (value : Json) (whole : value.hasShape .integer = true) : value.hasShape .number = true := by
    cases value <;> simp_all [hasShape]
  rw [merged, List.filter_flatMap] at same
  have some := List.length_pos_iff.mpr present
  simp only [List.flatMap_cons, List.length_append, all wholeNumeric, all fun _ => id] at length
  have equal := congrArg List.length same
  omega

theorem entriesOf?_of_merged_eq_nil (nothing : merged entries types = []) (member : type ∈ types)
    (scalar : type.supportsEnum = true) : entriesOf? entries type = none ∨ entriesOf? entries type = some [] := by
  have empty : share entries type = [] := List.flatMap_eq_nil_iff.mp nothing type member
  rw [share, if_pos scalar] at empty
  cases own : entriesOf? entries type with
  | none => exact .inl rfl
  | some values => exact .inr (congrArg some (by simpa [own] using empty))

theorem leavesNothing_of_merged_eq_nil {values : List Json} (nothing : merged (some values) types = [])
    (member : type ∈ types) (scalar : type.supportsEnum = true) : LeavesNothing (some values) types :=
  ⟨⟨type, member, scalar⟩, fun _ memberToo scalarToo =>
    (entriesOf?_of_merged_eq_nil nothing memberToo scalarToo).resolve_left nofun⟩

/-- Merging and splitting gives every scalar type its entries back, save in two cases. -/
theorem entriesOf?_merged_iff (distinct : types.Nodup) :
    (∀ type ∈ types, type.supportsEnum = true →
        entriesOf? (nonEmpty? (merged entries types)) type = entriesOf? entries type) ↔
      ¬SharesIntegers entries types ∧ ¬LeavesNothing entries types := by
  by_cases nothing : merged entries types = []
  -- Without a list every type becomes unrestricted, which it was before unless there was a list.
  · have written : nonEmpty? (merged entries types) = none := by rw [nothing]; rfl
    have apart : ¬SharesIntegers entries types := by
      rintro ⟨integer, -, present⟩
      exact present (List.flatMap_eq_nil_iff.mp nothing .integer integer)
    rw [written]
    constructor
    · rintro same
      refine ⟨apart, ?_⟩
      rintro ⟨⟨type, member, scalar⟩, empty⟩
      have lost := (same type member scalar).trans (empty type member scalar)
      simp [entriesOf?] at lost
    · rintro ⟨-, kept⟩ type member scalar
      obtain unrestricted | empty := entriesOf?_of_merged_eq_nil nothing member scalar
      · exact unrestricted.symm
      · obtain ⟨values, rfl, -⟩ := Option.map_eq_some_iff.mp empty
        exact absurd (leavesNothing_of_merged_eq_nil nothing member scalar) kept
  -- Otherwise some type has an entry, and each type gets back what it has added.
  · obtain ⟨entry, inside⟩ := List.exists_mem_of_ne_nil _ nothing
    obtain ⟨origin, member, added⟩ := mem_merged.mp inside
    obtain ⟨scalar, listed, shape⟩ := mem_share.mp added
    obtain ⟨values, rfl⟩ : ∃ values, entries = some values := by
      cases entries with
      | none => exact nomatch listed
      | some values => exact ⟨values, rfl⟩
    have written : nonEmpty? (merged (some values) types) = some (merged (some values) types) := by
      simp [nonEmpty?, nothing]
    have kept : ¬LeavesNothing (some values) types := by
      rintro ⟨-, empty⟩
      exact List.filter_eq_nil_iff.mp (Option.some.inj (empty origin member scalar)) entry listed shape
    have split {type : JsonType} (scalar : type.supportsEnum = true) :
        entriesOf? (some (merged (some values) types)) type = entriesOf? (some values) type ↔
          (merged (some values) types).filter (fun value => value.hasShape type) = share (some values) type := by
      rw [share_eq_filter scalar]
      exact Option.some_inj
    rw [written, and_iff_left kept]
    constructor
    · intro same shared
      exact filter_merged_ne shared ((split rfl).mp (same .number shared.2.1 rfl))
    · intro apart type member scalar
      exact (split scalar).mpr (filter_merged distinct member scalar apart)

theorem exists_entriesOf?_merged_ne (several : types ≠ []) :
    ∃ type ∈ types, entriesOf? (nonEmpty? (merged entries types)) type ≠ some [] := by
  by_cases nothing : merged entries types = []
  · obtain ⟨type, member⟩ := List.exists_mem_of_ne_nil _ several
    exact ⟨type, member, by simp [nothing, nonEmpty?, entriesOf?]⟩
  · obtain ⟨entry, inside⟩ := List.exists_mem_of_ne_nil _ nothing
    obtain ⟨type, member, added⟩ := mem_merged.mp inside
    refine ⟨type, member, fun empty => ?_⟩
    have written : nonEmpty? (merged entries types) = some (merged entries types) := by simp [nonEmpty?, nothing]
    rw [written] at empty
    exact List.filter_eq_nil_iff.mp (Option.some.inj empty) entry inside (mem_share.mp added).2.2

theorem nonEmpty?_merged_of_leavesNothing (lost : LeavesNothing entries types) :
    nonEmpty? (merged entries types) = none := by
  have nothing : merged entries types = [] := by
    refine List.flatMap_eq_nil_iff.mpr fun type member => ?_
    unfold share
    split
    next scalar => rw [lost.2 type member scalar, Option.getD_some]
    next => rfl
  rw [nothing]
  rfl

theorem merged_merged_iff (distinct : types.Nodup) :
    merged (nonEmpty? (merged entries types)) types = merged entries types ↔ ¬SharesIntegers entries types := by
  constructor
  -- Both types of numbers take every whole entry of the merged list, which then has more of it than before.
  · rintro same ⟨integer, number, present⟩
    obtain ⟨entry, inside⟩ := List.exists_mem_of_ne_nil _ present
    obtain ⟨-, -, whole⟩ := mem_share.mp inside
    have numeric : entry.hasShape .number = true := by cases entry <;> simp_all [hasShape]
    have listed : entry ∈ merged entries types := mem_merged.mpr ⟨_, integer, inside⟩
    have written : nonEmpty? (merged entries types) = some (merged entries types) :=
      nonEmpty?_eq_some.mpr ⟨rfl, List.ne_nil_of_mem listed⟩
    rw [written] at same
    have taken {type : JsonType} (scalar : type.supportsEnum = true) (shape : entry.hasShape type = true) :
        (share (some (merged entries types)) type).count entry = (merged entries types).count entry := by
      rw [share_eq_filter scalar]
      exact List.count_filter shape
    obtain ⟨others, perm⟩ := perm_numeric integer number
    have counted := (perm.flatMap_right (share (some (merged entries types)))).count_eq entry
    rw [List.flatMap_cons, List.flatMap_cons, List.count_append, List.count_append, taken rfl numeric,
      taken rfl whole] at counted
    have before : (List.flatMap (share (some (merged entries types))) types).count entry =
        (merged entries types).count entry := congrArg (List.count entry) same
    have some := List.count_pos_iff.mpr listed
    omega
  · intro apart
    by_cases lost : LeavesNothing entries types
    · have nothing := nonEmpty?_merged_of_leavesNothing lost
      have empty : merged entries types = [] := nonEmpty?_injective nothing
      rw [nothing, empty]
      exact List.flatMap_eq_nil_iff.mpr fun type _ => by simp [share, entriesOf?]
    · have same := (entriesOf?_merged_iff distinct).mpr ⟨apart, lost⟩
      refine List.flatMap_congr fun type member => ?_
      unfold share
      split
      next scalar => rw [same type member scalar]
      next => rfl

theorem not_sharesIntegers_singleton : ¬SharesIntegers entries [type] := by
  rintro ⟨integer, number, -⟩
  exact absurd ((List.mem_singleton.mp integer).trans (List.mem_singleton.mp number).symm) (by decide)

-- Entries may come back more than once, but a type finds one of a kind exactly where it found one before.
theorem exists_entry_merged_iff (kept : ¬LeavesNothing entries types) (member : type ∈ types)
    (scalar : type.supportsEnum = true) (holds : Json → Prop) :
    (∀ values ∈ entriesOf? (nonEmpty? (merged entries types)) type, ∃ entry ∈ values, holds entry) ↔
      ∀ values ∈ entriesOf? entries type, ∃ entry ∈ values, holds entry := by
  cases entries with
  | none =>
    have nothing : merged none types = [] := List.flatMap_eq_nil_iff.mpr fun type _ => by simp [share, entriesOf?]
    simp [nothing, nonEmpty?, entriesOf?]
  | some values =>
    have something : merged (some values) types ≠ [] := fun nothing =>
      kept (leavesNothing_of_merged_eq_nil nothing member scalar)
    have written : nonEmpty? (merged (some values) types) = some (merged (some values) types) := by
      simp [nonEmpty?, something]
    have mem_iff (entry : Json) :
        entry ∈ (merged (some values) types).filter (fun value => value.hasShape type) ↔
          entry ∈ values.filter fun value => value.hasShape type := by
      simp only [List.mem_filter, mem_merged, mem_share, Option.getD_some]
      constructor
      · rintro ⟨⟨_, _, _, listed, _⟩, shape⟩
        exact ⟨listed, shape⟩
      · rintro ⟨listed, shape⟩
        exact ⟨⟨type, member, scalar, listed, shape⟩, shape⟩
    simp only [written, entriesOf?, Option.map_some, Option.mem_some_iff, forall_eq', mem_iff]

end Json

end Credential
