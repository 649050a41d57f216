import Mathlib.Data.List.Forall2

/-! Lists whose items correspond one to one, in order. -/

set_option autoImplicit false

namespace Credential.Pairing

variable {α β γ : Type} {related : α → β → Prop} {items : List α} {others : List β}

theorem exists_left (pairing : List.Forall₂ related items others) {other : β} (member : other ∈ others) :
    ∃ item ∈ items, related item other := by
  induction pairing with
  | nil => exact nomatch member
  | cons first _ ih =>
    rcases List.mem_cons.mp member with rfl | member
    · exact ⟨_, List.mem_cons_self, first⟩
    · obtain ⟨item, inside, pair⟩ := ih member
      exact ⟨item, List.mem_cons_of_mem _ inside, pair⟩

theorem exists_right (pairing : List.Forall₂ related items others) {item : α} (member : item ∈ items) :
    ∃ other ∈ others, related item other :=
  exists_left pairing.flip member

theorem exists_of_getElem? (pairing : List.Forall₂ related items others) {position : Nat} {other : β}
    (here : others[position]? = some other) : ∃ item, items[position]? = some item ∧ related item other := by
  induction pairing generalizing position with
  | nil => exact nomatch here
  | cons first _ ih =>
    cases position with
    | zero =>
      obtain rfl := Option.some.inj here
      exact ⟨_, rfl, first⟩
    | succ position => exact ih here

theorem exists_pairing (each : ∀ item ∈ items, ∃ other, related item other) :
    ∃ others, List.Forall₂ related items others := by
  induction items with
  | nil => exact ⟨[], .nil⟩
  | cons item rest ih =>
    obtain ⟨⟨other, first⟩, each⟩ := List.forall_mem_cons.mp each
    obtain ⟨others, tail⟩ := ih each
    exact ⟨other :: others, .cons first tail⟩

-- The relation may be changed where the items are those of the list.
theorem congr_left {second : α → β → Prop} (same : ∀ item ∈ items, ∀ other, related item other ↔ second item other) :
    List.Forall₂ related items others ↔ List.Forall₂ second items others := by
  induction items generalizing others with
  | nil => simp only [List.forall₂_nil_left_iff]
  | cons item rest ih =>
    obtain ⟨here, same⟩ := List.forall_mem_cons.mp same
    simp only [List.forall₂_cons_left_iff, here, ih same]

theorem replace_iff {before after : List α} {first second : α}
    (same : ∀ other, related first other ↔ related second other) :
    List.Forall₂ related (before ++ first :: after) others ↔
      List.Forall₂ related (before ++ second :: after) others := by
  induction before generalizing others with
  | nil => simp only [List.nil_append, List.forall₂_cons_left_iff, same]
  | cons item before ih => simp only [List.cons_append, List.forall₂_cons_left_iff, ih]

theorem with_members (pairing : List.Forall₂ related items others) :
    List.Forall₂ (fun item other => item ∈ items ∧ other ∈ others ∧ related item other) items others := by
  induction pairing with
  | nil => exact .nil
  | cons pair _ ih =>
    refine .cons ⟨List.mem_cons_self, List.mem_cons_self, pair⟩ (ih.imp fun item other both => ?_)
    obtain ⟨left, right, pair⟩ := both
    exact ⟨List.mem_cons_of_mem _ left, List.mem_cons_of_mem _ right, pair⟩

theorem map_eq {first : α → γ} {second : β → γ} (pairing : List.Forall₂ related items others)
    (same : ∀ item other, related item other → first item = second other) :
    items.map first = others.map second := by
  induction pairing with
  | nil => rfl
  | cons pair _ ih => rw [List.map_cons, List.map_cons, same _ _ pair, ih]

theorem filterMap_eq {first : α → Option γ} {second : β → Option γ} (pairing : List.Forall₂ related items others)
    (same : ∀ item other, related item other → first item = second other) :
    items.filterMap first = others.filterMap second := by
  induction pairing with
  | nil => rfl
  | cons pair _ ih => rw [List.filterMap_cons, List.filterMap_cons, same _ _ pair, ih]

theorem flatMap_eq {first : α → List γ} {second : β → List γ} (pairing : List.Forall₂ related items others)
    (same : ∀ item other, related item other → first item = second other) :
    items.flatMap first = others.flatMap second := by
  rw [List.flatMap_def, List.flatMap_def, map_eq pairing same]

theorem of_common {thirds : List γ} {left : α → β → Prop} {right : α → γ → Prop}
    (first : List.Forall₂ left items others) (second : List.Forall₂ right items thirds) :
    List.Forall₂ (fun other third => ∃ item ∈ items, left item other ∧ right item third) others thirds := by
  induction first generalizing thirds with
  | nil =>
    cases second
    exact .nil
  | cons pair _ ih =>
    cases second with
    | cons pairToo rest =>
      refine .cons ⟨_, List.mem_cons_self, pair, pairToo⟩ ((ih rest).imp fun other third related => ?_)
      obtain ⟨item, inside, both⟩ := related
      exact ⟨item, List.mem_cons_of_mem _ inside, both⟩

-- Each pair gives rise to a third item, related to both of its members.
theorem exists_third {left : α → γ → Prop} {right : β → γ → Prop} (pairing : List.Forall₂ related items others)
    (each : ∀ item other, related item other → ∃ third, left item third ∧ right other third) :
    ∃ thirds, List.Forall₂ left items thirds ∧ List.Forall₂ right others thirds := by
  induction pairing with
  | nil => exact ⟨[], .nil, .nil⟩
  | cons pair _ ih =>
    obtain ⟨third, first, second⟩ := each _ _ pair
    obtain ⟨thirds, firsts, seconds⟩ := ih
    exact ⟨third :: thirds, .cons first firsts, .cons second seconds⟩

theorem map_eq_iff {first : α → γ} {second : β → γ} {holds : α → Prop}
    (pairing : List.Forall₂ (fun item other => second other = first item ↔ holds item) items others) :
    others.map second = items.map first ↔ ∀ item ∈ items, holds item := by
  induction pairing with
  | nil => simp
  | cons pair _ ih => rw [List.map_cons, List.map_cons, List.cons_eq_cons, pair, ih, List.forall_mem_cons]

theorem flatMap_eq_iff {first : α → List γ} {second : β → List γ} {holds : α → Prop}
    (pairing : List.Forall₂ (fun item other => (second other).length = (first item).length ∧
      (second other = first item ↔ holds item)) items others) :
    others.flatMap second = items.flatMap first ↔ ∀ item ∈ items, holds item := by
  induction pairing with
  | nil => simp
  | cons pair _ ih =>
    rw [List.flatMap_cons, List.flatMap_cons, List.append_eq_append_iff_of_size_eq_left pair.1, pair.2, ih,
      List.forall_mem_cons]

theorem eq_iff {holds : α → Prop} {others : List α}
    (pairing : List.Forall₂ (fun item other => other = item ↔ holds item) items others) :
    others = items ↔ ∀ item ∈ items, holds item := by
  have mapped := @map_eq_iff _ _ _ _ _ id id _ pairing
  rwa [List.map_id, List.map_id] at mapped

end Credential.Pairing
