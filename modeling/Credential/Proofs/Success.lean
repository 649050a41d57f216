import Mathlib.Data.List.Forall2

/-! When steps that can fail succeed, and with what. -/

set_option autoImplicit false

namespace Credential.Success

variable {ε δ α β : Type}

@[simp] theorem pure_eq_ok {value result : α} :
    (pure value : Except ε α) = .ok result ↔ value = result := by
  simp [pure, Except.pure]

@[simp] theorem bind_eq_ok {first : Except ε α} {next : α → Except ε β} {result : β} :
    (first >>= next) = .ok result ↔ ∃ value, first = .ok value ∧ next value = .ok result := by
  cases first with
  | error fault => simp [bind, Except.bind]
  | ok value => simp [bind, Except.bind]

theorem ok_bind (value : α) (next : α → Except ε β) : (Except.ok value >>= next) = next value :=
  rfl

theorem bind_eq_error {first : Except ε α} {next : α → Except ε β} {fault : ε} :
    (first >>= next) = .error fault ↔ first = .error fault ∨ ∃ value, first = .ok value ∧ next value = .error fault := by
  cases first with
  | error other => simp [bind, Except.bind]
  | ok value => simp [bind, Except.bind]

@[simp] theorem map_eq_ok {outcome : Except ε α} {change : α → β} {result : β} :
    change <$> outcome = .ok result ↔ ∃ value, outcome = .ok value ∧ change value = result := by
  cases outcome with
  | error fault => simp [Functor.map, Except.map]
  | ok value => simp [Functor.map, Except.map]

@[simp] theorem mapError_eq_ok {change : ε → δ} {outcome : Except ε α} {result : α} :
    outcome.mapError change = .ok result ↔ outcome = .ok result := by
  cases outcome with
  | error fault => simp [Except.mapError]
  | ok value => simp [Except.mapError]

theorem mapError_eq_error {change : ε → δ} {outcome : Except ε α} {fault : δ} :
    outcome.mapError change = .error fault ↔ ∃ first, outcome = .error first ∧ change first = fault := by
  cases outcome with
  | error first => simp [Except.mapError]
  | ok value => simp [Except.mapError]

@[simp] theorem toOption_eq_some {outcome : Except ε α} {result : α} :
    outcome.toOption = some result ↔ outcome = .ok result := by
  cases outcome with
  | error fault => simp [Except.toOption]
  | ok value => simp [Except.toOption]

theorem findSome?_toOption_eq_some {step : α → Except ε β} {items : List α} {result : β} :
    (items.findSome? fun item => (step item).toOption) = some result ↔
      ∃ before item after, items = before ++ item :: after ∧ step item = .ok result ∧
        ∀ earlier ∈ before, ∀ other, step earlier ≠ .ok other := by
  simp only [List.findSome?_eq_some_iff, toOption_eq_some, Option.eq_none_iff_forall_ne_some, ne_eq]

@[simp] theorem toOption_mapError (change : ε → δ) (outcome : Except ε α) :
    (outcome.mapError change).toOption = outcome.toOption := by
  cases outcome <;> rfl

theorem mapError_mapError {γ : Type} (first : ε → δ) (second : δ → γ) (outcome : Except ε α) :
    (outcome.mapError first).mapError second = outcome.mapError (second ∘ first) := by
  cases outcome <;> rfl

theorem mapError_bind (change : ε → δ) (first : Except ε α) (next : α → Except ε β) :
    (first >>= next).mapError change = first.mapError change >>= fun value => (next value).mapError change := by
  cases first with
  | error fault => rfl
  | ok value => rfl

theorem mapM_eq_ok {step : α → Except ε β} {items : List α} {results : List β} :
    items.mapM step = .ok results ↔ List.Forall₂ (fun item result => step item = .ok result) items results := by
  induction items generalizing results with
  | nil => cases results <;> simp [pure, Except.pure]
  | cons item rest ih =>
    simp only [List.mapM_cons, bind_eq_ok, pure_eq_ok, ih, List.forall₂_cons_left_iff]
    constructor
    · rintro ⟨result, first, others, tail, rfl⟩
      exact ⟨result, others, first, tail, rfl⟩
    · rintro ⟨result, others, first, tail, rfl⟩
      exact ⟨result, first, others, tail, rfl⟩

theorem mapM_mapError (change : ε → δ) (step : α → Except ε β) (items : List α) :
    (items.mapM step).mapError change = items.mapM fun item => (step item).mapError change := by
  induction items with
  | nil => rfl
  | cons item rest ih =>
    simp only [List.mapM_cons, mapError_bind, ← ih]
    rfl

/-! ## Faults -/

def fault? : Except ε α → Option ε
  | .error fault => some fault
  | .ok _ => none

theorem fault?_eq_some {outcome : Except ε α} {fault : ε} : fault? outcome = some fault ↔ outcome = .error fault := by
  cases outcome <;> simp [fault?]

theorem fault?_eq_none {outcome : Except ε α} : fault? outcome = none ↔ ∃ result, outcome = .ok result := by
  cases outcome <;> simp [fault?]

theorem isSome_toOption (outcome : Except ε α) : outcome.toOption.isSome = (fault? outcome).isNone := by
  cases outcome <;> rfl

theorem fault?_map (first : Except ε α) (change : α → β) :
    fault? (first >>= fun value => pure (change value)) = fault? first := by
  cases first <;> rfl

theorem fault?_mapM (step : α → Except ε β) (items : List α) :
    fault? (items.mapM step) = items.findSome? fun item => fault? (step item) := by
  induction items with
  | nil => rfl
  | cons item rest ih =>
    rw [List.mapM_cons, List.findSome?_cons]
    cases step item with
    | error fault => rfl
    | ok result =>
      rw [← ih]
      exact fault?_map ..

theorem exists_of_mapM_eq_error {step : α → Except ε β} {items : List α} {fault : ε}
    (failed : items.mapM step = .error fault) : ∃ item ∈ items, step item = .error fault := by
  have first := fault?_eq_some.mpr failed
  rw [fault?_mapM] at first
  obtain ⟨item, member, here⟩ := List.exists_of_findSome?_eq_some first
  exact ⟨item, member, fault?_eq_some.mp here⟩

theorem mapM_eq_error {step : α → Except ε β} {before after : List α} {item : α} {fault : ε}
    (passed : ∀ earlier ∈ before, ∃ result, step earlier = .ok result) (failed : step item = .error fault) :
    (before ++ item :: after).mapM step = .error fault := by
  apply fault?_eq_some.mp
  rw [fault?_mapM]
  refine List.findSome?_eq_some_iff.mpr ⟨before, item, after, rfl, fault?_eq_some.mpr failed, fun earlier member => ?_⟩
  exact fault?_eq_none.mpr (passed earlier member)

end Credential.Success
