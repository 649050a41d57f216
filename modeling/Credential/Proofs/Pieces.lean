import Credential.Text.Pieces

/-! Text that is cut at a separator. -/

set_option autoImplicit false

namespace Credential

variable {separator : Char} {text : List Char}

theorem pieces_eq_splitOn (separator : Char) (text : List Char) : pieces separator text = text.splitOn separator := by
  induction text with
  | nil => rfl
  | cons c rest ih =>
    rw [pieces, List.splitOn_cons_eq_if_modifyHead, ih]
    by_cases same : c = separator
    · simp [same]
    · cases cut : rest.splitOn separator with
      | nil => exact absurd cut (List.splitOn_ne_nil separator rest)
      | cons first others => simp [same]

theorem pieces_append {first head : List Char} {others : List (List Char)} (free : separator ∉ first)
    (cut : pieces separator text = head :: others) : pieces separator (first ++ text) = (first ++ head) :: others := by
  induction first with
  | nil => exact cut
  | cons c rest ih =>
    obtain ⟨differs, free⟩ := List.ne_and_not_mem_of_not_mem_cons free
    rw [List.cons_append, pieces, if_neg (Ne.symm differs), ih free]
    rfl

theorem not_mem_of_mem_pieces {piece : List Char} (cut : piece ∈ pieces separator text) : separator ∉ piece := by
  induction text generalizing piece with
  | nil =>
    obtain rfl := List.mem_singleton.mp cut
    exact List.not_mem_nil
  | cons c rest ih =>
    rw [pieces] at cut
    split at cut
    · rcases List.mem_cons.mp cut with rfl | cut
      · exact List.not_mem_nil
      · exact ih cut
    next differs =>
      split at cut
      next =>
        obtain rfl := List.mem_singleton.mp cut
        simpa using Ne.symm differs
      next first others whole =>
        rw [whole] at ih
        rcases List.mem_cons.mp cut with rfl | cut
        · exact List.not_mem_cons_of_ne_of_not_mem (Ne.symm differs) (ih List.mem_cons_self)
        · exact ih (List.mem_cons_of_mem first cut)

end Credential
