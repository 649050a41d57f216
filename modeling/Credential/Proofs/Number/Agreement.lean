import Credential.Proofs.Number.Rounding

/-! When numbers agree.

Numbers of different forms are compared as doubles, so that a whole number
agrees with the double nearest to it and not only with the one that equals it.
-/

set_option autoImplicit false

namespace Credential

namespace Number

/-- A whole number and the double nearest to it, in either order. -/
inductive Rounds : Number → Number → Prop where
  | down {whole : Int} {inRange : InRange whole} {nearest : Double} : nearest.Nearest whole →
      Rounds (.integer whole inRange) (.double nearest)
  | up {whole : Int} {inRange : InRange whole} {nearest : Double} : nearest.Nearest whole →
      Rounds (.double nearest) (.integer whole inRange)

theorem exists_toDouble? {whole : Int} (inRange : InRange whole) :
    ∃ nearest : Double, (integer whole inRange).toDouble? = some nearest ∧ nearest.Nearest whole := by
  obtain ⟨low, high⟩ := inRange
  obtain ⟨nearest, rounded⟩ := @Double.exists_ofRatio?_of_lt (whole < 0) whole.natAbs (by omega)
  refine ⟨nearest, rounded, ?_⟩
  have spec := Double.nearest_ofRatio? Nat.one_pos rounded
  rw [Nat.cast_one, div_one, ← Int.cast_natCast] at spec
  split at spec
  next negative =>
    rwa [Int.ofNat_natAbs_of_nonpos (of_decide_eq_true negative).le, Int.cast_neg, neg_neg] at spec
  next positive =>
    rw [decide_eq_true_eq, not_lt] at positive
    rwa [Int.natAbs_of_nonneg positive] at spec

theorem exists_rational_eq {whole : Int} (small : |whole| < 2 ^ 53) : ∃ value : Double, value.rational = whole := by
  have magnitude : whole.natAbs < 2 ^ 53 := by
    rw [Int.abs_eq_natAbs] at small
    omega
  obtain ⟨value, rounded⟩ := @Double.exists_ofRatio?_of_lt false whole.natAbs (by omega)
  have size : |value.rational| = |(whole : ℚ)| := by
    rw [Double.abs_rational, Double.magnitude_of_lt magnitude rounded, Nat.cast_natAbs, Int.cast_abs]
  rcases abs_eq_abs.mp size with same | mirrored
  · exact ⟨value, same⟩
  · exact ⟨value.opposite, by rw [Double.rational_opposite, mirrored, neg_neg]⟩

theorem Rounds.eq_of_lt {first second : Number} (rounds : first.Rounds second) (small : |second.rational| < 2 ^ 53) :
    first.rational = second.rational := by
  have exact {whole : Int} {nearest : Double} (rounded : nearest.Nearest whole) (small : |whole| < 2 ^ 53) :
      nearest.rational = whole := by
    obtain ⟨value, same⟩ := exists_rational_eq small
    rw [← same] at rounded ⊢
    exact rounded.unique value.nearest_rational
  cases rounds with
  | up rounded =>
    rw [rational_integer] at small
    exact exact rounded (by exact_mod_cast small)
  | down rounded =>
    rw [rational_double] at small
    refine (exact rounded (not_le.mp fun far => small.not_ge (rounded.limit_le ?_))).symm
    exact_mod_cast far

/-- Numbers agree exactly if they denote the same number, or the one is the double nearest to the other. -/
theorem agrees_iff {first second : Number} :
    first.agrees second = true ↔ first.rational = second.rational ∨ first.Rounds second := by
  have mixed {whole : Int} {nearest value : Double} (rounded : nearest.Nearest whole) :
      nearest.rational = value.rational ↔ (whole : ℚ) = value.rational ∨ value.Nearest whole := by
    constructor
    · exact fun same => .inr (rounded.congr same)
    · rintro (same | other)
      · exact rounded.unique (same ▸ value.nearest_rational)
      · exact rounded.unique other
  cases first with
  | integer whole inRange =>
    cases second with
    | integer other =>
      simp only [agrees, beq_iff_eq, rational, Int.cast_inj]
      refine ⟨.inl, fun either => either.resolve_right fun rounds => ?_⟩
      cases rounds
    | double value =>
      obtain ⟨nearest, found, rounded⟩ := exists_toDouble? inRange
      have rounds : (integer whole inRange).Rounds (.double value) ↔ value.Nearest whole := by
        refine ⟨fun rounds => ?_, .down⟩
        cases rounds with
        | down nearest => exact nearest
      have compared : (integer whole inRange).agrees (.double value) = nearest.sameValue value := by
        simp only [agrees, found]
        rfl
      rw [compared, Double.sameValue_iff, mixed rounded, rounds]
      rfl
  | double value =>
    cases second with
    | integer whole inRange =>
      obtain ⟨nearest, found, rounded⟩ := exists_toDouble? inRange
      have rounds : (double value).Rounds (.integer whole inRange) ↔ value.Nearest whole := by
        refine ⟨fun rounds => ?_, .up⟩
        cases rounds with
        | up nearest => exact nearest
      have compared : (double value).agrees (.integer whole inRange) = value.sameValue nearest := by
        simp only [agrees, found]
        rfl
      rw [compared, Double.sameValue_iff, eq_comm, mixed rounded, rounds, eq_comm]
      rfl
    | double other =>
      have compared : (double value).agrees (.double other) = value.sameValue other := rfl
      rw [compared, Double.sameValue_iff]
      refine ⟨.inl, fun either => either.resolve_right fun rounds => ?_⟩
      cases rounds

end Number

end Credential
