import Intake.Proofs.Binary

/-!
The verdict on a run. The share of failures is measured in floating point numbers, with two counts,
a product and a quotient each rounded to the nearest float. So the verdict is the exact one unless
the tolerance is next to the share, and for counts of usual size the rounding never fails a run
that is within its tolerance.
-/
namespace Intake.Tolerance

open Binary64 (Exact Reads nearest value)

def measured (failed processed : ℕ) : ℚ :=
  nearest (nearest (nearest failed * 100) / nearest processed)

section Verdicts

variable {p : Float} {failed processed : ℕ}

/-- The share that the run computes is the measured one: no rounding meets the ends of the
exponents, since the counts have 64 bits and neither is zero. -/
theorem reads_share (some : 0 < failed) (within : failed ≤ processed) (bound : processed < 2 ^ 64) :
    Reads (Float.ofNat failed * 100.0 / Float.ofNat processed) (measured failed processed) := by
  have part := Binary64.reads_ofNat some (within.trans_lt bound)
  have whole := Binary64.reads_ofNat (some.trans_le within) bound
  have small : (1 : ℚ) ≤ failed := by exact_mod_cast some
  have least : (failed : ℚ) ≤ processed := by exact_mod_cast within
  have most : (processed : ℚ) ≤ 2 ^ 64 := by exact_mod_cast bound.le
  obtain ⟨partLow, partHigh⟩ := Binary64.nearest_bounds (x := failed) (by linarith)
  obtain ⟨wholeLow, wholeHigh⟩ := Binary64.nearest_bounds (x := processed) (by linarith)
  have product := part.mul Binary64.reads_hundred
    (Binary64.moderate_of_bounds (by linarith) (by linarith))
  obtain ⟨productLow, productHigh⟩ :=
    Binary64.nearest_bounds (x := nearest failed * 100) (by linarith)
  refine product.div whole (Binary64.moderate_of_bounds ?_ ?_)
  · rw [le_div_iff₀ (by linarith)]
    linarith
  · rw [div_le_iff₀ (by linarith)]
    linarith

theorem evaluate_measured (low : 0.0 ≤ p) (high : p ≤ 100.0) (some : 0 < failed)
    (within : failed ≤ processed) (bound : processed < 2 ^ 64) :
    (ofPercent p).evaluate failed processed =
      if measured failed processed ≤ value p then .partialSuccess else .failed := by
  have compared := (reads_share some within bound).le_iff low high
  rw [ofPercent_of_range low high, evaluate, if_neg some.ne', max_eq_left within]
  simp only [compared]

/-- Four roundings move the share by less than a part in 2 ^ 50. -/
theorem measured_error (some : 0 < failed) (within : failed ≤ processed) :
    |measured failed processed * processed - 100 * failed| ≤ 100 * failed / 2 ^ 50 := by
  have partPos : (0 : ℚ) < failed := by exact_mod_cast some
  have wholePos : (0 : ℚ) < processed := by exact_mod_cast some.trans_le within
  obtain ⟨partLow, partHigh⟩ := Binary64.nearest_within partPos
  obtain ⟨wholeLow, wholeHigh⟩ := Binary64.nearest_within wholePos
  have roundedWhole : 0 < nearest processed := by linarith
  obtain ⟨productLow, productHigh⟩ :=
    Binary64.nearest_within (x := nearest failed * 100) (by linarith)
  have quotientPos : 0 < nearest (nearest failed * 100) / nearest processed :=
    div_pos (by linarith) roundedWhole
  obtain ⟨shareLow, shareHigh⟩ := Binary64.nearest_within quotientPos
  rw [← measured, ← mul_div_assoc] at shareLow shareHigh
  rw [div_le_iff₀ roundedWhole] at shareLow
  rw [le_div_iff₀ roundedWhole] at shareHigh
  have share : 0 ≤ measured failed processed := by
    have positive := (Binary64.nearest_bounds quotientPos).1
    rw [← measured] at positive
    linarith
  -- the measured share times the count, and not times the rounded count
  have above := mul_le_mul_of_nonneg_left wholeHigh share
  have below := mul_le_mul_of_nonneg_left wholeLow share
  rw [mul_left_comm] at above below
  rw [abs_le]
  constructor <;> linarith

theorem measured_exact (some : 0 < failed) (within : failed ≤ processed)
    (partSmall : 25 * failed ≤ 2 ^ 53) (wholeSmall : processed ≤ 2 ^ 53) :
    measured failed processed = nearest (100 * failed / processed) := by
  have partPos : (0 : ℚ) < failed := by exact_mod_cast some
  have wholePos : (0 : ℚ) < processed := by exact_mod_cast some.trans_le within
  have part := Binary64.nearest_of_exact partPos (Binary64.exact_natCast (by omega))
  have whole := Binary64.nearest_of_exact wholePos (Binary64.exact_natCast wholeSmall)
  have scaled : Exact (failed * 100 : ℚ) := ⟨25 * failed, 2, partSmall, by push_cast; ring⟩
  have product := Binary64.nearest_of_exact (by linarith) scaled
  rw [measured, part, whole, product, mul_comm]

theorem within_of_small (low : 0.0 ≤ p) (high : p ≤ 100.0) (some : 0 < failed)
    (within : failed ≤ processed) (partSmall : 25 * failed ≤ 2 ^ 53)
    (wholeSmall : processed ≤ 2 ^ 53) (tolerated : 100 * failed ≤ value p * processed) :
    measured failed processed ≤ value p := by
  have partPos : (0 : ℚ) < failed := by exact_mod_cast some
  have wholePos : (0 : ℚ) < processed := by exact_mod_cast some.trans_le within
  rw [measured_exact some within partSmall wholeSmall]
  refine Binary64.nearest_le (by positivity) (Binary64.value_exact low high) ?_
  rwa [div_le_iff₀ wholePos]

theorem measured_le_iff (some : 0 < failed) (within : failed ≤ processed)
    (apart : 100 * failed / 2 ^ 50 < |value p * processed - 100 * failed|) :
    measured failed processed ≤ value p ↔ 100 * failed ≤ value p * processed := by
  have wholePos : (0 : ℚ) < processed := by exact_mod_cast some.trans_le within
  obtain ⟨errorLow, errorHigh⟩ := abs_le.mp (measured_error some within)
  rw [← mul_le_mul_iff_left₀ wholePos]
  rcases lt_abs.mp apart with above | below
  · exact iff_of_true (by linarith) (by linarith)
  · exact iff_of_false (by linarith) (by linarith)

/-- The verdict on a run is the one that the measured share has. It is the exact verdict unless the
tolerance and the share differ by less than a part in 2 ^ 50. Where the counts and their product
have no more than 53 digits, a run within its tolerance is never failed, and so none is failed that
tolerates everything. -/
theorem evaluate_rounded (low : 0.0 ≤ p) (high : p ≤ 100.0) (within : failed ≤ processed)
    (bound : processed < 2 ^ 64) :
    let verdict := (ofPercent p).evaluate failed processed
    (verdict = .success ↔ failed = 0) ∧
      (verdict = .partialSuccess ↔ 0 < failed ∧ measured failed processed ≤ value p) ∧
      (verdict = .failed ↔ 0 < failed ∧ value p < measured failed processed) ∧
      (0 < failed →
        |measured failed processed * processed - 100 * failed| ≤ 100 * failed / 2 ^ 50) ∧
      (0 < failed → 100 * failed / 2 ^ 50 < |value p * processed - 100 * failed| →
        (verdict = .partialSuccess ↔ 100 * failed ≤ value p * processed)) ∧
      (25 * failed ≤ 2 ^ 53 → processed ≤ 2 ^ 53 → verdict = .failed →
        value p * processed < 100 * failed ∧ p ≠ 100.0) := by
  intro verdict
  rcases Nat.eq_zero_or_pos failed with rfl | some
  · have success : verdict = .success := rfl
    simp [success]
  · have judged : verdict =
        if measured failed processed ≤ value p then .partialSuccess else .failed :=
      evaluate_measured low high some within bound
    have partialIff : verdict = .partialSuccess ↔ measured failed processed ≤ value p := by
      rw [judged]
      split <;> simp [*]
    have failedIff : verdict = .failed ↔ value p < measured failed processed := by
      rw [judged, ← not_le]
      split <;> simp [*]
    have decided : verdict ≠ .success := by
      rw [judged]
      split <;> nofun
    refine ⟨iff_of_false decided some.ne', ?_, ?_, fun _ => measured_error some within, ?_, ?_⟩
    · rw [partialIff, and_iff_right some]
    · rw [failedIff, and_iff_right some]
    · intro _ apart
      rw [partialIff]
      exact measured_le_iff some within apart
    · intro partSmall wholeSmall fails
      have exceeded : value p * processed < 100 * failed := by
        refine not_le.mp fun tolerated => ?_
        have le := within_of_small low high some within partSmall wholeSmall tolerated
        exact absurd (failedIff.mp fails) (not_lt.mpr le)
      refine ⟨exceeded, ?_⟩
      rintro rfl
      have least : (failed : ℚ) ≤ processed := by exact_mod_cast within
      rw [Binary64.reads_hundred.value_eq] at exceeded
      linarith

end Verdicts

theorem evaluate_rounded_tenth :
    (ofPercent 10.0).evaluate 1 10 ≠ .failed ∧ value 10.0 < measured 2 10 := by
  have low : (0.0 : Float) ≤ 10.0 := by decide +kernel
  have high : (10.0 : Float) ≤ 100.0 := by decide +kernel
  have one := evaluate_rounded low high (by decide : 1 ≤ 10) (by decide)
  have two := evaluate_rounded low high (by decide : 2 ≤ 10) (by decide)
  refine ⟨fun fails => ?_, ?_⟩
  · have exceeded := (one.2.2.2.2.2 (by decide) (by decide) fails).1
    exact absurd exceeded (by decide +kernel)
  · exact (two.2.2.1.mp (by decide +kernel)).2

/-- The float below a hundred ninths tolerates one failure of nine, and a count whose hundredfold
has more than 53 digits fails a run that tolerates everything. -/
theorem evaluate_inexact :
    ((0.0 : Float) ≤ 11.11111111111111 ∧ (11.11111111111111 : Float) ≤ 100.0 ∧
        (ofPercent 11.11111111111111).evaluate 1 9 = .partialSuccess ∧
        value 11.11111111111111 * ((9 : ℕ) : ℚ) < 100 * ((1 : ℕ) : ℚ)) ∧
      (ofPercent 100.0).evaluate 360287970189643 360287970189643 = .failed := by
  decide +kernel

end Intake.Tolerance
