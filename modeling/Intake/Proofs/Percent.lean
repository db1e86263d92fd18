import Intake.Config.Codec

/-!
What a valid configuration says about its run. Its percentage of failures is within the range, so it
is tolerated as it stands, and its interval of progress reports is not empty.
-/
namespace Intake

open Float.Model (UnpackedFloat) in
theorem unpacked_compare_swap (x y : UnpackedFloat) :
    y.compare x = (x.compare y).map Ordering.swap := by
  cases x with
  | notANumber => cases y <;> rfl
  | infinity s =>
    cases y with
    | infinity t => cases s <;> cases t <;> rfl
    | _ => cases s <;> rfl
  | zero s =>
    cases y with
    | infinity t => cases t <;> rfl
    | finite t => cases t <;> rfl
    | _ => rfl
  | finite s m e =>
    cases y with
    | infinity t => cases s <;> cases t <;> rfl
    | zero t => cases s <;> rfl
    | notANumber => cases s <;> rfl
    | finite t n f =>
      -- two numbers with digits: exponents first, then digits, and the other way round if negative
      have swapped : (compare f e).then (compare n m) =
          ((compare e f).then (compare m n)).swap := by
        rw [Ordering.swap_then, ← Std.OrientedOrd.eq_swap, ← Std.OrientedOrd.eq_swap]
      cases s with
      | negative =>
        cases t with
        | negative => exact congrArg (fun o => some o.swap) swapped
        | positive => rfl
      | positive =>
        cases t with
        | negative => rfl
        | positive => exact congrArg some swapped

theorem float_not_lt_of_le {a b : Float} (le : a ≤ b) : ¬ b < a := by
  intro lt
  have le' : a.toModel.unpack.le b.toModel.unpack = true := of_decide_eq_true le
  have lt' : b.toModel.unpack.lt a.toModel.unpack = true := of_decide_eq_true lt
  rw [Float.Model.UnpackedFloat.lt, unpacked_compare_swap, beq_iff_eq] at lt'
  rw [Float.Model.UnpackedFloat.le] at le'
  obtain ⟨o, compared, swapped⟩ := Option.map_eq_some_iff.mp lt'
  rw [compared] at le'
  cases o with
  | lt => cases swapped
  | eq => cases swapped
  | gt => exact absurd le' Bool.false_ne_true

open Float.Model (UnpackedFloat) in
/-- What lies between finite floats is finite. -/
theorem unpacked_finite_of_between {low high x : UnpackedFloat} (lowFinite : low.isFinite = true)
    (highFinite : high.isFinite = true) (above : low.le x = true) (below : x.le high = true) :
    x.isFinite = true := by
  cases x with
  | notANumber => cases low <;> cases above
  | infinity s =>
    cases s with
    | positive =>
      cases high with
      | infinity t => cases highFinite
      | notANumber => cases highFinite
      | zero t => cases below
      | finite t m e => cases below
    | negative =>
      cases low with
      | infinity t => cases lowFinite
      | notANumber => cases lowFinite
      | zero t => cases t <;> cases above
      | finite t m e => cases t <;> cases above
  | zero s => rfl
  | finite s m e => rfl

theorem float_finite_of_range {p : Float} (low : 0.0 ≤ p) (high : p ≤ 100.0) :
    p.isFinite = true :=
  unpacked_finite_of_between (by decide) (by decide) (of_decide_eq_true low)
    (of_decide_eq_true high)

theorem Tolerance.ofPercent_of_range {p : Float} (low : 0.0 ≤ p) (high : p ≤ 100.0) :
    ofPercent p = ⟨p⟩ := by
  rw [ofPercent, if_neg (float_not_lt_of_le low), if_neg (float_not_lt_of_le high)]

namespace Config

variable {c : Config} (valid : c.validate = .ok ())

include valid

theorem validate_ok :
    (0.0 ≤ c.settings.failureTolerance ∧ c.settings.failureTolerance ≤ 100.0) ∧
      c.settings.reportIntervalSeconds ≠ 0 := by
  have none : c.invalid? = none := by
    unfold validate at valid
    split at valid
    · assumption
    · cases valid
  unfold invalid? at none
  split at none
  · cases none
  split at none
  · cases none
  split at none
  · cases none
  rename_i inRange
  split at none
  · cases none
  rename_i positive
  exact ⟨by simpa using inRange, positive⟩

theorem tolerance_percent : c.tolerance.percent = c.settings.failureTolerance := by
  obtain ⟨⟨low, high⟩, _⟩ := validate_ok valid
  rw [tolerance, Tolerance.ofPercent_of_range low high]

theorem reportInterval_positive : c.reportInterval.isZero = false := by
  obtain ⟨_, positive⟩ := validate_ok valid
  exact beq_eq_false_iff_ne.mpr (Nat.mul_ne_zero positive (by decide))

end Config

end Intake
