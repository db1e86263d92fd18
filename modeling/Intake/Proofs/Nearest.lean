import Mathlib.Algebra.Order.Floor.Semifield
import Mathlib.Data.Int.Log
import Mathlib.Data.Rat.Floor
import Mathlib.Tactic.FieldSimp
import Mathlib.Tactic.Linarith
import Mathlib.Tactic.NormNum
import Mathlib.Tactic.Positivity

/-!
Rounding to 53 binary digits: to the nearest such number, and of two that are equally near to the
one whose last digit is even. The exponents are not bounded here.
-/
namespace Intake.Binary64

/-- The nearest natural number, and of two the even one. -/
def halfEven (y : ℚ) : ℕ :=
  if y - ⌊y⌋₊ < 1 / 2 then ⌊y⌋₊
  else if y - ⌊y⌋₊ = 1 / 2 then ⌊y⌋₊ + ⌊y⌋₊ % 2
  else ⌊y⌋₊ + 1

/-- The last of 53 binary digits that begin with the first digit of a number. -/
def unit (x : ℚ) : ℚ := 2 ^ (Int.log 2 x - 52)

def nearest (x : ℚ) : ℚ := halfEven (x / unit x) * unit x

/-- The number has 53 binary digits at most. -/
def Exact (v : ℚ) : Prop := ∃ k : ℕ, ∃ j : ℤ, k ≤ 2 ^ 53 ∧ v = k * 2 ^ j

section HalfEven

variable {y : ℚ} {k : ℕ}

theorem le_halfEven (below : (k : ℚ) ≤ y) : k ≤ halfEven y := by
  have floor : k ≤ ⌊y⌋₊ := Nat.le_floor below
  unfold halfEven
  split_ifs <;> omega

theorem halfEven_le (above : y ≤ k) : halfEven y ≤ k := by
  have floor : ⌊y⌋₊ ≤ k := Nat.floor_le_of_le above
  rcases Nat.lt_or_eq_of_le floor with less | same
  · unfold halfEven
    split_ifs <;> omega
  · have whole : y - ⌊y⌋₊ < 1 / 2 := by
      rw [same]
      linarith
    rw [halfEven, if_pos whole]
    exact floor

theorem halfEven_error (nonneg : 0 ≤ y) :
    |halfEven y - y| ≤ y - ⌊y⌋₊ ∧ |halfEven y - y| ≤ ⌊y⌋₊ + 1 - y := by
  have low : (⌊y⌋₊ : ℚ) ≤ y := Nat.floor_le nonneg
  have high : y < ⌊y⌋₊ + 1 := Nat.lt_floor_add_one y
  have down : |(⌊y⌋₊ : ℚ) - y| = y - ⌊y⌋₊ := by
    rw [abs_sub_comm, abs_of_nonneg (by linarith)]
  have up : |((⌊y⌋₊ : ℚ) + 1) - y| = ⌊y⌋₊ + 1 - y := abs_of_nonneg (by linarith)
  unfold halfEven
  split_ifs with less half
  · rw [down]
    constructor <;> linarith
  · rcases Nat.mod_two_eq_zero_or_one ⌊y⌋₊ with even | odd
    · rw [even, Nat.add_zero, down]
      constructor <;> linarith
    · rw [odd, Nat.cast_add, Nat.cast_one, up]
      constructor <;> linarith
  · have more : 1 / 2 < y - ⌊y⌋₊ := lt_of_le_of_ne (not_lt.mp less) (Ne.symm half)
    rw [Nat.cast_add, Nat.cast_one, up]
    constructor <;> linarith

theorem halfEven_nearest (nonneg : 0 ≤ y) (k : ℕ) : |halfEven y - y| ≤ |k - y| := by
  obtain ⟨down, up⟩ := halfEven_error nonneg
  rcases Nat.lt_or_ge ⌊y⌋₊ k with above | below
  · have next : (⌊y⌋₊ : ℚ) + 1 ≤ k := by exact_mod_cast above
    exact up.trans (le_trans (by linarith) (le_abs_self _))
  · have before : (k : ℚ) ≤ ⌊y⌋₊ := by exact_mod_cast below
    exact down.trans (le_trans (by linarith) (neg_le_abs _))

end HalfEven

section Nearest

variable {x v : ℚ}

theorem unit_pos (x : ℚ) : 0 < unit x := zpow_pos (by norm_num) _

theorem two_pow_mul_unit (n : ℕ) (x : ℚ) : 2 ^ n * unit x = 2 ^ (n + (Int.log 2 x - 52)) := by
  rw [unit, zpow_add₀ (by norm_num), zpow_natCast]

theorem unit_le (pos : 0 < x) : 2 ^ 52 * unit x ≤ x := by
  have log := Int.zpow_log_le_self (b := 2) (by norm_num) pos
  rw [two_pow_mul_unit, Nat.cast_ofNat, add_sub_cancel]
  exact_mod_cast log

theorem lt_unit (x : ℚ) : x < 2 ^ 53 * unit x := by
  have log := Int.lt_zpow_succ_log_self (b := 2) (by norm_num) x
  have exponent : ((53 : ℕ) : ℤ) + (Int.log 2 x - 52) = Int.log 2 x + 1 := by
    rw [Nat.cast_ofNat]
    ring
  rw [two_pow_mul_unit, exponent]
  exact_mod_cast log

theorem scaled_error (pos : 0 < x) (k : ℕ) :
    |nearest x - x| ≤ |k * unit x - x| ∧ |nearest x - x| ≤ unit x / 2 := by
  have unitPos := unit_pos x
  have scaled (c : ℚ) : |c * unit x - x| = |c - x / unit x| * unit x := by
    rw [← abs_of_pos unitPos, ← abs_mul, sub_mul, abs_of_pos unitPos,
      div_mul_cancel₀ x unitPos.ne']
  have nonneg : 0 ≤ x / unit x := (div_pos pos unitPos).le
  obtain ⟨down, up⟩ := halfEven_error nonneg
  refine ⟨?_, ?_⟩
  · rw [nearest, scaled, scaled]
    exact mul_le_mul_of_nonneg_right (halfEven_nearest nonneg k) unitPos.le
  · rw [nearest, scaled]
    nlinarith

theorem Exact.multiple (exact : Exact v) (reach : 2 ^ 52 * unit x ≤ v) :
    ∃ k : ℕ, v = k * unit x := by
  obtain ⟨k, j, small, rfl⟩ := exact
  rcases le_or_gt (Int.log 2 x - 52) j with fine | coarse
  · refine ⟨k * 2 ^ (j - (Int.log 2 x - 52)).toNat, ?_⟩
    rw [unit, Nat.cast_mul, Nat.cast_pow, Nat.cast_two, mul_assoc, ← zpow_natCast,
      ← zpow_add₀ (by norm_num), Int.toNat_of_nonneg (by omega), sub_add_cancel]
  · refine ⟨2 ^ 52, le_antisymm ?_ (by exact_mod_cast reach)⟩
    have smaller : (k : ℚ) ≤ 2 ^ 53 := by exact_mod_cast small
    have finer : (2 : ℚ) ^ (j + 1) ≤ unit x := zpow_le_zpow_right₀ (by norm_num) (by omega)
    calc (k : ℚ) * 2 ^ j ≤ 2 ^ 53 * 2 ^ j :=
          mul_le_mul_of_nonneg_right smaller (zpow_pos (by norm_num) j).le
      _ = 2 ^ 52 * 2 ^ (j + 1) := by rw [zpow_add_one₀ (by norm_num)]; ring
      _ ≤ ((2 ^ 52 : ℕ) : ℚ) * unit x := by push_cast; linarith

/-- No number of 53 digits is nearer. -/
theorem nearest_error (pos : 0 < x) (exact : Exact v) : |nearest x - x| ≤ |v - x| := by
  rcases le_or_gt (2 ^ 52 * unit x) v with reach | short
  · obtain ⟨k, rfl⟩ := exact.multiple reach
    exact (scaled_error pos k).1
  · have first := (scaled_error pos (2 ^ 52)).1
    have below := unit_le pos
    rw [Nat.cast_pow, Nat.cast_two] at first
    rw [abs_sub_comm (2 ^ 52 * unit x), abs_of_nonneg (sub_nonneg.mpr below)] at first
    exact first.trans (le_trans (by linarith) (neg_le_abs (v - x)))

theorem nearest_le (pos : 0 < x) (exact : Exact v) (above : x ≤ v) : nearest x ≤ v := by
  have error := nearest_error pos exact
  rw [abs_of_nonneg (sub_nonneg.mpr above)] at error
  linarith [le_abs_self (nearest x - x)]

theorem le_nearest (pos : 0 < x) (exact : Exact v) (below : v ≤ x) : v ≤ nearest x := by
  have error := nearest_error pos exact
  rw [abs_sub_comm v, abs_of_nonneg (sub_nonneg.mpr below)] at error
  linarith [neg_le_abs (nearest x - x)]

theorem nearest_of_exact (pos : 0 < x) (exact : Exact x) : nearest x = x :=
  le_antisymm (nearest_le pos exact le_rfl) (le_nearest pos exact le_rfl)

theorem nearest_relative (pos : 0 < x) : |nearest x - x| ≤ x / 2 ^ 53 := by
  have error := (scaled_error pos 0).2
  have below := unit_le pos
  linarith

theorem nearest_within (pos : 0 < x) :
    (1 - 1 / 2 ^ 53) * x ≤ nearest x ∧ nearest x ≤ (1 + 1 / 2 ^ 53) * x := by
  obtain ⟨low, high⟩ := abs_le.mp (nearest_relative pos)
  constructor <;> linarith

theorem nearest_bounds (pos : 0 < x) : x / 2 ≤ nearest x ∧ nearest x ≤ 2 * x := by
  obtain ⟨low, high⟩ := nearest_within pos
  constructor <;> linarith

theorem exact_natCast {n : ℕ} (small : n ≤ 2 ^ 53) : Exact n :=
  ⟨n, 0, small, by rw [zpow_zero, mul_one]⟩

end Nearest

end Intake.Binary64
