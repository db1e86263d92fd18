import Intake.Proofs.Nearest
import Intake.Proofs.Percent
import Mathlib

/-!
Arithmetic of positive floating point numbers. Where no exponent comes near its bounds, each
operation gives the nearest float to the exact result, and floats compare as what they stand for.
-/
namespace Intake.Binary64

open Float.Model (UnpackedFloat Format totalExponent)
open Float.Model.UnpackedFloat (Accuracy ExtendedMantissa roundWithAccuracy shiftToTargetExponent)

/-- What a whole number stands for together with a round bit and a sticky bit. -/
inductive Stands : ExtendedMantissa → ℚ → Prop where
  | whole {m : ℕ} {y : ℚ} (same : y = m) : Stands ⟨m, false, false⟩ y
  | low {m : ℕ} {y : ℚ} (above : m < y) (below : y < m + 1 / 2) : Stands ⟨m, false, true⟩ y
  | half {m : ℕ} {y : ℚ} (same : y = m + 1 / 2) : Stands ⟨m, true, false⟩ y
  | high {m : ℕ} {y : ℚ} (above : m + 1 / 2 < y) (below : y < m + 1) : Stands ⟨m, true, true⟩ y

namespace Stands

variable {em : ExtendedMantissa} {y : ℚ}

theorem bounds (stands : Stands em y) : (em.mantissa : ℚ) ≤ y ∧ y < em.mantissa + 1 := by
  cases stands <;> constructor <;> simp only <;> linarith

theorem floor (stands : Stands em y) : ⌊y⌋₊ = em.mantissa := by
  obtain ⟨low, high⟩ := stands.bounds
  exact (Nat.floor_eq_iff (le_trans (Nat.cast_nonneg _) low)).mpr ⟨low, high⟩

theorem rounded (stands : Stands em y) : em.roundedMantissa = halfEven y := by
  rw [halfEven, stands.floor]
  cases stands with
  | whole same =>
    rw [if_pos (by simp only; linarith)]
    rfl
  | low above below =>
    rw [if_pos (by simp only; linarith)]
    rfl
  | half same =>
    rw [if_neg (by simp only; linarith), if_pos (by simp only; linarith)]
    rfl
  | high above below =>
    rw [if_neg (by simp only; linarith), if_neg (by simp only; linarith)]
    rfl

/-- The digit that is cut off becomes the round bit, and what was behind it is not forgotten. -/
theorem shiftRightOne (stands : Stands em y) : Stands em.shiftRightOne (y / 2) := by
  have halves : ((em.mantissa / 2 : ℕ) : ℚ) * 2 + ((em.mantissa % 2 : ℕ) : ℚ) = em.mantissa := by
    exact_mod_cast Nat.div_add_mod' em.mantissa 2
  rcases Nat.mod_two_eq_zero_or_one em.mantissa with even | odd
  · rw [even, Nat.cast_zero, add_zero] at halves
    have shifted : em.shiftRightOne =
        ⟨em.mantissa / 2, false, em.roundBit || em.stickyBit⟩ := by
      rw [ExtendedMantissa.shiftRightOne, even]
      rfl
    rw [shifted]
    cases stands with
    | whole same => exact .whole (by linarith)
    | low above below => exact .low (by linarith) (by linarith)
    | half same => exact .low (by linarith) (by linarith)
    | high above below => exact .low (by linarith) (by linarith)
  · rw [odd, Nat.cast_one] at halves
    have shifted : em.shiftRightOne =
        ⟨em.mantissa / 2, true, em.roundBit || em.stickyBit⟩ := by
      rw [ExtendedMantissa.shiftRightOne, odd]
      rfl
    rw [shifted]
    cases stands with
    | whole same => exact .half (by linarith)
    | low above below => exact .high (by linarith) (by linarith)
    | half same => exact .high (by linarith) (by linarith)
    | high above below => exact .high (by linarith) (by linarith)

theorem shiftRight (stands : Stands em y) (k : ℕ) : Stands (em >>> k) (y / 2 ^ k) := by
  change Stands (Nat.repeat ExtendedMantissa.shiftRightOne k em) _
  induction k with
  | zero =>
    rw [pow_zero, div_one]
    exact stands
  | succ k ih =>
    rw [pow_succ, ← div_div]
    exact ih.shiftRightOne

end Stands

/-- Where the least exponent is out of reach, 53 digits are left. -/
theorem targetExponent_eq {m : ℕ} {e : ℤ} (reach : -1074 ≤ m.log2 + e - 52) :
    Format.binary64.targetExponent (totalExponent m e) = m.log2 + e - 52 := by
  simp only [Format.targetExponent, totalExponent, Format.mantissaBits, Format.minExponent]
  norm_num
  omega

/-- The float is positive, has its full 53 digits, and is of this value. -/
def Normal (u : UnpackedFloat) (x : ℚ) : Prop :=
  ∃ r s h, u = .finite .positive r s h ∧ (2 ^ 52 ≤ r ∧ r < 2 ^ 53) ∧ (-1074 ≤ s ∧ s ≤ 971) ∧
    x = r * 2 ^ s

theorem shiftToTarget_eq {m : ℕ} {e : ℤ} {a : Accuracy} (digits : 52 ≤ m.log2)
    (reach : -1074 ≤ m.log2 + e - 52) :
    shiftToTargetExponent Format.binary64 m e a =
      (ExtendedMantissa.ofMantissaAndAccuracy m a >>> (m.log2 - 52), m.log2 + e - 52) := by
  have amount : (m.log2 + e - 52 - e).toNat = m.log2 - 52 := by omega
  simp only [shiftToTargetExponent, targetExponent_eq reach,
    Float.Model.UnpackedFloat.shiftToExponent, amount]
  congr 1
  omega

theorem roundWithAccuracy_finite {m : ℕ} {e t s : ℤ} {a : Accuracy} {em em' : ExtendedMantissa}
    (first : shiftToTargetExponent Format.binary64 m e a = (em, t))
    (second : shiftToTargetExponent Format.binary64 em.roundedMantissa t .exact = (em', s))
    (positive : 0 < em'.mantissa) :
    roundWithAccuracy Format.binary64 .positive m e a =
      .finite .positive em'.mantissa s positive := by
  unfold roundWithAccuracy
  rw [first]
  dsimp only
  rw [second]
  exact dif_neg positive.ne'

/-- After rounding up to a power of two there is one digit too many, and it is zero. -/
theorem carry_normal {em : ExtendedMantissa} {m : ℕ} {e t : ℤ} {a : Accuracy}
    (first : shiftToTargetExponent Format.binary64 m e a = (em, t))
    (low : 2 ^ 52 ≤ em.roundedMantissa) (high : em.roundedMantissa ≤ 2 ^ 53)
    (least : -1074 ≤ t) (greatest : t ≤ 970) :
    Normal (roundWithAccuracy Format.binary64 .positive m e a) (em.roundedMantissa * 2 ^ t) := by
  have nonzero : em.roundedMantissa ≠ 0 := by omega
  -- rounding up to a power of two leaves one digit too many, and that digit is zero
  rcases Nat.lt_or_eq_of_le high with small | carry
  · have log : em.roundedMantissa.log2 = 52 := (Nat.log2_eq_iff nonzero).mpr ⟨low, small⟩
    have second := shiftToTarget_eq (e := t) (a := .exact) log.ge (by omega)
    rw [log, Nat.cast_ofNat, add_sub_cancel_left] at second
    exact ⟨em.roundedMantissa, t, Nat.pos_of_ne_zero nonzero,
      roundWithAccuracy_finite first second (Nat.pos_of_ne_zero nonzero), ⟨low, small⟩,
      ⟨least, by omega⟩, rfl⟩
  · have log : em.roundedMantissa.log2 = 53 := by rw [carry, Nat.log2_two_pow]
    have second := shiftToTarget_eq (e := t) (a := .exact) (by rw [log]; decide) (by omega)
    rw [log] at second
    have half : (ExtendedMantissa.ofMantissaAndAccuracy em.roundedMantissa .exact >>>
        (53 - 52)).mantissa = 2 ^ 52 := by
      rw [carry]
      rfl
    have positive := Nat.pos_of_ne_zero (half.trans_ne (by decide : 2 ^ 52 ≠ 0))
    refine ⟨_, _, positive, roundWithAccuracy_finite first second positive, ?_, ?_, ?_⟩
    · rw [half]
      decide
    · omega
    · have next : ((53 : ℕ) : ℤ) + t - 52 = t + 1 := by omega
      rw [half, carry, next, zpow_add_one₀ (by norm_num)]
      push_cast
      ring

theorem mantissa_ofAccuracy (m : ℕ) (a : Accuracy) :
    (ExtendedMantissa.ofMantissaAndAccuracy m a).mantissa = m := by
  rcases a with _ | order
  · rfl
  · cases order <;> rfl

theorem log_scaled {m : ℕ} {e : ℤ} {y : ℚ} (positive : 0 < m) (low : (m : ℚ) ≤ y)
    (high : y < m + 1) : Int.log 2 (y * 2 ^ e) = m.log2 + e := by
  have scale : (0 : ℚ) < 2 ^ e := zpow_pos (by norm_num) e
  have below : (2 : ℚ) ^ m.log2 ≤ y :=
    le_trans (by exact_mod_cast Nat.log2_self_le positive.ne') low
  have above : y < 2 ^ (m.log2 + 1) :=
    lt_of_lt_of_le high (by exact_mod_cast Nat.succ_le_of_lt Nat.lt_log2_self)
  have pos : 0 < y * 2 ^ e := mul_pos (lt_of_lt_of_le (by positivity) below) scale
  refine le_antisymm (Int.lt_add_one_iff.mp ?_) ?_
  · refine (Int.lt_zpow_iff_log_lt (by norm_num) pos).mp ?_
    rw [add_right_comm, zpow_add₀ (by norm_num)]
    exact mul_lt_mul_of_pos_right (by exact_mod_cast above) scale
  · refine (Int.zpow_le_iff_le_log (by norm_num) pos).mp ?_
    rw [zpow_add₀ (by norm_num)]
    exact mul_le_mul_of_nonneg_right (by exact_mod_cast below) scale.le

/-- Rounding what a mantissa and an accuracy stand for gives the nearest float. -/
theorem round_normal {m : ℕ} {e : ℤ} {a : Accuracy} {y : ℚ} (digits : 52 ≤ m.log2)
    (stands : Stands (ExtendedMantissa.ofMantissaAndAccuracy m a) y)
    (low : 2 ^ (-1000 : ℤ) ≤ y * 2 ^ e) (high : y * 2 ^ e ≤ 2 ^ (960 : ℤ)) :
    Normal (roundWithAccuracy Format.binary64 .positive m e a) (nearest (y * 2 ^ e)) := by
  have positive : 0 < m := by
    rcases Nat.eq_zero_or_pos m with rfl | positive
    · simp at digits
    · exact positive
  have bounds := stands.bounds
  rw [mantissa_ofAccuracy] at bounds
  have log := log_scaled (e := e) positive bounds.1 bounds.2
  have pos : 0 < y * 2 ^ e := lt_of_lt_of_le (zpow_pos (by norm_num) _) low
  have logLow := (Int.zpow_le_iff_le_log (b := 2) (by norm_num) pos).mp low
  have logHigh : Int.log 2 (y * 2 ^ e) ≤ 960 := by
    have least := Int.zpow_log_le_self (b := 2) (by norm_num) pos
    exact (zpow_le_zpow_iff_right₀ (by norm_num : (1 : ℚ) < 2)).mp (le_trans least high)
  rw [log] at logLow logHigh
  -- cutting off all but 53 digits is division by the unit of the nearest float
  have value : y * 2 ^ e / unit (y * 2 ^ e) = y / 2 ^ (m.log2 - 52) := by
    have exponent : (m.log2 : ℤ) + e - 52 = e + ((m.log2 - 52 : ℕ) : ℤ) := by omega
    have scale : (2 : ℚ) ^ e ≠ 0 := (zpow_pos (by norm_num) e).ne'
    rw [unit, log, exponent, zpow_add₀ (by norm_num), zpow_natCast, mul_comm y,
      mul_div_mul_left _ _ scale]
  have first := shiftToTarget_eq (a := a) digits (e := e) (by omega)
  have rounded := (stands.shiftRight (m.log2 - 52)).rounded
  rw [← value] at rounded
  have unitPos := unit_pos (y * 2 ^ e)
  have least : 2 ^ 52 ≤ halfEven (y * 2 ^ e / unit (y * 2 ^ e)) :=
    le_halfEven ((le_div_iff₀ unitPos).mpr (by exact_mod_cast unit_le pos))
  have greatest : halfEven (y * 2 ^ e / unit (y * 2 ^ e)) ≤ 2 ^ 53 :=
    halfEven_le ((div_le_iff₀ unitPos).mpr (by exact_mod_cast (lt_unit _).le))
  rw [← rounded] at least greatest
  rw [nearest, ← rounded, unit, log]
  exact carry_normal first least greatest (by omega) (by omega)

/-- A product or quotient is within these bounds, so that neither end of the exponents matters. -/
def Moderate (x : ℚ) : Prop := 2 ^ (-1000 : ℤ) ≤ x ∧ x ≤ 2 ^ (960 : ℤ)

section Operations

variable {u v : UnpackedFloat} {x y : ℚ}

theorem log2_of_digits {r : ℕ} (digits : 2 ^ 52 ≤ r ∧ r < 2 ^ 53) : r.log2 = 52 :=
  (Nat.log2_eq_iff (by omega)).mpr digits

theorem Normal.mul (first : Normal u x) (second : Normal v y) (moderate : Moderate (x * y)) :
    Normal (UnpackedFloat.mul Format.binary64 u v) (nearest (x * y)) := by
  obtain ⟨m, e, _, rfl, ⟨mLow, _⟩, _, rfl⟩ := first
  obtain ⟨n, f, _, rfl, ⟨nLow, _⟩, _, rfl⟩ := second
  have value : (m : ℚ) * 2 ^ e * (n * 2 ^ f) = ((m * n : ℕ) : ℚ) * 2 ^ (e + f) := by
    rw [zpow_add₀ (by norm_num), Nat.cast_mul]
    ring
  have digits : 52 ≤ (m * n).log2 := by
    have least : 2 ^ 52 ≤ m * n := le_trans mLow (Nat.le_mul_of_pos_right m (by omega))
    exact (Nat.le_log2 (by omega)).mpr least
  obtain ⟨low, high⟩ := moderate
  rw [value] at low high ⊢
  exact round_normal digits (.whole rfl) low high

/-- The remainder of a division says on which side of the middle the quotient is. -/
theorem stands_fraction (m n : ℕ) (positive : 0 < n) :
    Stands (ExtendedMantissa.ofMantissaAndAccuracy (m / n)
      (Float.Model.UnpackedFloat.accuracyOfFraction (m % n) n)) (m / n : ℚ) := by
  have nPos : (0 : ℚ) < n := by exact_mod_cast positive
  have parts : (m : ℚ) = n * (m / n : ℕ) + (m % n : ℕ) := by
    exact_mod_cast (Nat.div_add_mod m n).symm
  have less : ((m % n : ℕ) : ℚ) < n := by exact_mod_cast Nat.mod_lt m positive
  have quotient : (m : ℚ) / n = (m / n : ℕ) + (m % n : ℕ) / n := by
    rw [parts, add_div, mul_div_cancel_left₀ _ nPos.ne']
  rw [quotient]
  have part : ((m % n : ℕ) : ℚ) / n < 1 := (div_lt_one nPos).mpr less
  unfold Float.Model.UnpackedFloat.accuracyOfFraction
  split
  · rename_i whole
    rw [whole, Nat.cast_zero, zero_div, add_zero]
    exact .whole rfl
  · rename_i rest
    have some : 0 < ((m % n : ℕ) : ℚ) / n :=
      div_pos (by exact_mod_cast Nat.pos_of_ne_zero rest) nPos
    cases half : compare (2 * (m % n)) n with
    | lt =>
      have below : ((m % n : ℕ) : ℚ) / n < 1 / 2 := by
        rw [div_lt_div_iff₀ nPos (by norm_num)]
        exact_mod_cast by linarith [Nat.compare_eq_lt.mp half]
      exact .low (by linarith) (by linarith)
    | eq =>
      have same : ((m % n : ℕ) : ℚ) / n = 1 / 2 := by
        rw [div_eq_div_iff nPos.ne' (by norm_num)]
        exact_mod_cast by linarith [Nat.compare_eq_eq.mp half]
      exact .half (by rw [same])
    | gt =>
      have above : 1 / 2 < ((m % n : ℕ) : ℚ) / n := by
        rw [div_lt_div_iff₀ (by norm_num) nPos]
        exact_mod_cast by linarith [Nat.compare_eq_gt.mp half]
      exact .high (by linarith) (by linarith)

theorem divCore_eq {m n : ℕ} {e f : ℤ} (mDigits : m.log2 = 52) (nDigits : n.log2 = 52)
    (reach : -1021 ≤ e - f) :
    Float.Model.UnpackedFloat.divCore Format.binary64 m e n f =
      ((m <<< 53) / n, e - f - 53,
        Float.Model.UnpackedFloat.accuracyOfFraction ((m <<< 53) % n) n) := by
  have target : min (e - f) (Format.binary64.targetExponent
      (totalExponent m e - totalExponent n f)) = e - f - 53 := by
    simp only [Format.targetExponent, totalExponent, mDigits, nDigits, Format.mantissaBits,
      Format.minExponent]
    norm_num
    omega
  have amount : (e - f - (e - f - 53)).toNat = 53 := by omega
  simp only [Float.Model.UnpackedFloat.divCore, target, amount]

theorem div_positive {m n r : ℕ} {e f s : ℤ} {h : 0 < m} {h' : 0 < n} {a : Accuracy}
    (core : Float.Model.UnpackedFloat.divCore Format.binary64 m e n f = (r, s, a)) :
    UnpackedFloat.div Format.binary64 (.finite .positive m e h) (.finite .positive n f h') =
      roundWithAccuracy Format.binary64 .positive r s a := by
  unfold UnpackedFloat.div
  dsimp only
  rw [core]
  rfl

theorem Normal.div (first : Normal u x) (second : Normal v y) (moderate : Moderate (x / y)) :
    Normal (UnpackedFloat.div Format.binary64 u v) (nearest (x / y)) := by
  obtain ⟨m, e, mPos, rfl, mDigits, _, rfl⟩ := first
  obtain ⟨n, f, nPos, rfl, nDigits, _, rfl⟩ := second
  obtain ⟨low, high⟩ := moderate
  have scale : (2 : ℚ) ^ f ≠ 0 := (zpow_pos (by norm_num) f).ne'
  have nonzero : (0 : ℚ) < n := by exact_mod_cast nPos
  have value : (m : ℚ) * (2 : ℚ) ^ e / (n * (2 : ℚ) ^ f) =
      ((m <<< 53 : ℕ) : ℚ) / n * (2 : ℚ) ^ (e - f - 53) := by
    rw [Nat.shiftLeft_eq, zpow_sub₀ (by norm_num), zpow_sub₀ (by norm_num), Nat.cast_mul]
    push_cast
    field_simp
  -- a moderate quotient keeps the least exponent out of reach
  have reach : -1021 ≤ e - f := by
    have ratio : (m : ℚ) / n ≤ 2 := by
      rw [div_le_iff₀ nonzero]
      exact_mod_cast by omega
    have split : (m : ℚ) * 2 ^ e / (n * 2 ^ f) = m / n * 2 ^ (e - f) := by
      rw [zpow_sub₀ (by norm_num), mul_div_mul_comm]
    have bound : (2 : ℚ) ^ (-1000 : ℤ) ≤ 2 ^ (e - f + 1) := by
      rw [zpow_add_one₀ (by norm_num), mul_comm]
      rw [split] at low
      exact low.trans (mul_le_mul_of_nonneg_right ratio (zpow_pos (by norm_num) _).le)
    have exponents := (zpow_le_zpow_iff_right₀ (by norm_num : (1 : ℚ) < 2)).mp bound
    omega
  have digits : 52 ≤ ((m <<< 53) / n).log2 := by
    have least : 2 ^ 52 ≤ (m <<< 53) / n := by
      rw [Nat.le_div_iff_mul_le nPos, Nat.shiftLeft_eq]
      exact Nat.mul_le_mul mDigits.1 nDigits.2.le
    exact (Nat.le_log2 (by omega)).mpr least
  have core := divCore_eq (log2_of_digits mDigits) (log2_of_digits nDigits) reach
  rw [value] at low high ⊢
  rw [div_positive core]
  exact round_normal digits (stands_fraction (m <<< 53) n nPos) low high

end Operations

section Words

open Float.Model.UnpackedFloat (Sign packComponents unpackExponent unpackMantissa unpackSign)

theorem finite_congr {s t : Sign} {m n : ℕ} {e f : ℤ} {h : 0 < m} {h' : 0 < n} (sign : s = t)
    (mantissa : m = n) (exponent : e = f) :
    UnpackedFloat.finite s m e h = .finite t n f h' := by
  subst sign mantissa exponent
  rfl

theorem leading_toNat (v : BitVec 52) : (1#1 ++ v).toNat = 2 ^ 52 + v.toNat := by
  rw [BitVec.toNat_append, Nat.shiftLeft_eq]
  change 2 ^ 52 ||| v.toNat = 2 ^ 52 + v.toNat
  rw [Nat.or_comm, Nat.or_two_pow_eq_add_of_lt v.isLt, Nat.add_comm]

theorem unpack_word (b : BitVec Format.binary64.numBits) (finite : unpackExponent b ≠ -1#11)
    (normal : unpackExponent b ≠ 0#11) :
    ∃ h, UnpackedFloat.unpack Format.binary64 b =
      .finite (.ofBitVec (unpackSign b)) (1#1 ++ unpackMantissa b).toNat
        ((unpackExponent b).toNat - 1075) h :=
  ⟨_, (if_neg finite).trans (if_neg normal)⟩

theorem unpack_components {e : BitVec 11} (m : BitVec 52) (normal : 0 < e.toNat)
    (finite : e.toNat < 2047) :
    ∃ h, UnpackedFloat.unpack Format.binary64 (packComponents Format.binary64 .positive e m) =
      .finite .positive (2 ^ 52 + m.toNat) (e.toNat - 1075) h := by
  have exponent : unpackExponent (packComponents Format.binary64 .positive e m) = e :=
    Float.Model.UnpackedFloat.unpackExponent_packComponents ..
  have mantissa : unpackMantissa (packComponents Format.binary64 .positive e m) = m :=
    Float.Model.UnpackedFloat.unpackMantissa_packComponents ..
  have top : e ≠ -1#11 := fun same => by
    rw [same] at finite
    exact absurd finite (by decide)
  have bottom : e ≠ 0#11 := fun same => by
    rw [same] at normal
    exact absurd normal (by decide)
  obtain ⟨_, unpacked⟩ := unpack_word (packComponents Format.binary64 .positive e m)
    (exponent.trans_ne top) (exponent.trans_ne bottom)
  have sign : Sign.ofBitVec (unpackSign (packComponents Format.binary64 .positive e m)) =
      .positive := by
    rw [Float.Model.UnpackedFloat.unpackSign_packComponents, Sign.ofBitVec_toBitVec]
  refine ⟨Nat.add_pos_left (by decide) _, unpacked.trans ?_⟩
  exact finite_congr sign (by rw [mantissa, leading_toNat]) (by rw [exponent])

theorem pack_digits {r : ℕ} {s : ℤ} {h : 0 < r} (digits : 2 ^ 52 ≤ r ∧ r < 2 ^ 53)
    (least : -1074 ≤ s) (greatest : s ≤ 971) :
    UnpackedFloat.pack Format.binary64 (.finite .positive r s h) =
      packComponents Format.binary64 .positive (BitVec.ofNat 11 (s + 1075).toNat)
        (BitVec.ofNat 52 r) := by
  have full : r.log2 + 1 = 53 := by rw [log2_of_digits digits]
  have biased : (s + ((1023 : ℕ) : ℤ) + ((52 : ℕ) : ℤ)).toNat = (s + 1075).toNat := by omega
  rw [← biased]
  refine (if_neg ?_).trans (if_pos full)
  change ¬ 2048 ≤ (s + ((1023 : ℕ) : ℤ) + ((52 : ℕ) : ℤ)).toNat + 1
  omega

variable {u : UnpackedFloat} {x : ℚ}

theorem Normal.unpack_pack (normal : Normal u x) : (Float.Model.pack u).unpack = u := by
  obtain ⟨r, s, h, rfl, digits, ⟨least, greatest⟩, _⟩ := normal
  have exponent : (BitVec.ofNat 11 (s + 1075).toNat).toNat = (s + 1075).toNat := by
    rw [BitVec.toNat_ofNat]
    omega
  have mantissa : 2 ^ 52 + (BitVec.ofNat 52 r).toNat = r := by
    rw [BitVec.toNat_ofNat]
    omega
  change UnpackedFloat.unpack Format.binary64 (UnpackedFloat.pack Format.binary64 _) = _
  rw [pack_digits digits least greatest]
  obtain ⟨_, unpacked⟩ := unpack_components (BitVec.ofNat 52 r)
    (by rw [exponent]; omega) (by rw [exponent]; omega)
  refine unpacked.trans (finite_congr rfl mantissa ?_)
  rw [exponent]
  omega

theorem unpack_canonical {v : Float.Model} {s : Sign} {m : ℕ} {e : ℤ} {h : 0 < m}
    (found : v.unpack = .finite s m e h) : m < 2 ^ 53 ∧ (2 ^ 52 ≤ m ∨ e = -1074) := by
  have bound := (@unpackMantissa Format.binary64 v.toBits.toBitVec).isLt
  unfold Float.Model.unpack UnpackedFloat.unpack at found
  dsimp only at found
  -- the greatest exponent is that of infinities; below the least one the first digit may be zero
  split at found
  · split at found <;> cases found
  · split at found
    · rename_i least
      split at found
      · cases found
      · cases found
        refine ⟨by change _ < 2 ^ 52 at bound; omega, .inr ?_⟩
        rw [least]
        rfl
    · cases found
      have digits := leading_toNat (@unpackMantissa Format.binary64 v.toBits.toBitVec)
      change _ < 2 ^ 52 at bound
      exact ⟨by omega, .inl (by omega)⟩

theorem compare_canonical {m n : ℕ} {e f : ℤ} (full : 2 ^ 52 ≤ m ∧ m < 2 ^ 53) (least : -1074 ≤ e)
    (small : n < 2 ^ 53) (canonical : 2 ^ 52 ≤ n ∨ f = -1074) :
    ((compare e f).then (compare m n)).isLE = true ↔ (m : ℚ) * 2 ^ e ≤ n * 2 ^ f := by
  -- one more in the exponent outweighs all the digits of the other number
  have step (a b : ℤ) (less : a < b) : (2 : ℚ) ^ 53 * 2 ^ a ≤ 2 ^ 52 * 2 ^ b := by
    have power : (2 : ℚ) ^ (a + 1) ≤ 2 ^ b := zpow_le_zpow_right₀ (by norm_num) less
    rw [zpow_add_one₀ (by norm_num)] at power
    linarith
  have scale (c d : ℕ) (j : ℤ) (less : c < d) : (c : ℚ) * 2 ^ j < d * 2 ^ j :=
    mul_lt_mul_of_pos_right (by exact_mod_cast less) (zpow_pos (by norm_num) j)
  have scale' (c d : ℕ) (j : ℤ) (le : c ≤ d) : (c : ℚ) * 2 ^ j ≤ d * 2 ^ j :=
    mul_le_mul_of_nonneg_right (by exact_mod_cast le) (zpow_pos (by norm_num) j).le
  rcases lt_trichotomy e f with less | same | more
  · rw [Int.compare_eq_lt.mpr less]
    have digits : 2 ^ 52 ≤ n := canonical.resolve_right (by omega)
    have below := scale m (2 ^ 53) e full.2
    have above := scale' (2 ^ 52) n f digits
    push_cast at below above
    exact iff_of_true rfl (by linarith [step e f less])
  · rw [same, Int.compare_eq_eq.mpr rfl]
    change (compare m n).isLE = true ↔ _
    rw [Nat.isLE_compare]
    refine ⟨scale' m n f, fun le => ?_⟩
    exact Nat.le_of_not_lt fun less => absurd le (not_le.mpr (scale n m f less))
  · rw [Int.compare_eq_gt.mpr more]
    have below := scale n (2 ^ 53) f small
    have above := scale' (2 ^ 52) m e full.1
    push_cast at below above
    exact iff_of_false Bool.false_ne_true (by linarith [step f e more])

end Words

def value (f : Float) : ℚ :=
  match f.toModel.unpack with
  | .finite s m e _ => s.apply m * 2 ^ e
  | _ => 0

theorem unpack_percent {p : Float} (low : 0.0 ≤ p) (high : p ≤ 100.0) :
    (∃ s, p.toModel.unpack = .zero s) ∨
      ∃ n f h, p.toModel.unpack = .finite .positive n f h ∧
        n < 2 ^ 53 ∧ (2 ^ 52 ≤ n ∨ f = -1074) := by
  have finite : p.toModel.unpack.isFinite = true := float_finite_of_range low high
  have above : (UnpackedFloat.zero .positive).le p.toModel.unpack = true := of_decide_eq_true low
  cases stored : p.toModel.unpack with
  | notANumber =>
    rw [stored] at finite
    cases finite
  | infinity s =>
    rw [stored] at finite
    cases finite
  | zero s => exact .inl ⟨s, rfl⟩
  | finite s n f h =>
    cases s with
    | negative =>
      rw [stored] at above
      cases above
    | positive => exact .inr ⟨n, f, h, rfl, unpack_canonical stored⟩

theorem value_exact {p : Float} (low : 0.0 ≤ p) (high : p ≤ 100.0) : Exact (value p) := by
  rw [value]
  rcases unpack_percent low high with ⟨s, stored⟩ | ⟨n, f, h, stored, small, -⟩
  · rw [stored]
    exact ⟨0, 0, by decide, by norm_num⟩
  · rw [stored]
    exact ⟨n, f, small.le, rfl⟩

def Reads (f : Float) (x : ℚ) : Prop := Normal f.toModel.unpack x

namespace Reads

variable {a b p : Float} {x y : ℚ}

theorem positive (reads : Reads a x) : 0 < x := by
  obtain ⟨r, s, h, _, _, _, rfl⟩ := reads
  exact mul_pos (by exact_mod_cast h) (zpow_pos (by norm_num) s)

theorem value_eq (reads : Reads a x) : value a = x := by
  obtain ⟨r, s, h, found, _, _, rfl⟩ := reads
  rw [value, found]
  rfl

theorem mul (first : Reads a x) (second : Reads b y) (moderate : Moderate (x * y)) :
    Reads (a * b) (nearest (x * y)) := by
  have product := Normal.mul first second moderate
  rw [Reads]
  change Normal (Float.Model.pack (UnpackedFloat.mul Format.binary64 _ _)).unpack _
  rw [product.unpack_pack]
  exact product

theorem div (first : Reads a x) (second : Reads b y) (moderate : Moderate (x / y)) :
    Reads (a / b) (nearest (x / y)) := by
  have quotient := Normal.div first second moderate
  rw [Reads]
  change Normal (Float.Model.pack (UnpackedFloat.div Format.binary64 _ _)).unpack _
  rw [quotient.unpack_pack]
  exact quotient

theorem le_iff (reads : Reads a x) (low : 0.0 ≤ p) (high : p ≤ 100.0) : a ≤ p ↔ x ≤ value p := by
  have pos := reads.positive
  have compared : a ≤ p ↔ a.toModel.unpack.le p.toModel.unpack = true :=
    ⟨of_decide_eq_true, decide_eq_true⟩
  obtain ⟨m, e, h, found, full, ⟨least, _⟩, rfl⟩ := reads
  rw [compared, found, value]
  rcases unpack_percent low high with ⟨s, stored⟩ | ⟨n, f, h', stored, small, canonical⟩
  · rw [stored]
    exact iff_of_false Bool.false_ne_true (not_le.mpr pos)
  · rw [stored]
    exact compare_canonical full least small canonical

end Reads

theorem moderate_of_bounds {x : ℚ} (low : 1 / 2 ^ 100 ≤ x) (high : x ≤ 2 ^ 100) : Moderate x := by
  have small : (2 : ℚ) ^ (-1000 : ℤ) ≤ 2 ^ (-100 : ℤ) :=
    zpow_le_zpow_right₀ (by norm_num) (by norm_num)
  have large : (2 : ℚ) ^ (100 : ℤ) ≤ 2 ^ (960 : ℤ) :=
    zpow_le_zpow_right₀ (by norm_num) (by norm_num)
  have least : (2 : ℚ) ^ (-100 : ℤ) = 1 / 2 ^ 100 := by rw [zpow_neg, one_div]; rfl
  exact ⟨small.trans (least.le.trans low), high.trans (le_trans (by norm_num) large)⟩

theorem shift_value (n k : ℕ) : ((n <<< k : ℕ) : ℚ) * 2 ^ (-(k : ℤ)) = n := by
  rw [Nat.shiftLeft_eq, Nat.cast_mul, Nat.cast_pow, Nat.cast_two, zpow_neg, zpow_natCast,
    mul_inv_cancel_right₀ (by positivity)]

theorem reads_one : Reads (Float.ofBits 4607182418800017408) 1 :=
  ⟨2 ^ 52, -52, by decide, rfl, by decide, by decide, by norm_num⟩

section Counts

variable {n : ℕ} (positive : 0 < n) (bound : n < 2 ^ 64)

include positive

include bound in
theorem moderate_natCast : Moderate (n : ℚ) := by
  have low : (1 : ℚ) ≤ n := by exact_mod_cast positive
  have high : (n : ℚ) ≤ 2 ^ 64 := by exact_mod_cast bound.le
  exact moderate_of_bounds (by linarith) (by linarith)

theorem round_count (small : n < 2 ^ 53) :
    UnpackedFloat.round Format.binary64 .positive n 0 =
      roundWithAccuracy Format.binary64 .positive (n <<< (52 - n.log2))
        (-((52 - n.log2 : ℕ) : ℤ)) .exact := by
  have digits : n.log2 < 53 := (Nat.log2_lt positive.ne').mpr small
  have target := targetExponent_eq (m := n) (e := 0) (by omega)
  have amount : (0 - ((n.log2 : ℤ) + 0 - 52)).toNat = 52 - n.log2 := by omega
  simp only [UnpackedFloat.round, Float.Model.UnpackedFloat.decreaseExponent, target, amount]
  rw [zero_sub]

theorem normal_shifted (bound : n < 2 ^ 64) {k : ℕ} (full : 2 ^ 52 ≤ n <<< k) :
    Normal (roundWithAccuracy Format.binary64 .positive (n <<< k) (-(k : ℤ)) .exact)
      (nearest n) := by
  have digits : 52 ≤ (n <<< k).log2 := (Nat.le_log2 (by omega)).mpr full
  have value := shift_value n k
  obtain ⟨low, high⟩ := moderate_natCast positive bound
  have normal := round_normal (a := .exact) digits (.whole rfl)
    (by rw [value]; exact low) (by rw [value]; exact high)
  rwa [value] at normal

theorem normal_count (bound : n < 2 ^ 64) (small : n < 2 ^ 53) :
    Normal (UnpackedFloat.ofNat Format.binary64 n) (nearest n) := by
  have digits : n.log2 < 53 := (Nat.log2_lt positive.ne').mpr small
  have rounded : UnpackedFloat.ofNat Format.binary64 n =
      UnpackedFloat.round Format.binary64 .positive n 0 := by
    unfold UnpackedFloat.ofNat UnpackedFloat.ofInt UnpackedFloat.normalize
    rw [Int.compare_eq_gt.mpr (by omega)]
    rfl
  have full : 2 ^ 52 ≤ n <<< (52 - n.log2) := by
    rw [Nat.shiftLeft_eq]
    calc 2 ^ 52 = 2 ^ n.log2 * 2 ^ (52 - n.log2) := by rw [← pow_add]; congr 1; omega
      _ ≤ n * 2 ^ (52 - n.log2) := Nat.mul_le_mul_right _ (Nat.log2_self_le positive.ne')
  rw [rounded, round_count positive small]
  exact normal_shifted positive bound full

theorem normal_large (bound : n < 2 ^ 64) (large : 2 ^ 53 ≤ n) :
    Normal (UnpackedFloat.ofScientific Format.binary64 n 0) (nearest n) := by
  have scientific : UnpackedFloat.ofScientific Format.binary64 n 0 =
      roundWithAccuracy Format.binary64 .positive (n <<< 53 * 1) (-53) .exact := by
    have exponents : (2 : ℤ) ^ Format.binary64.exponentBits = 2048 := rfl
    have least : ¬ (0 : ℤ) < -(2 ^ Format.binary64.exponentBits + (n.log2 : ℤ)) := by omega
    unfold UnpackedFloat.ofScientific
    rw [dif_neg positive.ne', if_neg (by decide), if_neg least, if_pos le_rfl]
    rfl
  rw [scientific, mul_one]
  refine normal_shifted positive bound (k := 53) ?_
  rw [Nat.shiftLeft_eq]
  omega

/-- A count of 64 bits becomes the float that is nearest to it. -/
theorem reads_ofNat (bound : n < 2 ^ 64) : Reads (Float.ofNat n) (nearest n) := by
  have pos : (0 : ℚ) < n := by exact_mod_cast positive
  rcases Nat.lt_or_ge n (2 ^ 53) with small | large
  · have scaled : Float.ofNat n = n.toUInt64.toFloat * Float.ofBits 4607182418800017408 :=
      dif_pos ⟨small, by decide⟩
    have normal := normal_count positive bound small
    have converted : Reads n.toUInt64.toFloat (nearest n) := by
      change Normal (Float.Model.pack
        (UnpackedFloat.ofNat Format.binary64 n.toUInt64.toNat)).unpack _
      rw [UInt64.toNat_ofNat_of_lt' bound, normal.unpack_pack]
      exact normal
    have exact : nearest n = n := nearest_of_exact pos (exact_natCast small.le)
    have product := converted.mul reads_one
      (by rw [mul_one, exact]; exact moderate_natCast positive bound)
    rw [mul_one, exact, exact] at product
    rw [scaled, exact]
    exact product
  · have scientific : Float.ofNat n = ⟨Float.Model.ofScientific n 0⟩ :=
      dif_neg fun both => absurd both.1 (by omega)
    have normal := normal_large positive bound large
    rw [scientific]
    change Normal (Float.Model.pack (UnpackedFloat.ofScientific Format.binary64 n 0)).unpack _
    rw [normal.unpack_pack]
    exact normal

end Counts

theorem reads_hundred : Reads 100.0 100 :=
  ⟨25 * 2 ^ 48, -46, by decide, rfl, by decide, by decide, by norm_num⟩

end Intake.Binary64
