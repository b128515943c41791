/-
Which numbers are finite: those that rounding gives for ratios that are not too
large, and from there those that arithmetic on decimals gives.

Rounding goes by the binary logarithm of a ratio, so its specification comes
first (`zpow_floorLog2_le`, `lt_zpow_floorLog2`). It bounds the significand by
`2 ^ 53`, and the exponent field then follows the logarithm (`isFinite_round`).
-/
import CameraDriver.Number.Binary
import Mathlib.Algebra.Order.Field.Power
import Mathlib.Algebra.Order.Field.Rat
import Mathlib.Tactic.NormNum
import Mathlib.Tactic.Positivity

namespace CameraDriver.Number

-- ============================================================== logarithm

variable {num den : Nat}

/-- The test of `floorLog2` asks whether the guess is reached. -/
theorem guess_reached (hd : den ≠ 0) (guess : Int) :
    (if 0 ≤ guess then decide (den * Nat.pow 2 guess.toNat ≤ num)
      else decide (den ≤ num * Nat.pow 2 (-guess).toNat)) = true
      ↔ (2 : ℚ) ^ guess ≤ num / den := by
  have hden : (0 : ℚ) < den := Nat.cast_pos.mpr (Nat.pos_of_ne_zero hd)
  rw [le_div_iff₀ hden]
  split
  case isTrue hg =>
    obtain ⟨n, rfl⟩ := Int.eq_ofNat_of_zero_le hg
    rw [decide_eq_true_eq, Int.toNat_natCast, zpow_natCast, mul_comm]
    exact_mod_cast Iff.rfl
  case isFalse hg =>
    obtain ⟨n, hn⟩ := Int.eq_ofNat_of_zero_le (a := -guess) (by omega)
    have hguess : guess = -(n : Int) := by omega
    subst hguess
    have hpow : (0 : ℚ) < 2 ^ n := by positivity
    rw [decide_eq_true_eq, neg_neg, Int.toNat_natCast, zpow_neg, zpow_natCast,
      inv_mul_le_iff₀ hpow, mul_comm]
    exact_mod_cast Iff.rfl

/-- A ratio lies between the powers that the logarithms of its parts allow. -/
theorem log2_bounds (hn : num ≠ 0) (hd : den ≠ 0) :
    (2 : ℚ) ^ ((num.log2 : Int) - den.log2 - 1) < num / den
      ∧ (num : ℚ) / den < 2 ^ ((num.log2 : Int) - den.log2 + 1) := by
  have hden : (0 : ℚ) < den := Nat.cast_pos.mpr (Nat.pos_of_ne_zero hd)
  have hnlo : (2 : ℚ) ^ num.log2 ≤ num := by exact_mod_cast Nat.log2_self_le hn
  have hnhi : (num : ℚ) < 2 ^ (num.log2 + 1) := by exact_mod_cast Nat.lt_log2_self
  have hdlo : (2 : ℚ) ^ den.log2 ≤ den := by exact_mod_cast Nat.log2_self_le hd
  have hdhi : (den : ℚ) < 2 ^ (den.log2 + 1) := by exact_mod_cast Nat.lt_log2_self
  have htwo : (2 : ℚ) ≠ 0 := two_ne_zero
  constructor
  · rw [lt_div_iff₀ hden]
    calc (2 : ℚ) ^ ((num.log2 : Int) - den.log2 - 1) * den
        < 2 ^ ((num.log2 : Int) - den.log2 - 1) * 2 ^ (den.log2 + 1) :=
          mul_lt_mul_of_pos_left hdhi (zpow_pos two_pos _)
      _ = 2 ^ num.log2 := by
          rw [← zpow_natCast, ← zpow_natCast, ← zpow_add₀ htwo]
          congr 1
          push_cast
          omega
      _ ≤ num := hnlo
  · rw [div_lt_iff₀ hden]
    calc (num : ℚ) < 2 ^ (num.log2 + 1) := hnhi
      _ = 2 ^ ((num.log2 : Int) - den.log2 + 1) * 2 ^ den.log2 := by
          rw [← zpow_natCast, ← zpow_natCast, ← zpow_add₀ htwo]
          congr 1
          push_cast
          omega
      _ ≤ 2 ^ ((num.log2 : Int) - den.log2 + 1) * den :=
          mul_le_mul_of_nonneg_left hdlo (zpow_pos two_pos _).le

/-- The exponent of a ratio is the difference of those of its parts, or one less. -/
theorem floorLog2_eq (num : Nat) (hd : den ≠ 0) :
    floorLog2 num den =
      if (2 : ℚ) ^ ((num.log2 : Int) - den.log2) ≤ num / den then (num.log2 : Int) - den.log2
      else (num.log2 : Int) - den.log2 - 1 :=
  if_congr (guess_reached hd _) rfl rfl

/-- The logarithm is reached, -/
theorem zpow_floorLog2_le (hn : num ≠ 0) (hd : den ≠ 0) :
    (2 : ℚ) ^ floorLog2 num den ≤ num / den := by
  rw [floorLog2_eq num hd]
  split
  case isTrue h => exact h
  case isFalse => exact (log2_bounds hn hd).1.le

/-- and the next power is not. -/
theorem lt_zpow_floorLog2 (hn : num ≠ 0) (hd : den ≠ 0) :
    (num : ℚ) / den < 2 ^ (floorLog2 num den + 1) := by
  rw [floorLog2_eq num hd]
  split
  case isTrue => exact (log2_bounds hn hd).2
  case isFalse h =>
    rw [sub_add_cancel]
    exact not_le.mp h

-- =============================================================== rounding

/-- A rounded quotient is at most one above the quotient. -/
theorem divNearestEven_le (num den : Nat) : divNearestEven num den ≤ num / den + 1 := by
  unfold divNearestEven
  dsimp only
  split
  · exact Nat.le_succ _
  split
  · exact Nat.le_refl _
  split
  · exact Nat.le_succ _
  · exact Nat.le_refl _

/-- A ratio below a power of two has a significand below it too, up to the
rounding. -/
theorem divNearestEven_le_pow {k : Nat} (hd : den ≠ 0) (h : (num : ℚ) / den < 2 ^ k) :
    divNearestEven num den ≤ 2 ^ k := by
  have hden : (0 : ℚ) < den := Nat.cast_pos.mpr (Nat.pos_of_ne_zero hd)
  have hlt : num < 2 ^ k * den := by
    rw [div_lt_iff₀ hden] at h
    exact_mod_cast h
  have hdiv : num / den < 2 ^ k := (Nat.div_lt_iff_lt_mul (Nat.pos_of_ne_zero hd)).mpr hlt
  exact (divNearestEven_le num den).trans hdiv

/-- The significand that a ratio is rounded to, at an exponent. -/
def significand (num den : Nat) (q : Int) : Nat :=
  if 0 ≤ q then divNearestEven num (den * Nat.pow 2 q.toNat)
  else divNearestEven (num * Nat.pow 2 (-q).toNat) den

/-- A ratio below a power of two has a significand of that many bits. -/
theorem significand_le {k : Nat} {q : Int} (hd : den ≠ 0)
    (h : (num : ℚ) / den < 2 ^ (q + k)) : significand num den q ≤ 2 ^ k := by
  have htwo : (2 : ℚ) ≠ 0 := two_ne_zero
  have hden : (0 : ℚ) < den := Nat.cast_pos.mpr (Nat.pos_of_ne_zero hd)
  have hscaled : (num : ℚ) / den / 2 ^ q < 2 ^ k := by
    rw [div_lt_iff₀ (zpow_pos two_pos q), ← zpow_natCast, ← zpow_add₀ htwo, add_comm]
    exact h
  unfold significand
  split
  case isTrue hq =>
    obtain ⟨n, rfl⟩ := Int.eq_ofNat_of_zero_le hq
    refine divNearestEven_le_pow (Nat.mul_ne_zero hd (Nat.pow_pos two_pos).ne') ?_
    rw [Int.toNat_natCast]
    push_cast
    rw [← div_div]
    exact_mod_cast hscaled
  case isFalse hq =>
    obtain ⟨n, hn⟩ := Int.eq_ofNat_of_zero_le (a := -q) (by omega)
    have hneg : q = -(n : Int) := by omega
    subst hneg
    refine divNearestEven_le_pow hd ?_
    rw [neg_neg, Int.toNat_natCast]
    rw [zpow_neg, zpow_natCast, div_inv_eq_mul, div_mul_eq_mul_div] at hscaled
    exact_mod_cast hscaled

-- ======================================================== double precision

namespace Binary64

/-- The exponent field. -/
def field (x : Binary64) : Nat := x.bits.toNat / 2 ^ 52 % 2 ^ 11

/-- The bits behind the exponent field. -/
def fraction (x : Binary64) : Nat := x.bits.toNat % 2 ^ 52

/-- What a pattern stands for is told by its exponent field. -/
theorem unpack_eq (x : Binary64) :
    x.unpack =
      if x.field = 2047 then
        if x.fraction = 0 then .infinite (x.bits.toNat.testBit 63) else .nan
      else if x.field = 0 then .finite (x.bits.toNat.testBit 63) x.fraction (-1074)
      else .finite (x.bits.toNat.testBit 63) (2 ^ 52 + x.fraction) (-1074 + (x.field - 1 : Nat)) :=
  rfl

/-- A number is finite if its exponent field is not the top one. -/
theorem isFinite_iff (x : Binary64) : x.isFinite = true ↔ x.field ≠ 2047 := by
  unfold isFinite
  rw [unpack_eq]
  by_cases htop : x.field = 2047
  · -- the infinities, and what is not a number
    rw [if_pos htop]
    by_cases hzero : x.fraction = 0
    · rw [if_pos hzero]
      simp [htop]
    · rw [if_neg hzero]
      simp [htop]
  · -- zeros and subnormal numbers, or normal ones
    rw [if_neg htop]
    by_cases hzero : x.field = 0
    · rw [if_pos hzero]
      simp [htop]
    · rw [if_neg hzero]
      simp [htop]

/-- A finite number has a significand of 53 bits and an exponent in range. -/
theorem exists_finite {x : Binary64} (h : x.isFinite = true) :
    ∃ s m q, x.unpack = .finite s m q ∧ m < 2 ^ 53 ∧ -1074 ≤ q ∧ q ≤ 971 := by
  have htop := (isFinite_iff x).mp h
  have hfraction : x.fraction < 2 ^ 52 := Nat.mod_lt _ (Nat.pow_pos two_pos)
  have hfield : x.field < 2 ^ 11 := Nat.mod_lt _ (Nat.pow_pos two_pos)
  rw [unpack_eq, if_neg htop]
  by_cases hzero : x.field = 0
  · rw [if_pos hzero]
    exact ⟨_, _, _, rfl, by omega, by omega, by omega⟩
  · rw [if_neg hzero]
    exact ⟨_, _, _, rfl, by omega, by omega, by omega⟩

/-- The exponent field of a pattern is its eleven bits behind the sign. -/
theorem field_ofPattern {n : Nat} (h : n < 2 ^ 64) :
    (ofPattern n).field = n / 2 ^ 52 % 2 ^ 11 := by
  unfold field ofPattern
  rw [UInt64.toNat_ofNat', Nat.mod_eq_of_lt h]

/-- The sign is no part of the exponent field. -/
theorem isFinite_negate (x : Binary64) : x.negate.isFinite = x.isFinite := by
  have hfield : x.negate.field = x.field := by
    unfold field negate
    rw [UInt64.toNat_xor, ← Nat.shiftRight_eq_div_pow, ← Nat.shiftRight_eq_div_pow,
      Nat.shiftRight_xor_distrib, Nat.xor_mod_two_pow]
    exact Nat.xor_zero _
  rw [Bool.eq_iff_iff, isFinite_iff, isFinite_iff, hfield]

/-- The exponent at which a ratio is rounded. -/
def roundingExponent (num den : Nat) : Int := max (-1074) (floorLog2 num den - 52)

/-- A ratio is rounded to the pattern of its exponent and significand. -/
theorem round_pattern (negative : Bool) (den : Nat) (hn : num ≠ 0) :
    Format.double.round negative num den =
      (if negative then 2 ^ 63 else 0)
        + min ((roundingExponent num den + 1074).toNat * 2 ^ 52
            + significand num den (roundingExponent num den)) (2047 * 2 ^ 52) := by
  unfold Format.round
  rw [if_neg hn]
  rfl

/-- A pattern of a sign and an exponent field below the top one. -/
theorem isFinite_of_pattern (negative : Bool) {packed : Nat} (h : packed < 2047 * 2 ^ 52) :
    (ofPattern ((if negative then 2 ^ 63 else 0) + packed)).isFinite = true := by
  rw [isFinite_iff]
  cases negative with
  | true =>
      rw [if_pos rfl, field_ofPattern (by omega)]
      omega
  | false =>
      rw [if_neg Bool.false_ne_true, field_ofPattern (by omega)]
      omega

/-- A ratio that is not too large is rounded to a finite number. -/
theorem isFinite_round (negative : Bool) {k : Nat} (hk : k ≤ 1023) (hd : den ≠ 0)
    (h : (num : ℚ) / den < 2 ^ k) : (round negative num den).isFinite = true := by
  unfold round
  by_cases hn : num = 0
  · rw [hn]
    have hzero : 0 < 2047 * 2 ^ 52 := by decide
    exact isFinite_of_pattern negative hzero
  · have hlog : floorLog2 num den < k := by
      have hpow := (zpow_floorLog2_le hn hd).trans_lt h
      rw [← zpow_natCast] at hpow
      exact (zpow_lt_zpow_iff_right₀ one_lt_two).mp hpow
    have hq : roundingExponent num den = max (-1074) (floorLog2 num den - 52) := rfl
    have hm : significand num den (roundingExponent num den) ≤ 2 ^ 53 := by
      refine significand_le hd ((lt_zpow_floorLog2 hn hd).trans_le ?_)
      exact zpow_le_zpow_right₀ one_lt_two.le (by push_cast; omega)
    have hpacked : (roundingExponent num den + 1074).toNat * 2 ^ 52
        + significand num den (roundingExponent num den) < 2047 * 2 ^ 52 := by omega
    rw [round_pattern negative den hn, Nat.min_eq_left hpacked.le]
    exact isFinite_of_pattern negative hpacked

/-- A count below 2^64 is a finite float. -/
theorem isFinite_ofNat {n : Nat} (h : n < 2 ^ 64) : (ofNat n).isFinite = true := by
  refine isFinite_round false (k := 64) (by decide) one_ne_zero ?_
  rw [Nat.cast_one, div_one]
  exact_mod_cast h

-- =============================================================== decimals

/-- A significand and an exponent make a ratio of counts. -/
theorem ratio_eq (m : Nat) (q : Int) :
    (ratio m q).2 ≠ 0 ∧ ((ratio m q).1 : ℚ) / (ratio m q).2 = m * 2 ^ q := by
  unfold ratio
  split
  case isTrue hq =>
    obtain ⟨n, rfl⟩ := Int.eq_ofNat_of_zero_le hq
    refine ⟨one_ne_zero, ?_⟩
    rw [Int.toNat_natCast, zpow_natCast, Nat.cast_one, div_one]
    exact_mod_cast rfl
  case isFalse hq =>
    obtain ⟨n, hn⟩ := Int.eq_ofNat_of_zero_le (a := -q) (by omega)
    have hneg : q = -(n : Int) := by omega
    subst hneg
    refine ⟨(Nat.pow_pos two_pos).ne', ?_⟩
    rw [neg_neg, Int.toNat_natCast, zpow_neg, zpow_natCast, ← div_eq_mul_inv]
    exact_mod_cast rfl

/-- A finite number divided by one that is at least two is finite. -/
theorem isFinite_dividedBy {x y : Binary64} (hx : x.isFinite = true) (hlo : 1024 ≤ y.field)
    (hhi : y.field < 2047) : (x.dividedBy y).isFinite = true := by
  obtain ⟨s, m, q, hxu, hm, -, hq⟩ := exists_finite hx
  obtain ⟨t, n, r, hyu, hn, hr⟩ : ∃ t n r, y.unpack = .finite t n r ∧ 2 ^ 52 ≤ n ∧ -51 ≤ r := by
    rw [unpack_eq, if_neg (by omega), if_neg (by omega)]
    exact ⟨_, _, _, rfl, by omega, by omega⟩
  obtain ⟨hd, hratio⟩ := ratio_eq m (q - r)
  have hn0 : n ≠ 0 := by omega
  have hnpos : (0 : ℚ) < n := Nat.cast_pos.mpr (Nat.pos_of_ne_zero hn0)
  have hlt : ((ratio m (q - r)).1 : ℚ) / ((ratio m (q - r)).2 * n : Nat) < 2 ^ 1023 := by
    rw [Nat.cast_mul, ← div_div, hratio, div_lt_iff₀ hnpos]
    calc (m : ℚ) * 2 ^ (q - r)
        ≤ m * 2 ^ (1022 : Int) :=
          mul_le_mul_of_nonneg_left (zpow_le_zpow_right₀ one_lt_two.le (by omega))
            (Nat.cast_nonneg m)
      _ < 2 ^ 53 * 2 ^ (1022 : Int) :=
          mul_lt_mul_of_pos_right (by exact_mod_cast hm) (zpow_pos two_pos _)
      _ = 2 ^ 1023 * 2 ^ 52 := by
          rw [zpow_ofNat, ← pow_add, ← pow_add]
      _ ≤ 2 ^ 1023 * n := mul_le_mul_of_nonneg_left (by exact_mod_cast hn) (by positivity)
  unfold dividedBy
  rw [hxu, hyu]
  exact isFinite_round _ (le_refl _) (Nat.mul_ne_zero hd hn0) hlt

/-- The powers of ten that numbers are divided by are finite, and at least
two. -/
theorem field_tenPower : ∀ n < maxTenPower + 1, n ≠ 0 →
    1024 ≤ (ofNat (Nat.pow 10 n)).field ∧ (ofNat (Nat.pow 10 n)).field < 2047 := by
  decide +kernel

/-- A step towards a power of ten that succeeds stays finite. -/
theorem isFinite_timesTenStep? {fuel : Nat} {x y : Binary64} {power : Int} (hx : x.isFinite = true)
    (h : timesTenStep? fuel x power = some y) : y.isFinite = true := by
  induction fuel generalizing x power with
  | zero =>
      rw [← Option.some.inj h]
      exact hx
  | succ fuel ih =>
      -- a division is by one of the powers
      have hdivided : power < 0 →
          (x.dividedBy (ofNat (Nat.pow 10 (min power.natAbs maxTenPower)))).isFinite = true := by
        intro hneg
        obtain ⟨hlo, hhi⟩ := field_tenPower (min power.natAbs maxTenPower)
          (Nat.lt_succ_of_le (Nat.min_le_right _ _)) (by unfold maxTenPower; omega)
        exact isFinite_dividedBy hx hlo hhi
      unfold timesTenStep? at h
      dsimp only at h
      split at h
      case isTrue =>
        split at h
        case isTrue hneg =>
          rw [← Option.some.inj h]
          exact hdivided hneg
        case isFalse => exact (Option.filter_eq_some_iff.mp h).2
      case isFalse hlarge =>
        split at h
        case isTrue =>
          rw [← Option.some.inj h]
          exact hx
        case isFalse =>
          split at h
          case isTrue => cases h
          case isFalse hpos => exact ih (hdivided (by omega)) h

/-- A finite number times a power of ten is finite, or none. -/
theorem isFinite_timesTenTo? {x y : Binary64} {power : Int} (hx : x.isFinite = true)
    (h : x.timesTenTo? power = some y) : y.isFinite = true :=
  isFinite_timesTenStep? hx h

-- =============================================================== equality

/-- A finite number equals itself. -/
theorem same_self {x : Binary64} (h : x.isFinite = true) : x.same x = true := by
  obtain ⟨s, m, q, hx, -, -, -⟩ := exists_finite h
  unfold same
  rw [hx]
  split <;> simp_all

theorem same_comm (x y : Binary64) : x.same y = y.same x := by
  unfold same
  rcases x.unpack with _ | _ | ⟨_, _ | _, _⟩ <;> rcases y.unpack with _ | _ | ⟨_, _ | _, _⟩ <;>
    first | rfl | exact Bool.beq_comm

end Binary64

end CameraDriver.Number
