import CubebOss.Stream
import Mathlib.Data.Int.Log
import Mathlib.Data.Rat.Floor

/-!
This file models the IEEE 754 arithmetic that the sample converters of the OSS backend rely on:
the binary formats of `float` and `double`, rounding to nearest with ties to even, the product
of two values, the conversion of a `double` to a `float`, and the conversion of a value to a
signed integer type, which C leaves undefined when the value is not finite or its integer part
does not fit.

A finite value is the exact rational it denotes, and an operation rounds its exact result
once, as IEEE 754 requires; the sign of a zero plays no part in the converters and is not kept.
The main fact is that rounding leaves a value of the format as it is
(`FloatFormat.round_of_represents`): every product the converters compute on their usual inputs
is exact, and the proofs about them run on rationals. Where a product is not exact, what the
converters need is that its rounding is again a value of the format, of the same sign, and no
larger than `1` when the exact product is not (`round_represents`, `round_sign`,
`round_of_abs_le_one`).
-/

namespace Cubeb.Oss

/-! ### Binary formats and rounding -/

/-- An IEEE 754 binary format: the number of bits of a significand, the exponent of the last
place of the subnormal values, and the exponent of the largest binade. -/
structure FloatFormat where
  precision : Nat
  minExponent : Int
  maxExponent : Int
  deriving DecidableEq, Repr

/-- `float`: IEEE 754 binary32. -/
def binary32 : FloatFormat := ⟨24, -149, 127⟩

/-- `double`: IEEE 754 binary64. -/
def binary64 : FloatFormat := ⟨53, -1074, 1023⟩

namespace FloatFormat

/-- The finite values of a format: a significand of at most `precision` bits times a power of
two no finer than the last place of the subnormals, below the overflow threshold
`2 ^ (maxExponent + 1)`. -/
def Represents (F : FloatFormat) (value : ℚ) : Prop :=
  ∃ significand exponent : ℤ, value = significand * 2 ^ exponent ∧
    significand.natAbs < 2 ^ F.precision ∧ F.minExponent ≤ exponent ∧
    |value| < 2 ^ (F.maxExponent + 1)

/-- The exponent of the last place of the format's values around `value`: `precision - 1`
places below its binary logarithm, and never below the subnormals' last place. -/
def quantum (F : FloatFormat) (value : ℚ) : ℤ :=
  max F.minExponent (Int.log 2 |value| - (F.precision - 1))

end FloatFormat

/-- The integer nearest to a rational, the even one at a tie. -/
def roundHalfEven (value : ℚ) : ℤ :=
  if value - ⌊value⌋ < 1 / 2 then ⌊value⌋
  else if 1 / 2 < value - ⌊value⌋ then ⌊value⌋ + 1
  else if ⌊value⌋ % 2 = 0 then ⌊value⌋ else ⌊value⌋ + 1

/-- Rounding to nearest, ties to even: the multiple of the last place nearest to `value`, or
the infinity of its sign when that multiple reaches the overflow threshold. -/
def FloatFormat.round (F : FloatFormat) (value : ℚ) : FloatValue :=
  let rounded : ℚ := roundHalfEven (value / 2 ^ F.quantum value) * 2 ^ F.quantum value
  if 2 ^ (F.maxExponent + 1) ≤ |rounded| then .infinity (rounded < 0) else .finite rounded

namespace FloatValue

/-- The product in a format, as IEEE 754 defines it: the exact product of two finite values
rounded once; NaN from a NaN or from a zero times an infinity; otherwise the infinity of the
product's sign. -/
def mul (F : FloatFormat) : FloatValue → FloatValue → FloatValue
  | finite first, finite second => F.round (first * second)
  | nan, _ => nan
  | _, nan => nan
  | infinity negative, finite second =>
    if second = 0 then nan else infinity (negative != decide (second < 0))
  | finite first, infinity negative =>
    if first = 0 then nan else infinity (decide (first < 0) != negative)
  | infinity first, infinity second => infinity (first != second)

/-- A conversion into a narrower format, as from `double` to `float`: a finite value is rounded,
an infinity and NaN are kept. -/
def narrow (F : FloatFormat) : FloatValue → FloatValue
  | finite value => F.round value
  | other => other

end FloatValue

/-- The integer part of a rational, truncated toward zero. -/
def truncate (value : ℚ) : ℤ :=
  if 0 ≤ value then ⌊value⌋ else ⌈value⌉

/-- The conversion of a floating value to a signed integer type of `bits` bits: the value
truncated toward zero, or `none` where C leaves the conversion undefined -- NaN, an infinity,
or an integer part outside the type. -/
def FloatValue.toSigned (bits : Nat) : FloatValue → Option ℤ
  | finite value =>
    if -2 ^ (bits - 1) ≤ truncate value ∧ truncate value < 2 ^ (bits - 1) then
      some (truncate value)
    else none
  | _ => none

/-! ### Rounding to an integer -/

theorem roundHalfEven_add_of_lt_half (base : ℤ) {fraction : ℚ} (nonneg : 0 ≤ fraction)
    (belowHalf : fraction < 1 / 2) : roundHalfEven (base + fraction) = base := by
  have floor : ⌊(base : ℚ) + fraction⌋ = base := by
    rw [Int.floor_int_add, Int.floor_eq_zero_iff.mpr ⟨nonneg, by linarith⟩, add_zero]
  simp only [roundHalfEven, floor, add_sub_cancel_left, if_pos belowHalf]

theorem roundHalfEven_add_of_half_lt (base : ℤ) {fraction : ℚ} (aboveHalf : 1 / 2 < fraction)
    (belowOne : fraction < 1) : roundHalfEven (base + fraction) = base + 1 := by
  have floor : ⌊(base : ℚ) + fraction⌋ = base := by
    rw [Int.floor_int_add, Int.floor_eq_zero_iff.mpr ⟨by linarith, belowOne⟩, add_zero]
  simp only [roundHalfEven, floor, add_sub_cancel_left, if_neg (not_lt.mpr aboveHalf.le),
    if_pos aboveHalf]

@[simp]
theorem roundHalfEven_intCast (value : ℤ) : roundHalfEven value = value := by
  simpa using roundHalfEven_add_of_lt_half value le_rfl one_half_pos

/-- Rounding to an integer picks the floor, or the next integer when the fraction is at least a
half. -/
theorem roundHalfEven_cases (value : ℚ) :
    roundHalfEven value = ⌊value⌋ ∨
      (roundHalfEven value = ⌊value⌋ + 1 ∧ 1 / 2 ≤ value - ⌊value⌋) := by
  unfold roundHalfEven
  split_ifs with below
  · exact .inl rfl
  · exact .inr ⟨rfl, not_lt.mp below⟩
  · exact .inl rfl
  · exact .inr ⟨rfl, not_lt.mp below⟩

/-- Rounding to an integer stays within an integer bound on the magnitude. -/
theorem abs_roundHalfEven_le {value : ℚ} {bound : ℤ} (within : |value| ≤ bound) :
    |roundHalfEven value| ≤ bound := by
  rw [abs_le] at within ⊢
  have lower : -bound ≤ ⌊value⌋ := Int.le_floor.mpr (by push_cast; exact within.1)
  have upper : ⌊value⌋ ≤ bound := (Int.floor_le_floor within.2).trans (Int.floor_intCast bound).le
  rcases roundHalfEven_cases value with nearest | ⟨nearest, half⟩ <;> rw [nearest]
  · exact ⟨lower, upper⟩
  · have below : (⌊value⌋ : ℚ) < bound := by linarith
    have below : ⌊value⌋ < bound := by exact_mod_cast below
    omega

/-- Rounding to an integer keeps the sign, weakly. -/
theorem roundHalfEven_sign (value : ℚ) :
    (0 ≤ value → 0 ≤ roundHalfEven value) ∧ (value ≤ 0 → roundHalfEven value ≤ 0) := by
  refine ⟨fun nonneg => ?_, fun nonpos => ?_⟩ <;>
    rcases roundHalfEven_cases value with nearest | ⟨nearest, half⟩ <;> rw [nearest]
  · exact Int.floor_nonneg.mpr nonneg
  · exact (Int.floor_nonneg.mpr nonneg).trans (Int.le_add_one le_rfl)
  · exact Int.floor_nonpos nonpos
  · have negative : (⌊value⌋ : ℚ) < 0 := by linarith
    have negative : ⌊value⌋ < 0 := by exact_mod_cast negative
    omega

/-! ### Rounding keeps the format's values -/

namespace FloatFormat

variable {F : FloatFormat}

theorem abs_mul_two_zpow (value : ℚ) (exponent : ℤ) :
    |value * 2 ^ exponent| = |value| * 2 ^ exponent := by
  rw [abs_mul, abs_of_pos (zpow_pos (two_pos : (0 : ℚ) < 2) exponent)]

theorem abs_significand_lt {significand : ℤ} (bits : significand.natAbs < 2 ^ F.precision) :
    |(significand : ℚ)| < 2 ^ F.precision := by
  rw [← Int.cast_abs, ← Nat.cast_natAbs]
  exact_mod_cast bits

/-- A nonzero value of a format is a whole number of its own last places: its binary logarithm
is below the significand's bit count plus its exponent. -/
theorem quantum_le_exponent {value : ℚ} {significand exponent : ℤ}
    (denotes : value = significand * 2 ^ exponent) (bits : significand.natAbs < 2 ^ F.precision)
    (above : F.minExponent ≤ exponent) (nonzero : value ≠ 0) :
    F.quantum value ≤ exponent := by
  have magnitude : |value| < 2 ^ ((F.precision : ℤ) + exponent) := by
    rw [denotes, abs_mul_two_zpow, zpow_add₀ two_ne_zero, zpow_natCast]
    exact mul_lt_mul_of_pos_right (abs_significand_lt bits) (zpow_pos two_pos _)
  have log : Int.log 2 |value| < F.precision + exponent :=
    (Int.lt_zpow_iff_log_lt (by norm_num) (abs_pos.mpr nonzero)).mp (by exact_mod_cast magnitude)
  exact max_le above (by omega)

/-- The last place of a value whose binary logarithm is `log`. -/
theorem quantum_of_bounds {value : ℚ} (log : ℤ) (lower : 2 ^ log ≤ |value|)
    (upper : |value| < 2 ^ (log + 1)) :
    F.quantum value = max F.minExponent (log - (F.precision - 1)) := by
  have positive : 0 < |value| := (zpow_pos two_pos log).trans_le lower
  have exact : Int.log 2 |value| = log :=
    le_antisymm
      (Int.lt_add_one_iff.mp ((Int.lt_zpow_iff_log_lt one_lt_two positive).mp
        (by exact_mod_cast upper)))
      ((Int.zpow_le_iff_le_log one_lt_two positive).mp (by exact_mod_cast lower))
  rw [quantum, exact]

/-- Scaled to its last place, a value of a format is an integer. -/
theorem div_quantum_eq_int {value : ℚ} (represents : F.Represents value) :
    ∃ scaled : ℤ, value / 2 ^ F.quantum value = scaled := by
  obtain ⟨significand, exponent, rfl, bits, above, -⟩ := represents
  rcases eq_or_ne ((significand : ℚ) * 2 ^ exponent) 0 with zero | nonzero
  · exact ⟨0, by simp [zero]⟩
  have below := quantum_le_exponent rfl bits above nonzero
  refine ⟨significand * 2 ^ (exponent - F.quantum (significand * 2 ^ exponent)).toNat, ?_⟩
  rw [Int.cast_mul, Int.cast_pow, Int.cast_two, ← zpow_natCast,
    Int.toNat_of_nonneg (by omega), zpow_sub₀ two_ne_zero, mul_div_assoc]

/-- Rounding leaves a value of the format as it is. -/
theorem round_of_represents {value : ℚ} (represents : F.Represents value) :
    F.round value = .finite value := by
  obtain ⟨scaled, onGrid⟩ := div_quantum_eq_int represents
  have rounded : (roundHalfEven (value / 2 ^ F.quantum value) : ℚ) * 2 ^ F.quantum value =
      value := by
    rw [onGrid, roundHalfEven_intCast, ← onGrid, div_mul_cancel₀ _ (zpow_ne_zero _ two_ne_zero)]
  obtain ⟨-, -, -, -, -, bound⟩ := represents
  simp only [round, rounded, if_neg (not_le.mpr bound)]

/-- A value of magnitude at most `2 ^ 32` is below the overflow threshold of a format whose
largest binade lies above it. -/
theorem lt_overflow {value : ℚ} (small : |value| ≤ 2 ^ 32) (room : 32 < F.maxExponent + 1) :
    |value| < 2 ^ (F.maxExponent + 1) :=
  small.trans_lt <| by
    rw [← zpow_natCast]
    exact zpow_lt_zpow_right₀ one_lt_two (by exact_mod_cast room)

/-- Rounding a value, given its last place and the integer nearest to it in those places. -/
theorem round_of_nearest {value : ℚ} {exponent nearest : ℤ} (quantum : F.quantum value = exponent)
    (rounds : roundHalfEven (value / 2 ^ exponent) = nearest)
    (bound : |(nearest * 2 ^ exponent : ℚ)| < 2 ^ (F.maxExponent + 1)) :
    F.round value = .finite (nearest * 2 ^ exponent) := by
  simp only [round, quantum, rounds, if_neg (not_le.mpr bound)]

/-- A value of the format times a power of two is one too, below the overflow threshold. -/
theorem Represents.mul_two_pow {value : ℚ} (represents : F.Represents value) (shift : ℕ)
    (bound : |value * 2 ^ shift| < 2 ^ (F.maxExponent + 1)) :
    F.Represents (value * 2 ^ shift) := by
  obtain ⟨significand, exponent, denotes, bits, above, -⟩ := represents
  refine ⟨significand, exponent + shift, ?_, bits, by omega, bound⟩
  rw [denotes, zpow_add₀ two_ne_zero, zpow_natCast, mul_assoc]

/-! ### What rounding returns -/

/-- A finite rounding is the nearest multiple of the last place, below the overflow
threshold. -/
theorem round_finite {value rounded : ℚ} (finite : F.round value = .finite rounded) :
    rounded = roundHalfEven (value / 2 ^ F.quantum value) * 2 ^ F.quantum value ∧
      |rounded| < 2 ^ (F.maxExponent + 1) := by
  simp only [round] at finite
  split at finite
  · cases finite
  · cases finite
    exact ⟨rfl, not_le.mp ‹_›⟩

/-- Scaled to its last place, a value is at most `2 ^ precision` in magnitude. -/
theorem abs_div_quantum_le (value : ℚ) : |value / 2 ^ F.quantum value| ≤ 2 ^ F.precision := by
  rcases eq_or_ne value 0 with zero | nonzero
  · simp [zero]
  have log : |value| < 2 ^ (Int.log 2 |value| + 1) := by
    exact_mod_cast Int.lt_zpow_succ_log_self one_lt_two |value|
  have above : Int.log 2 |value| - (F.precision - 1) ≤ F.quantum value := le_max_right _ _
  rw [abs_div, abs_of_pos (zpow_pos (two_pos : (0 : ℚ) < 2) _), div_le_iff₀ (zpow_pos two_pos _),
    ← zpow_natCast,
    ← zpow_add₀ two_ne_zero]
  exact log.le.trans (zpow_le_zpow_right₀ one_le_two (by omega))

/-- A finite rounding is a value of the format: its significand has at most `precision` bits,
or it is `2 ^ precision` and the value is a power of two of the next binade. -/
theorem round_represents (wide : 0 < F.precision) {value rounded : ℚ}
    (finite : F.round value = .finite rounded) : F.Represents rounded := by
  obtain ⟨rfl, bound⟩ := round_finite finite
  have above : F.minExponent ≤ F.quantum value := le_max_left _ _
  have bits : |roundHalfEven (value / 2 ^ F.quantum value)| ≤ 2 ^ F.precision :=
    abs_roundHalfEven_le (by exact_mod_cast abs_div_quantum_le value)
  generalize roundHalfEven (value / 2 ^ F.quantum value) = nearest at bits bound ⊢
  rcases bits.lt_or_eq with fewer | full
  · exact ⟨nearest, _, rfl, by rw [← Int.ofNat_lt, Int.natCast_natAbs]; exact_mod_cast fewer,
      above, bound⟩
  have even : 2 ∣ nearest :=
    (dvd_abs _ _).mp (full ▸ dvd_pow_self 2 (Nat.pos_iff_ne_zero.mp wide))
  obtain ⟨half, rfl⟩ := even
  refine ⟨half, F.quantum value + 1, ?_, ?_, by omega, bound⟩
  · rw [zpow_add_one₀ two_ne_zero]
    push_cast
    ring
  · rw [← Int.ofNat_lt, Int.natCast_natAbs]
    rw [abs_mul] at full
    have : (0 : ℤ) < 2 ^ F.precision := by positivity
    push_cast
    norm_num at full
    omega

/-- Rounding keeps the sign of a value, weakly. -/
theorem round_sign {value rounded : ℚ} (finite : F.round value = .finite rounded) :
    (0 ≤ value → 0 ≤ rounded) ∧ (value ≤ 0 → rounded ≤ 0) := by
  obtain ⟨rfl, -⟩ := round_finite finite
  have power := zpow_pos (two_pos : (0 : ℚ) < 2) (F.quantum value)
  refine ⟨fun nonneg => mul_nonneg ?_ power.le, fun nonpos => mul_nonpos_of_nonpos_of_nonneg ?_ power.le⟩
  · exact_mod_cast (roundHalfEven_sign _).1 (div_nonneg nonneg power.le)
  · exact_mod_cast (roundHalfEven_sign _).2 (div_nonpos_of_nonpos_of_nonneg nonpos power.le)

/-- In a format whose subnormals are finer than `1` and whose range reaches `1`, a value of
magnitude at most `1` rounds to a finite value of magnitude at most `1`. -/
theorem round_of_abs_le_one (wide : 0 < F.precision) (fine : F.minExponent ≤ 0)
    (room : 0 ≤ F.maxExponent) {value : ℚ} (unit : |value| ≤ 1) :
    ∃ rounded, F.round value = .finite rounded ∧ |rounded| ≤ 1 := by
  have log := Int.log_of_right_le_one 2 unit
  obtain ⟨depth, shallow⟩ : ∃ depth : ℕ, F.quantum value = -depth :=
    ⟨(-F.quantum value).toNat, by unfold quantum; omega⟩
  have scaled : |value / 2 ^ F.quantum value| ≤ ((2 ^ depth : ℤ) : ℚ) := by
    rw [shallow, zpow_neg, zpow_natCast, div_inv_eq_mul, abs_mul,
      abs_of_pos (by positivity : (0 : ℚ) < 2 ^ depth)]
    push_cast
    exact mul_le_of_le_one_left (by positivity) unit
  have bits := abs_roundHalfEven_le scaled
  have within : |(roundHalfEven (value / 2 ^ F.quantum value) * 2 ^ F.quantum value : ℚ)| ≤ 1 := by
    generalize roundHalfEven (value / 2 ^ F.quantum value) = nearest at bits ⊢
    rw [abs_mul_two_zpow, shallow, zpow_neg, zpow_natCast, ← div_eq_mul_inv,
      div_le_one (by positivity)]
    exact_mod_cast bits
  exact ⟨_, round_of_nearest rfl rfl (within.trans_lt (one_lt_zpow₀ one_lt_two (by omega))),
    within⟩

end FloatFormat

end Cubeb.Oss
