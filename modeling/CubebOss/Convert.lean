import CubebOss.Float

/-!
This file models the three sample converters that `oss_io_routine` runs on the buffers:
`oss_float_to_linear32` turns the `float` samples of a playback block into the 32-bit
fixed-point samples the device takes, `oss_linear32_to_float` turns recorded 32-bit samples back
into `float`s, and `oss_linear16_set_vol` scales 16-bit playback samples by the volume in place.

The arithmetic is C's: `float` and `double` products rounded once (`CubebOss.Float`), the
conversion of a floating value to an integer type undefined out of range, `int` products
undefined on overflow, and `>>` on a negative `int` the arithmetic shift that GCC and Clang
implement. Each converter is `none` where the source's behaviour is undefined.

For a volume in `[0, 1]` the 16-bit path is exact integer arithmetic: the multiplier is
`⌊vol * 2 ^ 15⌋` and a sample `x` becomes `⌊x * m / 2 ^ 15⌋`, between `0` and `x`
(`ossLinear16SetVol_scales`). The 32-bit path converts `x * vol * 2 ^ 31` to `int64_t` before
it clamps, so a finite sample that is large enough makes the conversion undefined; where
`x * vol` is at most `1` in magnitude the conversion is defined and the stored sample has the
sign of `x * vol` (`floatToLinear32Sample_in_range`). Its round
trip at volume `1` comes back within one fixed-point step of every sample in `[-1, 1]`, but
`1.0` itself comes back as `1.0`, the clamped `INT32_MAX / 2 ^ 31` rounding up to it.
-/

namespace Cubeb.Oss

/-! ### The converters -/

/-- `INT32_MAX`. -/
def int32Max : ℤ := 2 ^ 31 - 1

/-- The clamp of `oss_float_to_linear32`: a value moved into `[-bound, bound]`. -/
def saturate (bound value : ℤ) : ℤ :=
  if value < -bound then -bound else if bound < value then bound else value

/-- One sample of `oss_float_to_linear32`: `*(in++) * vol * 0x80000000` in `float`, the
`unsigned` constant converted to `float` first, then converted to `int64_t` -- `none` where that
is undefined -- and clamped to `[-INT32_MAX, INT32_MAX]`. -/
def floatToLinear32Sample (vol sample : FloatValue) : Option ℤ :=
  ((FloatValue.mul binary32 (FloatValue.mul binary32 sample vol)
    (binary32.round 0x80000000)).toSigned 64).map (saturate int32Max)

/-- `oss_float_to_linear32` on the `sample_count` samples it converts in place. -/
def ossFloatToLinear32 (samples : List FloatValue) (vol : FloatValue) : Option (List ℤ) :=
  samples.mapM (floatToLinear32Sample vol)

/-- One sample of `oss_linear32_to_float`: `(1.0 / 0x80000000) * *(in++)` in `double` -- the
quotient of the two constants rounded once, the `int32_t` sample converted to `double` --
stored into a `float`. -/
def linear32ToFloatSample (sample : ℤ) : FloatValue :=
  (FloatValue.mul binary64 (binary64.round (1 / 0x80000000)) (binary64.round sample)).narrow
    binary32

/-- `oss_linear32_to_float` on the `sample_count` samples it converts in place. -/
def ossLinear32ToFloat (samples : List ℤ) : List FloatValue :=
  samples.map linear32ToFloatSample

/-- The conversion of an `int` to `int16_t`: modulo `2 ^ 16`, as GCC and Clang define it. -/
def int16Of (value : ℤ) : ℤ :=
  (value + 2 ^ 15) % 2 ^ 16 - 2 ^ 15

/-- The multiplier of `oss_linear16_set_vol`: `vol * 0x8000` in `float`, converted to
`int32_t`. -/
def linear16Multiplier (vol : FloatValue) : Option ℤ :=
  (FloatValue.mul binary32 vol (binary32.round 0x8000)).toSigned 32

/-- One sample of `oss_linear16_set_vol`: `(buf[i] * multiplier) >> 15` in `int` -- `none`
where the product overflows -- stored into `int16_t`. -/
def linear16SetVolSample (multiplier sample : ℤ) : Option ℤ :=
  if -2 ^ 31 ≤ sample * multiplier ∧ sample * multiplier < 2 ^ 31 then
    some (int16Of ((sample * multiplier) >>> (15 : ℕ)))
  else none

/-- `oss_linear16_set_vol`: the first `sample_count` samples of the buffer scaled, the others
left as they are; `none` where a sample outside the buffer would be rewritten. -/
def ossLinear16SetVol (buf : List ℤ) (sampleCount : ℕ) (vol : FloatValue) : Option (List ℤ) :=
  if buf.length < sampleCount then none
  else
    (linear16Multiplier vol).bind fun multiplier =>
      ((buf.take sampleCount).mapM (linear16SetVolSample multiplier)).map
        (· ++ buf.drop sampleCount)

/-! ### Conversions to integers -/

theorem mapM_eq_some_map {α β : Type} {convert : α → Option β} {exact : α → β} :
    ∀ {samples : List α}, (∀ sample ∈ samples, convert sample = some (exact sample)) →
      samples.mapM convert = some (samples.map exact)
  | [], _ => rfl
  | sample :: rest, each => by
    rw [List.mapM_cons, each sample (List.mem_cons_self _ _),
      mapM_eq_some_map fun other member => each other (List.mem_cons_of_mem _ member)]
    rfl

@[simp]
theorem truncate_intCast (value : ℤ) : truncate value = value := by
  unfold truncate
  split <;> simp

theorem truncate_two_pow (exponent : ℕ) : truncate (2 ^ exponent) = 2 ^ exponent := by
  have whole := truncate_intCast (2 ^ exponent)
  push_cast at whole
  exact whole

/-- Truncation keeps the sign, weakly. -/
theorem truncate_sign (value : ℚ) :
    (0 ≤ value → 0 ≤ truncate value) ∧ (value ≤ 0 → truncate value ≤ 0) := by
  unfold truncate
  split
  case isTrue nonneg => exact ⟨fun _ => Int.floor_nonneg.mpr nonneg, Int.floor_nonpos⟩
  case isFalse negative =>
    exact ⟨fun nonneg => absurd nonneg negative,
      fun nonpos => Int.ceil_le.mpr (by rw [Int.cast_zero]; exact nonpos)⟩

theorem truncate_of_nonneg {value : ℚ} (nonneg : 0 ≤ value) : truncate value = ⌊value⌋ :=
  if_pos nonneg

/-- Truncation moves a value by less than one, toward zero. -/
theorem truncate_bounds (value : ℚ) :
    |(truncate value : ℚ) - value| < 1 ∧ |(truncate value : ℚ)| ≤ |value| := by
  unfold truncate
  split
  case isTrue nonneg =>
    have floorNonneg : (0 : ℚ) ≤ ⌊value⌋ := by exact_mod_cast Int.floor_nonneg.mpr nonneg
    rw [abs_of_nonneg floorNonneg, abs_of_nonneg nonneg, abs_sub_lt_iff]
    exact ⟨⟨by linarith [Int.floor_le value], by linarith [Int.lt_floor_add_one value]⟩,
      Int.floor_le value⟩
  case isFalse negative =>
    have negative := not_le.mp negative
    have ceilNonpos : (⌈value⌉ : ℚ) ≤ 0 :=
      Int.cast_nonpos.mpr (Int.ceil_le.mpr (by rw [Int.cast_zero]; exact negative.le))
    rw [abs_of_nonpos ceilNonpos, abs_of_neg negative, abs_sub_lt_iff]
    exact ⟨⟨by linarith [Int.ceil_lt_add_one value], by linarith [Int.le_ceil value]⟩,
      by linarith [Int.le_ceil value]⟩

theorem toSigned_finite {bits : ℕ} {value : ℚ} (lower : -2 ^ (bits - 1) ≤ truncate value)
    (upper : truncate value < 2 ^ (bits - 1)) :
    FloatValue.toSigned bits (.finite value) = some (truncate value) :=
  if_pos ⟨lower, upper⟩

/-- The overflow threshold of `float` is far above every value the converters scale. -/
theorem binary32_below_overflow {value : ℚ} (small : |value| ≤ 2 ^ 32) :
    |value| < 2 ^ (binary32.maxExponent + 1) :=
  FloatFormat.lt_overflow small (by decide)

/-- The overflow threshold of `double`, further above. -/
theorem binary64_below_overflow {value : ℚ} (small : |value| ≤ 2 ^ 32) :
    |value| < 2 ^ (binary64.maxExponent + 1) :=
  FloatFormat.lt_overflow small (by decide)

/-! ### `oss_linear16_set_vol` -/

theorem int16Of_of_bounds {value : ℤ} (lower : -2 ^ 15 ≤ value) (upper : value < 2 ^ 15) :
    int16Of value = value := by
  unfold int16Of
  omega

theorem floor_scaled_bounds {vol : ℚ} (nonneg : 0 ≤ vol) (atMost : vol ≤ 1) :
    0 ≤ ⌊vol * 2 ^ 15⌋ ∧ ⌊vol * 2 ^ 15⌋ ≤ 2 ^ 15 := by
  have below : (⌊vol * 2 ^ 15⌋ : ℚ) ≤ 2 ^ 15 := by linarith [Int.floor_le (vol * 2 ^ 15)]
  exact ⟨Int.floor_nonneg.mpr (by positivity), by exact_mod_cast below⟩

/-- For a volume in `[0, 1]`, `vol * 0x8000` is exact in `float`, so the multiplier is
`⌊vol * 2 ^ 15⌋`. -/
theorem linear16Multiplier_of_unit {vol : ℚ} (isFloat : binary32.Represents vol)
    (nonneg : 0 ≤ vol) (atMost : vol ≤ 1) :
    linear16Multiplier (.finite vol) = some ⌊vol * 2 ^ 15⌋ := by
  have constant : binary32.round 0x8000 = .finite (2 ^ 15) := by
    rw [show (0x8000 : ℚ) = 2 ^ 15 by norm_num]
    exact FloatFormat.round_of_represents
      ⟨1, 15, by norm_num, by decide, by decide, by norm_num [binary32]⟩
  have scaled : binary32.Represents (vol * 2 ^ 15) :=
    isFloat.mul_two_pow 15 <| binary32_below_overflow <| by
      rw [abs_of_nonneg (by positivity)]
      linarith
  obtain ⟨lower, upper⟩ := floor_scaled_bounds nonneg atMost
  rw [linear16Multiplier, constant, FloatValue.mul, FloatFormat.round_of_represents scaled,
    ← truncate_of_nonneg (by positivity)]
  exact toSigned_finite (by rw [truncate_of_nonneg (by positivity)]; omega)
    (by rw [truncate_of_nonneg (by positivity)]; omega)

/-- A sample times a nonnegative multiplier lies between `0` and the sample times any larger
multiplier. -/
theorem mul_between {sample quieter louder : ℤ} (nonneg : 0 ≤ quieter) (le : quieter ≤ louder) :
    min 0 (sample * louder) ≤ sample * quieter ∧ sample * quieter ≤ max 0 (sample * louder) := by
  rcases le_total 0 sample with positive | negative
  · have := mul_nonneg positive nonneg
    have := mul_le_mul_of_nonneg_left le positive
    omega
  · have := mul_nonpos_of_nonpos_of_nonneg negative nonneg
    have := mul_le_mul_of_nonpos_left le negative
    omega

/-- A sample times a multiplier in `[0, 2 ^ 15]`, shifted back, lies between `0` and the
sample. -/
theorem mul_shift_between {multiplier sample : ℤ} (nonneg : 0 ≤ multiplier)
    (atMost : multiplier ≤ 2 ^ 15) :
    min 0 sample ≤ sample * multiplier / 2 ^ 15 ∧ sample * multiplier / 2 ^ 15 ≤ max 0 sample := by
  have := @mul_between sample _ _ nonneg atMost
  omega

/-- The scaled sample grows in magnitude with the multiplier. -/
theorem abs_mul_shift_le {sample quieter louder : ℤ} (nonneg : 0 ≤ quieter)
    (le : quieter ≤ louder) : |sample * quieter / 2 ^ 15| ≤ |sample * louder / 2 ^ 15| := by
  have := @mul_between sample _ _ nonneg le
  rw [abs_eq_max_neg, abs_eq_max_neg]
  omega

/-- With a multiplier in `[0, 2 ^ 15]`, the product of an `int16_t` sample fits an `int`, the
arithmetic shift divides it by `2 ^ 15` rounding down, and the result fits an `int16_t`. -/
theorem linear16SetVolSample_of_bounds {multiplier sample : ℤ} (nonneg : 0 ≤ multiplier)
    (atMost : multiplier ≤ 2 ^ 15) (lower : -2 ^ 15 ≤ sample) (upper : sample < 2 ^ 15) :
    linear16SetVolSample multiplier sample = some (sample * multiplier / 2 ^ 15) := by
  have := @mul_between sample _ _ nonneg atMost
  rw [linear16SetVolSample, if_pos (by omega), Int.shiftRight_eq_div_pow,
    int16Of_of_bounds (by push_cast; omega) (by push_cast; omega)]
  rfl

/-- `oss_linear16_set_vol` with a `float` volume in `[0, 1]` on a buffer of `int16_t` samples:
the multiplier is `⌊vol * 2 ^ 15⌋`, in `[0, 2 ^ 15]`; each of the first `sampleCount` samples
`x` becomes `⌊x * m / 2 ^ 15⌋` with no `int` overflow, a value between `0` and `x` that is no
larger in magnitude than at a louder volume; and at volume `1` the buffer is left as it is. -/
theorem ossLinear16SetVol_scales (buf : List ℤ) (sampleCount : ℕ) (vol : ℚ)
    (samples : ∀ x ∈ buf, -2 ^ 15 ≤ x ∧ x < 2 ^ 15) (within : sampleCount ≤ buf.length)
    (isFloat : binary32.Represents vol) (nonneg : 0 ≤ vol) (atMost : vol ≤ 1) :
    linear16Multiplier (.finite vol) = some ⌊vol * 2 ^ 15⌋ ∧
      0 ≤ ⌊vol * 2 ^ 15⌋ ∧ ⌊vol * 2 ^ 15⌋ ≤ 2 ^ 15 ∧
      ossLinear16SetVol buf sampleCount (.finite vol) =
        some ((buf.take sampleCount).map (fun x => x * ⌊vol * 2 ^ 15⌋ / 2 ^ 15) ++
          buf.drop sampleCount) ∧
      (∀ x ∈ buf, min 0 x ≤ x * ⌊vol * 2 ^ 15⌋ / 2 ^ 15 ∧
        x * ⌊vol * 2 ^ 15⌋ / 2 ^ 15 ≤ max 0 x) ∧
      (∀ louder : ℚ, binary32.Represents louder → vol ≤ louder → louder ≤ 1 →
        ∀ x ∈ buf, |x * ⌊vol * 2 ^ 15⌋ / 2 ^ 15| ≤ |x * ⌊louder * 2 ^ 15⌋ / 2 ^ 15|) ∧
      (vol = 1 → ossLinear16SetVol buf sampleCount (.finite vol) = some buf) := by
  obtain ⟨lower, upper⟩ := floor_scaled_bounds nonneg atMost
  have multiplier := linear16Multiplier_of_unit isFloat nonneg atMost
  have scaled : ossLinear16SetVol buf sampleCount (.finite vol) =
      some ((buf.take sampleCount).map (fun x => x * ⌊vol * 2 ^ 15⌋ / 2 ^ 15) ++
        buf.drop sampleCount) := by
    rw [ossLinear16SetVol, if_neg (not_lt.mpr within), multiplier, Option.some_bind,
      mapM_eq_some_map fun x member =>
        have sample := samples x (List.mem_of_mem_take member)
        linear16SetVolSample_of_bounds lower upper sample.1 sample.2]
    rfl
  refine ⟨multiplier, lower, upper, scaled, fun x _ => mul_shift_between lower upper,
    fun louder _ quieter _ x _ => abs_mul_shift_le lower (Int.floor_le_floor (by linarith)),
    fun unit => ?_⟩
  subst unit
  have full : ⌊(1 : ℚ) * 2 ^ 15⌋ = 2 ^ 15 := Int.floor_eq_iff.mpr ⟨by norm_num, by norm_num⟩
  rw [scaled, full]
  simp

/-- Half volume on a buffer whose first sample is the most negative `int16_t`: the multiplier is
`2 ^ 14`, `-32768` becomes `-16384`, `-1001` becomes `⌊-500.5⌋ = -501`, and the sample past
`sampleCount` is left as it is. -/
theorem ossLinear16SetVol_scales_half :
    (∀ x ∈ [(-32768 : ℤ), -1001, 7], -2 ^ 15 ≤ x ∧ x < 2 ^ 15) ∧
      2 ≤ [(-32768 : ℤ), -1001, 7].length ∧ binary32.Represents (1 / 2) ∧
      (0 : ℚ) ≤ 1 / 2 ∧ (1 / 2 : ℚ) ≤ 1 ∧
      ossLinear16SetVol [-32768, -1001, 7] 2 (.finite (1 / 2)) = some [-16384, -501, 7] := by
  have samples : ∀ x ∈ [(-32768 : ℤ), -1001, 7], -2 ^ 15 ≤ x ∧ x < 2 ^ 15 := by decide
  have half : binary32.Represents (1 / 2) :=
    ⟨1, -1, by norm_num, by decide, by decide, binary32_below_overflow (by norm_num [abs_div])⟩
  have multiplier : ⌊(1 / 2 : ℚ) * 2 ^ 15⌋ = 2 ^ 14 :=
    Int.floor_eq_iff.mpr ⟨by norm_num, by norm_num⟩
  refine ⟨samples, by decide, half, by norm_num, by norm_num, ?_⟩
  rw [(ossLinear16SetVol_scales _ 2 _ samples (by decide) half (by norm_num)
    (by norm_num)).2.2.2.1, multiplier]
  rfl

/-! ### `oss_float_to_linear32` -/

/-- `0x80000000` converted to `float` is `2 ^ 31` exactly. -/
theorem round_full_scale : binary32.round 0x80000000 = .finite (2 ^ 31) := by
  rw [show (0x80000000 : ℚ) = 2 ^ 31 by norm_num]
  exact FloatFormat.round_of_represents
    ⟨1, 31, by norm_num, by decide, by decide, by norm_num [binary32]⟩

theorem saturate_of_bounds {bound value : ℤ} (lower : -bound ≤ value) (upper : value ≤ bound) :
    saturate bound value = value := by
  unfold saturate
  split_ifs <;> omega

theorem scaled_le_full_scale {x : ℚ} (unit : |x| ≤ 1) : |x * 2 ^ 31| ≤ 2 ^ 31 := by
  rw [abs_mul, abs_of_pos (by norm_num : (0 : ℚ) < 2 ^ 31)]
  exact mul_le_of_le_one_left (by norm_num) unit

/-- The clamp keeps a value's sign, weakly, and stays within the bound. -/
theorem saturate_sign {bound : ℤ} (nonneg : 0 ≤ bound) (value : ℤ) :
    |saturate bound value| ≤ bound ∧ (0 ≤ value → 0 ≤ saturate bound value) ∧
      (value ≤ 0 → saturate bound value ≤ 0) := by
  rw [abs_le]
  unfold saturate
  split_ifs <;> omega

/-- Once the `float` product of a sample and the volume is a value of at most `1` in magnitude,
scaling it by `2 ^ 31` is exact and its conversion to `int64_t` is defined: the stored sample is
the saturation of the truncated scaled product. -/
theorem floatToLinear32Sample_of_product {x vol product : ℚ}
    (rounded : FloatValue.mul binary32 (.finite x) (.finite vol) = .finite product)
    (isFloat : binary32.Represents product) (small : |product| ≤ 1) :
    floatToLinear32Sample (.finite vol) (.finite x) =
      some (saturate int32Max (truncate (product * 2 ^ 31))) := by
  have magnitude := scaled_le_full_scale small
  have scaled := isFloat.mul_two_pow 31 (binary32_below_overflow (magnitude.trans (by norm_num)))
  have truncated : |(truncate (product * 2 ^ 31) : ℚ)| ≤ 2 ^ 31 :=
    (truncate_bounds _).2.trans magnitude
  have truncated' : |truncate (product * 2 ^ 31)| ≤ 2 ^ 31 := by exact_mod_cast truncated
  rw [abs_le] at truncated'
  rw [floatToLinear32Sample, rounded, round_full_scale, FloatValue.mul,
    FloatFormat.round_of_represents scaled, toSigned_finite (by omega) (by omega)]
  rfl

/-- At volume `1` a `float` sample in `[-1, 1]` is scaled exactly: the stored sample is the
saturation of `trunc(x * 2 ^ 31)`. -/
theorem floatToLinear32Sample_unit {x : ℚ} (isFloat : binary32.Represents x) (unit : |x| ≤ 1) :
    floatToLinear32Sample (.finite 1) (.finite x) =
      some (saturate int32Max (truncate (x * 2 ^ 31))) :=
  floatToLinear32Sample_of_product
    (by rw [FloatValue.mul, mul_one, FloatFormat.round_of_represents isFloat]) isFloat unit

/-- `oss_float_to_linear32` on a sample whose product with the volume is at most `1` in
magnitude, as for a sample in `[-1, 1]` and a volume in `[0, 1]`: the `float` product is finite
and at most `1` in magnitude, its conversion to `int64_t` is defined, and the stored sample is
the saturation of the truncated scaled product -- within `[-INT32_MAX, INT32_MAX]` and of the
sign of `x * vol`. -/
theorem floatToLinear32Sample_in_range {x vol : ℚ} (unit : |x * vol| ≤ 1) :
    ∃ product, FloatValue.mul binary32 (.finite x) (.finite vol) = .finite product ∧
      |product| ≤ 1 ∧
      floatToLinear32Sample (.finite vol) (.finite x) =
        some (saturate int32Max (truncate (product * 2 ^ 31))) ∧
      |saturate int32Max (truncate (product * 2 ^ 31))| ≤ int32Max ∧
      (0 ≤ x * vol → 0 ≤ saturate int32Max (truncate (product * 2 ^ 31))) ∧
      (x * vol ≤ 0 → saturate int32Max (truncate (product * 2 ^ 31)) ≤ 0) := by
  obtain ⟨product, rounded, small⟩ :=
    @FloatFormat.round_of_abs_le_one binary32 (by decide) (by decide) (by decide) _ unit
  have scaledSign := truncate_sign (product * 2 ^ 31)
  have productSign := FloatFormat.round_sign rounded
  have clamped := saturate_sign (by decide : (0 : ℤ) ≤ int32Max) (truncate (product * 2 ^ 31))
  refine ⟨product, rounded, small,
    floatToLinear32Sample_of_product rounded (FloatFormat.round_represents (by decide) rounded)
      small, clamped.1, fun nonneg => ?_, fun nonpos => ?_⟩
  · exact clamped.2.1 (scaledSign.1 (mul_nonneg (productSign.1 nonneg) (by norm_num)))
  · exact clamped.2.2 (scaledSign.2 (mul_nonpos_of_nonpos_of_nonneg (productSign.2 nonpos)
      (by norm_num)))

/-- A negative sample at half volume: the product `-3 / 8` is a `float`, and the stored sample is
`-3 * 2 ^ 28`, negative like `x * vol`. -/
theorem floatToLinear32Sample_in_range_half :
    |(-3 / 4 : ℚ) * (1 / 2)| ≤ 1 ∧
      ∃ product, FloatValue.mul binary32 (.finite (-3 / 4)) (.finite (1 / 2)) = .finite product ∧
        |product| ≤ 1 ∧
        floatToLinear32Sample (.finite (1 / 2)) (.finite (-3 / 4)) =
          some (saturate int32Max (truncate (product * 2 ^ 31))) ∧
        |saturate int32Max (truncate (product * 2 ^ 31))| ≤ int32Max ∧
        (0 ≤ (-3 / 4 : ℚ) * (1 / 2) → 0 ≤ saturate int32Max (truncate (product * 2 ^ 31))) ∧
        ((-3 / 4 : ℚ) * (1 / 2) ≤ 0 → saturate int32Max (truncate (product * 2 ^ 31)) ≤ 0) :=
  ⟨by norm_num [abs_div], floatToLinear32Sample_in_range (by norm_num [abs_div])⟩

/-! ### `oss_linear32_to_float` -/

/-- An `int32_t` sample is scaled exactly in `double`, so the `float` stored is its quotient by
`2 ^ 31` rounded once. -/
theorem linear32ToFloatSample_of_bounds {sample : ℤ} (lower : -2 ^ 31 ≤ sample)
    (upper : sample < 2 ^ 31) : linear32ToFloatSample sample = binary32.round (sample / 2 ^ 31) := by
  have magnitude : |(sample : ℚ)| ≤ 2 ^ 31 :=
    abs_le.mpr ⟨by exact_mod_cast lower, by exact_mod_cast upper.le⟩
  have bits : sample.natAbs < 2 ^ binary64.precision := by
    rw [show binary64.precision = 53 from rfl]
    omega
  have inverse : binary64.round (1 / 0x80000000) = .finite (2 ^ (-31 : ℤ)) := by
    rw [show (1 / 0x80000000 : ℚ) = 2 ^ (-31 : ℤ) by norm_num]
    exact FloatFormat.round_of_represents
      ⟨1, -31, by simp, by decide, by decide,
        binary64_below_overflow (by rw [abs_of_pos (by norm_num)]; norm_num)⟩
  have sampleExact : binary64.round sample = .finite sample :=
    FloatFormat.round_of_represents ⟨sample, 0, by simp, bits, by decide,
      binary64_below_overflow (magnitude.trans (by norm_num))⟩
  have scaled : |(sample * 2 ^ (-31 : ℤ) : ℚ)| ≤ 2 ^ 32 := by
    rw [FloatFormat.abs_mul_two_zpow]
    calc |(sample : ℚ)| * 2 ^ (-31 : ℤ) ≤ 2 ^ 31 * 2 ^ (-31 : ℤ) :=
          mul_le_mul_of_nonneg_right magnitude (zpow_pos two_pos _).le
      _ ≤ 2 ^ 32 := by norm_num
  have product : binary64.round (2 ^ (-31 : ℤ) * sample) = .finite (sample * 2 ^ (-31 : ℤ)) := by
    rw [mul_comm]
    exact FloatFormat.round_of_represents
      ⟨sample, -31, rfl, bits, by decide, binary64_below_overflow scaled⟩
  rw [linear32ToFloatSample, inverse, sampleExact, FloatValue.mul, product, FloatValue.narrow]
  norm_num [div_eq_mul_inv]

/-! ### The round trip at volume `1` -/

/-- A `float` scaled by `2 ^ 31` is an integer, unless its last place is finer than `2 ^ -31`,
and then it is below `2 ^ 23`. -/
theorem scaled_integral_or_small {x : ℚ} (isFloat : binary32.Represents x) :
    (∃ k : ℤ, x * 2 ^ 31 = k) ∨ |x * 2 ^ 31| < 2 ^ 23 := by
  obtain ⟨significand, exponent, rfl, bits, -, -⟩ := isFloat
  have shifted : (significand * 2 ^ exponent : ℚ) * 2 ^ 31 =
      significand * 2 ^ (exponent + 31) := by
    rw [zpow_add₀ two_ne_zero, mul_assoc]
    norm_num
  rw [shifted]
  by_cases whole : 0 ≤ exponent + 31
  · refine .inl ⟨significand * 2 ^ (exponent + 31).toNat, ?_⟩
    rw [Int.cast_mul, Int.cast_pow, Int.cast_two, ← zpow_natCast, Int.toNat_of_nonneg whole]
  · have fine : (2 : ℚ) ^ (exponent + 31) ≤ 2 ^ (-1 : ℤ) :=
      zpow_le_zpow_right₀ one_le_two (by omega)
    refine .inr ?_
    rw [FloatFormat.abs_mul_two_zpow]
    calc |(significand : ℚ)| * 2 ^ (exponent + 31) ≤ |(significand : ℚ)| * 2 ^ (-1 : ℤ) :=
          mul_le_mul_of_nonneg_left fine (abs_nonneg _)
      _ < 2 ^ binary32.precision * 2 ^ (-1 : ℤ) :=
          mul_lt_mul_of_pos_right (FloatFormat.abs_significand_lt bits) (by norm_num)
      _ = 2 ^ 23 := by norm_num [binary32]

/-- The clamped full-scale sample `INT32_MAX` comes back as `1.0`: `1 - 2 ^ -31` is within half
a last place of `1` in `float`. -/
theorem round_int32Max : binary32.round (int32Max / 2 ^ 31) = .finite 1 := by
  have quantum : binary32.quantum (int32Max / 2 ^ 31) = -24 := by
    rw [FloatFormat.quantum_of_bounds (-1) (by norm_num [int32Max, abs_of_pos])
      (by norm_num [int32Max, abs_of_pos])]
    rfl
  have nearest : roundHalfEven ((int32Max / 2 ^ 31 : ℚ) / 2 ^ (-24 : ℤ)) = 2 ^ 24 - 1 + 1 := by
    rw [show (int32Max / 2 ^ 31 : ℚ) / 2 ^ (-24 : ℤ) = ((2 ^ 24 - 1 : ℤ) : ℚ) + (1 - 1 / 2 ^ 7) by
      norm_num [int32Max]]
    exact roundHalfEven_add_of_half_lt _ (by norm_num) (by norm_num)
  rw [FloatFormat.round_of_nearest quantum nearest (binary32_below_overflow (by norm_num))]
  norm_num

/-- So does `-INT32_MAX`, as `-1.0`. -/
theorem round_neg_int32Max : binary32.round ((-int32Max : ℤ) / 2 ^ 31) = .finite (-1) := by
  have quantum : binary32.quantum ((-int32Max : ℤ) / 2 ^ 31) = -24 := by
    rw [FloatFormat.quantum_of_bounds (-1) (by norm_num [int32Max, abs_of_neg])
      (by norm_num [int32Max, abs_of_neg])]
    rfl
  have nearest : roundHalfEven (((-int32Max : ℤ) / 2 ^ 31 : ℚ) / 2 ^ (-24 : ℤ)) = -2 ^ 24 := by
    rw [show ((-int32Max : ℤ) / 2 ^ 31 : ℚ) / 2 ^ (-24 : ℤ) = ((-2 ^ 24 : ℤ) : ℚ) + 1 / 2 ^ 7 by
      norm_num [int32Max]]
    exact roundHalfEven_add_of_lt_half _ (by norm_num) (by norm_num)
  rw [FloatFormat.round_of_nearest quantum nearest (binary32_below_overflow (by norm_num))]
  norm_num

/-- One sample's round trip at volume `1`: a `float` `x` in `[-1, 1]` comes back as a `float`
in `[-1, 1]` within `2 ^ -31` of it. Where `x * 2 ^ 31` is an integer the trip is exact, `±1`
included; otherwise `x` is below `2 ^ -8` and the truncated sample is a `float` again. -/
theorem linear32RoundTrip_sample {x : ℚ} (isFloat : binary32.Represents x) (unit : |x| ≤ 1) :
    ∃ fixed, floatToLinear32Sample (.finite 1) (.finite x) = some fixed ∧
      ∃ y, linear32ToFloatSample fixed = .finite y ∧ -1 ≤ y ∧ y ≤ 1 ∧ |y - x| ≤ 1 / 2 ^ 31 := by
  refine ⟨_, floatToLinear32Sample_unit isFloat unit, ?_⟩
  have magnitude := scaled_le_full_scale unit
  rcases scaled_integral_or_small isFloat with ⟨k, integral⟩ | small
  · have bounds : -2 ^ 31 ≤ k ∧ k ≤ 2 ^ 31 := by
      rw [integral, abs_le] at magnitude
      exact ⟨by exact_mod_cast magnitude.1, by exact_mod_cast magnitude.2⟩
    have exact : x = k / 2 ^ 31 := by
      rw [← integral]
      ring
    rw [integral, truncate_intCast]
    rcases lt_trichotomy k (2 ^ 31) with inside | top | _
    · rcases lt_trichotomy k (-2 ^ 31) with _ | bottom | inside'
      · omega
      · subst bottom
        refine ⟨-1, ?_, by norm_num, by norm_num, by rw [exact]; norm_num⟩
        rw [show saturate int32Max (-2 ^ 31) = -int32Max from rfl,
          linear32ToFloatSample_of_bounds (by decide) (by decide), round_neg_int32Max]
      · rw [saturate_of_bounds (by unfold int32Max; omega) (by unfold int32Max; omega),
          linear32ToFloatSample_of_bounds (by omega) inside, ← exact,
          FloatFormat.round_of_represents isFloat]
        rw [abs_le] at unit
        exact ⟨x, rfl, unit.1, unit.2, by norm_num⟩
    · subst top
      refine ⟨1, ?_, by norm_num, le_rfl, by rw [exact]; norm_num⟩
      rw [show saturate int32Max (2 ^ 31) = int32Max from rfl,
        linear32ToFloatSample_of_bounds (by decide) (by decide), round_int32Max]
    · omega
  · obtain ⟨near, below⟩ := truncate_bounds (x * 2 ^ 31)
    generalize truncate (x * 2 ^ 31) = n at near below ⊢
    have bounded : |(n : ℚ)| < 2 ^ 23 := below.trans_lt small
    have bounded' : -2 ^ 23 < n ∧ n < 2 ^ 23 := by
      rw [abs_lt] at bounded
      exact ⟨by exact_mod_cast bounded.1, by exact_mod_cast bounded.2⟩
    have back : |(n : ℚ) / 2 ^ 31| ≤ 1 := by
      rw [abs_div, abs_of_pos (by norm_num : (0 : ℚ) < 2 ^ 31), div_le_one (by norm_num)]
      exact bounded.le.trans (by norm_num)
    have onGrid : binary32.Represents (n / 2 ^ 31) :=
      ⟨n, -31, by norm_num [div_eq_mul_inv], by rw [show binary32.precision = 24 from rfl]; omega,
        by decide, binary32_below_overflow (back.trans (by norm_num))⟩
    rw [saturate_of_bounds (by unfold int32Max; omega) (by unfold int32Max; omega),
      linear32ToFloatSample_of_bounds (by omega) (by omega), FloatFormat.round_of_represents onGrid]
    refine ⟨_, rfl, (abs_le.mp back).1, (abs_le.mp back).2, ?_⟩
    rw [show (n : ℚ) / 2 ^ 31 - x = (n - x * 2 ^ 31) / 2 ^ 31 by ring, abs_div, abs_of_pos (by norm_num : (0 : ℚ) < 2 ^ 31)]
    exact div_le_div_of_nonneg_right near.le (by norm_num)

/-- The round trip at volume `1`: on a buffer of `float` samples in `[-1, 1]`,
`oss_float_to_linear32` is defined, and `oss_linear32_to_float` on its output gives back, sample
by sample, a `float` in `[-1, 1]` within `2 ^ -31` of the original. -/
theorem linear32_round_trip (samples : List ℚ) (floats : ∀ x ∈ samples, binary32.Represents x)
    (unit : ∀ x ∈ samples, |x| ≤ 1) :
    ∃ fixed, ossFloatToLinear32 (samples.map .finite) (.finite 1) = some fixed ∧
      List.Forall₂ (fun x y => ∃ value, y = FloatValue.finite value ∧ -1 ≤ value ∧ value ≤ 1 ∧
        |value - x| ≤ 1 / 2 ^ 31) samples (ossLinear32ToFloat fixed) := by
  induction samples with
  | nil => exact ⟨[], rfl, .nil⟩
  | cons x rest inductionHypothesis =>
    obtain ⟨sample, converted, y, back, close⟩ :=
      linear32RoundTrip_sample (floats x (List.mem_cons_self _ _)) (unit x (List.mem_cons_self _ _))
    obtain ⟨fixed, convertedRest, closeRest⟩ :=
      inductionHypothesis (fun x member => floats x (List.mem_cons_of_mem _ member))
        (fun x member => unit x (List.mem_cons_of_mem _ member))
    refine ⟨sample :: fixed, ?_, .cons ⟨y, back, close⟩ closeRest⟩
    rw [List.map_cons, ossFloatToLinear32, List.mapM_cons, converted]
    rw [ossFloatToLinear32] at convertedRest
    rw [convertedRest]
    rfl

/-- A buffer holding the full-scale sample and one far below the fixed-point step, which comes
back as `0`. -/
theorem linear32_round_trip_full_scale :
    (∀ x ∈ [(1 : ℚ), -1 / 2 ^ 40], binary32.Represents x) ∧
      (∀ x ∈ [(1 : ℚ), -1 / 2 ^ 40], |x| ≤ 1) ∧
      ∃ fixed, ossFloatToLinear32 ([(1 : ℚ), -1 / 2 ^ 40].map .finite) (.finite 1) = some fixed ∧
        List.Forall₂ (fun x y => ∃ value, y = FloatValue.finite value ∧ -1 ≤ value ∧
          value ≤ 1 ∧ |value - x| ≤ 1 / 2 ^ 31) [1, -1 / 2 ^ 40] (ossLinear32ToFloat fixed) := by
  have floats : ∀ x ∈ [(1 : ℚ), -1 / 2 ^ 40], binary32.Represents x := by
    simp only [List.mem_cons, List.mem_singleton, List.not_mem_nil, or_false]
    rintro x (rfl | rfl)
    · exact ⟨1, 0, by norm_num, by decide, by decide, binary32_below_overflow (by norm_num)⟩
    · exact ⟨-1, -40, by norm_num, by decide, by decide,
        binary32_below_overflow (by norm_num [abs_div])⟩
  have unit : ∀ x ∈ [(1 : ℚ), -1 / 2 ^ 40], |x| ≤ 1 := by
    simp only [List.mem_cons, List.mem_singleton, List.not_mem_nil, or_false]
    rintro x (rfl | rfl) <;> norm_num [abs_div]
  exact ⟨floats, unit, linear32_round_trip _ floats unit⟩

/-- The sample `1.0` at volume `1` is clamped to `INT32_MAX` and comes back as `1.0`, outside
`[-1, 1)`. -/
theorem linear32_round_trip_returns_one :
    ossFloatToLinear32 [.finite 1] (.finite 1) = some [int32Max] ∧
      ossLinear32ToFloat [int32Max] = [.finite 1] := by
  have converted := @floatToLinear32Sample_unit 1
    ⟨1, 0, by norm_num, by decide, by decide, binary32_below_overflow (by norm_num)⟩ (by norm_num)
  rw [one_mul, truncate_two_pow] at converted
  refine ⟨?_, ?_⟩
  · rw [ossFloatToLinear32, List.mapM_cons, converted]
    rfl
  · rw [ossLinear32ToFloat, List.map_singleton,
      linear32ToFloatSample_of_bounds (by decide) (by decide), round_int32Max]

/-! ### Samples beyond full scale -/

/-- A `float` sample of `2 ^ 40` at volume `1`: the product `2 ^ 71` is a finite `float`, beyond
`int64_t`, and `oss_float_to_linear32` converts it before it clamps. -/
theorem ossFloatToLinear32_overflows_int64 :
    binary32.Represents (2 ^ 40) ∧
      FloatValue.mul binary32 (FloatValue.mul binary32 (.finite (2 ^ 40)) (.finite 1))
        (binary32.round 0x80000000) = .finite (2 ^ 71) ∧
      ossFloatToLinear32 [.finite (2 ^ 40)] (.finite 1) = none := by
  have large : binary32.Represents (2 ^ 40) :=
    ⟨1, 40, by norm_num, by decide, by decide, by norm_num [binary32]⟩
  have product : FloatValue.mul binary32 (FloatValue.mul binary32 (.finite (2 ^ 40)) (.finite 1))
      (binary32.round 0x80000000) = .finite (2 ^ 71) := by
    rw [FloatValue.mul, mul_one, FloatFormat.round_of_represents large, round_full_scale,
      FloatValue.mul, ← pow_add]
    exact FloatFormat.round_of_represents
      ⟨1, 71, by norm_num, by decide, by decide, by norm_num [binary32]⟩
  refine ⟨large, product, ?_⟩
  rw [ossFloatToLinear32, List.mapM_cons, floatToLinear32Sample, product, FloatValue.toSigned,
    truncate_two_pow,
    if_neg (by decide)]
  rfl

end Cubeb.Oss
