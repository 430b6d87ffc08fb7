import CubebOss.Volume
import CubebOss.Convert

/-!
This file joins the two halves of the playback path: the volume the application sets, which
`oss_stream_set_volume` clamps and the I/O thread reads under the lock before each conversion
(`CubebOss.Volume`), and the converters that use it (`CubebOss.Convert`).

The clamp keeps a finite `float` in `[0, 1]` as it is and stores `0.0` or `1.0` in place of what
lies outside, so when every argument is a `float` other than NaN, every volume a conversion is
handed is a finite `float` in `[0, 1]`, across every interleaving of the I/O thread with the
application's calls. Every conversion of such a run is then defined: `oss_linear16_set_vol`
computes a multiplier in `[0, 2 ^ 15]` and overflows no `int` on a buffer of `int16_t` samples,
and `oss_float_to_linear32` converts every buffer of samples in `[-1, 1]`
(`systemRun_conversions_defined`). NaN is the one argument that breaks this.
-/

namespace Cubeb.Oss

/-! ### Volumes a converter can take -/

namespace FloatValue

/-- A `float` other than NaN: a finite value of `binary32`, or an infinity. -/
def Comparable : FloatValue → Prop
  | finite value => binary32.Represents value
  | infinity _ => True
  | nan => False

/-- A finite `float` in `[0, 1]`. -/
def UnitFloat : FloatValue → Prop
  | finite value => binary32.Represents value ∧ 0 ≤ value ∧ value ≤ 1
  | _ => False

end FloatValue

theorem binary32_represents_zero : binary32.Represents 0 :=
  ⟨0, 0, by norm_num, by decide, by decide, by norm_num [binary32]⟩

theorem binary32_represents_one : binary32.Represents 1 :=
  ⟨1, 0, by norm_num, by decide, by decide, by norm_num [binary32]⟩

/-- A `float` other than NaN that lies in `[0, 1]` is a finite `float` in `[0, 1]`. -/
theorem FloatValue.Comparable.unitFloat {vol : FloatValue} (comparable : vol.Comparable)
    (unit : vol.InUnit) : vol.UnitFloat := by
  cases vol with
  | finite _ => exact ⟨comparable, unit⟩
  | infinity _ | nan => exact unit.elim

/-- The clamp stores `0.0`, `1.0` or its argument, so it keeps a `float` other than NaN. -/
theorem clampVolume_comparable {volume : FloatValue} (comparable : volume.Comparable) :
    (clampVolume volume).Comparable := by
  unfold clampVolume
  split_ifs
  exacts [binary32_represents_zero, binary32_represents_one, comparable]

/-- The clamp of a `float` other than NaN is a finite `float` in `[0, 1]`. -/
theorem clampVolume_unitFloat {volume : FloatValue} (comparable : volume.Comparable) :
    (clampVolume volume).UnitFloat :=
  (clampVolume_comparable comparable).unitFloat
    (clampVolume_inUnit fun nan => (nan ▸ comparable : FloatValue.Comparable .nan))

/-! ### Conversions that are defined -/

/-- A conversion handed a finite `float` volume `q` in `[0, 1]` is defined where the source's
arithmetic could be undefined: `oss_linear16_set_vol` computes the multiplier `⌊q * 2 ^ 15⌋`, in
`[0, 2 ^ 15]`, and overflows no `int` on a buffer of `int16_t` samples; `oss_float_to_linear32`
converts every buffer of samples in `[-1, 1]` to `int64_t` and clamps them. -/
theorem conversions_of_unitFloat {vol : FloatValue} (unit : vol.UnitFloat) :
    ∃ q : ℚ, vol = .finite q ∧ 0 ≤ q ∧ q ≤ 1 ∧
      linear16Multiplier vol = some ⌊q * 2 ^ 15⌋ ∧ 0 ≤ ⌊q * 2 ^ 15⌋ ∧ ⌊q * 2 ^ 15⌋ ≤ 2 ^ 15 ∧
      (∀ (buf : List ℤ) (sampleCount : ℕ), (∀ x ∈ buf, -2 ^ 15 ≤ x ∧ x < 2 ^ 15) →
        sampleCount ≤ buf.length → (ossLinear16SetVol buf sampleCount vol).isSome) ∧
      ∀ samples : List ℚ, (∀ x ∈ samples, |x| ≤ 1) →
        (ossFloatToLinear32 (samples.map .finite) vol).isSome := by
  cases vol with
  | finite q =>
    obtain ⟨isFloat, nonneg, atMost⟩ := unit
    obtain ⟨lower, upper⟩ := floor_scaled_bounds nonneg atMost
    have multiplier := linear16Multiplier_of_unit isFloat nonneg atMost
    refine ⟨q, rfl, nonneg, atMost, multiplier, lower, upper, fun buf sampleCount samples within => ?_,
      fun samples unitSamples => ?_⟩
    · rw [ossLinear16SetVol, if_neg (not_lt.mpr within), multiplier, Option.some_bind,
        mapM_eq_some_map fun x member =>
          have sample := samples x (List.mem_of_mem_take member)
          linear16SetVolSample_of_bounds lower upper sample.1 sample.2]
      rfl
    · have each : ∀ sample ∈ samples.map FloatValue.finite,
          floatToLinear32Sample (.finite q) sample =
            some ((floatToLinear32Sample (.finite q) sample).getD 0) := by
        simp only [List.mem_map]
        rintro _ ⟨x, member, rfl⟩
        have product : |x * q| ≤ 1 := by
          rw [abs_mul, abs_of_nonneg nonneg]
          exact mul_le_one₀ (unitSamples x member) nonneg atMost
        obtain ⟨rounded, exact, small⟩ :=
          @FloatFormat.round_of_abs_le_one binary32 (by decide) (by decide) (by decide) _ product
        rw [floatToLinear32Sample_of_product exact (FloatFormat.round_represents (by decide) exact)
          small]
        rfl
      rw [ossFloatToLinear32, mapM_eq_some_map each]
      rfl
  | infinity _ => exact unit.elim
  | nan => exact unit.elim

/-- Over every interleaving of the I/O thread with the application's calls, across any number
of start/stop cycles: if every argument of `oss_stream_set_volume` is a `float` other than NaN,
every volume handed to `oss_float_to_linear32` or `oss_linear16_set_vol` is a finite `float` `q`
in `[0, 1]`, and the conversion is defined: the 16-bit multiplier is `⌊q * 2 ^ 15⌋`, in
`[0, 2 ^ 15]`, no `int` product overflows on a buffer of `int16_t` samples, and every buffer of
samples in `[-1, 1]` converts to 32-bit samples. -/
theorem systemRun_conversions_defined (s : Stream) (choices : List Choice)
    (floats : ∀ volume, .setVolume volume ∈ (systemRun s System.initial choices).2 →
      volume.Comparable) :
    ∀ action ∈ (systemRun s System.initial choices).2, ∀ vol,
      action.convertedVolume? = some vol →
      ∃ q : ℚ, vol = .finite q ∧ 0 ≤ q ∧ q ≤ 1 ∧
        linear16Multiplier vol = some ⌊q * 2 ^ 15⌋ ∧ 0 ≤ ⌊q * 2 ^ 15⌋ ∧ ⌊q * 2 ^ 15⌋ ≤ 2 ^ 15 ∧
        (∀ (buf : List ℤ) (sampleCount : ℕ), (∀ x ∈ buf, -2 ^ 15 ≤ x ∧ x < 2 ^ 15) →
          sampleCount ≤ buf.length → (ossLinear16SetVol buf sampleCount vol).isSome) ∧
        ∀ samples : List ℚ, (∀ x ∈ samples, |x| ≤ 1) →
          (ossFloatToLinear32 (samples.map .finite) vol).isSome := by
  have inv := systemRun_reachable
    (fun σ actions => (∀ volume, .setVolume volume ∈ actions → volume.Comparable) →
      VolumesIn FloatValue.UnitFloat σ actions)
    (fun _ => VolumesIn.initial ⟨binary32_represents_one, zero_le_one, le_rfl⟩)
    (fun transition holds clean => (holds fun volume member =>
        clean volume (List.mem_append_left _ member)).step transition fun volume same =>
      clampVolume_unitFloat (clean volume (same ▸ List.mem_append_right _
        (List.mem_singleton_self _))))
    choices floats
  exact fun action member vol handed => conversions_of_unitFloat (inv.converted action member vol handed)

/-- Whether an action is a `set_volume` with a finite argument or NaN. -/
def Action.setsFiniteOrNan : Action → Bool
  | .setVolume (.finite _) | .setVolume .nan => true
  | _ => false

/-- A trace whose `set_volume` arguments are all infinities passes only `float`s other than NaN. -/
theorem comparable_of_infinities {trace : List Action}
    (infinities : trace.all (fun action => !action.setsFiniteOrNan) = true) :
    ∀ volume, .setVolume volume ∈ trace → volume.Comparable := by
  intro volume member
  have passed := List.all_eq_true.1 infinities _ member
  cases volume <;> simp_all [Action.setsFiniteOrNan, FloatValue.Comparable]

/-- Volumes of `+∞` and then `-∞`: the conversions of a one-frame 16-bit playback stream are
handed `1.0` and `0.0`, and are defined. -/
theorem systemRun_conversions_defined_infinite :
    let s : Stream := ⟨⟨3, ⟨1, 48000, 0x10, 16⟩, 2, false⟩, .closed, 1, by decide⟩
    let choices := [.setVolume (.infinity false), .start true, .io 0, .io 0, .io 1, .io 0, .io 0,
      .io 2, .io 0, .setVolume (.infinity true), .io 0, .io 1, .io 0, .io 0]
    (∀ volume, .setVolume volume ∈ (systemRun s System.initial choices).2 →
      volume.Comparable) ∧
    (systemRun s System.initial choices).2.filterMap Action.convertedVolume? =
      [.finite 1, .finite 0] ∧
    ∀ action ∈ (systemRun s System.initial choices).2, ∀ vol,
      action.convertedVolume? = some vol →
      ∃ q : ℚ, vol = .finite q ∧ 0 ≤ q ∧ q ≤ 1 ∧
        linear16Multiplier vol = some ⌊q * 2 ^ 15⌋ ∧ 0 ≤ ⌊q * 2 ^ 15⌋ ∧ ⌊q * 2 ^ 15⌋ ≤ 2 ^ 15 ∧
        (∀ (buf : List ℤ) (sampleCount : ℕ), (∀ x ∈ buf, -2 ^ 15 ≤ x ∧ x < 2 ^ 15) →
          sampleCount ≤ buf.length → (ossLinear16SetVol buf sampleCount vol).isSome) ∧
        ∀ samples : List ℚ, (∀ x ∈ samples, |x| ≤ 1) →
          (ossFloatToLinear32 (samples.map .finite) vol).isSome :=
  (fun floats => ⟨floats, by decide, systemRun_conversions_defined _ _ floats⟩)
    (comparable_of_infinities (by decide))

end Cubeb.Oss
