import CubebOss.Transfer

/-!
This file is about the buffers that the sample conversions of `oss_io_routine` rewrite in place.
`oss_linear32_to_float` runs over `record.info.channels * nfr` samples of the record buffer, and
the playback conversion over `play.info.channels * cb_nfr` samples of the play buffer: 4 bytes
each for `float` and `int32_t`, 2 for `int16_t`. Each buffer holds `nfr` frames of
`frame_size = channels * (precision / 8)` bytes, and `oss_copy_params` gives `float` samples the
precision 32 and 16-bit samples 16, so a frame holds exactly `channels` samples of the width the
conversion uses.

On a stream that `oss_stream_init` builds, every conversion of every run of the I/O thread
therefore stays inside its buffer (`ioRun_conversions_inBounds`), provided two things that
nothing in the source checks: the data callback returns the error sentinel or at most `nfr`
frames, and each device wrote back a channel count small enough that `channels * 4` does not
wrap in the `unsigned int` frame size.
-/

namespace Cubeb.Oss

/-! ### The layout `oss_stream_init` gives a direction -/

/-- The layout of an open direction: its frame size is `channels * (precision / 8)`, and its
precision is 32 bits for `float` samples and 16 for the others. -/
def OssStream.SampleLayout (direction : OssStream) : Prop :=
  direction.Active →
    direction.frameSize = frameSizeOf direction.info ∧
      direction.info.precision = if direction.floating then 32 else 16

/-- A direction's block that succeeds leaves, once the frame size is set, the layout of its
sample tag; a direction not requested stays closed. -/
theorem sampleLayout_of_block {params : Option StreamParams} {opened : Int} {dsp : Dsp}
    {direction : OssStream} {calls : List Call}
    (block : requestDirection params opened dsp = (direction, cubebOk, calls)) :
    ({ direction with frameSize := frameSizeOf direction.info } : OssStream).SampleLayout := by
  intro active
  refine ⟨rfl, ?_⟩
  cases params with
  | none =>
    cases block
    exact absurd rfl active
  | some params =>
    obtain ⟨-, negotiated, floating⟩ := requestDirection_ok block
    obtain ⟨code, tag, -⟩ := ossCopyParams_ok negotiated
    show direction.info.precision = if direction.floating then 32 else 16
    rw [floating]
    cases format : params.format <;> rw [format] at tag <;>
      simp only [formatCode, Option.some.injEq, Prod.mk.injEq, reduceCtorEq] at tag <;>
      simp [tag.2]

/-- Both directions of a stream that `oss_stream_init` stores have the layout of their tags. -/
theorem ossStreamInit_sampleLayout {request : InitRequest} {world : InitWorld}
    {state : StreamState} (stored : (ossStreamInit request world).stream = some state) :
    state.stream.play.SampleLayout ∧ state.stream.record.SampleLayout := by
  obtain ⟨record, play, _, _, recordBlock, playBlock, recordEq, playEq⟩ :=
    ossStreamInit_stored stored
  rw [recordEq, playEq]
  exact ⟨sampleLayout_of_block playBlock, sampleLayout_of_block recordBlock⟩

/-- A conversion over `channels * frames` samples of `width` bytes stays inside a buffer of `nfr`
frames of `channels * width` bytes when `frames` is at most `nfr`: the `unsigned int` sample
count can only wrap downwards, and the frame size does not wrap. -/
theorem sampleCount_le {channels frames : Int} {nfr width : Nat} (nonneg : 0 ≤ channels)
    (small : channels * width < 2 ^ 32) (framesNonneg : 0 ≤ frames) (fewer : frames ≤ nfr) :
    unsignedOf (channels * frames) * width ≤ nfr * unsignedOf (channels * width) := by
  have samples : 0 ≤ channels * frames := Int.mul_nonneg nonneg framesNonneg
  have atMost : channels * frames ≤ channels * nfr := Int.mul_le_mul_of_nonneg_left fewer nonneg
  have wide : (unsignedOf (channels * width) : Int) = channels * width := by
    rw [unsignedOf, Int.toNat_of_nonneg (Int.emod_nonneg _ (by decide)),
      Int.emod_eq_of_lt (Int.mul_nonneg nonneg (Int.ofNat_nonneg _)) small]
  have count : (unsignedOf (channels * frames) : Int) ≤ channels * nfr := by
    rw [unsignedOf, Int.toNat_of_nonneg (Int.emod_nonneg _ (by decide))]
    generalize channels * frames = product at samples atMost ⊢
    omega
  refine Int.ofNat_le.mp ?_
  calc ((unsignedOf (channels * frames) * width : Nat) : Int)
      ≤ channels * nfr * width := by
        rw [Int.ofNat_mul]
        exact Int.mul_le_mul_of_nonneg_right count (Int.ofNat_nonneg _)
    _ = ((nfr * unsignedOf (channels * width) : Nat) : Int) := by
        rw [Int.ofNat_mul, wide, Int.mul_comm channels, Int.mul_assoc]

/-! ### The conversions of a run -/

/-- The data callback's contract: it returns the error sentinel or at most `nfr` frames. -/
def Event.CallbackBounded (s : Stream) : Event → Prop
  | dataCallback frames => frames = cubebError ∨ 0 ≤ frames ∧ frames ≤ s.nfr
  | _ => True

instance (s : Stream) : DecidablePred (Event.CallbackBounded s)
  | .dataCallback _ => inferInstanceAs (Decidable (_ ∨ _))
  | .stateCallback _ | .running _ | .linear32ToFloat _ | .volume _ | .float32ToLinear32 _ _
  | .linear16SetVol _ _ | .write _ _ _ | .framesWritten _ | .read _ _ _ => isTrue trivial

/-- The channel counts of a stream's directions are not negative, and small enough that a frame
of `float` samples, `channels * 4` bytes, does not wrap. -/
def Stream.ChannelsFit (s : Stream) : Prop :=
  ∀ direction ∈ [s.play, s.record],
    0 ≤ direction.info.channels ∧ direction.info.channels < 2 ^ 30

instance (s : Stream) : Decidable s.ChannelsFit :=
  inferInstanceAs (Decidable (∀ direction ∈ [s.play, s.record], _ ∧ _))

theorem Stream.ChannelsFit.play {s : Stream} (fit : s.ChannelsFit) :
    0 ≤ s.play.info.channels ∧ s.play.info.channels < 2 ^ 30 :=
  fit s.play (List.mem_cons_self _ _)

theorem Stream.ChannelsFit.record {s : Stream} (fit : s.ChannelsFit) :
    0 ≤ s.record.info.channels ∧ s.record.info.channels < 2 ^ 30 :=
  fit s.record (List.mem_cons_of_mem _ (List.mem_singleton_self _))

/-- What the conversions rely on at the points of the routine before them: before the record
conversion an open record direction carrying `float` samples; before the playback conversion an
open playback direction and a frame count that a data callback of the run returned, not the
error sentinel. -/
def ConvertInv (s : Stream) (t : IoThread) (events : List Event) : Prop :=
  match t.pc with
  | .convertRecord => s.record.Active ∧ s.record.floating = true
  | .volume | .convertPlay _ =>
    s.play.Active ∧ Event.dataCallback t.cbNfr ∈ events ∧ t.cbNfr ≠ cubebError
  | _ => True

section Steps

variable {s : Stream} {t : IoThread} {events : List Event}

theorem convertInv_transferHead : ConvertInv s t.transferHead events := by
  unfold IoThread.transferHead
  split_ifs <;> trivial

theorem convertInv_afterWrite : ConvertInv s t.afterWrite events := by
  unfold IoThread.afterWrite
  split_ifs
  exacts [trivial, convertInv_transferHead]

theorem convertInv_afterConversion : ConvertInv s (t.afterConversion s) events := by
  unfold IoThread.afterConversion
  split_ifs
  exacts [convertInv_transferHead, trivial, convertInv_transferHead]

theorem convertInv_afterCheck (value : Bool) : ConvertInv s (t.afterCheck s value) events := by
  unfold IoThread.afterCheck
  split_ifs with stopped closed floating
  exacts [trivial, trivial, ⟨floating.1, floating.2⟩, trivial]

theorem convertInv_afterCallback (result : Int) :
    ConvertInv s (t.afterCallback s result) (events ++ [.dataCallback result]) := by
  unfold IoThread.afterCallback
  split_ifs with sentinel playing
  exacts [trivial, ⟨playing, List.mem_append_right _ (List.mem_singleton_self _), sentinel⟩,
    convertInv_afterConversion]

/-- One step keeps `ConvertInv`, and a conversion it makes stays inside its buffer, on a stream
with the layout of `oss_stream_init` whose callbacks so far kept their contract. -/
theorem convertInv_step {shared shared' : Shared} {next : IoThread} {result : Int}
    {event : Event} (layout : s.play.SampleLayout ∧ s.record.SampleLayout)
    (fit : s.ChannelsFit) (contract : ∀ event ∈ events, event.CallbackBounded s)
    (step : ioStep s shared t result = some (next, shared', event))
    (inv : ConvertInv s t events) :
    (event.isDeviceCall = false → event.InBounds s) ∧
      ConvertInv s next (events ++ [event]) := by
  cases pc : t.pc <;> simp only [ioStep, pc, Option.some.injEq, Prod.mk.injEq,
    reduceCtorEq] at step <;> obtain ⟨rfl, -, rfl⟩ := step <;> simp only [ConvertInv, pc] at inv
  case entry | finish => exact ⟨fun _ => trivial, trivial⟩
  case write => exact ⟨fun device => (by cases device), by split <;> trivial⟩
  case advance => exact ⟨fun _ => trivial, convertInv_afterWrite⟩
  case read =>
    exact ⟨fun device => (by cases device),
      by split <;> [trivial; exact convertInv_transferHead]⟩
  case check => exact ⟨fun _ => trivial, convertInv_afterCheck _⟩
  case convertRecord =>
    obtain ⟨active, floating⟩ := inv
    obtain ⟨frameSize, precision⟩ := layout.2 active
    obtain ⟨nonneg, small⟩ := fit.record
    refine ⟨fun _ => ?_, trivial⟩
    simp only [Event.InBounds, OssStream.bufferBytes, frameSize, frameSizeOf, precision, floating,
      if_true]
    exact sampleCount_le nonneg (by omega) (Int.ofNat_nonneg _) le_rfl
  case callback => exact ⟨fun _ => trivial, convertInv_afterCallback _⟩
  case volume => exact ⟨fun _ => trivial, inv.1, List.mem_append_left _ inv.2.1, inv.2.2⟩
  case convertPlay =>
    obtain ⟨active, produced, notError⟩ := inv
    obtain ⟨frameSize, precision⟩ := layout.1 active
    obtain ⟨nonneg, small⟩ := fit.play
    obtain ⟨produced, bounded⟩ := (contract _ produced).resolve_left notError
    refine ⟨fun _ => ?_, convertInv_afterConversion⟩
    cases floating : s.play.floating <;>
      simp only [floating, Event.InBounds, OssStream.bufferBytes, frameSize, frameSizeOf,
        precision, if_true, if_false, Bool.false_eq_true] <;>
      exact sampleCount_le nonneg (by omega) produced bounded

end Steps

/-- Over every run of the I/O thread of a stream that `oss_stream_init` builds, in which the data
callback returns the error sentinel or at most `nfr` frames and whose devices wrote back channel
counts below `2 ^ 30`: every sample conversion, `oss_linear32_to_float` on the record buffer and
`oss_float_to_linear32` or `oss_linear16_set_vol` on the play buffer, stays inside its buffer. -/
theorem ioRun_conversions_inBounds {request : InitRequest} {world : InitWorld}
    {state : StreamState} (stored : (ossStreamInit request world).stream = some state)
    (fit : state.stream.ChannelsFit) (inputs : List (Shared × Int))
    (contract : ∀ event ∈ (ioRun state.stream IoThread.initial inputs).2,
      event.CallbackBounded state.stream) :
    ∀ event ∈ (ioRun state.stream IoThread.initial inputs).2, event.isDeviceCall = false →
      event.InBounds state.stream := by
  have layout := ossStreamInit_sampleLayout stored
  have holds := ioRun_invariant state.stream
    (fun t events => (∀ event ∈ events, event.CallbackBounded state.stream) →
      ConvertInv state.stream t events ∧
        ∀ event ∈ events, event.isDeviceCall = false → event.InBounds state.stream)
    (fun _ _ _ _ _ event _ step holds kept => by
      have earlier := holds fun _ member => kept _ (List.mem_append_left _ member)
      obtain ⟨inBounds, inv⟩ :=
        convertInv_step layout fit (fun _ member => kept _ (List.mem_append_left _ member)) step
          earlier.1
      refine ⟨inv, ?_⟩
      simp only [List.mem_append, List.mem_singleton]
      rintro _ (member | rfl)
      exacts [earlier.2 _ member, inBounds])
    inputs IoThread.initial [] fun _ => ⟨trivial, fun _ member => by cases member⟩
  rw [List.nil_append] at holds
  exact (holds contract).2

/-- A duplex stereo `float` stream with a one-frame block: the callback fills the block, and each
iteration converts the record buffer and then the play buffer. -/
theorem ioRun_conversions_inBounds_duplex :
    let float : StreamParams := ⟨.float32ne, 48000, 2, false⟩
    let echo : Dsp := ⟨some, some, some, none⟩
    let world : InitWorld := ⟨true, 4, echo, 3, echo, true, true, true⟩
    let state : StreamState :=
      ⟨⟨⟨3, ⟨2, 48000, 0x1000, 32⟩, 8, true⟩, ⟨4, ⟨2, 48000, 0x1000, 32⟩, 8, true⟩, 1,
          by decide⟩,
        Shared.initial, true, true⟩
    let running : Shared := ⟨true, .finite 1, 0⟩
    let inputs := [(running, 0), (running, 0), (running, 0), (running, 1), (running, 0),
      (running, 0), (running, 8), (running, 0), (running, 8), (running, 0), (running, 0)]
    (ossStreamInit ⟨some float, some float⟩ world).stream = some state ∧
      state.stream.ChannelsFit ∧
      (∀ event ∈ (ioRun state.stream IoThread.initial inputs).2,
        event.CallbackBounded state.stream) ∧
      ∀ event ∈ (ioRun state.stream IoThread.initial inputs).2, event.isDeviceCall = false →
        event.InBounds state.stream :=
  (fun stored fit contract =>
      ⟨stored, fit, contract, ioRun_conversions_inBounds stored fit _ contract⟩)
    (by decide) (by decide) (by decide)

end Cubeb.Oss
