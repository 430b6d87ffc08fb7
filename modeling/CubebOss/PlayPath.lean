import CubebOss.RecordPath
import CubebOss.Playback

/-!
This file follows the samples of the play path of `oss_io_routine`. In each iteration the data
callback fills the play buffer and returns `cb_nfr`; on an open play direction the thread then
reads the volume under the lock, converts the first `play.info.channels * cb_nfr` samples in
place, with `oss_float_to_linear32` on a `float` stream and `oss_linear16_set_vol` otherwise,
and the partial-I/O loop hands the device `cb_nfr` frames from the start of the buffer, in as
many `write`s as the device takes. So the device should receive the frames of each callback,
converted once at the volume read after it, each sample once and in order, and all of them
before the next callback runs.

`Owed.step` states that data flow as a machine over what the play path shows: the frames a
callback produced, the volume the thread then read under the lock, and the samples each `write`
handed the device; what the machine owes the device is the frames converted at that volume.
The buffer is followed sample by sample (`playRun`), which is exact as long as every `write`
moves whole samples. `ioRun_playFlow` shows that over every run of the I/O thread of a
stream that `oss_stream_init` builds, what the play buffer shows is a run of that machine, and
that nothing is owed once an iteration completes. It assumes what the source does not check:
every device call moves whole frames, a block of samples fits the `unsigned int` sample count,
and the conversions are defined -- the callback leaves `float` samples in `[-1, 1]` or `int16_t`
samples, and the volume is a finite `float` in `[0, 1]`, as `oss_stream_set_volume` keeps it when
it is never handed NaN (`systemRun_volume_inUnit`).
-/

namespace Cubeb.Oss

/-! ### Converting the play buffer -/

/-- One sample of `oss_float_to_linear32` at the volume `vol`: a `float` becomes the clamped
`int32_t` it scales to. The model does not read the bits of an `int32_t` as a `float`
(`none`). -/
def Sample.floatToLinear32 (vol : FloatValue) : Sample → Option Sample
  | .float value => (floatToLinear32Sample vol value).map .fixed
  | .fixed _ => none

/-- One sample of `oss_linear16_set_vol` with its multiplier. The model does not read the bits
of a `float` as an `int16_t` (`none`). -/
def Sample.linear16SetVol (multiplier : Int) : Sample → Option Sample
  | .fixed value => (linear16SetVolSample multiplier value).map .fixed
  | .float _ => none

/-- What the play conversion at the volume `vol` makes of the samples it rewrites:
`oss_float_to_linear32` on a `float` stream, and otherwise `oss_linear16_set_vol`, which
computes its multiplier first. -/
def OssStream.playConversion (direction : OssStream) (vol : FloatValue) (samples : List Sample) :
    Option (List Sample) :=
  if direction.floating then samples.mapM (Sample.floatToLinear32 vol)
  else (linear16Multiplier vol).bind fun multiplier =>
    samples.mapM (Sample.linear16SetVol multiplier)

/-- A sample the data callback leaves in the play buffer that the conversion takes: a `float`
in `[-1, 1]` on a `float` stream, an `int16_t` otherwise. -/
def OssStream.Produces (direction : OssStream) : Sample → Prop
  | .float (.finite value) => direction.floating = true ∧ |value| ≤ 1
  | .fixed value => direction.floating = false ∧ -2 ^ 15 ≤ value ∧ value < 2 ^ 15
  | .float _ => False

instance (direction : OssStream) : DecidablePred direction.Produces
  | .float (.finite _) => inferInstanceAs (Decidable (_ ∧ _))
  | .fixed _ => inferInstanceAs (Decidable (_ ∧ _))
  | .float (.infinity _) | .float .nan => isFalse id

/-- The samples of the play buffer, `play.info.channels * nfr`; none when the direction is not
open and the buffer is `NULL`. -/
def playSlots (s : Stream) : Nat :=
  if s.play.Active then s.nfr * s.play.info.channels.toNat else 0

/-- At a finite volume in `[0, 1]`, the play conversion is defined on the samples the callback
leaves, and rewrites each of them. -/
theorem playConversion_of_produces {direction : OssStream} {vol : FloatValue}
    (unit : vol.UnitFloat) {samples : List Sample}
    (produced : ∀ sample ∈ samples, direction.Produces sample) :
    ∃ converted, direction.playConversion vol samples = some converted ∧
      converted.length = samples.length := by
  obtain ⟨q, rfl, -, -, multiplier, lower, upper, -, floats⟩ := conversions_of_unitFloat unit
  unfold OssStream.playConversion
  split
  · rename_i floating
    have each : ∀ sample ∈ samples, Sample.floatToLinear32 (.finite q) sample =
        some ((Sample.floatToLinear32 (.finite q) sample).getD sample) := by
      intro sample member
      match sample, produced sample member with
      | .float (.finite x), ⟨_, small⟩ =>
        obtain ⟨value, converted⟩ :=
          Option.isSome_iff_exists.mp (floats [x] (by simpa using small))
        simp only [ossFloatToLinear32, List.map_cons, List.map_nil, List.mapM_cons,
          List.mapM_nil] at converted
        cases sampleValue : floatToLinear32Sample (.finite q) (.finite x) <;>
          simp [sampleValue] at converted
        simp [Sample.floatToLinear32, sampleValue]
      | .fixed _, ⟨fixed, _⟩ => exact absurd (floating.symm.trans fixed) (by decide)
    exact ⟨_, mapM_eq_some_map each, List.length_map _ _⟩
  · rename_i floating
    have each : ∀ sample ∈ samples, Sample.linear16SetVol ⌊q * 2 ^ 15⌋ sample =
        some ((Sample.linear16SetVol ⌊q * 2 ^ 15⌋ sample).getD sample) := by
      intro sample member
      match sample, produced sample member with
      | .fixed x, ⟨_, below, above⟩ =>
        simp [Sample.linear16SetVol, linear16SetVolSample_of_bounds lower upper below above]
      | .float (.finite _), ⟨floating', _⟩ => exact absurd floating' floating
    exact ⟨_, by rw [multiplier, Option.some_bind, mapM_eq_some_map each], List.length_map _ _⟩

/-! ### The play buffer through a run -/

/-- What the play path shows: the frames a data callback produced for the device, its output cut
at the frame count it returned; the volume the thread read under the lock after it; and the
samples a `write` handed the device. -/
inductive PlayObservation where
  | produced (output : List Sample)
  | volumeRead (vol : FloatValue)
  | written (samples : List Sample)
  deriving DecidableEq, Repr

/-- What one event does to the play buffer, with `produce j` the sample the data callback leaves
in the `j`-th slot, and what it shows; the conversion rewrites the buffer and shows nothing.
`none` where the buffer can no longer be followed sample by sample: a conversion past its end,
of a sample of the other kind or undefined, a `write` that hands the device part of a sample or
bytes past the end of the buffer. -/
def playStep (s : Stream) (produce : Nat → Sample) (buffer : List Sample) :
    Event → Option (List Sample × List PlayObservation)
  | .dataCallback frames =>
    let output := (List.range (playSlots s)).map produce
    some (output, if s.play.Active then
      [.produced (output.take (frames.toNat * s.play.info.channels.toNat))] else [])
  | .float32ToLinear32 count vol =>
    if buffer.length < count then none
    else ((buffer.take count).mapM (Sample.floatToLinear32 vol)).map fun converted =>
      (converted ++ buffer.drop count, [])
  | .linear16SetVol count vol =>
    if buffer.length < count then none
    else ((linear16Multiplier vol).bind fun multiplier =>
        (buffer.take count).mapM (Sample.linear16SetVol multiplier)).map fun converted =>
      (converted ++ buffer.drop count, [])
  | .write offset _ result =>
    if result < 0 then some (buffer, [])
    else if offset % s.play.sampleBytes = 0 ∧ result.toNat % s.play.sampleBytes = 0 ∧
        offset / s.play.sampleBytes + result.toNat / s.play.sampleBytes ≤ buffer.length then
      some (buffer, [.written ((buffer.drop (offset / s.play.sampleBytes)).take
        (result.toNat / s.play.sampleBytes))])
    else none
  | .volume vol => some (buffer, [.volumeRead vol])
  | .stateCallback _ | .running _ | .linear32ToFloat _ | .framesWritten _ | .read _ _ _ =>
    some (buffer, [])

/-- One event of a run through the play path: from the number of the event, the buffer before it
and what was shown so far, the same after it. -/
def playStepAt (s : Stream) (produce : Nat → Nat → Sample)
    (state : Nat × List Sample × List PlayObservation) (event : Event) :
    Option (Nat × List Sample × List PlayObservation) :=
  (playStep s (produce state.1) state.2.1 event).map fun (next, more) =>
    (state.1 + 1, next, state.2.2 ++ more)

/-- The play buffer through the events of a run, where the data callback numbered `i` in the run
leaves `produce i j` in the `j`-th slot, and what the play path showed. -/
def playRun (s : Stream) (produce : Nat → Nat → Sample) (buffer : List Sample)
    (events : List Event) : Option (Nat × List Sample × List PlayObservation) :=
  events.foldlM (playStepAt s produce) (0, buffer, [])

theorem playRun_append (s : Stream) (produce : Nat → Nat → Sample) (buffer : List Sample)
    (events : List Event) (event : Event) :
    playRun s produce buffer (events ++ [event]) =
      (playRun s produce buffer events).bind fun state => playStepAt s produce state event := by
  simp only [playRun, List.foldlM_append, List.foldlM_cons, List.foldlM_nil, bind_pure]
  rfl

/-! ### The data flow it should have -/

/-- What the play path owes the device: the frames of the last callback until the volume is
read, then those frames converted at that volume and not yet written. -/
inductive Owed where
  | unconverted (output : List Sample)
  | unwritten (samples : List Sample)
  deriving DecidableEq, Repr

/-- The play path's data flow, one observation at a time, with `convert vol` the conversion at
the volume `vol`: a callback produces only once everything owed was written; the volume read
after it fixes what is owed, its frames converted once at that volume; and each `write` hands
the device the next samples owed. `none` where an observation breaks the flow. -/
def Owed.step (convert : FloatValue → List Sample → Option (List Sample)) :
    Owed → PlayObservation → Option Owed
  | .unwritten [], .produced output => some (.unconverted output)
  | .unconverted output, .volumeRead vol => (convert vol output).map .unwritten
  | .unwritten owed, .written samples =>
    if samples <+: owed then some (.unwritten (owed.drop samples.length)) else none
  | _, _ => none

/-! ### Where the play buffer stands -/

/-- Between the data callback and the conversion: the callback returned `frames`, between 0 and
`nfr`, on an open play direction, and left samples the conversion takes. -/
structure Unconverted (s : Stream) (frames : Int) (buffer : List Sample) : Prop where
  active : s.play.Active
  nonneg : 0 ≤ frames
  bounded : frames ≤ s.nfr
  length : buffer.length = playSlots s
  produces : ∀ sample ∈ buffer, s.play.Produces sample

/-- In the partial-I/O loop, with `write_ofs` and `to_write`, once the conversion made `out` of
the callback's frames: the buffer starts with `out`, `write_ofs` covers whole samples of it,
`write_ofs` and what remains to be written make up `out`, and the rest of `out` is owed. -/
structure Writing (s : Stream) (writeOfs toWrite : Nat) (buffer out : List Sample) (owed : Owed) :
    Prop where
  converted : buffer.take out.length = out
  aligned : writeOfs % s.play.sampleBytes = 0
  total : writeOfs + toWrite * s.play.frameSize = out.length * s.play.sampleBytes
  length : buffer.length = playSlots s
  owes : owed = .unwritten (out.drop (writeOfs / s.play.sampleBytes))

/-- Where the play buffer stands at each point of the routine, against what is owed: nothing from
the head of the loop to the callback; the callback's frames up to the volume read; from it to the
conversion, those frames converted at the volume read, which the buffer still holds unconverted;
the rest of the converted frames in the partial-I/O loop, where `advance` is the point after a
write that the thread has not yet applied; nothing once the stream drains. -/
def PlayInv (s : Stream) (t : IoThread) (buffer : List Sample) (owed : Owed) : Prop :=
  match t.pc with
  | .entry | .check | .convertRecord | .callback =>
    owed = .unwritten [] ∧ buffer.length = playSlots s
  | .volume => Unconverted s t.cbNfr buffer ∧
    owed = .unconverted (buffer.take (t.cbNfr.toNat * s.play.info.channels.toNat))
  | .convertPlay vol => Unconverted s t.cbNfr buffer ∧ ∃ converted,
    s.play.playConversion vol (buffer.take (t.cbNfr.toNat * s.play.info.channels.toNat)) =
      some converted ∧ converted.length = t.cbNfr.toNat * s.play.info.channels.toNat ∧
      owed = .unwritten converted
  | .write | .read => ∃ out, Writing s t.writeOfs t.toWrite buffer out owed
  | .advance written =>
    ∃ out, Writing s (t.writeOfs + written) (t.toWrite - written / s.play.frameSize) buffer out owed
  | .finish state => state = .drained → owed = .unwritten []
  | .done => True

section Steps

variable {s : Stream} {t : IoThread} {buffer out : List Sample} {owed : Owed}

/-- The samples of a buffer that starts with `out`, inside `out`, are those of `out`. -/
theorem take_drop_of_prefix {α : Type} {buffer out : List α} (starts : buffer.take out.length = out)
    {start count : Nat} (inside : start + count ≤ out.length) :
    (buffer.drop start).take count = (out.drop start).take count := by
  rw [List.take_drop, List.take_drop, ← starts, List.take_take, Nat.min_eq_left inside]

/-- A transfer with nothing left to write owes the device nothing more. -/
theorem Writing.settled {writeOfs toWrite : Nat}
    (writing : Writing s writeOfs toWrite buffer out owed) (done : toWrite = 0) :
    owed = .unwritten [] := by
  have total := writing.total
  rw [done, Nat.zero_mul, Nat.add_zero] at total
  rw [writing.owes, total, Nat.mul_div_cancel _ (sampleBytes_pos _), List.drop_length]

theorem playInv_transferHead (writing : Writing s t.writeOfs t.toWrite buffer out owed) :
    PlayInv s t.transferHead buffer owed := by
  unfold IoThread.transferHead
  split_ifs with writes
  · exact ⟨out, writing⟩
  · exact ⟨out, writing⟩
  · exact fun _ => writing.settled (by omega)
  · exact ⟨writing.settled (by omega), writing.length⟩

theorem playInv_afterWrite (writing : Writing s t.writeOfs t.toWrite buffer out owed) :
    PlayInv s t.afterWrite buffer owed := by
  unfold IoThread.afterWrite
  split_ifs
  exacts [⟨out, writing⟩, playInv_transferHead writing]

theorem playInv_startTransfer
    (writing : Writing s 0 (if s.play.Active then sizeOfLong t.cbNfr else 0) buffer out owed) :
    PlayInv s (t.startTransfer s) buffer owed :=
  playInv_transferHead writing

theorem playInv_afterConversion
    (writing : Writing s 0 (if s.play.Active then sizeOfLong t.cbNfr else 0) buffer out owed) :
    PlayInv s (t.afterConversion s) buffer owed := by
  unfold IoThread.afterConversion
  split_ifs
  · exact playInv_startTransfer writing
  · intro stopped
    cases stopped
  · exact playInv_startTransfer writing

theorem playInv_afterCheck (settled : owed = .unwritten []) (length : buffer.length = playSlots s)
    (value : Bool) : PlayInv s (t.afterCheck s value) buffer owed := by
  unfold IoThread.afterCheck
  split_ifs
  · intro stopped
    cases stopped
  · intro stopped
    cases stopped
  · exact And.intro settled length
  · exact And.intro settled length

/-- The callback's frames lie inside the play buffer. -/
theorem Unconverted.fits {frames : Int} (produced : Unconverted s frames buffer) :
    frames.toNat * s.play.info.channels.toNat ≤ buffer.length := by
  rw [produced.length, playSlots, if_pos produced.active]
  exact Nat.mul_le_mul_right _ (by have := produced.bounded; omega)

/-- Nothing to write: a transfer with no frames of the play buffer. -/
theorem Writing.empty (length : buffer.length = playSlots s) :
    Writing s 0 0 buffer [] (.unwritten []) :=
  ⟨rfl, Nat.zero_mod _, by simp, length, by rw [List.drop_nil]⟩

/-- The conversion leaves the converted frames at the start of the buffer, and the transfer that
follows writes exactly them. -/
theorem Writing.converted_start (layout : s.play.SampleLayout) (fit : s.ChannelsFit)
    (produced : Unconverted s t.cbNfr buffer) {converted : List Sample}
    (count : converted.length = t.cbNfr.toNat * s.play.info.channels.toNat) :
    Writing s 0 (if s.play.Active then sizeOfLong t.cbNfr else 0)
      (converted ++ buffer.drop (t.cbNfr.toNat * s.play.info.channels.toNat)) converted
      (.unwritten converted) := by
  have fewer := produced.fits
  refine ⟨List.take_left' rfl, Nat.zero_mod _, ?_, ?_, by rw [Nat.zero_div, List.drop_zero]⟩
  · rw [if_pos produced.active, sizeOfLong_of_nonneg produced.nonneg
      (by have := produced.bounded; have := s.nfr_lt; omega), count,
      frameSize_of_layout layout fit.play produced.active, Nat.zero_add, Nat.mul_assoc]
  · rw [List.length_append, List.length_drop, count, ← produced.length]
    omega

/-- A `write` that moves whole frames, `moved` bytes, hands the device the next
`moved / sampleBytes` samples owed, and the loop goes on from there. -/
theorem Writing.write (layout : s.play.SampleLayout) (fit : s.ChannelsFit) {writeOfs toWrite : Nat}
    (writing : Writing s writeOfs toWrite buffer out owed) {moved : Nat}
    (asked : moved ≤ toWrite * s.play.frameSize) (whole : moved % s.play.frameSize = 0)
    (produce : Nat → Sample) (convert : FloatValue → List Sample → Option (List Sample)) :
    let samples := (out.drop (writeOfs / s.play.sampleBytes)).take (moved / s.play.sampleBytes)
    playStep s produce buffer (.write writeOfs (toWrite * s.play.frameSize) moved) =
        some (buffer, [.written samples]) ∧
      ∃ owed', Owed.step convert owed (.written samples) = some owed' ∧
        Writing s (writeOfs + moved) (toWrite - moved / s.play.frameSize) buffer out owed' := by
  intro samples
  obtain ⟨converted, aligned, total, length, rfl⟩ := writing
  have wide := sampleBytes_pos s.play
  have within : out.length ≤ buffer.length := converted ▸ List.length_take_le' _ _
  have divides : s.play.sampleBytes ∣ moved := by
    by_cases active : s.play.Active
    · rw [frameSize_of_layout layout fit.play active] at whole
      exact Nat.dvd_trans (Nat.dvd_mul_left _ _) (Nat.dvd_of_mod_eq_zero whole)
    · rw [length, playSlots, if_neg active] at within
      rw [Nat.le_zero.mp within, Nat.zero_mul] at total
      have nothing : moved = 0 := by omega
      exact nothing ▸ Nat.dvd_zero _
  have count : moved / s.play.sampleBytes * s.play.sampleBytes = moved :=
    Nat.div_mul_cancel divides
  have start : writeOfs / s.play.sampleBytes * s.play.sampleBytes = writeOfs :=
    Nat.div_mul_cancel (Nat.dvd_of_mod_eq_zero aligned)
  have inside : writeOfs / s.play.sampleBytes + moved / s.play.sampleBytes ≤ out.length := by
    refine Nat.le_of_mul_le_mul_right ?_ wide
    rw [Nat.add_mul, start, count, ← total]
    omega
  have advanced : (writeOfs + moved) / s.play.sampleBytes =
      writeOfs / s.play.sampleBytes + moved / s.play.sampleBytes := by
    have shifted := Nat.add_mul_div_right writeOfs (moved / s.play.sampleBytes) wide
    rwa [count] at shifted
  have sent : samples.length = moved / s.play.sampleBytes := by
    rw [List.length_take, List.length_drop]
    omega
  refine ⟨?_, _, ?_, ⟨converted, ?_, transferSum_of_wholeFrames total asked whole, length, rfl⟩⟩
  · rw [playStep, if_neg (by omega), Int.toNat_ofNat, if_pos ⟨aligned,
      Nat.mod_eq_zero_of_dvd divides, by omega⟩, take_drop_of_prefix converted inside]
  · rw [Owed.step, if_pos (List.take_prefix _ _), sent, List.drop_drop, advanced]
  · rw [← count, ← start, ← Nat.add_mul, Nat.mul_mod_left]

/-- One step of the I/O thread: the play path follows it, what it shows keeps to the data flow
from what was owed, and the buffer stays where `PlayInv` says. -/
theorem playInv_step {shared shared' : Shared} {next : IoThread} {result : Int} {event : Event}
    (layout : s.play.SampleLayout) (fit : s.ChannelsFit)
    (samplesFit : (s.nfr : Int) * s.play.info.channels < 2 ^ 32)
    (step : ioStep s shared t result = some (next, shared', event)) (whole : event.WholeFrames s)
    (unitVolume : ∀ vol, event = .volume vol → vol.UnitFloat) {produce : Nat → Sample}
    (produces : ∀ j, s.play.Produces (produce j)) (inv : PlayInv s t buffer owed) :
    ∃ buffer' more owed', playStep s produce buffer event = some (buffer', more) ∧
      more.foldlM (Owed.step s.play.playConversion) owed = some owed' ∧
      PlayInv s next buffer' owed' := by
  cases pc : t.pc <;> simp only [ioStep, pc, Option.some.injEq, Prod.mk.injEq,
    reduceCtorEq] at step <;> obtain ⟨rfl, -, rfl⟩ := step <;> simp only [PlayInv, pc] at inv
  case entry => exact ⟨buffer, [], owed, rfl, rfl, inv⟩
  case check => exact ⟨buffer, [], owed, rfl, rfl, playInv_afterCheck inv.1 inv.2 _⟩
  case convertRecord => exact ⟨buffer, [], owed, rfl, rfl, inv⟩
  case callback =>
    obtain ⟨rfl, -⟩ := inv
    have length : ((List.range (playSlots s)).map produce).length = playSlots s := by simp
    have produced : ∀ sample ∈ (List.range (playSlots s)).map produce, s.play.Produces sample := by
      simp only [List.mem_map]
      rintro _ ⟨j, -, rfl⟩
      exact produces j
    unfold IoThread.afterCallback
    by_cases active : s.play.Active
    · refine ⟨_, _, _, rfl, by rw [if_pos active]; rfl, ?_⟩
      split_ifs with sentinel
      · intro errored
        cases errored
      · exact ⟨⟨active, (whole.resolve_left sentinel).1, (whole.resolve_left sentinel).2, length,
          produced⟩, rfl⟩
    · refine ⟨_, _, .unwritten [], rfl, by rw [if_neg active]; rfl, ?_⟩
      split_ifs
      · intro errored
        cases errored
      · exact playInv_afterConversion (by rw [if_neg active]; exact Writing.empty length)
  case volume =>
    obtain ⟨produced, rfl⟩ := inv
    obtain ⟨converted, conversion, convertedLength⟩ := playConversion_of_produces (unitVolume _ rfl)
      fun sample (member : sample ∈ buffer.take (t.cbNfr.toNat * s.play.info.channels.toNat)) =>
        produced.produces sample (List.mem_of_mem_take member)
    refine ⟨buffer, _, .unwritten converted, rfl, by simp [Owed.step, conversion], produced,
      converted, conversion, ?_, rfl⟩
    show converted.length = t.cbNfr.toNat * s.play.info.channels.toNat
    have fewer := produced.fits
    rw [convertedLength, List.length_take]
    omega
  case convertPlay vol =>
    obtain ⟨produced, converted, conversion, counted, rfl⟩ := inv
    have count : unsignedOf (s.play.info.channels * t.cbNfr) =
        t.cbNfr.toNat * s.play.info.channels.toNat :=
      unsignedOf_samples fit.play.1 produced.nonneg produced.bounded samplesFit
    refine ⟨_, [], .unwritten converted, ?_, rfl,
      playInv_afterConversion (Writing.converted_start layout fit produced counted)⟩
    unfold OssStream.playConversion at conversion
    split <;> rename_i floating <;> simp only [floating, if_true, if_false,
      Bool.false_eq_true] at conversion <;>
    rw [playStep, count, if_neg (Nat.not_lt.mpr produced.fits), conversion] <;> rfl
  case write =>
    obtain ⟨out, writing⟩ := inv
    by_cases failed : result < 0
    · refine ⟨buffer, [], owed, by simp [playStep, failed], rfl, ?_⟩
      simp only [failed, if_true]
      exact fun errored => by cases errored
    obtain ⟨asked, frames⟩ := whole.resolve_left failed
    obtain ⟨stepped, owed', flow, writing'⟩ :=
      writing.write layout fit (by omega) frames produce s.play.playConversion
    rw [Int.toNat_of_nonneg (by omega)] at stepped
    refine ⟨_, _, owed', stepped, by simp [flow], ?_⟩
    simp only [failed, if_false]
    exact ⟨out, writing'⟩
  case advance =>
    obtain ⟨out, writing⟩ := inv
    exact ⟨buffer, [], owed, rfl, rfl, playInv_afterWrite writing⟩
  case read =>
    obtain ⟨out, writing⟩ := inv
    refine ⟨buffer, [], owed, rfl, rfl, ?_⟩
    split
    · exact fun errored => by cases errored
    · exact playInv_transferHead writing
  case finish => exact ⟨buffer, [], owed, rfl, rfl, trivial⟩

end Steps

/-! ### The volumes the thread reads -/

/-- A step that reads the volume reads the one it finds in the shared fields. -/
theorem ioStep_volume_read {s : Stream} {shared shared' : Shared} {t next : IoThread}
    {result : Int} {vol : FloatValue}
    (step : ioStep s shared t result = some (next, shared', .volume vol)) :
    vol = shared.volume := by
  cases pc : t.pc <;> simp only [ioStep, pc, Option.some.injEq, Prod.mk.injEq, reduceCtorEq,
    false_and, and_false] at step
  case volume => exact (Event.volume.inj step.2.2).symm
  all_goals split at step <;> simp at step

/-- Every volume a run of the I/O thread reads is the volume of one of its answers. -/
theorem ioRun_volume_read (s : Stream) :
    ∀ (inputs : List (Shared × Int)) (t : IoThread) (vol : FloatValue),
      Event.volume vol ∈ (ioRun s t inputs).2 → ∃ input ∈ inputs, input.1.volume = vol
  | [], _, _, member => by cases member
  | (shared, result) :: rest, t, vol, member => by
    unfold ioRun at member
    cases stepped : ioStep s shared t result with
    | none =>
      rw [stepped] at member
      obtain ⟨input, mem, same⟩ := ioRun_volume_read s rest t vol member
      exact ⟨input, List.mem_cons_of_mem _ mem, same⟩
    | some outcome =>
      obtain ⟨next, shared', event⟩ := outcome
      rw [stepped] at member
      rcases List.mem_cons.mp member with same | later
      · rw [← same] at stepped
        exact ⟨(shared, result), List.mem_cons_self _ _, (ioStep_volume_read stepped).symm⟩
      · obtain ⟨input, mem, same⟩ := ioRun_volume_read s rest next vol later
        exact ⟨input, List.mem_cons_of_mem _ mem, same⟩

/-! ### The data flow of every run -/

/-- Over every run of the I/O thread of a stream that `oss_stream_init` builds, with channel
counts that fit and a play buffer of fewer than `2 ^ 32` samples, in which the data callback
keeps to its contract and leaves samples the conversion takes, every device call moves whole
frames and the stored volume is always a finite `float` in `[0, 1]`: the play buffer can be
followed sample by sample, and what it shows is a run of the data flow `Owed.step`. The device
is handed the frames of each callback converted at the volume the thread read after it, each
sample once and in order, all of them before the next callback; once an iteration completes
nothing is owed. -/
theorem ioRun_playFlow {request : InitRequest} {world : InitWorld} {state : StreamState}
    (stored : (ossStreamInit request world).stream = some state) (fit : state.stream.ChannelsFit)
    (samplesFit : (state.stream.nfr : Int) * state.stream.play.info.channels < 2 ^ 32)
    (inputs : List (Shared × Int)) (produce : Nat → Nat → Sample)
    (produces : ∀ i j, state.stream.play.Produces (produce i j))
    (wholeFrames : ∀ event ∈ (ioRun state.stream IoThread.initial inputs).2,
      event.WholeFrames state.stream)
    (volumes : ∀ input ∈ inputs, input.1.volume.UnitFloat) :
    ∃ index buffer observations owed,
      playRun state.stream produce (List.replicate (playSlots state.stream) (.fixed 0))
          (ioRun state.stream IoThread.initial inputs).2 = some (index, buffer, observations) ∧
        observations.foldlM (Owed.step state.stream.play.playConversion) (.unwritten []) =
          some owed ∧
        ((ioRun state.stream IoThread.initial inputs).1.pc = .check ∨
          (ioRun state.stream IoThread.initial inputs).1.pc = .finish .drained →
          owed = .unwritten []) := by
  have layout := (ossStreamInit_sampleLayout stored).1
  have holds := ioRun_invariant state.stream
    (fun t events => (∀ event ∈ events, event.WholeFrames state.stream ∧
        ∀ vol, event = .volume vol → vol.UnitFloat) →
      ∃ buffer observations owed,
        playRun state.stream produce (List.replicate (playSlots state.stream) (.fixed 0))
            events = some (events.length, buffer, observations) ∧
          observations.foldlM (Owed.step state.stream.play.playConversion) (.unwritten []) =
            some owed ∧
          PlayInv state.stream t buffer owed)
    (fun _ _ _ _ _ event events step holds kept => by
      obtain ⟨buffer, observations, owed, run, flow, inv⟩ :=
        holds fun _ member => kept _ (List.mem_append_left _ member)
      have current := kept _ (List.mem_append_right _ (List.mem_singleton_self _))
      obtain ⟨buffer', more, owed', stepped, flowMore, inv'⟩ :=
        playInv_step layout fit samplesFit step current.1 current.2 (produces events.length) inv
      refine ⟨buffer', observations ++ more, owed', ?_,
        by rw [List.foldlM_append, flow]; exact flowMore, inv'⟩
      rw [playRun_append, run, Option.some_bind, playStepAt, stepped, List.length_append,
        List.length_singleton]
      rfl)
    inputs IoThread.initial [] fun _ => ⟨_, [], _, rfl, rfl, rfl, List.length_replicate _ _⟩
  rw [List.nil_append] at holds
  obtain ⟨buffer, observations, owed, run, flow, inv⟩ :=
    holds fun event member => ⟨wholeFrames event member, fun vol same => by
      obtain ⟨input, read, rfl⟩ := ioRun_volume_read _ _ _ vol (same ▸ member)
      exact volumes input read⟩
  refine ⟨_, buffer, observations, owed, run, flow, ?_⟩
  rintro (atCheck | drained)
  · simp only [PlayInv, atCheck] at inv
    exact inv.1
  · simp only [PlayInv, drained] at inv
    exact inv trivial

/-- A mono 16-bit playback stream with a one-frame block, over one iteration and the next
callback: the thread reads the volume `1.0`, converts the one sample and writes the frame's two
bytes in one write before the second callback runs, and the preconditions of `ioRun_playFlow`
hold. -/
theorem ioRun_playFlow_mono :
    let request : InitRequest := ⟨none, some ⟨.s16le, 48000, 1, false⟩⟩
    let echo : Dsp := ⟨some, some, some, none⟩
    let world : InitWorld := ⟨true, -1, echo, 3, echo, true, true, true⟩
    let state : StreamState :=
      ⟨⟨⟨3, ⟨1, 48000, 0x10, 16⟩, 2, false⟩, .closed, 1, by decide⟩, Shared.initial, true, false⟩
    let running : Shared := ⟨true, .finite 1, 0⟩
    let inputs := [(running, 0), (running, 0), (running, 1), (running, 0), (running, 0),
      (running, 2), (running, 0), (running, 0), (running, 1)]
    let produce : Nat → Nat → Sample := fun _ _ => .fixed (-1000)
    (ossStreamInit request world).stream = some state ∧ state.stream.ChannelsFit ∧
      (state.stream.nfr : Int) * state.stream.play.info.channels < 2 ^ 32 ∧
      (∀ i j, state.stream.play.Produces (produce i j)) ∧
      (∀ event ∈ (ioRun state.stream IoThread.initial inputs).2,
        event.WholeFrames state.stream) ∧
      (∀ input ∈ inputs, input.1.volume.UnitFloat) ∧
      (ioRun state.stream IoThread.initial inputs).2 =
        [.stateCallback .started, .running true, .dataCallback 1, .volume (.finite 1),
          .linear16SetVol 1 (.finite 1), .write 0 2 2, .framesWritten 1, .running true,
          .dataCallback 1] ∧
      ∃ index buffer observations owed,
        playRun state.stream produce (List.replicate (playSlots state.stream) (.fixed 0))
            (ioRun state.stream IoThread.initial inputs).2 = some (index, buffer, observations) ∧
          observations.foldlM (Owed.step state.stream.play.playConversion) (.unwritten []) =
            some owed ∧
          ((ioRun state.stream IoThread.initial inputs).1.pc = .check ∨
            (ioRun state.stream IoThread.initial inputs).1.pc = .finish .drained →
            owed = .unwritten []) :=
  (fun stored fit samplesFit produces whole volumes =>
      ⟨stored, fit, samplesFit, produces, whole, volumes, by decide,
        ioRun_playFlow stored fit samplesFit _ _ produces whole volumes⟩)
    (by decide) (by decide) (by decide) (fun _ _ => ⟨rfl, by decide, by decide⟩) (by decide)
    fun input member => by
      rw [show input.1 = ⟨true, .finite 1, 0⟩ by revert input; decide]
      exact ⟨binary32_represents_one, zero_le_one, le_rfl⟩

end Cubeb.Oss
