import CubebOss.Conversions
import CubebOss.Convert

/-!
This file follows the samples of the record path of `oss_io_routine`. Each iteration of the main
loop first converts the record buffer in place with `oss_linear32_to_float` when the stream
carries `float` samples, then hands it to the data callback, and only then reads the next block
from the device into it. So a callback is handed the samples the reads of the iteration before
stored, converted once; the first callback, before any read, is handed the zeros of the buffer
`calloc` made.

The buffer is followed sample by sample (`recordRun`), which is exact as long as every `read`
moves whole samples. A `read` may return part of a frame, and then the next one stores from the
middle of a sample and past the end of the buffer (`ioRun_read_overruns_record_buffer`). Where
every device call moves whole frames, `ioRun_recordFlow` shows the data flow above over every
run of the I/O thread of a stream that `oss_stream_init` builds.
-/

namespace Cubeb.Oss

/-! ### Samples in a buffer -/

/-- A sample of a buffer as the code reads it: a fixed-point value (`int16_t` or `int32_t`) or a
`float`. -/
inductive Sample where
  | fixed (value : Int)
  | float (value : FloatValue)
  deriving DecidableEq, Repr

/-- One sample of `oss_linear32_to_float`: an `int32_t` becomes the `float` it scales to. The
model does not read the bits of a `float` back as an `int32_t` (`none`). -/
def Sample.linear32ToFloat : Sample → Option Sample
  | .fixed value => some (.float (linear32ToFloatSample value))
  | .float _ => none

/-- The bytes of one sample of a direction: 4 for `float` samples, which the device exchanges as
`int32_t`, and 2 for 16-bit ones. -/
def OssStream.sampleBytes (direction : OssStream) : Nat := if direction.floating then 4 else 2

/-- What the data callback is handed for a sample the record device stored: the `float` that
`oss_linear32_to_float` makes of it on a `float` stream, the sample itself otherwise. -/
def OssStream.handedSample (direction : OssStream) (value : Int) : Sample :=
  if direction.floating then .float (linear32ToFloatSample value) else .fixed value

/-- The samples of the record buffer, `record.info.channels * nfr`; none when the direction is
not open and the buffer is `NULL`. -/
def recordSlots (s : Stream) : Nat :=
  if s.record.Active then s.nfr * s.record.info.channels.toNat else 0

/-- The list with the slots from `start` on replaced by `values`. -/
def overwrite {α : Type} (start : Nat) (values list : List α) : List α :=
  list.take start ++ values ++ list.drop (start + values.length)

theorem overwrite_length {α : Type} {start : Nat} {values list : List α}
    (inside : start + values.length ≤ list.length) :
    (overwrite start values list).length = list.length := by
  simp only [overwrite, List.length_append, List.length_take, List.length_drop]
  omega

theorem take_overwrite {α : Type} {start : Nat} {values list : List α}
    (inside : start ≤ list.length) :
    (overwrite start values list).take (start + values.length) = list.take start ++ values := by
  rw [overwrite, List.take_append_of_le_length
      (by simp only [List.length_append, List.length_take]; omega),
    List.take_of_length_le (by simp only [List.length_append, List.length_take]; omega)]

/-! ### The record buffer through a run -/

/-- What the record path shows: the record buffer a data callback is handed, and the samples a
`read` stores. -/
inductive RecordObservation where
  | handed (input : List Sample)
  | recorded (samples : List Int)
  deriving DecidableEq, Repr

/-- What one event does to the record buffer, with `deliver j` the `j`-th sample a `read` stores,
and what it shows. `none` where the buffer can no longer be followed sample by sample: a `read`
that moves part of a sample or stores past the end of the buffer, a conversion past its end. -/
def recordStep (s : Stream) (deliver : Nat → Int) (buffer : List Sample) :
    Event → Option (List Sample × List RecordObservation)
  | .linear32ToFloat count =>
    if buffer.length < count then none
    else ((buffer.take count).mapM Sample.linear32ToFloat).map fun converted =>
      (converted ++ buffer.drop count, [])
  | .dataCallback _ => some (buffer, [.handed buffer])
  | .read offset _ result =>
    if result < 0 then some (buffer, [])
    else if offset % s.record.sampleBytes = 0 ∧ result.toNat % s.record.sampleBytes = 0 ∧
        offset / s.record.sampleBytes + result.toNat / s.record.sampleBytes ≤ buffer.length then
      some (overwrite (offset / s.record.sampleBytes)
          ((List.range (result.toNat / s.record.sampleBytes)).map fun j => .fixed (deliver j))
          buffer,
        [.recorded ((List.range (result.toNat / s.record.sampleBytes)).map deliver)])
    else none
  | .stateCallback _ | .running _ | .volume _ | .float32ToLinear32 _ _ | .linear16SetVol _ _
  | .write _ _ _ | .framesWritten _ => some (buffer, [])

/-- One event of a run through the record path: from the number of the event, the buffer before
it and what was shown so far, the same after it. -/
def recordStepAt (s : Stream) (deliver : Nat → Nat → Int)
    (state : Nat × List Sample × List RecordObservation) (event : Event) :
    Option (Nat × List Sample × List RecordObservation) :=
  (recordStep s (deliver state.1) state.2.1 event).map fun (next, more) =>
    (state.1 + 1, next, state.2.2 ++ more)

/-- The record buffer through the events of a run, where the `read` numbered `i` in the run
stores `deliver i j` as its `j`-th sample, and what the record path showed. -/
def recordRun (s : Stream) (deliver : Nat → Nat → Int) (buffer : List Sample)
    (events : List Event) : Option (Nat × List Sample × List RecordObservation) :=
  events.foldlM (recordStepAt s deliver) (0, buffer, [])

theorem recordRun_append (s : Stream) (deliver : Nat → Nat → Int) (buffer : List Sample)
    (events : List Event) (event : Event) :
    recordRun s deliver buffer (events ++ [event]) =
      (recordRun s deliver buffer events).bind fun state => recordStepAt s deliver state event := by
  simp only [recordRun, List.foldlM_append, List.foldlM_cons, List.foldlM_nil, bind_pure]
  rfl

/-! ### The data flow it should have -/

/-- The samples stored since the last callback, counting on from `pending`. -/
def recordPending : List Int → List RecordObservation → List Int
  | pending, [] => pending
  | _, .handed _ :: rest => recordPending [] rest
  | pending, .recorded samples :: rest => recordPending (pending ++ samples) rest

/-- The record path's data flow: every callback is handed, each through `convert`, the samples
stored since the callback before, and the first callback `pending`. -/
def RecordFlow (convert : Int → Sample) : List Int → List RecordObservation → Prop
  | _, [] => True
  | pending, .handed input :: rest => input = pending.map convert ∧ RecordFlow convert [] rest
  | pending, .recorded samples :: rest => RecordFlow convert (pending ++ samples) rest

theorem recordPending_append (pending : List Int) (observations more : List RecordObservation) :
    recordPending pending (observations ++ more) =
      recordPending (recordPending pending observations) more := by
  induction observations generalizing pending with
  | nil => rfl
  | cons observation rest inductionHypothesis =>
    rw [List.cons_append]
    cases observation <;> exact inductionHypothesis _

theorem recordFlow_append {convert : Int → Sample} (pending : List Int)
    (observations more : List RecordObservation) :
    RecordFlow convert pending (observations ++ more) ↔
      RecordFlow convert pending observations ∧
        RecordFlow convert (recordPending pending observations) more := by
  induction observations generalizing pending with
  | nil => exact (and_iff_right trivial).symm
  | cons observation rest inductionHypothesis =>
    cases observation with
    | handed input =>
      rw [List.cons_append]
      simp only [RecordFlow, recordPending, inductionHypothesis, and_assoc]
    | recorded samples =>
      rw [List.cons_append]
      simp only [RecordFlow, recordPending, inductionHypothesis]

/-! ### Where the record buffer stands -/

/-- In the partial-I/O loop, with `read_ofs` and `to_read`: the buffer holds the samples stored
since the callback at its start, `read_ofs` covers them, and `read_ofs` and what remains to be
read make up the buffer. -/
structure Reading (s : Stream) (readOfs toRead : Nat) (buffer : List Sample)
    (pending : List Int) : Prop where
  stored : buffer.take pending.length = pending.map .fixed
  covered : pending.length * s.record.sampleBytes = readOfs
  total : readOfs + toRead * s.record.frameSize = recordSlots s * s.record.sampleBytes
  length : buffer.length = recordSlots s

/-- Where the record buffer stands at each point of the routine, against the samples `pending`
stored since the last callback: at the head of the loop it holds them; before the record
conversion it holds them on an open direction with `float` samples; before the callback it
holds them as the callback is handed them; after it, it is ready to be read into. -/
def RecordInv (s : Stream) (t : IoThread) (buffer : List Sample) (pending : List Int) : Prop :=
  match t.pc with
  | .entry | .check => buffer = pending.map .fixed ∧ pending.length = recordSlots s
  | .convertRecord =>
    buffer = pending.map .fixed ∧ pending.length = recordSlots s ∧ s.record.Active ∧
      s.record.floating = true
  | .callback => buffer = pending.map s.record.handedSample ∧ pending.length = recordSlots s
  | .volume | .convertPlay _ => pending = [] ∧ buffer.length = recordSlots s
  | .write | .read | .advance _ => Reading s t.readOfs t.toRead buffer pending
  | .finish _ | .done => True

section Steps

variable {s : Stream} {t : IoThread} {buffer : List Sample} {pending : List Int}

/-- A frame of an open direction with the layout `oss_stream_init` gives it, and a channel count
that fits, is `channels` samples. -/
theorem frameSize_of_layout {direction : OssStream} (layout : direction.SampleLayout)
    (fits : 0 ≤ direction.info.channels ∧ direction.info.channels < 2 ^ 30)
    (active : direction.Active) :
    direction.frameSize = direction.info.channels.toNat * direction.sampleBytes := by
  obtain ⟨frameSize, precision⟩ := layout active
  rw [frameSize, frameSizeOf, precision, OssStream.sampleBytes, unsignedOf]
  cases direction.floating
  · rw [if_neg Bool.false_ne_true, if_neg Bool.false_ne_true, show (16 : Int).tdiv 8 = 2 from rfl]
    omega
  · rw [if_pos rfl, if_pos rfl, show (32 : Int).tdiv 8 = 4 from rfl]
    omega

/-- The `unsigned int` sample count of a conversion, `channels * frames` for at most `nfr`
frames, does not wrap when a block of samples fits in 32 bits. -/
theorem unsignedOf_samples {channels frames : Int} {nfr : Nat} (nonneg : 0 ≤ channels)
    (framesNonneg : 0 ≤ frames) (fewer : frames ≤ nfr)
    (samplesFit : (nfr : Int) * channels < 2 ^ 32) :
    unsignedOf (channels * frames) = frames.toNat * channels.toNat := by
  have atMost : channels * frames ≤ nfr * channels := by
    rw [Int.mul_comm]
    exact Int.mul_le_mul_of_nonneg_right fewer nonneg
  have product : ((frames.toNat * channels.toNat : Nat) : Int) = channels * frames := by
    rw [Int.ofNat_mul, Int.toNat_of_nonneg framesNonneg, Int.toNat_of_nonneg nonneg, Int.mul_comm]
  rw [unsignedOf, Int.emod_eq_of_lt (Int.mul_nonneg nonneg framesNonneg) (by omega), ← product,
    Int.toNat_ofNat]

/-- The whole record buffer in bytes: `nfr` frames of an open direction, nothing otherwise. -/
theorem recordTotal (layout : s.record.SampleLayout) (fit : s.ChannelsFit) :
    (if s.record.Active then s.nfr else 0) * s.record.frameSize =
      recordSlots s * s.record.sampleBytes := by
  unfold recordSlots
  split
  · rename_i active
    rw [frameSize_of_layout layout fit.record active, Nat.mul_assoc]
  · simp

theorem sampleBytes_pos (direction : OssStream) : 0 < direction.sampleBytes := by
  unfold OssStream.sampleBytes
  split <;> decide

/-- The partial-I/O loop, once nothing remains to be read, has refilled the whole buffer. -/
theorem Reading.full {readOfs toRead : Nat} (reading : Reading s readOfs toRead buffer pending)
    (done : toRead = 0) : buffer = pending.map .fixed ∧ pending.length = recordSlots s := by
  have filled : pending.length = recordSlots s := by
    have total := reading.total
    rw [done, Nat.zero_mul, Nat.add_zero, ← reading.covered] at total
    exact Nat.eq_of_mul_eq_mul_right (sampleBytes_pos _) total
  refine ⟨?_, filled⟩
  rw [← reading.stored, List.take_of_length_le (by rw [reading.length, filled])]

theorem recordInv_transferHead (reading : Reading s t.readOfs t.toRead buffer pending) :
    RecordInv s t.transferHead buffer pending := by
  unfold IoThread.transferHead
  split_ifs with writing reading' draining
  · exact reading
  · exact reading
  · trivial
  · exact reading.full (by omega)

theorem recordInv_afterWrite (reading : Reading s t.readOfs t.toRead buffer pending) :
    RecordInv s t.afterWrite buffer pending := by
  unfold IoThread.afterWrite
  split_ifs
  exacts [reading, recordInv_transferHead reading]

theorem recordInv_afterConversion (layout : s.record.SampleLayout) (fit : s.ChannelsFit)
    (length : buffer.length = recordSlots s) : RecordInv s (t.afterConversion s) buffer [] := by
  have start : ∀ t : IoThread, RecordInv s (t.startTransfer s) buffer [] := fun t =>
    recordInv_transferHead ⟨rfl, Nat.zero_mul _, by rw [Nat.zero_add, recordTotal layout fit],
      length⟩
  unfold IoThread.afterConversion
  split_ifs
  exacts [start _, trivial, start _]

theorem recordInv_afterCallback (layout : s.record.SampleLayout) (fit : s.ChannelsFit)
    (length : buffer.length = recordSlots s) (result : Int) :
    RecordInv s (t.afterCallback s result) buffer [] := by
  unfold IoThread.afterCallback
  split_ifs
  exacts [trivial, ⟨rfl, length⟩, recordInv_afterConversion layout fit length]

theorem recordInv_afterCheck (holds : buffer = pending.map .fixed)
    (filled : pending.length = recordSlots s) (value : Bool) :
    RecordInv s (t.afterCheck s value) buffer pending := by
  unfold IoThread.afterCheck
  split_ifs with stopped closed floating
  · trivial
  · trivial
  · exact ⟨holds, filled, floating.1, floating.2⟩
  · refine ⟨?_, filled⟩
    rw [holds]
    by_cases active : s.record.Active
    · have fixed : s.record.floating = false := by simpa [active] using floating
      simp [OssStream.handedSample, fixed]
    · have empty : pending = [] := by
        rw [← List.length_eq_zero, filled, recordSlots, if_neg active]
      simp [empty]

/-- A `read` that stores whole frames, `moved` bytes, stores `moved / sampleBytes` samples right
after those already stored, inside the buffer, and the loop goes on from there. -/
theorem Reading.read (layout : s.record.SampleLayout) (fit : s.ChannelsFit) {readOfs toRead : Nat}
    (reading : Reading s readOfs toRead buffer pending) {moved : Nat}
    (asked : moved ≤ toRead * s.record.frameSize) (whole : moved % s.record.frameSize = 0)
    (deliver : Nat → Int) :
    let samples := (List.range (moved / s.record.sampleBytes)).map deliver
    recordStep s deliver buffer (.read readOfs (toRead * s.record.frameSize) moved) =
        some (overwrite pending.length (samples.map .fixed) buffer, [.recorded samples]) ∧
      Reading s (readOfs + moved) (toRead - moved / s.record.frameSize)
        (overwrite pending.length (samples.map .fixed) buffer) (pending ++ samples) := by
  intro samples
  obtain ⟨stored, covered, total, length⟩ := reading
  have wide := sampleBytes_pos s.record
  have divides : s.record.sampleBytes ∣ moved := by
    by_cases active : s.record.Active
    · rw [frameSize_of_layout layout fit.record active] at whole
      exact Nat.dvd_trans (Nat.dvd_mul_left _ _) (Nat.dvd_of_mod_eq_zero whole)
    · rw [recordSlots, if_neg active, Nat.zero_mul] at total
      have nothing : moved = 0 := by
        have := Nat.le_zero.mp ((Nat.le_add_left _ _).trans total.le)
        omega
      exact nothing ▸ Nat.dvd_zero _
  have count : moved / s.record.sampleBytes * s.record.sampleBytes = moved :=
    Nat.div_mul_cancel divides
  have inside : pending.length + moved / s.record.sampleBytes ≤ buffer.length := by
    rw [length]
    refine Nat.le_of_mul_le_mul_right ?_ wide
    rw [Nat.add_mul, covered, count, ← total]
    omega
  have values : (samples.map Sample.fixed).length = moved / s.record.sampleBytes := by
    rw [List.length_map, List.length_map, List.length_range]
  refine ⟨?_, ⟨?_, ?_, ?_, ?_⟩⟩
  · have offset : readOfs / s.record.sampleBytes = pending.length := by
      rw [← covered, Nat.mul_div_cancel _ wide]
    rw [recordStep, if_neg (by omega), Int.toNat_ofNat,
      if_pos ⟨by rw [← covered, Nat.mul_mod_left], Nat.mod_eq_zero_of_dvd divides,
        by rw [offset]; exact inside⟩, offset, List.map_map]
    rfl
  · rw [List.length_append, List.length_map, List.length_range, ← values,
      take_overwrite (by omega), stored, List.map_append]
  · rw [List.length_append, List.length_map, List.length_range, Nat.add_mul, covered, count]
  · exact transferSum_of_wholeFrames total asked whole
  · rw [overwrite_length (by rw [values]; exact inside), length]

/-- On a `float` record stream, `oss_linear32_to_float` turns a buffer of stored samples into
what the callback is handed. -/
theorem mapM_linear32ToFloat {direction : OssStream} (floating : direction.floating = true) :
    ∀ values : List Int,
      (values.map Sample.fixed).mapM Sample.linear32ToFloat =
        some (values.map direction.handedSample)
  | [] => rfl
  | value :: rest => by
    rw [List.map_cons, List.mapM_cons, mapM_linear32ToFloat floating rest]
    simp [Sample.linear32ToFloat, OssStream.handedSample, floating]

/-- One step of the I/O thread: the record path follows it, what it shows keeps the data flow
from the samples stored since the last callback, and the buffer stays where `RecordInv` says. -/
theorem recordInv_step {shared shared' : Shared} {next : IoThread} {result : Int} {event : Event}
    (layout : s.record.SampleLayout) (fit : s.ChannelsFit)
    (samplesFit : (s.nfr : Int) * s.record.info.channels < 2 ^ 32)
    (step : ioStep s shared t result = some (next, shared', event)) (whole : event.WholeFrames s)
    (inv : RecordInv s t buffer pending) (deliver : Nat → Int) :
    ∃ buffer' more, recordStep s deliver buffer event = some (buffer', more) ∧
      RecordFlow s.record.handedSample pending more ∧
      RecordInv s next buffer' (recordPending pending more) := by
  cases pc : t.pc <;> simp only [ioStep, pc, Option.some.injEq, Prod.mk.injEq,
    reduceCtorEq] at step <;> obtain ⟨rfl, -, rfl⟩ := step <;> simp only [RecordInv, pc] at inv
  case entry => exact ⟨buffer, [], rfl, trivial, inv⟩
  case check => exact ⟨buffer, [], rfl, trivial, recordInv_afterCheck inv.1 inv.2 _⟩
  case convertRecord =>
    obtain ⟨holds, filled, active, floating⟩ := inv
    have count : unsignedOf (s.record.info.channels * s.nfr) = recordSlots s := by
      rw [recordSlots, if_pos active, unsignedOf_samples fit.record.1 (Int.ofNat_nonneg _) le_rfl
        samplesFit, Int.toNat_ofNat]
    have whole' : (pending.map Sample.fixed).length = recordSlots s := by
      rw [List.length_map, filled]
    refine ⟨pending.map s.record.handedSample, [], ?_, trivial, rfl, filled⟩
    rw [recordStep, count, holds, whole', if_neg (Nat.lt_irrefl _),
      List.take_of_length_le whole'.le, List.drop_eq_nil_of_le whole'.le,
      mapM_linear32ToFloat floating]
    simp
  case callback =>
    exact ⟨buffer, [.handed buffer], rfl, ⟨inv.1, trivial⟩,
      recordInv_afterCallback layout fit (by rw [inv.1, List.length_map, inv.2]) _⟩
  case volume => exact ⟨buffer, [], rfl, trivial, inv⟩
  case convertPlay =>
    obtain ⟨rfl, length⟩ := inv
    exact ⟨buffer, [], by split <;> rfl, trivial, recordInv_afterConversion layout fit length⟩
  case write => exact ⟨buffer, [], rfl, trivial, by split <;> [trivial; exact inv]⟩
  case advance => exact ⟨buffer, [], rfl, trivial, recordInv_afterWrite inv⟩
  case read =>
    by_cases failed : result < 0
    · refine ⟨buffer, [], by simp [recordStep, failed], trivial, ?_⟩
      simp only [failed, if_true]
      trivial
    obtain ⟨asked, frames⟩ := whole.resolve_left failed
    obtain ⟨stepped, reading⟩ := inv.read layout fit (by omega) frames deliver
    rw [Int.toNat_of_nonneg (by omega)] at stepped
    refine ⟨_, _, stepped, trivial, ?_⟩
    simp only [failed, if_false]
    exact recordInv_transferHead reading
  case finish => exact ⟨buffer, [], rfl, trivial, trivial⟩

end Steps

/-- Over every run of the I/O thread of a stream that `oss_stream_init` builds, with channel
counts that fit and a record buffer of fewer than `2 ^ 32` samples, in which the data callback
keeps to its contract and every device call moves whole frames: the record buffer can be
followed sample by sample, and each data callback is handed the samples that the reads of the
iteration before stored, in order, converted once by `oss_linear32_to_float` on a `float`
stream; the first callback is handed the zeros of the buffer `calloc` made. -/
theorem ioRun_recordFlow {request : InitRequest} {world : InitWorld} {state : StreamState}
    (stored : (ossStreamInit request world).stream = some state) (fit : state.stream.ChannelsFit)
    (samplesFit : (state.stream.nfr : Int) * state.stream.record.info.channels < 2 ^ 32)
    (inputs : List (Shared × Int)) (deliver : Nat → Nat → Int)
    (wholeFrames : ∀ event ∈ (ioRun state.stream IoThread.initial inputs).2,
      event.WholeFrames state.stream) :
    ∃ index buffer observations,
      recordRun state.stream deliver (List.replicate (recordSlots state.stream) (.fixed 0))
          (ioRun state.stream IoThread.initial inputs).2 = some (index, buffer, observations) ∧
        RecordFlow state.stream.record.handedSample (List.replicate (recordSlots state.stream) 0)
          observations := by
  have layout := (ossStreamInit_sampleLayout stored).2
  have holds := ioRun_invariant state.stream
    (fun t events => (∀ event ∈ events, event.WholeFrames state.stream) →
      ∃ buffer observations,
        recordRun state.stream deliver (List.replicate (recordSlots state.stream) (.fixed 0))
            events = some (events.length, buffer, observations) ∧
          RecordFlow state.stream.record.handedSample
            (List.replicate (recordSlots state.stream) 0) observations ∧
          RecordInv state.stream t buffer
            (recordPending (List.replicate (recordSlots state.stream) 0) observations))
    (fun _ _ _ _ _ event events step holds whole => by
      obtain ⟨buffer, observations, run, flow, inv⟩ :=
        holds fun _ member => whole _ (List.mem_append_left _ member)
      obtain ⟨buffer', more, stepped, flowMore, inv'⟩ :=
        recordInv_step layout fit samplesFit step
          (whole _ (List.mem_append_right _ (List.mem_singleton_self _))) inv
          (deliver events.length)
      refine ⟨buffer', observations ++ more, ?_, (recordFlow_append _ _ _).2 ⟨flow, flowMore⟩,
        by rwa [recordPending_append]⟩
      rw [recordRun_append, run, Option.some_bind, recordStepAt, stepped, List.length_append,
        List.length_singleton]
      rfl)
    inputs IoThread.initial [] fun _ =>
      ⟨_, [], rfl, trivial, List.map_replicate.symm, List.length_replicate _ _⟩
  rw [List.nil_append] at holds
  obtain ⟨buffer, observations, run, flow, -⟩ := holds wholeFrames
  exact ⟨_, buffer, observations, run, flow⟩

/-- A mono `float` record stream with a one-frame block over two iterations: the first callback
is handed silence, the second the converted sample the read of the first stored. -/
theorem ioRun_recordFlow_mono :
    let float : StreamParams := ⟨.float32ne, 48000, 1, false⟩
    let echo : Dsp := ⟨some, some, some, none⟩
    let world : InitWorld := ⟨true, 4, echo, -1, echo, true, true, true⟩
    let state : StreamState :=
      ⟨⟨.closed, ⟨4, ⟨1, 48000, 0x1000, 32⟩, 4, true⟩, 1, by decide⟩, Shared.initial, false,
        true⟩
    let running : Shared := ⟨true, .finite 1, 0⟩
    let inputs := [(running, 0), (running, 0), (running, 0), (running, 1), (running, 4),
      (running, 0), (running, 0), (running, 1)]
    (ossStreamInit ⟨some float, none⟩ world).stream = some state ∧
      state.stream.ChannelsFit ∧
      (state.stream.nfr : Int) * state.stream.record.info.channels < 2 ^ 32 ∧
      (∀ event ∈ (ioRun state.stream IoThread.initial inputs).2,
        event.WholeFrames state.stream) ∧
      ∃ index buffer observations,
        recordRun state.stream (fun _ _ => 7)
            (List.replicate (recordSlots state.stream) (.fixed 0))
            (ioRun state.stream IoThread.initial inputs).2 = some (index, buffer, observations) ∧
          RecordFlow state.stream.record.handedSample
            (List.replicate (recordSlots state.stream) 0) observations :=
  (fun stored fit samplesFit whole =>
      ⟨stored, fit, samplesFit, whole, ioRun_recordFlow stored fit samplesFit _ _ whole⟩)
    (by decide) (by decide) (by decide) (by decide)

end Cubeb.Oss
