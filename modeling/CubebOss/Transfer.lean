import CubebOss.Init
import CubebOss.Terminal

/-!
This file is about the buffers of `oss_io_routine`: which bytes each conversion and each device
call touches, and which bytes the device receives or delivers.

The partial-I/O loop keeps its offsets `write_ofs`, `read_ofs` in bytes and its counts
`to_write`, `to_read` in frames. A call that moves `n` bytes advances the offset by `n` but the
count only by `n / frame_size` whole frames, so after a call that moves part of a frame the next
call asks for whole frames again from a point inside a frame. Devices may return any byte count
up to the one asked for, and with such a count the loop hands the device bytes the callback did
not produce, and past the end of the buffer; on the record side it stores device bytes past the
end of the buffer. The three runs at the end show each, on streams `oss_stream_init` builds.
A device that keeps moving one byte of a two-byte frame also keeps the loop from ending:
`ioRun_write_loop_never_ends`.

Where every device call moves whole frames, the accounting is exact: `ioRun_wholeFrames` shows
that every device call then stays inside its buffer, and that an iteration that completes has
handed the device exactly the bytes the callback produced, each once and in order, and filled the
record buffer in order.
-/

namespace Cubeb.Oss

/-! ### Buffer accesses -/

/-- The access an event makes stays inside the buffer it touches: a conversion rewrites
`sampleCount` samples of 4 bytes (`float`, `int32_t`) or 2 bytes (`int16_t`) from the start of
the buffer, and a device call covers `[offset, offset + bytes)`. -/
def Event.InBounds (s : Stream) : Event → Prop
  | linear32ToFloat count => count * 4 ≤ s.record.bufferBytes s.nfr
  | float32ToLinear32 count _ => count * 4 ≤ s.play.bufferBytes s.nfr
  | linear16SetVol count _ => count * 2 ≤ s.play.bufferBytes s.nfr
  | write offset bytes _ => offset + bytes ≤ s.play.bufferBytes s.nfr
  | read offset bytes _ => offset + bytes ≤ s.record.bufferBytes s.nfr
  | _ => True

instance (s : Stream) : DecidablePred (Event.InBounds s)
  | .linear32ToFloat _ | .float32ToLinear32 _ _ | .linear16SetVol _ _ | .write _ _ _
  | .read _ _ _ => inferInstanceAs (Decidable (_ ≤ _))
  | .stateCallback _ | .running _ | .dataCallback _ | .volume _ | .framesWritten _ => isTrue trivial

/-- The buffer offsets of the bytes the successful writes handed to the device, in order. -/
def writtenBytes (events : List Event) : List Nat :=
  events.flatMap fun
    | .write offset _ result => List.range' offset result.toNat
    | _ => []

/-- The buffer offsets the successful reads stored device bytes at, in order. -/
def readBytes (events : List Event) : List Nat :=
  events.flatMap fun
    | .read offset _ result => List.range' offset result.toNat
    | _ => []

/-! ### Whole frames -/

namespace Event

/-- A `write` or `read` on a device. -/
def isDeviceCall : Event → Bool
  | write _ _ _ | read _ _ _ => true
  | _ => false

/-- The environment moves whole frames: a data callback returns the error sentinel or between 0
and `nfr` frames, and a device call returns an error or a whole number of frames, at most the
bytes it was asked for. -/
def WholeFrames (s : Stream) : Event → Prop
  | dataCallback frames => frames = cubebError ∨ 0 ≤ frames ∧ frames ≤ s.nfr
  | write _ bytes result => result < 0 ∨ result ≤ bytes ∧ result.toNat % s.play.frameSize = 0
  | read _ bytes result => result < 0 ∨ result ≤ bytes ∧ result.toNat % s.record.frameSize = 0
  | _ => True

instance (s : Stream) : DecidablePred (WholeFrames s)
  | dataCallback _ => inferInstanceAs (Decidable (_ ∨ _))
  | write _ _ _ | read _ _ _ => inferInstanceAs (Decidable (_ ∨ _))
  | stateCallback _ | running _ | linear32ToFloat _ | volume _ | float32ToLinear32 _ _
  | linear16SetVol _ _ | framesWritten _ => isTrue trivial

end Event

@[simp] theorem writtenBytes_append (events : List Event) (event : Event) :
    writtenBytes (events ++ [event]) = writtenBytes events ++ writtenBytes [event] :=
  List.flatMap_append _ _ _

@[simp] theorem readBytes_append (events : List Event) (event : Event) :
    readBytes (events ++ [event]) = readBytes events ++ readBytes [event] :=
  List.flatMap_append _ _ _

@[simp] theorem writtenBytes_write (offset bytes : Nat) (result : Int) :
    writtenBytes [.write offset bytes result] = List.range' offset result.toNat :=
  List.append_nil _

@[simp] theorem readBytes_read (offset bytes : Nat) (result : Int) :
    readBytes [.read offset bytes result] = List.range' offset result.toNat :=
  List.append_nil _

/-- The bytes a transfer moved at the end of those moved before it. -/
theorem range'_extend (offset moved : Nat) :
    List.range' 0 offset ++ List.range' offset moved = List.range' 0 (offset + moved) := by
  simpa [Nat.add_comm] using List.range'_append_1 0 offset moved

section Exact

variable (s : Stream) (t : IoThread) (events : List Event)

/-- At the end of an iteration, if there was one: with playback, the device has received exactly
the bytes of the frames the callback produced, each once and in order; with record, the whole
record buffer has been filled in order. -/
def Completed : Prop :=
  ∀ frames, lastDataCallback events = some frames →
    (s.play.Active →
      writtenBytes (lastIteration events) = List.range' 0 (frames.toNat * s.play.frameSize)) ∧
    (s.record.Active →
      readBytes (lastIteration events) = List.range' 0 (s.nfr * s.record.frameSize))

/-- No device call yet in this iteration. -/
def Untransferred : Prop :=
  writtenBytes (lastIteration events) = [] ∧ readBytes (lastIteration events) = []

/-- In the partial-I/O loop: the callback returned `cbNfr` frames, between 0 and `nfr`; the
bytes moved in this iteration are the first `writeOfs` and `readOfs` of the buffers, in order;
and the offsets plus what remains to be moved make up the whole transfer. -/
structure Moving : Prop where
  produced : lastDataCallback events = some t.cbNfr
  nonneg : 0 ≤ t.cbNfr
  bounded : t.cbNfr ≤ s.nfr
  writeSum : t.writeOfs + t.toWrite * s.play.frameSize =
    (if s.play.Active then t.cbNfr.toNat else 0) * s.play.frameSize
  readSum : t.readOfs + t.toRead * s.record.frameSize =
    (if s.record.Active then s.nfr else 0) * s.record.frameSize
  written : writtenBytes (lastIteration events) = List.range' 0 t.writeOfs
  read : readBytes (lastIteration events) = List.range' 0 t.readOfs

/-- What holds at each point of the routine, with whole-frame device calls. At `advance` the
thread has not yet applied the write it made; the invariant is about the thread once it has. -/
def ExactInv : Prop :=
  match t.pc with
  | .entry => lastDataCallback events = none
  | .check => Completed s events
  | .convertRecord | .callback => Untransferred events
  | .volume | .convertPlay _ =>
    Untransferred events ∧ lastDataCallback events = some t.cbNfr ∧ 0 ≤ t.cbNfr ∧
      t.cbNfr ≤ s.nfr
  | .write | .read => Moving s t events
  | .advance written =>
    Moving s { t with
      toWrite := t.toWrite - written / s.play.frameSize
      writeOfs := t.writeOfs + written } events
  | .finish final => final = .drained → Completed s events
  | .done => True

end Exact

section ExactSteps

variable {s : Stream} {t : IoThread} {events : List Event}

theorem writtenBytes_quiet {event : Event} (notDevice : event.isDeviceCall = false) :
    writtenBytes [event] = [] := by
  cases event <;> first | rfl | cases notDevice

theorem readBytes_quiet {event : Event} (notDevice : event.isDeviceCall = false) :
    readBytes [event] = [] := by
  cases event <;> first | rfl | cases notDevice

theorem untransferred_append (untransferred : Untransferred events) {event : Event}
    (notRunning : event.isRunning = false) (notDevice : event.isDeviceCall = false) :
    Untransferred (events ++ [event]) := by
  simpa only [Untransferred, lastIteration_append, notRunning, Bool.false_eq_true, ite_false,
    writtenBytes_append, readBytes_append, writtenBytes_quiet notDevice, readBytes_quiet notDevice,
    List.append_nil] using untransferred

theorem moving_append (moving : Moving s t events) {event : Event}
    (notCallback : event.callbackResult? = none) (notRunning : event.isRunning = false)
    (notDevice : event.isDeviceCall = false) : Moving s t (events ++ [event]) := by
  obtain ⟨produced, nonneg, bounded, writeSum, readSum, written, read⟩ := moving
  refine ⟨by simp [notCallback, produced], nonneg, bounded, writeSum, readSum, ?_, ?_⟩ <;>
    simpa only [lastIteration_append, notRunning, Bool.false_eq_true, ite_false,
      writtenBytes_append, readBytes_append, writtenBytes_quiet notDevice,
      readBytes_quiet notDevice, List.append_nil]

/-- `Moving` does not depend on the program point. -/
theorem Moving.withPc (moving : Moving s t events) (pc : IoPc) :
    Moving s { t with pc := pc } events :=
  ⟨moving.produced, moving.nonneg, moving.bounded, moving.writeSum, moving.readSum,
    moving.written, moving.read⟩

/-- A transfer with nothing left to move has completed its iteration. -/
theorem completed_of_moving (moving : Moving s t events) (writeDone : t.toWrite = 0)
    (readDone : t.toRead = 0) : Completed s events := by
  intro frames last
  obtain rfl := Option.some.inj (last.symm.trans moving.produced)
  have writeSum := moving.writeSum
  have readSum := moving.readSum
  simp only [writeDone, readDone, Nat.zero_mul, Nat.add_zero] at writeSum readSum
  refine ⟨fun playing => ?_, fun recording => ?_⟩
  · rw [moving.written, writeSum, if_pos playing]
  · rw [moving.read, readSum, if_pos recording]

theorem exactInv_transferHead (moving : Moving s t events) : ExactInv s t.transferHead events := by
  unfold IoThread.transferHead
  split_ifs with writing reading
  · exact moving.withPc _
  · exact moving.withPc _
  · exact fun _ => completed_of_moving moving (by omega) (by omega)
  · exact completed_of_moving moving (by omega) (by omega)

theorem exactInv_afterWrite (moving : Moving s t events) : ExactInv s t.afterWrite events := by
  unfold IoThread.afterWrite
  split_ifs
  · exact moving.withPc _
  · exact exactInv_transferHead moving

theorem exactInv_startTransfer (produced : lastDataCallback events = some t.cbNfr)
    (nonneg : 0 ≤ t.cbNfr) (bounded : t.cbNfr ≤ s.nfr) (untransferred : Untransferred events) :
    ExactInv s (t.startTransfer s) events := by
  have small : sizeOfLong t.cbNfr = t.cbNfr.toNat :=
    sizeOfLong_of_nonneg nonneg (by have := s.nfr_lt; omega)
  refine exactInv_transferHead ⟨produced, nonneg, bounded, ?_, ?_, untransferred.1,
    untransferred.2⟩ <;> simp [small]

theorem exactInv_afterConversion (produced : lastDataCallback events = some t.cbNfr)
    (nonneg : 0 ≤ t.cbNfr) (bounded : t.cbNfr ≤ s.nfr) (untransferred : Untransferred events) :
    ExactInv s (t.afterConversion s) events := by
  unfold IoThread.afterConversion
  split_ifs
  · exact exactInv_startTransfer produced nonneg bounded untransferred
  · exact fun stopped => absurd stopped (by decide)
  · exact exactInv_startTransfer produced nonneg bounded untransferred

theorem exactInv_afterCallback (untransferred : Untransferred events) (result : Int)
    (whole : (Event.dataCallback result).WholeFrames s) :
    ExactInv s (t.afterCallback s result) (events ++ [.dataCallback result]) := by
  have quiet : Untransferred (events ++ [.dataCallback result]) :=
    untransferred_append untransferred rfl rfl
  have produced : lastDataCallback (events ++ [.dataCallback result]) = some result := by
    simp [Event.callbackResult?]
  unfold IoThread.afterCallback
  split_ifs with sentinel playing
  · exact fun errored => absurd errored (by decide)
  · exact ⟨quiet, produced, whole.resolve_left sentinel⟩
  · obtain ⟨nonneg, bounded⟩ := whole.resolve_left sentinel
    exact exactInv_afterConversion produced nonneg bounded quiet

theorem exactInv_afterCheck (value : Bool) :
    ExactInv s (t.afterCheck s value) (events ++ [.running value]) := by
  have fresh : Untransferred (events ++ [.running value]) := by
    rw [Untransferred, lastIteration_append]
    exact ⟨writtenBytes_quiet rfl, readBytes_quiet rfl⟩
  unfold IoThread.afterCheck
  split_ifs
  · exact fun stopped => absurd stopped (by decide)
  · exact fun stopped => absurd stopped (by decide)
  · exact fresh
  · exact fresh

theorem inBounds_of_notDevice {event : Event} (notDevice : event.isDeviceCall = false) :
    event.isDeviceCall → event.InBounds s :=
  fun device => absurd (notDevice ▸ device) Bool.false_ne_true

/-- A whole-frame device call moves the offset by what it moved and the count by as many whole
frames, so offset and count still make up the transfer. -/
theorem transferSum_of_wholeFrames {offset count frameSize total moved : Nat}
    (sum : offset + count * frameSize = total) (asked : moved ≤ count * frameSize)
    (whole : moved % frameSize = 0) :
    offset + moved + (count - moved / frameSize) * frameSize = total := by
  have cancel : moved / frameSize * frameSize = moved :=
    Nat.div_mul_cancel (Nat.dvd_of_mod_eq_zero whole)
  have fewer : moved / frameSize ≤ count := Nat.div_le_of_le_mul (by rwa [Nat.mul_comm])
  have less : moved / frameSize * frameSize ≤ count * frameSize := Nat.mul_le_mul_right _ fewer
  rw [Nat.sub_mul]
  omega

/-- Offset and count that make up a transfer of at most a block stay inside the buffer. -/
theorem transfer_le_block {offset count frameSize frames nfr : Nat}
    (sum : offset + count * frameSize = frames * frameSize) (fits : frames ≤ nfr) :
    offset + count * frameSize ≤ nfr * frameSize :=
  sum ▸ Nat.mul_le_mul_right _ fits

/-- One step of the routine with whole-frame results keeps `ExactInv`, and a device call it makes
stays inside its buffer. -/
theorem exactInv_step {shared shared' : Shared} {next : IoThread} {result : Int} {event : Event}
    (step : ioStep s shared t result = some (next, shared', event))
    (whole : event.WholeFrames s) (inv : ExactInv s t events) :
    (event.isDeviceCall → event.InBounds s) ∧ ExactInv s next (events ++ [event]) := by
  cases pc : t.pc <;> simp only [ExactInv, pc] at inv <;> simp only [ioStep, pc,
    Option.some.injEq, Prod.mk.injEq, reduceCtorEq] at step <;> obtain ⟨rfl, -, rfl⟩ := step
  case entry =>
    exact ⟨inBounds_of_notDevice rfl, fun _ last => by simp [Event.callbackResult?, inv] at last⟩
  case check => exact ⟨inBounds_of_notDevice rfl, exactInv_afterCheck _⟩
  case convertRecord => exact ⟨inBounds_of_notDevice rfl, untransferred_append inv rfl rfl⟩
  case callback => exact ⟨inBounds_of_notDevice rfl, exactInv_afterCallback inv result whole⟩
  case volume =>
    exact ⟨inBounds_of_notDevice rfl, untransferred_append inv.1 rfl rfl,
      by simp [Event.callbackResult?, inv.2.1], inv.2.2⟩
  case convertPlay =>
    obtain ⟨untransferred, produced, nonneg, bounded⟩ := inv
    split <;> exact ⟨inBounds_of_notDevice rfl, exactInv_afterConversion
      (by simp [Event.callbackResult?, produced]) nonneg bounded
      (untransferred_append untransferred rfl rfl)⟩
  case write =>
    have fits : (if s.play.Active then t.cbNfr.toNat else 0) ≤ s.nfr := by
      have := inv.bounded
      split_ifs <;> omega
    refine ⟨fun _ => transfer_le_block inv.writeSum fits, ?_⟩
    split
    · exact fun errored => absurd errored (by decide)
    · obtain ⟨written, whole⟩ := whole.resolve_left ‹_›
      have asked : result.toNat ≤ t.toWrite * s.play.frameSize := by omega
      refine ⟨by simp [Event.callbackResult?, inv.produced], inv.nonneg, inv.bounded,
        transferSum_of_wholeFrames inv.writeSum asked whole, inv.readSum, ?_, ?_⟩ <;>
        simp only [lastIteration_append, Event.isRunning, Bool.false_eq_true, if_false,
          writtenBytes_append, readBytes_append, writtenBytes_write, readBytes_read, inv.written,
          inv.read]
      exacts [range'_extend _ _, List.append_nil _]
  case advance =>
    exact ⟨inBounds_of_notDevice rfl, exactInv_afterWrite (moving_append inv rfl rfl rfl)⟩
  case read =>
    have fits : (if s.record.Active then s.nfr else 0) ≤ s.nfr := by split_ifs <;> omega
    refine ⟨fun _ => transfer_le_block inv.readSum fits, ?_⟩
    split
    · exact fun errored => absurd errored (by decide)
    · obtain ⟨moved, whole⟩ := whole.resolve_left ‹_›
      have asked : result.toNat ≤ t.toRead * s.record.frameSize := by omega
      refine exactInv_transferHead ⟨by simp [Event.callbackResult?, inv.produced], inv.nonneg,
        inv.bounded, inv.writeSum, transferSum_of_wholeFrames inv.readSum asked whole, ?_, ?_⟩ <;>
        simp only [lastIteration_append, Event.isRunning, Bool.false_eq_true, if_false,
          writtenBytes_append, readBytes_append, writtenBytes_write, readBytes_read, inv.written,
          inv.read]
      exacts [List.append_nil _, range'_extend _ _]
  case finish => exact ⟨inBounds_of_notDevice rfl, trivial⟩

end ExactSteps

/-- Over every run of the I/O thread in which the callback returns the error sentinel or a count
in `[0, nfr]` and every device call moves whole frames: every `write` and `read` stays inside its
buffer, and whenever the thread stands at the head of the main loop or is about to report
`DRAINED`, the iteration it completed handed the device exactly the bytes of the frames the
callback produced, once each and in order, and filled the record buffer in order. -/
theorem ioRun_wholeFrames (s : Stream) (inputs : List (Shared × Int))
    (wholeFrames : ∀ event ∈ (ioRun s IoThread.initial inputs).2, event.WholeFrames s) :
    (∀ event ∈ (ioRun s IoThread.initial inputs).2, event.isDeviceCall → event.InBounds s) ∧
      ((ioRun s IoThread.initial inputs).1.pc = .check ∨
          (ioRun s IoThread.initial inputs).1.pc = .finish .drained →
        Completed s (ioRun s IoThread.initial inputs).2) := by
  have holds := ioRun_invariant s
    (fun t events => (∀ event ∈ events, event.WholeFrames s) →
      (∀ event ∈ events, event.isDeviceCall → event.InBounds s) ∧ ExactInv s t events)
    (fun _ _ _ _ _ event _ step holds whole => by
      have earlier := holds fun _ member => whole _ (List.mem_append_left _ member)
      obtain ⟨inBounds, inv⟩ :=
        exactInv_step step (whole _ (List.mem_append_right _ (List.mem_singleton_self _)))
          earlier.2
      refine ⟨?_, inv⟩
      simp only [List.mem_append, List.mem_singleton]
      rintro _ (member | rfl)
      exacts [earlier.1 _ member, inBounds])
    inputs IoThread.initial [] fun _ => ⟨fun _ member => (by cases member), rfl⟩
  rw [List.nil_append] at holds
  obtain ⟨inBounds, inv⟩ := holds wholeFrames
  refine ⟨inBounds, ?_⟩
  rintro (pc | pc) <;> simp only [ExactInv, pc, forall_const] at inv <;> exact inv

/-- A mono 16-bit playback stream with a two-frame block: the callback fills the block and the
device takes it one frame per write. -/
theorem ioRun_wholeFrames_splitWrite :
    let s : Stream := ⟨⟨3, ⟨1, 48000, 0x10, 16⟩, 2, false⟩, .closed, 2, by decide⟩
    let running : Shared := ⟨true, .finite 1, 0⟩
    let inputs := [(running, 0), (running, 0), (running, 2), (running, 0), (running, 0),
      (running, 2), (running, 0), (running, 2), (running, 0)]
    (∀ event ∈ (ioRun s IoThread.initial inputs).2, event.WholeFrames s) ∧
      (∀ event ∈ (ioRun s IoThread.initial inputs).2, event.isDeviceCall → event.InBounds s) ∧
      ((ioRun s IoThread.initial inputs).1.pc = .check ∨
          (ioRun s IoThread.initial inputs).1.pc = .finish .drained →
        Completed s (ioRun s IoThread.initial inputs).2) :=
  ⟨by decide, ioRun_wholeFrames _ _ (by decide)⟩

/-! ### Runs that go wrong -/

/-- A mono 16-bit playback stream with a one-frame block: the callback fills the block, the
device takes one byte of the two, and the second write asks for two bytes from offset 1, one
past the end of the buffer. -/
theorem ioRun_write_overruns_play_buffer :
    let request : InitRequest := ⟨none, some ⟨.s16le, 48000, 1, false⟩⟩
    let echo : Dsp := ⟨some, some, some, none⟩
    let world : InitWorld := ⟨true, -1, echo, 3, echo, true, true, true⟩
    let state : StreamState :=
      ⟨⟨⟨3, ⟨1, 48000, 0x10, 16⟩, 2, false⟩, .closed, 1, by decide⟩, Shared.initial,
        true, false⟩
    let running : Shared := ⟨true, .finite 1, 0⟩
    let inputs := [(running, 0), (running, 0), (running, 1), (running, 0), (running, 0),
      (running, 1), (running, 0), (running, 2)]
    (ossStreamInit request world).stream = some state ∧
      (ioRun state.stream IoThread.initial inputs).2 =
        [.stateCallback .started, .running true, .dataCallback 1, .volume (.finite 1),
          .linear16SetVol 1 (.finite 1), .write 0 2 1, .framesWritten 0, .write 1 2 2] ∧
      ¬(Event.write 1 2 2).InBounds state.stream := by
  decide

/-- A mono 16-bit playback stream with a two-frame block: the callback produces one frame, the
device takes it in two writes of one and two bytes, and the stream drains after handing the
device three bytes -- the produced frame and half of a stale one. -/
theorem ioRun_write_appends_stale_byte :
    let request : InitRequest := ⟨none, some ⟨.s16le, 48000, 1, false⟩⟩
    let echo : Dsp := ⟨some, some, some, none⟩
    let queue : Dsp := ⟨some, some, some, some ⟨1, 4⟩⟩
    let world : InitWorld := ⟨true, -1, echo, 3, queue, true, true, true⟩
    let state : StreamState :=
      ⟨⟨⟨3, ⟨1, 48000, 0x10, 16⟩, 2, false⟩, .closed, 2, by decide⟩, Shared.initial,
        true, false⟩
    let running : Shared := ⟨true, .finite 1, 0⟩
    let inputs := [(running, 0), (running, 0), (running, 1), (running, 0), (running, 0),
      (running, 1), (running, 0), (running, 2), (running, 0), (running, 0)]
    (ossStreamInit request world).stream = some state ∧
      (ioRun state.stream IoThread.initial inputs).2 =
        [.stateCallback .started, .running true, .dataCallback 1, .volume (.finite 1),
          .linear16SetVol 1 (.finite 1), .write 0 2 1, .framesWritten 0, .write 1 2 2,
          .framesWritten 1, .stateCallback .drained] ∧
      writtenBytes (ioRun state.stream IoThread.initial inputs).2 = [0, 1, 2] := by
  decide

/-- A mono 16-bit record stream with a one-frame block: the device delivers one byte of the
two, and the second read stores two bytes from offset 1, one past the end of the buffer, before
the next iteration begins. -/
theorem ioRun_read_overruns_record_buffer :
    let request : InitRequest := ⟨some ⟨.s16le, 48000, 1, false⟩, none⟩
    let echo : Dsp := ⟨some, some, some, none⟩
    let world : InitWorld := ⟨true, 4, echo, -1, echo, true, true, true⟩
    let state : StreamState :=
      ⟨⟨.closed, ⟨4, ⟨1, 48000, 0x10, 16⟩, 2, false⟩, 1, by decide⟩, Shared.initial,
        false, true⟩
    let running : Shared := ⟨true, .finite 1, 0⟩
    let inputs := [(running, 0), (running, 0), (running, 1), (running, 1), (running, 2),
      (running, 0), (running, 1)]
    (ossStreamInit request world).stream = some state ∧
      (ioRun state.stream IoThread.initial inputs).2 =
        [.stateCallback .started, .running true, .dataCallback 1, .read 0 2 1, .read 1 2 2,
          .running true, .dataCallback 1] ∧
      readBytes (ioRun state.stream IoThread.initial inputs).2 = [0, 1, 2] ∧
      ¬(Event.read 1 2 2).InBounds state.stream := by
  decide

/-! ### A partial-I/O loop that does not end -/

/-- One pass of the partial-I/O loop, playback only, whose write moves one byte of a frame of
two or more: `to_write` loses `1 / frame_size = 0` frames, so the pass ends at the head of the
loop with only `write_ofs` moved. -/
theorem ioRun_oneBytePass (s : Stream) (shared : Shared) (t : IoThread)
    (rest : List (Shared × Int)) (wide : 2 ≤ s.play.frameSize) (atWrite : t.pc = .write)
    (pending : 0 < t.toWrite) (noRead : t.toRead = 0) :
    ioRun s t ((shared, 1) :: (shared, 1) :: rest) =
      ((ioRun s { t with writeOfs := t.writeOfs + 1 } rest).1,
        .write t.writeOfs (t.toWrite * s.play.frameSize) 1 :: .framesWritten 0 ::
          (ioRun s { t with writeOfs := t.writeOfs + 1 } rest).2) := by
  have stuck : 1 / s.play.frameSize = 0 := Nat.div_eq_of_lt wide
  obtain ⟨pc, toRead, toWrite, cbNfr, writeOfs, readOfs, drain⟩ := t
  simp only at atWrite pending noRead
  subst atWrite noRead
  simp [ioRun, ioStep, IoThread.afterWrite, IoThread.transferHead, stuck, pending]

/-- Any number of one-byte passes: the loop stays at its head with `to_write` unchanged, and
every device call was a write of the same byte count that moved one byte. -/
theorem ioRun_oneByteWrites (s : Stream) (shared : Shared) (wide : 2 ≤ s.play.frameSize) :
    ∀ (passes : Nat) (t : IoThread), t.pc = .write → 0 < t.toWrite → t.toRead = 0 →
      (ioRun s t (List.replicate (2 * passes) (shared, 1))).1 =
          { t with writeOfs := t.writeOfs + passes } ∧
        ∀ event ∈ (ioRun s t (List.replicate (2 * passes) (shared, 1))).2, event.isDeviceCall →
          ∃ offset, event = .write offset (t.toWrite * s.play.frameSize) 1
  | 0, t, _, _, _ => ⟨rfl, fun _ member => by cases member⟩
  | passes + 1, t, atWrite, pending, noRead => by
    obtain ⟨ends, writes⟩ := ioRun_oneByteWrites s shared wide passes
      { t with writeOfs := t.writeOfs + 1 } atWrite pending noRead
    rw [show 2 * (passes + 1) = 2 * passes + 1 + 1 by omega, List.replicate_succ,
      List.replicate_succ, ioRun_oneBytePass s shared t _ wide atWrite pending noRead]
    refine ⟨by rw [ends, Nat.add_assoc, Nat.add_comm 1 passes], ?_⟩
    rintro event (_ | ⟨_, _ | ⟨_, member⟩⟩) device
    · exact ⟨_, rfl⟩
    · cases device
    · exact writes event member device

/-- A mono 16-bit playback stream with a one-frame block, built by `oss_stream_init`: the
callback fills the block, and a device that takes one byte per write -- at least one byte, and
at most the two asked for -- keeps the partial-I/O loop at its head with `to_write = 1` after
any number of passes, however many bytes the loop asked for. -/
theorem ioRun_write_loop_never_ends (passes : Nat) :
    let request : InitRequest := ⟨none, some ⟨.s16le, 48000, 1, false⟩⟩
    let echo : Dsp := ⟨some, some, some, none⟩
    let world : InitWorld := ⟨true, -1, echo, 3, echo, true, true, true⟩
    let state : StreamState :=
      ⟨⟨⟨3, ⟨1, 48000, 0x10, 16⟩, 2, false⟩, .closed, 1, by decide⟩, Shared.initial,
        true, false⟩
    let running : Shared := ⟨true, .finite 1, 0⟩
    let inputs := [(running, 0), (running, 0), (running, 1), (running, 0), (running, 0)] ++
      List.replicate (2 * passes) (running, 1)
    (ossStreamInit request world).stream = some state ∧
      (ioRun state.stream IoThread.initial inputs).1 = ⟨.write, 0, 1, 1, passes, 0, false⟩ ∧
      ∀ event ∈ (ioRun state.stream IoThread.initial inputs).2, event.isDeviceCall →
        ∃ offset, event = .write offset 2 1 := by
  intro request echo world state running inputs
  have start : ioRun state.stream IoThread.initial
      [(running, 0), (running, 0), (running, 1), (running, 0), (running, 0)] =
      (⟨.write, 0, 1, 1, 0, 0, false⟩, [.stateCallback .started, .running true,
        .dataCallback 1, .volume (.finite 1), .linear16SetVol 1 (.finite 1)]) := by
    decide
  obtain ⟨ends, writes⟩ := ioRun_oneByteWrites state.stream running (le_refl 2) passes
    ⟨.write, 0, 1, 1, 0, 0, false⟩ rfl Nat.one_pos rfl
  refine ⟨by decide, ?_, fun event member device => ?_⟩
  · rw [ioRun_append, start, ends]
    simp
  · rw [ioRun_append, start] at member
    rcases List.mem_append.mp member with early | late
    · obtain rfl | rfl | rfl | rfl | rfl := by simpa using early
      all_goals cases device
    · exact writes event late device

end Cubeb.Oss
