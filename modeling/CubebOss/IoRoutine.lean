import CubebOss.Stream

/-!
This file models `oss_io_routine`, the body of a stream's I/O thread, as a small-step machine.

A step is one action of the source: a call of the state or data callback, a `write` or `read`
on a device, a sample conversion over a buffer, or one locked access to the shared fields. Each
step emits one `Event`, so a run of the thread is the list of what it did, in order. Whatever
the thread reads from outside -- the shared fields the control thread writes, the number of
frames the data callback returns, the byte count or error a device call returns -- is an input
of the step, so that quantifying over the inputs covers every callback, every device and every
interleaving with the control thread.

The branches of the loop body that lead from one action to the next are the small functions
`afterCheck`, `afterCallback`, `afterConversion`, `afterWrite` and `transferHead`; each is
named after the point of the source where it starts.
-/

namespace Cubeb.Oss

/-! ### Events and program points -/

/-- What the I/O thread does, one event per step. A conversion records the number of samples it
rewrites in place; a device call records the byte offset into the buffer, the byte count it asks
for and what it returned. -/
inductive Event where
  | stateCallback (state : CubebState)
  | running (value : Bool)
  | linear32ToFloat (sampleCount : Nat)
  | dataCallback (frames : Int)
  | volume (value : FloatValue)
  | float32ToLinear32 (sampleCount : Nat) (vol : FloatValue)
  | linear16SetVol (sampleCount : Nat) (vol : FloatValue)
  | write (offset bytes : Nat) (result : Int)
  | framesWritten (frames : Nat)
  | read (offset bytes : Nat) (result : Int)
  deriving DecidableEq, Repr

/-- The point of `oss_io_routine` the I/O thread is at, named after the action it takes next. -/
inductive IoPc where
  /-- `state_cb(STARTED)`. -/
  | entry
  /-- The head of the main loop: the locked test of `running`. -/
  | check
  /-- `oss_linear32_to_float` over the record buffer. -/
  | convertRecord
  /-- `data_cb`. -/
  | callback
  /-- The locked read of `volume`. -/
  | volume
  /-- The playback conversion, with the volume just read. -/
  | convertPlay (vol : FloatValue)
  /-- `write` on the playback device. -/
  | write
  /-- The locked `frames_written += frames` after a write of `written` bytes. -/
  | advance (written : Nat)
  /-- `read` on the record device. -/
  | read
  /-- `state_cb(state)` after the loop. -/
  | finish (state : CubebState)
  /-- Returned from the routine. -/
  | done
  deriving DecidableEq, Repr

/-- The I/O thread: its program point and the locals of `oss_io_routine`. The local `state` is
kept in `IoPc.finish`, `vol` in `IoPc.convertPlay` and the write's `n` in `IoPc.advance`: those
are the only points that read them. -/
structure IoThread where
  pc : IoPc
  toRead : Nat
  toWrite : Nat
  cbNfr : Int
  writeOfs : Nat
  readOfs : Nat
  drain : Bool
  deriving DecidableEq, Repr

namespace IoThread

/-- The thread as `pthread_create` starts it. -/
def initial : IoThread := ⟨.entry, 0, 0, 0, 0, 0, false⟩

/-! ### The branches of the loop body -/

/-- The head of the partial-I/O loop: a write while frames remain to be written, else a read
while frames remain to be read; once both counts are zero, `DRAINED` if a short block was seen,
else the head of the main loop. -/
def transferHead (t : IoThread) : IoThread :=
  if 0 < t.toWrite then { t with pc := .write }
  else if 0 < t.toRead then { t with pc := .read }
  else if t.drain then { t with pc := .finish .drained }
  else { t with pc := .check }

/-- After a write, the same pass of the partial-I/O loop reads if frames remain to be read. -/
def afterWrite (t : IoThread) : IoThread :=
  if 0 < t.toRead then { t with pc := .read } else t.transferHead

/-- The counts the partial-I/O loop starts from: the frames the callback produced for an active
playback direction, a whole block for an active record direction. -/
def startTransfer (s : Stream) (t : IoThread) : IoThread :=
  transferHead { t with
    toWrite := if s.play.Active then sizeOfLong t.cbNfr else 0
    toRead := if s.record.Active then s.nfr else 0
    writeOfs := 0
    readOfs := 0 }

/-- The short-block test after the conversions: a short block of a playback stream is marked
for drain and still flushed; a short block of a record-only stream stops the stream. -/
def afterConversion (s : Stream) (t : IoThread) : IoThread :=
  if t.cbNfr < s.nfr then
    if s.play.Active then startTransfer s { t with drain := true }
    else { t with pc := .finish .stopped }
  else startTransfer s t

/-- After the test of `running`: stop when it was cleared or when neither direction is open;
otherwise convert the record buffer if it carries floats, then call back. -/
def afterCheck (s : Stream) (running : Bool) (t : IoThread) : IoThread :=
  if !running then { t with pc := .finish .stopped }
  else if ¬s.play.Active ∧ ¬s.record.Active then { t with pc := .finish .stopped }
  else if s.record.Active ∧ s.record.floating then { t with pc := .convertRecord }
  else { t with pc := .callback }

/-- After the data callback returned `result`: stop on the error sentinel, read the volume for
an active playback direction, go straight to the short-block test otherwise. -/
def afterCallback (s : Stream) (result : Int) (t : IoThread) : IoThread :=
  if result = cubebError then { t with cbNfr := result, pc := .finish .error }
  else if s.play.Active then { t with cbNfr := result, pc := .volume }
  else afterConversion s { t with cbNfr := result }

end IoThread

open IoThread

/-! ### One step -/

/-- One step of `oss_io_routine`. `shared` is what the thread finds in the shared fields when
the step takes the lock, and `result` what the step's external call returns: the data
callback's frame count, or a device call's byte count or negative error. The result is the
thread after the step, the shared fields after it, and the event. A returned thread takes no
step.

`frames = n / frame_size` divides a non-negative `ssize_t` by an `unsigned int`, which is
`Nat` division; a zero `frame_size`, where C would divide by zero, gives `0` here. -/
def ioStep (s : Stream) (shared : Shared) (t : IoThread) (result : Int) :
    Option (IoThread × Shared × Event) :=
  match t.pc with
  | .entry => some ({ t with pc := .check }, shared, .stateCallback .started)
  | .check => some (t.afterCheck s shared.running, shared, .running shared.running)
  | .convertRecord =>
    some ({ t with pc := .callback }, shared,
      .linear32ToFloat (unsignedOf (s.record.info.channels * s.nfr)))
  | .callback => some (t.afterCallback s result, shared, .dataCallback result)
  | .volume => some ({ t with pc := .convertPlay shared.volume }, shared, .volume shared.volume)
  | .convertPlay vol =>
    some (t.afterConversion s, shared,
      if s.play.floating then .float32ToLinear32 (unsignedOf (s.play.info.channels * t.cbNfr)) vol
      else .linear16SetVol (unsignedOf (s.play.info.channels * t.cbNfr)) vol)
  | .write =>
    some (if result < 0 then { t with pc := .finish .error }
        else { t with pc := .advance result.toNat },
      shared, .write t.writeOfs (t.toWrite * s.play.frameSize) result)
  | .advance written =>
    some ((({ t with
        toWrite := t.toWrite - written / s.play.frameSize
        writeOfs := t.writeOfs + written }).afterWrite),
      { shared with framesWritten := shared.framesWritten + written / s.play.frameSize },
      .framesWritten (written / s.play.frameSize))
  | .read =>
    some (if result < 0 then { t with pc := .finish .error }
      else transferHead { t with
        toRead := t.toRead - result.toNat / s.record.frameSize
        readOfs := t.readOfs + result.toNat },
      shared, .read t.readOfs (t.toRead * s.record.frameSize) result)
  | .finish state => some ({ t with pc := .done }, shared, .stateCallback state)
  | .done => none

/-- Runs the I/O thread on the environment's answers, one per step: the shared fields the step
finds and the result of its external call. Answers given after the thread returned are not
consumed by any step. -/
def ioRun (s : Stream) : IoThread → List (Shared × Int) → IoThread × List Event
  | t, [] => (t, [])
  | t, (shared, result) :: rest =>
    match ioStep s shared t result with
    | none => ioRun s t rest
    | some (next, _, event) => ((ioRun s next rest).1, event :: (ioRun s next rest).2)

/-! ### Basic facts -/

theorem ioStep_done (s : Stream) (shared : Shared) (t : IoThread) (result : Int)
    (returned : t.pc = .done) : ioStep s shared t result = none := by
  simp only [ioStep, returned]

theorem ioStep_isSome (s : Stream) (shared : Shared) (t : IoThread) (result : Int)
    (live : t.pc ≠ .done) : (ioStep s shared t result).isSome := by
  cases pc : t.pc <;> simp_all [ioStep]

/-- A step leaves the shared fields as it found them, except that it may add to
`frames_written`. -/
theorem ioStep_shared (s : Stream) {shared shared' : Shared} {t next : IoThread} {result : Int}
    {event : Event} (step : ioStep s shared t result = some (next, shared', event)) :
    shared'.running = shared.running ∧ shared'.volume = shared.volume ∧
      shared.framesWritten ≤ shared'.framesWritten := by
  cases pc : t.pc <;> simp only [ioStep, pc, Option.some.injEq, Prod.mk.injEq,
    reduceCtorEq] at step <;> obtain ⟨-, rfl, -⟩ := step <;> simp

/-- A run on two lists of answers is the run on the first, continued on the second. -/
theorem ioRun_append (s : Stream) (first second : List (Shared × Int)) (t : IoThread) :
    ioRun s t (first ++ second) =
      ((ioRun s (ioRun s t first).1 second).1,
        (ioRun s t first).2 ++ (ioRun s (ioRun s t first).1 second).2) := by
  induction first generalizing t with
  | nil => rfl
  | cons input rest inductionHypothesis =>
    obtain ⟨shared, result⟩ := input
    simp only [List.cons_append, ioRun]
    cases ioStep s shared t result with
    | none => exact inductionHypothesis t
    | some outcome => simp [inductionHypothesis]

/-- A property of the thread and the events so far that every step keeps holds after every
run. -/
theorem ioRun_invariant (s : Stream) (Inv : IoThread → List Event → Prop)
    (step : ∀ shared t result next shared' event events,
      ioStep s shared t result = some (next, shared', event) → Inv t events →
        Inv next (events ++ [event])) :
    ∀ (inputs : List (Shared × Int)) (t : IoThread) (events : List Event), Inv t events →
      Inv (ioRun s t inputs).1 (events ++ (ioRun s t inputs).2)
  | [], t, events, holds => by simpa [ioRun] using holds
  | (shared, result) :: rest, t, events, holds => by
    unfold ioRun
    cases stepped : ioStep s shared t result with
    | none => exact ioRun_invariant s Inv step rest t events holds
    | some outcome =>
      obtain ⟨next, shared', event⟩ := outcome
      simpa using ioRun_invariant s Inv step rest next (events ++ [event])
        (step shared t result next shared' event events stepped holds)

end Cubeb.Oss
