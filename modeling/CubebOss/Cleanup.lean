import CubebOss.Init

/-!
This file is about what `oss_stream_init` leaves behind. A call it makes can acquire a
resource -- the device of an `open`, the memory of a `calloc` -- or give one back with `close`
or `free`. On success the stream owns what the calls acquired and nothing was given back; on
every failure the calls give back, through `oss_stream_destroy`, exactly what they acquired,
each once (`ossStreamInit_resources`).

The code it returns is another matter. Every failure sets `ret` to an error before its `goto`,
except the failure of `pthread_mutex_init`: there `ret` still holds the `CUBEB_OK` of the last
`oss_copy_params`, so `oss_stream_init` returns `CUBEB_OK` and stores no stream.
-/

namespace Cubeb.Oss

/-! ### Resources -/

/-- A resource `oss_stream_init` acquires: an open device, or a block of memory. -/
inductive Resource where
  | device (fd : Int)
  | memory (block : Block)
  deriving DecidableEq, Repr

/-- The resource a call acquires: the device of an `open` that did not return `-1`, the memory
of a `calloc` that did not return `NULL`. -/
def Call.acquired : Call → Option Resource
  | openDevice fd => if fd = -1 then none else some (.device fd)
  | calloc block true => some (.memory block)
  | _ => none

/-- The resource a call gives back. -/
def Call.released : Call → Option Resource
  | close fd => some (.device fd)
  | free block => some (.memory block)
  | _ => none

/-- The resources the calls acquired, in order. -/
def acquiredBy (calls : List Call) : List Resource := calls.filterMap Call.acquired

/-- The resources the calls gave back, in order. -/
def releasedBy (calls : List Call) : List Resource := calls.filterMap Call.released

@[simp] theorem acquiredBy_nil : acquiredBy [] = [] := rfl

@[simp] theorem releasedBy_nil : releasedBy [] = [] := rfl

@[simp] theorem acquiredBy_cons (call : Call) (calls : List Call) :
    acquiredBy (call :: calls) = call.acquired.toList ++ acquiredBy calls := by
  cases acquired : call.acquired <;> simp [acquiredBy, List.filterMap_cons, acquired]

@[simp] theorem releasedBy_cons (call : Call) (calls : List Call) :
    releasedBy (call :: calls) = call.released.toList ++ releasedBy calls := by
  cases released : call.released <;> simp [releasedBy, List.filterMap_cons, released]

@[simp] theorem acquiredBy_append (first second : List Call) :
    acquiredBy (first ++ second) = acquiredBy first ++ acquiredBy second :=
  List.filterMap_append _ _ _

@[simp] theorem releasedBy_append (first second : List Call) :
    releasedBy (first ++ second) = releasedBy first ++ releasedBy second :=
  List.filterMap_append _ _ _

/-- What a stream with these directions and buffers owns: the stream itself, each open device
in the order `oss_stream_init` opens them, and each allocated buffer. -/
def ownedBy (play record : OssStream) (playBuf recordBuf : Bool) : List Resource :=
  .memory .stream ::
    ((if record.Active then [.device record.fd] else []) ++
      (if play.Active then [.device play.fd] else []) ++
      (if playBuf then [.memory .playBuf] else []) ++
      (if recordBuf then [.memory .recordBuf] else []))

/-- What a stream's state owns. -/
def StreamState.owned (state : StreamState) : List Resource :=
  ownedBy state.stream.play state.stream.record state.playBuf state.recordBuf

/-! ### The calls of each part -/

/-- `oss_stream_destroy` acquires nothing and gives back what the state owns, each once. -/
theorem ossStreamDestroy_resources (state : StreamState) :
    acquiredBy (ossStreamDestroy state) = [] ∧
      (releasedBy (ossStreamDestroy state)).Perm state.owned := by
  have stop : acquiredBy (ossStreamStop state).2 = [] ∧ releasedBy (ossStreamStop state).2 = [] := by
    simp only [ossStreamStop, stopLocked]
    split_ifs <;> simp [acquiredBy, releasedBy, Call.acquired, Call.released]
  constructor
  · simp only [ossStreamDestroy, acquiredBy_append, stop.1, apply_ite acquiredBy]
    simp [Call.acquired]
  · have shape : releasedBy (ossStreamDestroy state) =
        (if state.stream.play.Active then [.device state.stream.play.fd] else []) ++
          (if state.stream.record.Active then [.device state.stream.record.fd] else []) ++
          (if state.playBuf then [.memory .playBuf] else []) ++
          (if state.recordBuf then [.memory .recordBuf] else []) ++ [.memory .stream] := by
      simp only [ossStreamDestroy, releasedBy_append, stop.2, apply_ite releasedBy]
      rfl
    rw [shape]
    exact (List.perm_append_singleton _ _).trans
      (((List.perm_append_comm.append_right _).append_right _).cons _)

/-- A direction's block acquires its device when it leaves the direction open, and gives
nothing back. -/
theorem requestDirection_resources (params : Option StreamParams) (opened : Int) (dsp : Dsp) :
    acquiredBy (requestDirection params opened dsp).2.2 =
        (if (requestDirection params opened dsp).1.Active then
          [.device (requestDirection params opened dsp).1.fd] else []) ∧
      releasedBy (requestDirection params opened dsp).2.2 = [] := by
  cases params with
  | none => exact ⟨rfl, rfl⟩
  | some params =>
    simp only [requestDirection, openDirection]
    by_cases loopback : params.loopback
    · simp only [loopback, if_true]
      exact ⟨rfl, rfl⟩
    by_cases failed : opened = -1
    · simp [loopback, failed, acquiredBy, releasedBy, Call.acquired, Call.released, OssStream.Active,
        OssStream.closed]
    · cases ossCopyParams dsp params <;>
        simp [loopback, failed, acquiredBy, releasedBy, Call.acquired, Call.released, OssStream.Active]

/-- The `calloc` of a direction's buffer, made only when the direction is open, acquires the
buffer when it succeeds and gives nothing back. -/
theorem bufferCalloc_resources (block : Block) (active : Prop) [Decidable active] (ok : Bool) :
    acquiredBy (if active then [Call.calloc block ok] else []) =
        (if active ∧ ok = true then [.memory block] else []) ∧
      releasedBy (if active then [Call.calloc block ok] else []) = [] := by
  by_cases active <;> cases ok <;> simp [*, Call.acquired, Call.released]

/-- What the stream owns once the buffers' `calloc`s are made. -/
theorem ownedBy_allocated (play record : OssStream) (playOk recordOk : Bool) :
    ownedBy play record false false ++
        (if play.Active ∧ playOk = true then [.memory .playBuf] else []) ++
        (if record.Active ∧ recordOk = true then [.memory .recordBuf] else []) =
      ownedBy play record (decide (play.Active ∧ playOk = true))
        (decide (record.Active ∧ recordOk = true)) := by
  simp [ownedBy]

theorem decide_allocated {active : Prop} [Decidable active] {ok : Bool}
    (allocated : active → ok = true) : decide (active ∧ ok = true) = decide active :=
  decide_eq_decide.mpr ⟨And.left, fun open_ => ⟨open_, allocated open_⟩⟩

/-- A `calloc` that did not fail, made only for an open direction. -/
theorem allocated_of_not_failed {active : Prop} {ok : Bool} (notFailed : ¬(active ∧ (!ok) = true)) :
    active → ok = true :=
  fun open_ => by cases ok; exacts [absurd ⟨open_, rfl⟩ notFailed, rfl]

/-- A failure that destroys a state owning what the calls so far acquired gives back exactly
that. -/
theorem balanced_of_destroy {calls : List Call} {state : StreamState}
    (acquired : acquiredBy calls = state.owned) (released : releasedBy calls = []) :
    (acquiredBy (calls ++ ossStreamDestroy state)).Perm
      (releasedBy (calls ++ ossStreamDestroy state)) := by
  obtain ⟨nothing, back⟩ := ossStreamDestroy_resources state
  rw [acquiredBy_append, releasedBy_append, acquired, released, nothing, List.append_nil,
    List.nil_append]
  exact back.symm

/-- The allocation of the buffers, once the calls so far acquired the stream and the open
devices: on success the stream owns what the calls acquired and `ret` is returned as it was; a
failed `calloc` gives back everything and returns `CUBEB_ERROR`. -/
theorem sizeAndAllocate_resources {world : InitWorld} {ret : Int} {calls : List Call}
    {play record : OssStream} (acquired : acquiredBy calls = ownedBy play record false false)
    (released : releasedBy calls = []) :
    (∀ state, (sizeAndAllocate world ret calls play record).stream = some state →
        (sizeAndAllocate world ret calls play record).ret = ret ∧
          releasedBy (sizeAndAllocate world ret calls play record).calls = [] ∧
          acquiredBy (sizeAndAllocate world ret calls play record).calls = state.owned ∧
          state.playBuf = decide state.stream.play.Active ∧
          state.recordBuf = decide state.stream.record.Active) ∧
      ((sizeAndAllocate world ret calls play record).stream = none →
        (acquiredBy (sizeAndAllocate world ret calls play record).calls).Perm
            (releasedBy (sizeAndAllocate world ret calls play record).calls) ∧
          (sizeAndAllocate world ret calls play record).ret = cubebError) := by
  replace acquired : acquiredBy calls = ownedBy { play with frameSize := frameSizeOf play.info }
      { record with frameSize := frameSizeOf record.info } false false := acquired
  unfold sizeAndAllocate
  dsimp only
  by_cases playFailed : ({ play with frameSize := frameSizeOf play.info } : OssStream).Active ∧
      (!world.playCalloc) = true
  · rw [if_pos playFailed]
    have refused : world.playCalloc = false := by simpa using playFailed.2
    refine ⟨fun _ stored => (by cases stored), fun _ => ⟨balanced_of_destroy ?_ ?_, rfl⟩⟩
    · rw [acquiredBy_append, acquired, (bufferCalloc_resources _ _ _).1, refused]
      simp only [Bool.false_eq_true, and_false, if_false, List.append_nil]
      rfl
    · rw [releasedBy_append, released, (bufferCalloc_resources _ _ _).2]
      rfl
  rw [if_neg playFailed]
  by_cases recordFailed :
      ({ record with frameSize := frameSizeOf record.info } : OssStream).Active ∧
        (!world.recordCalloc) = true
  · rw [if_pos recordFailed]
    have refused : world.recordCalloc = false := by simpa using recordFailed.2
    refine ⟨fun _ stored => (by cases stored), fun _ => ⟨balanced_of_destroy ?_ ?_, rfl⟩⟩
    · rw [acquiredBy_append, acquiredBy_append, acquired, (bufferCalloc_resources _ _ _).1,
        (bufferCalloc_resources _ _ _).1]
      rw [ownedBy_allocated, decide_allocated (allocated_of_not_failed playFailed), refused]
      simp only [Bool.false_eq_true, and_false, decide_False]
      rfl
    · rw [releasedBy_append, releasedBy_append, released, (bufferCalloc_resources _ _ _).2,
        (bufferCalloc_resources _ _ _).2]
      rfl
  rw [if_neg recordFailed]
  refine ⟨fun state stored => ?_, fun missing => by cases missing⟩
  cases stored
  refine ⟨rfl, ?_, ?_, rfl, rfl⟩
  · rw [releasedBy_append, releasedBy_append, released, (bufferCalloc_resources _ _ _).2,
      (bufferCalloc_resources _ _ _).2]
    rfl
  · rw [acquiredBy_append, acquiredBy_append, acquired, (bufferCalloc_resources _ _ _).1,
      (bufferCalloc_resources _ _ _).1]
    rw [ownedBy_allocated, decide_allocated (allocated_of_not_failed playFailed),
      decide_allocated (allocated_of_not_failed recordFailed)]
    rfl

/-! ### `oss_stream_init` -/

/-- For every request and every outcome of the calls of `oss_stream_init`: a stored stream
comes with `CUBEB_OK`, owns exactly what the calls acquired -- the stream, the device of each
open direction and a buffer for each open direction -- and nothing was given back. A failure
stores no stream, gives back everything the calls acquired, each once, and returns an error
code unless it was `pthread_mutex_init` that failed. -/
theorem ossStreamInit_resources (request : InitRequest) (world : InitWorld) :
    (∀ state, (ossStreamInit request world).stream = some state →
        (ossStreamInit request world).ret = cubebOk ∧
          releasedBy (ossStreamInit request world).calls = [] ∧
          acquiredBy (ossStreamInit request world).calls = state.owned ∧
          state.playBuf = decide state.stream.play.Active ∧
          state.recordBuf = decide state.stream.record.Active) ∧
      ((ossStreamInit request world).stream = none →
        (acquiredBy (ossStreamInit request world).calls).Perm
            (releasedBy (ossStreamInit request world).calls) ∧
          ((ossStreamInit request world).ret = cubebOk →
            Call.mutexInit false ∈ (ossStreamInit request world).calls)) := by
  unfold ossStreamInit
  cases allocated : world.streamCalloc
  · exact ⟨fun _ stored => (by cases stored), fun _ => ⟨List.Perm.refl _, fun ok => by cases ok⟩⟩
  rcases recordBlock : requestDirection request.inputParams world.recordOpen world.recordDsp with
    ⟨record, recordRet, recordCalls⟩
  rcases playBlock : requestDirection request.outputParams world.playOpen world.playDsp with
    ⟨play, playRet, playCalls⟩
  obtain ⟨recordAcquired, recordReleased⟩ :=
    requestDirection_resources request.inputParams world.recordOpen world.recordDsp
  obtain ⟨playAcquired, playReleased⟩ :=
    requestDirection_resources request.outputParams world.playOpen world.playDsp
  simp only [recordBlock, playBlock] at recordAcquired recordReleased playAcquired playReleased
  simp only [Bool.not_true, Bool.false_eq_true, if_false]
  by_cases recordFailed : recordRet ≠ cubebOk
  · rw [if_pos recordFailed]
    refine ⟨fun _ stored => (by cases stored),
      fun _ => ⟨balanced_of_destroy ?_ ?_, fun ok => absurd ok recordFailed⟩⟩
    · simp [recordAcquired, StreamState.owned, ownedBy, Call.acquired, OssStream.closed,
        OssStream.Active]
    · simp [recordReleased, Call.released]
  rw [if_neg recordFailed]
  by_cases playFailed : playRet ≠ cubebOk
  · rw [if_pos playFailed]
    refine ⟨fun _ stored => (by cases stored),
      fun _ => ⟨balanced_of_destroy ?_ ?_, fun ok => absurd ok playFailed⟩⟩
    · simp [recordAcquired, playAcquired, StreamState.owned, ownedBy, Call.acquired]
    · simp [recordReleased, playReleased, Call.released]
  rw [if_neg playFailed]
  have acquired : acquiredBy ([.calloc .stream true] ++ recordCalls ++ playCalls) =
      ownedBy play record false false := by
    simp [recordAcquired, playAcquired, ownedBy, Call.acquired]
  have released : releasedBy ([.calloc .stream true] ++ recordCalls ++ playCalls) = [] := by
    simp [recordReleased, playReleased, Call.released]
  cases mutexCreated : world.mutexInit
  · refine ⟨fun _ stored => (by cases stored),
      fun _ => ⟨balanced_of_destroy ?_ ?_, fun _ => by simp⟩⟩
    · simpa [Call.acquired] using acquired
    · simpa [Call.released] using released
  · simp only [Bool.not_true, Bool.false_eq_true, if_false]
    have acquired' : acquiredBy ([.calloc .stream true] ++ recordCalls ++ playCalls ++
        [.mutexInit true]) = ownedBy play record false false := by
      rw [acquiredBy_append, acquired]
      simp [Call.acquired]
    have released' : releasedBy ([.calloc .stream true] ++ recordCalls ++ playCalls ++
        [.mutexInit true]) = [] := by
      rw [releasedBy_append, released]
      simp [Call.released]
    obtain ⟨stored, failed⟩ :=
      @sizeAndAllocate_resources world playRet _ _ _ acquired' released'
    refine ⟨fun state stored' => ?_, fun missing => ?_⟩
    · obtain ⟨ret, rest⟩ := stored state stored'
      exact ⟨ret.trans (not_not.mp playFailed), rest⟩
    · obtain ⟨balanced, error⟩ := failed missing
      exact ⟨balanced, fun ok => absurd (error.symm.trans ok) (by decide)⟩

/-- A playback request on a device that grants it, with `pthread_mutex_init` failing:
`oss_stream_init` closes the device, stores no stream, and returns `CUBEB_OK`. -/
theorem ossStreamInit_ok_without_stream :
    let request : InitRequest := ⟨none, some ⟨.s16le, 48000, 2, false⟩⟩
    let echo : Dsp := ⟨some, some, some, none⟩
    let world : InitWorld := ⟨true, -1, echo, 3, echo, false, true, true⟩
    (ossStreamInit request world).ret = cubebOk ∧ (ossStreamInit request world).stream = none ∧
      Call.close 3 ∈ (ossStreamInit request world).calls := by
  decide

end Cubeb.Oss
