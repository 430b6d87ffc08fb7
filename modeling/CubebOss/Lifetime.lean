import CubebOss.Init

/-!
This file follows a stream through its whole life as the application drives it from its own
thread: `oss_stream_init`, then any sequence of `oss_stream_start`, `oss_stream_stop`,
`oss_stream_get_position` and `oss_stream_set_volume`, then `oss_stream_destroy`. The calls
such a life makes on the mutex and on the I/O threads are checked against what POSIX allows
(`MutexLawful`, `ThreadLawful`).

Two orders in the source break that. `oss_stream_destroy` destroys the mutex first and then
calls `oss_stream_stop`, which locks it; since `oss_stream_init` cleans up through
`oss_stream_destroy` too, every life whose stream could be allocated ends by locking a mutex
that is destroyed or was never initialised. And `oss_stream_start` sets `running` before it
knows whether `pthread_create` succeeded, so after a failed start the next stop joins a thread
that does not exist.

The I/O thread's own locking is left out here: it falls between its creation and its join,
and `CubebOss/System.lean` interleaves it with the control calls.
-/

namespace Cubeb.Oss

/-! ### A stream's life -/

/-- A call of the application on a stream it holds; a start carries the outcome of its
`pthread_create`. -/
inductive Op where
  | start (created : Bool)
  | stop
  | getPosition
  | setVolume (volume : FloatValue)
  deriving DecidableEq, Repr

/-- One call of the application: the stream after it and the calls it made. -/
def applyOp (state : StreamState) : Op → StreamState × List Call
  | .start created => ((ossStreamStart state created).1, (ossStreamStart state created).2.1)
  | .stop => ossStreamStop state
  | .getPosition => (state, (ossStreamGetPosition state).2)
  | .setVolume volume => ossStreamSetVolume state volume

/-- The application's calls in order: the stream after them and the calls they made. -/
def runOps (state : StreamState) : List Op → StreamState × List Call
  | [] => (state, [])
  | op :: rest =>
    ((runOps (applyOp state op).1 rest).1,
      (applyOp state op).2 ++ (runOps (applyOp state op).1 rest).2)

/-- The calls of a stream's whole life: its construction and, if a stream was stored, the
application's calls on it and its destruction. -/
def lifetime (request : InitRequest) (world : InitWorld) (ops : List Op) : List Call :=
  match (ossStreamInit request world).stream with
  | none => (ossStreamInit request world).calls
  | some state =>
    (ossStreamInit request world).calls ++ (runOps state ops).2 ++
      ossStreamDestroy (runOps state ops).1

/-! ### The mutex -/

/-- `oss_stream_destroy` starts by destroying the mutex and locking it. -/
theorem ossStreamDestroy_eq (state : StreamState) :
    ∃ rest, ossStreamDestroy state = .mutexDestroy :: .mutexLock :: rest := by
  unfold ossStreamDestroy ossStreamStop
  exact ⟨_, rfl⟩

/-- Whatever state the mutex is in, destroying and then locking it is not allowed. -/
theorem foldlM_destroy_lock (before rest : List Call) (start : MutexState) :
    (before ++ .mutexDestroy :: .mutexLock :: rest).foldlM MutexState.after start = none := by
  rw [List.foldlM_append]
  cases before.foldlM MutexState.after start with
  | none => rfl
  | some state => cases state <;> rfl

/-- Every call sequence that ends with a destruction of the stream breaks the mutex's rules. -/
theorem not_mutexLawful_of_destroy (before : List Call) (state : StreamState) :
    ¬MutexLawful (before ++ ossStreamDestroy state) := by
  obtain ⟨rest, destroy⟩ := ossStreamDestroy_eq state
  unfold MutexLawful
  rw [destroy, foldlM_destroy_lock]
  decide

theorem sizeAndAllocate_calls (world : InitWorld) (ret : Int) (calls : List Call)
    (play record : OssStream)
    (failed : (sizeAndAllocate world ret calls play record).stream = none) :
    ∃ before state, (sizeAndAllocate world ret calls play record).calls =
      before ++ ossStreamDestroy state := by
  unfold sizeAndAllocate at failed ⊢
  dsimp only at failed ⊢
  split at failed
  · exact ⟨_, _, by rw [if_pos ‹_›]⟩
  split at failed
  · exact ⟨_, _, by rw [if_neg ‹_›, if_pos ‹_›]⟩
  · cases failed

/-- Once the stream is allocated, every failure of `oss_stream_init` ends in
`oss_stream_destroy`. -/
theorem ossStreamInit_calls_of_failed {request : InitRequest} {world : InitWorld}
    (allocated : world.streamCalloc = true) (failed : (ossStreamInit request world).stream = none) :
    ∃ before state, (ossStreamInit request world).calls = before ++ ossStreamDestroy state := by
  unfold ossStreamInit at failed ⊢
  rcases recordBlock : requestDirection request.inputParams world.recordOpen world.recordDsp with
    ⟨record, recordRet, recordCalls⟩
  rcases playBlock : requestDirection request.outputParams world.playOpen world.playDsp with
    ⟨play, playRet, playCalls⟩
  simp only [allocated, recordBlock, playBlock, Bool.not_true, Bool.false_eq_true, if_false]
    at failed ⊢
  split
  · exact ⟨_, _, rfl⟩
  split
  · exact ⟨_, _, rfl⟩
  split
  · exact ⟨_, _, rfl⟩
  · exact sizeAndAllocate_calls world _ _ _ _ (by rwa [if_neg ‹_›, if_neg ‹_›, if_neg ‹_›] at failed)

/-- Every life of a stream whose allocation succeeds -- whether `oss_stream_init` fails at a
later point or stores the stream, and whatever the application calls in between -- locks,
unlocks or destroys the mutex when it is not initialised: `oss_stream_destroy` destroys the
mutex and then locks it in `oss_stream_stop`. -/
theorem lifetime_not_mutexLawful (request : InitRequest) (world : InitWorld) (ops : List Op)
    (allocated : world.streamCalloc = true) : ¬MutexLawful (lifetime request world ops) := by
  unfold lifetime
  split
  · rename_i failed
    obtain ⟨before, state, calls⟩ := ossStreamInit_calls_of_failed allocated failed
    rw [calls]
    exact not_mutexLawful_of_destroy before state
  · exact not_mutexLawful_of_destroy _ _

/-- A stereo playback stream, built and destroyed at once. -/
theorem lifetime_not_mutexLawful_playback :
    let request : InitRequest := ⟨none, some ⟨.s16le, 48000, 2, false⟩⟩
    let echo : Dsp := ⟨some, some, some, none⟩
    let world : InitWorld := ⟨true, -1, echo, 3, echo, true, true, true⟩
    world.streamCalloc = true ∧ ¬MutexLawful (lifetime request world []) :=
  ⟨rfl, lifetime_not_mutexLawful _ _ _ rfl⟩

/-! ### The I/O thread -/

/-- A start whose `pthread_create` fails, then a destruction: `oss_stream_destroy` stops the
stream, finds `running` set and joins a thread that was never created. -/
theorem lifetime_joins_uncreated_thread :
    let request : InitRequest := ⟨none, some ⟨.s16le, 48000, 2, false⟩⟩
    let echo : Dsp := ⟨some, some, some, none⟩
    let world : InitWorld := ⟨true, -1, echo, 3, echo, true, true, true⟩
    lifetime request world [.start false] =
        [.calloc .stream true, .openDevice 3, .mutexInit true, .calloc .playBuf true,
          .threadCreate false, .mutexDestroy, .mutexLock, .mutexUnlock, .threadJoin, .close 3,
          .free .playBuf, .free .stream] ∧
      ¬ThreadLawful (lifetime request world [.start false]) := by
  decide

end Cubeb.Oss
