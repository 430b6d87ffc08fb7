import CubebOss.Stream

/-!
This file models the functions the application calls on a stream from its own thread:
`oss_stream_start`, `oss_stream_stop`, `oss_stream_destroy`, `oss_stream_get_position` and
`oss_stream_set_volume`. Each is a function of the stream's state that also returns the calls it
makes on the stream's mutex, its I/O thread, its devices and its memory, in order.

What those calls may do is the business of POSIX, not of the source, so it is stated apart: a
mutex is an automaton over its own calls (`MutexState.after`), and so are the I/O threads
(`threadsAfter`). A sequence of calls is lawful when the automaton accepts it; this is what
the lifetime of a stream is checked against in `CubebOss/Lifetime.lean`.
-/

namespace Cubeb.Oss

/-! ### Calls on resources -/

/-- The memory blocks a stream owns: the stream itself and the two sample buffers. -/
inductive Block where
  | stream
  | playBuf
  | recordBuf
  deriving DecidableEq, Repr

/-- A call of a control function on the stream's mutex, its I/O thread, its devices or its
memory. `free` stands for a `free` of a non-null pointer: a `free(NULL)` does nothing and is not
recorded. -/
inductive Call where
  | mutexInit (ok : Bool)
  | mutexLock
  | mutexUnlock
  | mutexDestroy
  | threadCreate (ok : Bool)
  | threadJoin
  | openDevice (fd : Int)
  | close (fd : Int)
  | calloc (block : Block) (ok : Bool)
  | free (block : Block)
  deriving DecidableEq, Repr

/-! ### The control functions -/

/-- A `cubeb_stream` as its control functions see it: the configuration `oss_stream_init`
fixed, the fields the mutex protects, and whether each buffer pointer is non-null. -/
structure StreamState where
  stream : Stream
  shared : Shared
  playBuf : Bool
  recordBuf : Bool
  deriving DecidableEq, Repr

/-- The locked part of `oss_stream_stop`: clear `running`, and say whether it was set. -/
def stopLocked (shared : Shared) : Shared × Bool :=
  if shared.running then ({ shared with running := false }, true) else (shared, false)

/-- `oss_stream_stop`: clear `running` under the lock and, if it was set, join the I/O thread.
-/
def ossStreamStop (state : StreamState) : StreamState × List Call :=
  let (shared, cleared) := stopLocked state.shared
  ({ state with shared := shared },
    [.mutexLock, .mutexUnlock] ++ if cleared then [.threadJoin] else [])

/-- `oss_stream_destroy`: destroy the mutex, stop, close the open devices and free the
buffers and the stream. -/
def ossStreamDestroy (state : StreamState) : List Call :=
  [.mutexDestroy] ++ (ossStreamStop state).2 ++
    (if state.stream.play.Active then [.close state.stream.play.fd] else []) ++
    (if state.stream.record.Active then [.close state.stream.record.fd] else []) ++
    (if state.playBuf then [.free .playBuf] else []) ++
    (if state.recordBuf then [.free .recordBuf] else []) ++ [.free .stream]

/-- `oss_stream_start`: set `running`, then create the I/O thread; `created` is whether
`pthread_create` succeeded. -/
def ossStreamStart (state : StreamState) (created : Bool) : StreamState × List Call × Int :=
  ({ state with shared := { state.shared with running := true } }, [.threadCreate created],
    if created then cubebOk else cubebError)

/-- `oss_stream_get_position`: `frames_written`, read under the lock. -/
def ossStreamGetPosition (state : StreamState) : Nat × List Call :=
  (state.shared.framesWritten, [.mutexLock, .mutexUnlock])

/-- The clamp of `oss_stream_set_volume`: below `0.0` becomes `0.0`, else above `1.0` becomes
`1.0`. -/
def clampVolume (volume : FloatValue) : FloatValue :=
  if volume.lt (.finite 0) then .finite 0
  else if (FloatValue.finite 1).lt volume then .finite 1
  else volume

/-- `oss_stream_set_volume`: store the clamped volume under the lock. -/
def ossStreamSetVolume (state : StreamState) (volume : FloatValue) : StreamState × List Call :=
  ({ state with shared := { state.shared with volume := clampVolume volume } },
    [.mutexLock, .mutexUnlock])

/-- Every argument but NaN is clamped into the unit interval. -/
theorem clampVolume_inUnit {volume : FloatValue} (notNan : volume ≠ .nan) :
    (clampVolume volume).InUnit := by
  unfold clampVolume
  split_ifs with below above
  · exact ⟨le_rfl, zero_le_one⟩
  · exact ⟨zero_le_one, le_rfl⟩
  · cases volume with
    | finite value =>
      simp only [FloatValue.lt, decide_eq_true_eq] at below above
      exact ⟨not_lt.mp below, not_lt.mp above⟩
    | infinity negative => cases negative <;> simp [FloatValue.lt] at below above
    | nan => exact absurd rfl notNan

/-- NaN fails both comparisons of the clamp and is stored as it is. -/
theorem clampVolume_nan : clampVolume .nan = .nan := rfl

/-! ### What POSIX allows -/

/-- The life of a `pthread_mutex_t`. -/
inductive MutexState where
  | uninitialised
  | initialised
  | destroyed
  deriving DecidableEq, Repr

/-- The mutex after a call, or `none` when POSIX leaves the call undefined: locking, unlocking
or destroying a mutex that is not initialised, or initialising one that is. Calls on other
resources leave it alone. -/
def MutexState.after : MutexState → Call → Option MutexState
  | .initialised, .mutexInit _ => none
  | _, .mutexInit true => some .initialised
  | state, .mutexInit false => some state
  | .initialised, .mutexLock => some .initialised
  | .initialised, .mutexUnlock => some .initialised
  | .initialised, .mutexDestroy => some .destroyed
  | _, .mutexLock | _, .mutexUnlock | _, .mutexDestroy => none
  | state, _ => some state

/-- The I/O threads after a call, counted as those created and not joined yet, or `none` when
the call is not allowed: joining when there is no such thread, creating a second one, or
closing a device or freeing memory while one may still use it. -/
def threadsAfter : Nat → Call → Option Nat
  | 0, .threadCreate true => some 1
  | _ + 1, .threadCreate true => none
  | live + 1, .threadJoin => some live
  | 0, .threadJoin => none
  | live, .close _ | live, .free _ => if live = 0 then some 0 else none
  | live, _ => some live

/-- The mutex is locked, unlocked and destroyed only while it is initialised, and it ends
destroyed if it was ever initialised. -/
def MutexLawful (calls : List Call) : Prop :=
  (calls.foldlM MutexState.after .uninitialised).any (· != .initialised)

instance (calls : List Call) : Decidable (MutexLawful calls) :=
  inferInstanceAs (Decidable (_ = true))

/-- Only a thread created and not joined yet is joined, at most one I/O thread lives at a time,
and no device is closed and no memory freed while one lives. -/
def ThreadLawful (calls : List Call) : Prop := (calls.foldlM threadsAfter 0).isSome

instance (calls : List Call) : Decidable (ThreadLawful calls) :=
  inferInstanceAs (Decidable (_ = true))

end Cubeb.Oss
