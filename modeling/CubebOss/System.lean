import CubebOss.Terminal
import CubebOss.Control

/-!
This file puts the I/O thread of a stream next to the application's threads that call the
backend: one of them starts and stops the stream with `oss_stream_start` and `oss_stream_stop`,
and any of them may call `oss_stream_get_position` and `oss_stream_set_volume`. A state of the
system holds the fields the mutex protects, the I/O thread if one was created and not joined
yet, and where the controlling thread is. A step is one atomic action of one thread: a step of
`oss_io_routine`, the locked section of a control function, or the return of the `pthread_join`
in `oss_stream_stop`. The scheduler picks the next step, so a list of choices is an
interleaving, and a statement over every list of choices is one over every interleaving.

`Transition` says once what a step can do; `systemRun_invariant` carries a property that every
transition keeps over every run. The laws of `CubebOss/Stop.lean`, `CubebOss/Position.lean` and
`CubebOss/Volume.lean` are proved this way.
-/

namespace Cubeb.Oss

/-! ### States, choices and actions -/

/-- Where the thread that starts and stops the stream is: outside the backend, or in
`oss_stream_stop` after clearing `running`, waiting in `pthread_join`. -/
inductive Control where
  | idle
  | joining
  deriving DecidableEq, Repr

/-- A stream with its threads: the fields the mutex protects, the I/O thread if one was created
and not joined yet, and the controlling thread. -/
structure System where
  shared : Shared
  io : Option IoThread
  control : Control
  deriving DecidableEq, Repr

/-- The system `oss_stream_init` leaves: nothing started. -/
def System.initial : System := ⟨Shared.initial, none, .idle⟩

/-- The step the scheduler lets happen next. `io` is a step of the I/O thread with what its
external call returns; `start` carries the outcome of `pthread_create`; `join` is the return of
the `pthread_join` in `oss_stream_stop`. -/
inductive Choice where
  | io (result : Int)
  | start (created : Bool)
  | stop
  | join
  | getPosition
  | setVolume (volume : FloatValue)
  deriving DecidableEq, Repr

/-- What a step did. `stopCleared` is the locked section of `oss_stream_stop` that found
`running` set and cleared it; `stopReturned` is the return of `oss_stream_stop`; `getPosition`
carries the position it returned, `setVolume` the argument it was called with. -/
inductive Action where
  | io (event : Event)
  | start (created : Bool)
  | stopCleared
  | stopReturned
  | getPosition (frames : Nat)
  | setVolume (volume : FloatValue)
  deriving DecidableEq, Repr

/-! ### Steps and runs -/

/-- One step of the system, or `none` when the choice is not enabled. The I/O thread steps until
it returns. The application starts a stream only when it has no I/O thread: freshly built, or
after a stop returned. `oss_stream_stop` runs on the controlling thread, so not while that
thread waits in a join; the join returns once the I/O thread has returned. A join with no thread
to wait for is undefined in POSIX and is no step here. -/
def systemStep (s : Stream) (σ : System) : Choice → Option (System × Action)
  | .io result =>
    match σ.io with
    | none => none
    | some t =>
      match ioStep s σ.shared t result with
      | none => none
      | some (next, shared, event) =>
        some ({ σ with shared := shared, io := some next }, .io event)
  | .start created =>
    if σ.control = .idle ∧ σ.io = none then
      some ({ σ with
          shared := { σ.shared with running := true }
          io := if created then some IoThread.initial else none },
        .start created)
    else none
  | .stop =>
    if σ.control = .idle then
      if (stopLocked σ.shared).2 then
        some ({ σ with shared := (stopLocked σ.shared).1, control := .joining }, .stopCleared)
      else some ({ σ with shared := (stopLocked σ.shared).1 }, .stopReturned)
    else none
  | .join =>
    match σ.control, σ.io with
    | .joining, some t =>
      if t.pc = .done then some ({ σ with io := none, control := .idle }, .stopReturned) else none
    | _, _ => none
  | .getPosition => some (σ, .getPosition σ.shared.framesWritten)
  | .setVolume volume =>
    some ({ σ with shared := { σ.shared with volume := clampVolume volume } }, .setVolume volume)

/-- Runs the system on the scheduler's choices; a choice that is not enabled is skipped. -/
def systemRun (s : Stream) : System → List Choice → System × List Action
  | σ, [] => (σ, [])
  | σ, choice :: rest =>
    match systemStep s σ choice with
    | none => systemRun s σ rest
    | some (next, action) => ((systemRun s next rest).1, action :: (systemRun s next rest).2)

/-- What one step of the system can do, with the condition that enables it. -/
inductive Transition (s : Stream) (σ : System) : System → Action → Prop where
  | io {t next : IoThread} {shared : Shared} {result : Int} {event : Event}
      (live : σ.io = some t) (step : ioStep s σ.shared t result = some (next, shared, event)) :
      Transition s σ { σ with shared := shared, io := some next } (.io event)
  | start (created : Bool) (idle : σ.control = .idle) (noThread : σ.io = none) :
      Transition s σ { σ with
          shared := { σ.shared with running := true }
          io := if created then some IoThread.initial else none } (.start created)
  | stopCleared (idle : σ.control = .idle) (running : σ.shared.running = true) :
      Transition s σ { σ with shared := { σ.shared with running := false }, control := .joining }
        .stopCleared
  | stopReturned (idle : σ.control = .idle) (stopped : σ.shared.running = false) :
      Transition s σ σ .stopReturned
  | join {t : IoThread} (joining : σ.control = .joining) (live : σ.io = some t)
      (returned : t.pc = .done) :
      Transition s σ { σ with io := none, control := .idle } .stopReturned
  | getPosition : Transition s σ σ (.getPosition σ.shared.framesWritten)
  | setVolume (volume : FloatValue) :
      Transition s σ { σ with shared := { σ.shared with volume := clampVolume volume } }
        (.setVolume volume)

section Runs

variable {s : Stream}

theorem transition_of_systemStep {σ next : System} {choice : Choice} {action : Action}
    (step : systemStep s σ choice = some (next, action)) : Transition s σ next action := by
  cases choice with
  | io result =>
    simp only [systemStep] at step
    split at step
    · cases step
    · rename_i t live
      split at step
      · cases step
      · rename_i stepped
        cases step
        exact .io live stepped
  | start created =>
    simp only [systemStep] at step
    by_cases enabled : σ.control = .idle ∧ σ.io = none
    · rw [if_pos enabled] at step
      cases step
      exact .start created enabled.1 enabled.2
    · rw [if_neg enabled] at step
      cases step
  | stop =>
    simp only [systemStep] at step
    by_cases idle : σ.control = .idle
    · rw [if_pos idle] at step
      cases running : σ.shared.running <;>
        simp only [stopLocked, running, Bool.false_eq_true, ↓reduceIte] at step <;> cases step
      · exact .stopReturned idle running
      · exact .stopCleared idle running
    · rw [if_neg idle] at step
      cases step
  | join =>
    simp only [systemStep] at step
    split at step
    · rename_i t joining live
      split_ifs at step with returned
      cases step
      exact .join joining live returned
    · cases step
  | getPosition =>
    cases step
    exact .getPosition
  | setVolume volume =>
    cases step
    exact .setVolume volume

/-- A property of the system and the actions so far that every transition keeps holds after
every run. -/
theorem systemRun_invariant (Inv : System → List Action → Prop)
    (step : ∀ {σ next action actions}, Transition s σ next action → Inv σ actions →
      Inv next (actions ++ [action])) :
    ∀ (choices : List Choice) (σ : System) (actions : List Action), Inv σ actions →
      Inv (systemRun s σ choices).1 (actions ++ (systemRun s σ choices).2)
  | [], σ, actions, holds => by simpa [systemRun] using holds
  | choice :: rest, σ, actions, holds => by
    unfold systemRun
    cases stepped : systemStep s σ choice with
    | none => exact systemRun_invariant Inv step rest σ actions holds
    | some outcome =>
      obtain ⟨next, action⟩ := outcome
      simpa using systemRun_invariant Inv step rest next (actions ++ [action])
        (step (transition_of_systemStep stepped) holds)

/-- The same, for the runs from the system `oss_stream_init` leaves. -/
theorem systemRun_reachable (Inv : System → List Action → Prop)
    (initial : Inv System.initial [])
    (step : ∀ {σ next action actions}, Transition s σ next action → Inv σ actions →
      Inv next (actions ++ [action])) (choices : List Choice) :
    Inv (systemRun s System.initial choices).1 (systemRun s System.initial choices).2 := by
  simpa using systemRun_invariant Inv step choices System.initial [] initial

end Runs

/-! ### Traces that grow -/

/-- An occurrence of `marker` in a trace that grew by `last` is the new action, or it was in
the trace before. -/
theorem split_of_append_singleton {α : Type} {before after trace : List α} {marker last : α}
    (split : before ++ marker :: after = trace ++ [last]) :
    (after = [] ∧ before = trace ∧ marker = last) ∨
      ∃ front, after = front ++ [last] ∧ trace = before ++ marker :: front := by
  rcases List.eq_nil_or_concat after with rfl | ⟨front, final, rfl⟩
  · obtain ⟨rfl, equal⟩ := List.append_inj' split rfl
    exact .inl ⟨rfl, rfl, List.singleton_inj.mp equal⟩
  · rw [List.concat_eq_append, ← List.cons_append, ← List.append_assoc] at split
    rw [List.concat_eq_append]
    obtain ⟨rfl, equal⟩ := List.append_inj' split rfl
    exact .inr ⟨front, by rw [List.singleton_inj.mp equal], rfl⟩

end Cubeb.Oss
