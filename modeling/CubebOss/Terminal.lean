import CubebOss.IoRoutine

/-!
This file proves how a run of `oss_io_routine` ends. The state callback is called with
`STARTED` first and, once the routine returns, exactly once more, with a terminal state fixed
by the run's last iteration: `ERROR` when its data callback returned the error sentinel or one
of its device calls failed; `DRAINED` when playback is open, its callback returned a short block
and its transfers all succeeded; `STOPPED` otherwise. A record-only stream that sees a short
block stops without reading.

The terminal state depends on how the short-block flag, the error exits of the transfer loop and
the test of `running` meet across arbitrarily many iterations. The proof follows the thread
through one invariant, stated point by point of the routine (`PcInv`), and carries it over every
run with `ioRun_invariant`.
-/

namespace Cubeb.Oss

/-! ### Reading the events of a run -/

namespace Event

/-- The frame count a data callback returned. -/
def callbackResult? : Event → Option Int
  | dataCallback frames => some frames
  | _ => none

def isRunning : Event → Bool
  | running _ => true
  | _ => false

def isStateCallback : Event → Bool
  | stateCallback _ => true
  | _ => false

def isRead : Event → Bool
  | read _ _ _ => true
  | _ => false

/-- A device call that returned an error. -/
def Failed : Event → Prop
  | write _ _ result => result < 0
  | read _ _ result => result < 0
  | _ => False

end Event

/-- The result of the last data callback among the events. -/
def lastDataCallback (events : List Event) : Option Int :=
  events.foldl (fun last event => event.callbackResult?.or last) none

/-- The events of the last iteration of the main loop: from the last test of `running` on. -/
def lastIteration (events : List Event) : List Event :=
  events.foldl (fun iteration event => if event.isRunning then [event] else iteration ++ [event]) []

@[simp] theorem lastDataCallback_nil : lastDataCallback [] = none := rfl

@[simp] theorem lastDataCallback_append (events : List Event) (event : Event) :
    lastDataCallback (events ++ [event]) = event.callbackResult?.or (lastDataCallback events) := by
  simp [lastDataCallback]

@[simp] theorem lastIteration_append (events : List Event) (event : Event) :
    lastIteration (events ++ [event]) =
      if event.isRunning then [event] else lastIteration events ++ [event] := by
  simp [lastIteration]

/-! ### The terminal law -/

section Law

variable (s : Stream) (events : List Event)

/-- The last data callback returned a short block: fewer frames than `nfr`, not the error
sentinel. -/
def ShortBlock : Prop :=
  ∃ frames, lastDataCallback events = some frames ∧ frames ≠ cubebError ∧ frames < s.nfr

/-- Why a run ends in `ERROR`: the last data callback returned the error sentinel, or a device
call of the last iteration failed. -/
def ErrorCause : Prop :=
  lastDataCallback events = some cubebError ∨ ∃ event ∈ lastIteration events, event.Failed

/-- Why a run ends in `DRAINED`: playback is open, the last callback returned a short block,
and every device call of that iteration succeeded. -/
def DrainCause : Prop :=
  s.play.Active ∧ ShortBlock s events ∧ ∀ event ∈ lastIteration events, ¬event.Failed

/-- What the spec asks of the state `final` that a run reports last, given the events between
its two state callbacks. -/
structure TerminalLaw (final : CubebState) : Prop where
  terminal : final.Terminal
  error_iff : final = .error ↔ ErrorCause events
  drained_iff : final = .drained ↔ DrainCause s events
  stopped_iff : final = .stopped ↔ ¬ErrorCause events ∧ ¬DrainCause s events
  noRead : ¬s.play.Active → ShortBlock s events →
    ∀ event ∈ lastIteration events, event.isRead = false

variable {s events}

theorem not_errorCause_of_drainCause (drain : DrainCause s events) : ¬ErrorCause events := by
  obtain ⟨-, ⟨frames, last, notError, -⟩, succeeded⟩ := drain
  rintro (sentinel | ⟨event, member, failed⟩)
  · exact notError (Option.some.inj (last.symm.trans sentinel))
  · exact succeeded event member failed

theorem TerminalLaw.error (cause : ErrorCause events)
    (noRead : ¬s.play.Active → ShortBlock s events →
      ∀ event ∈ lastIteration events, event.isRead = false) :
    TerminalLaw s events .error where
  terminal := by decide
  error_iff := iff_of_true rfl cause
  drained_iff := iff_of_false (by decide) fun drain => not_errorCause_of_drainCause drain cause
  stopped_iff := iff_of_false (by decide) fun both => both.1 cause
  noRead := noRead

theorem TerminalLaw.drained (cause : DrainCause s events) : TerminalLaw s events .drained where
  terminal := by decide
  error_iff := iff_of_false (by decide) (not_errorCause_of_drainCause cause)
  drained_iff := iff_of_true rfl cause
  stopped_iff := iff_of_false (by decide) fun both => both.2 cause
  noRead := fun closed => absurd cause.1 closed

theorem TerminalLaw.stopped (noError : ¬ErrorCause events) (noDrain : ¬DrainCause s events)
    (noRead : ¬s.play.Active → ShortBlock s events →
      ∀ event ∈ lastIteration events, event.isRead = false) :
    TerminalLaw s events .stopped where
  terminal := by decide
  error_iff := iff_of_false (by decide) noError
  drained_iff := iff_of_false (by decide) noDrain
  stopped_iff := iff_of_true rfl ⟨noError, noDrain⟩
  noRead := noRead

end Law

/-! ### The invariant, point by point -/

section Phases

variable (s : Stream) (t : IoThread) (middle : List Event)

/-- At the head of the main loop: every earlier iteration went on, so the last data callback,
if any, returned a full block. -/
def Continuing : Prop :=
  ∀ frames, lastDataCallback middle = some frames →
    frames ≠ cubebError ∧ (s.nfr : Int) ≤ frames

/-- Events of an iteration that has made no device call. -/
def Untouched (iteration : List Event) : Prop :=
  ∀ event ∈ iteration, ¬event.Failed ∧ event.isRead = false

/-- After the data callback of the current iteration: it returned `t.cbNfr`, not the error
sentinel, and no device call of the iteration has failed. -/
def Produced : Prop :=
  lastDataCallback middle = some t.cbNfr ∧ t.cbNfr ≠ cubebError ∧
    ∀ event ∈ lastIteration middle, ¬event.Failed

/-- In the partial-I/O loop: the drain flag records a short block, and only a stream with
playback gets there with one. -/
def Transferring : Prop :=
  Produced t middle ∧ t.drain = decide (t.cbNfr < s.nfr) ∧ (t.cbNfr < s.nfr → s.play.Active)

/-- What holds at each point of the routine of the thread and the events since `STARTED`. -/
def PcInv : Prop :=
  match t.pc with
  | .check => Continuing s middle ∧ t.drain = false
  | .convertRecord | .callback =>
    Continuing s middle ∧ t.drain = false ∧ Untouched (lastIteration middle)
  | .volume | .convertPlay _ => Produced t middle ∧ s.play.Active ∧ t.drain = false
  | .write | .advance _ | .read => Transferring s t middle
  | .finish final => TerminalLaw s middle final
  | .entry | .done => False

end Phases

section Steps

variable {s : Stream} {t : IoThread} {middle : List Event}

theorem untouched_append {iteration : List Event} (untouched : Untouched iteration)
    {event : Event} (succeeded : ¬event.Failed) (notRead : event.isRead = false) :
    Untouched (iteration ++ [event]) := by
  intro _ member
  rcases List.mem_append.mp member with member | member
  · exact untouched _ member
  · rw [List.mem_singleton.mp member]
    exact ⟨succeeded, notRead⟩

theorem terminalLaw_stopped_of_continuing (continuing : Continuing s middle) (value : Bool) :
    TerminalLaw s (middle ++ [.running value]) .stopped := by
  refine .stopped ?_ ?_ ?_
  · rintro (sentinel | ⟨event, member, failed⟩)
    · exact (continuing _ (by simpa [Event.callbackResult?] using sentinel)).1 rfl
    · simp_all [Event.isRunning, Event.Failed]
  · rintro ⟨-, ⟨frames, last, -, short⟩, -⟩
    have := (continuing frames (by simpa [Event.callbackResult?] using last)).2
    omega
  · intro _ _ event member
    simp_all [Event.isRunning, Event.isRead]

theorem pcInv_transferHead (transferring : Transferring s t middle) :
    PcInv s t.transferHead middle := by
  obtain ⟨⟨last, notError, succeeded⟩, drain, playing⟩ := transferring
  unfold IoThread.transferHead
  split_ifs with writing reading draining
  · exact ⟨⟨last, notError, succeeded⟩, drain, playing⟩
  · exact ⟨⟨last, notError, succeeded⟩, drain, playing⟩
  · have short : t.cbNfr < s.nfr := by simpa [draining] using drain
    exact .drained ⟨playing short, ⟨t.cbNfr, last, notError, short⟩, succeeded⟩
  · refine ⟨fun frames latest => ?_, by simpa using draining⟩
    obtain rfl := Option.some.inj (latest.symm.trans last)
    exact ⟨notError, by simpa [draining] using drain⟩

theorem pcInv_afterWrite (transferring : Transferring s t middle) :
    PcInv s t.afterWrite middle := by
  unfold IoThread.afterWrite
  split_ifs
  · exact transferring
  · exact pcInv_transferHead transferring

theorem pcInv_startTransfer (transferring : Transferring s t middle) :
    PcInv s (t.startTransfer s) middle :=
  pcInv_transferHead transferring

theorem pcInv_afterConversion (produced : Produced t middle) (fresh : t.drain = false)
    (recordOnly : ¬s.play.Active → Untouched (lastIteration middle)) :
    PcInv s (t.afterConversion s) middle := by
  unfold IoThread.afterConversion
  split_ifs with short playing
  · exact pcInv_startTransfer ⟨produced, by simpa using short, fun _ => playing⟩
  · obtain ⟨last, notError, succeeded⟩ := produced
    refine .stopped ?_ (fun drain => playing drain.1) ?_
    · rintro (sentinel | ⟨event, member, failed⟩)
      · exact notError (Option.some.inj (last.symm.trans sentinel))
      · exact succeeded event member failed
    · exact fun closed _ event member => (recordOnly closed event member).2
  · exact pcInv_startTransfer
      ⟨produced, by simpa [fresh] using short, fun lt => absurd lt short⟩

theorem pcInv_afterCallback (fresh : t.drain = false)
    (untouched : Untouched (lastIteration middle)) (result : Int) :
    PcInv s (t.afterCallback s result) (middle ++ [.dataCallback result]) := by
  have quiet : Untouched (lastIteration (middle ++ [.dataCallback result])) := by
    rw [lastIteration_append, if_neg (by simp [Event.isRunning])]
    exact untouched_append untouched id rfl
  unfold IoThread.afterCallback
  split_ifs with sentinel playing
  · refine .error (.inl (by simp [Event.callbackResult?, sentinel])) ?_
    rintro - ⟨frames, last, notError, -⟩
    exact absurd (by simpa [Event.callbackResult?, sentinel] using last.symm) notError
  · exact ⟨⟨by simp [Event.callbackResult?], sentinel,
      fun event member => (quiet event member).1⟩, playing, fresh⟩
  · exact pcInv_afterConversion ⟨by simp [Event.callbackResult?], sentinel,
      fun event member => (quiet event member).1⟩ fresh fun _ => quiet

theorem pcInv_afterCheck (continuing : Continuing s middle) (fresh : t.drain = false)
    (value : Bool) : PcInv s (t.afterCheck s value) (middle ++ [.running value]) := by
  have untouched : Untouched (lastIteration (middle ++ [.running value])) := by
    simp [Untouched, Event.isRunning, Event.Failed, Event.isRead]
  have continued : Continuing s (middle ++ [.running value]) := by
    simpa [Continuing, Event.callbackResult?] using continuing
  unfold IoThread.afterCheck
  split_ifs
  · exact terminalLaw_stopped_of_continuing continuing value
  · exact terminalLaw_stopped_of_continuing continuing value
  · exact ⟨continued, fresh, untouched⟩
  · exact ⟨continued, fresh, untouched⟩

theorem produced_append (produced : Produced t middle) {event : Event}
    (notCallback : event.callbackResult? = none) (notRunning : event.isRunning = false)
    (succeeded : ¬event.Failed) : Produced t (middle ++ [event]) := by
  obtain ⟨last, notError, noFailure⟩ := produced
  refine ⟨by simp [notCallback, last], notError, ?_⟩
  simp only [lastIteration_append, notRunning, Bool.false_eq_true, ite_false, List.mem_append,
    List.mem_singleton]
  rintro _ (member | rfl)
  exacts [noFailure _ member, succeeded]

theorem transferring_append (transferring : Transferring s t middle) {event : Event}
    (notCallback : event.callbackResult? = none) (notRunning : event.isRunning = false)
    (succeeded : ¬event.Failed) : Transferring s t (middle ++ [event]) :=
  ⟨produced_append transferring.1 notCallback notRunning succeeded, transferring.2⟩

/-- A device call of the partial-I/O loop that fails ends the routine in `ERROR`, as the law
asks. -/
theorem terminalLaw_error_of_failed (transferring : Transferring s t middle) {event : Event}
    (failed : event.Failed) (notCallback : event.callbackResult? = none)
    (notRunning : event.isRunning = false) : TerminalLaw s (middle ++ [event]) .error := by
  refine .error (.inr ⟨event, by simp [notRunning], failed⟩) fun closed short => ?_
  obtain ⟨frames, last, -, lt⟩ := short
  obtain rfl : frames = t.cbNfr := by
    simpa [notCallback, transferring.1.1] using last.symm
  exact absurd (transferring.2.2 lt) closed

/-- One step of the routine, from any point but the first and the last, keeps `PcInv` and emits
no state callback. -/
theorem pcInv_step {shared shared' : Shared} {next : IoThread} {result : Int} {event : Event}
    (step : ioStep s shared t result = some (next, shared', event))
    (notFinish : ∀ final, t.pc ≠ .finish final) (inv : PcInv s t middle) :
    event.isStateCallback = false ∧ PcInv s next (middle ++ [event]) := by
  cases pc : t.pc with
  | finish final => exact absurd pc (notFinish final)
  | entry | done => simp only [PcInv, pc] at inv
  | check =>
    simp only [PcInv, pc] at inv
    simp only [ioStep, pc, Option.some.injEq, Prod.mk.injEq] at step
    obtain ⟨rfl, -, rfl⟩ := step
    exact ⟨rfl, pcInv_afterCheck inv.1 inv.2 _⟩
  | convertRecord =>
    simp only [PcInv, pc] at inv
    simp only [ioStep, pc, Option.some.injEq, Prod.mk.injEq] at step
    obtain ⟨rfl, -, rfl⟩ := step
    refine ⟨rfl, ?_, inv.2.1, ?_⟩
    · simpa [Continuing, Event.callbackResult?] using inv.1
    · rw [lastIteration_append, if_neg (by simp [Event.isRunning])]
      exact untouched_append inv.2.2 id rfl
  | callback =>
    simp only [PcInv, pc] at inv
    simp only [ioStep, pc, Option.some.injEq, Prod.mk.injEq] at step
    obtain ⟨rfl, -, rfl⟩ := step
    exact ⟨rfl, pcInv_afterCallback inv.2.1 inv.2.2 result⟩
  | volume =>
    simp only [PcInv, pc] at inv
    simp only [ioStep, pc, Option.some.injEq, Prod.mk.injEq] at step
    obtain ⟨rfl, -, rfl⟩ := step
    exact ⟨rfl, produced_append inv.1 rfl rfl id, inv.2⟩
  | convertPlay vol =>
    simp only [PcInv, pc] at inv
    simp only [ioStep, pc, Option.some.injEq, Prod.mk.injEq] at step
    obtain ⟨rfl, -, rfl⟩ := step
    refine ⟨by split <;> rfl,
      pcInv_afterConversion ?_ inv.2.2 fun closed => absurd inv.2.1 closed⟩
    split <;> exact produced_append inv.1 rfl rfl id
  | write =>
    simp only [PcInv, pc] at inv
    simp only [ioStep, pc, Option.some.injEq, Prod.mk.injEq] at step
    obtain ⟨rfl, -, rfl⟩ := step
    refine ⟨rfl, ?_⟩
    split_ifs with failed
    · exact terminalLaw_error_of_failed inv failed rfl rfl
    · exact transferring_append inv rfl rfl failed
  | advance written =>
    simp only [PcInv, pc] at inv
    simp only [ioStep, pc, Option.some.injEq, Prod.mk.injEq] at step
    obtain ⟨rfl, -, rfl⟩ := step
    exact ⟨rfl, pcInv_afterWrite (transferring_append inv rfl rfl id)⟩
  | read =>
    simp only [PcInv, pc] at inv
    simp only [ioStep, pc, Option.some.injEq, Prod.mk.injEq] at step
    obtain ⟨rfl, -, rfl⟩ := step
    refine ⟨rfl, ?_⟩
    split_ifs with failed
    · exact terminalLaw_error_of_failed inv failed rfl rfl
    · exact pcInv_transferHead (transferring_append inv rfl rfl failed)

end Steps

/-! ### Every run -/

/-- The events of a whole run of the routine: `STARTED`, then no state callback until one last
with a final state that obeys the terminal law. -/
def Finished (s : Stream) (events : List Event) : Prop :=
  ∃ middle final, events = .stateCallback .started :: middle ++ [.stateCallback final] ∧
    (∀ event ∈ middle, event.isStateCallback = false) ∧ TerminalLaw s middle final

/-- The invariant over a run: no event before `STARTED`; after it, no second state callback
while the routine runs and `PcInv` at each point; once it has returned, the whole run is
`Finished`. -/
def RunInv (s : Stream) (t : IoThread) (events : List Event) : Prop :=
  match t.pc with
  | .entry => events = [] ∧ t.drain = false
  | .done => Finished s events
  | _ => ∃ middle, events = .stateCallback .started :: middle ∧
      (∀ event ∈ middle, event.isStateCallback = false) ∧ PcInv s t middle

section Run

variable {s : Stream}

theorem runInv_of_pcInv {t : IoThread} {middle : List Event} (inv : PcInv s t middle)
    (quiet : ∀ event ∈ middle, event.isStateCallback = false) :
    RunInv s t (.stateCallback .started :: middle) := by
  cases pc : t.pc
  case entry | done => simp only [PcInv, pc] at inv
  all_goals
    simp only [RunInv, pc]
    exact ⟨middle, rfl, quiet, inv⟩

theorem runInv_step {shared shared' : Shared} {t next : IoThread} {result : Int} {event : Event}
    {events : List Event} (step : ioStep s shared t result = some (next, shared', event))
    (holds : RunInv s t events) : RunInv s next (events ++ [event]) := by
  cases pc : t.pc
  case entry =>
    simp only [RunInv, pc] at holds
    simp only [ioStep, pc, Option.some.injEq, Prod.mk.injEq] at step
    obtain ⟨rfl, -, rfl⟩ := step
    obtain ⟨rfl, fresh⟩ := holds
    exact runInv_of_pcInv ⟨fun _ none => by simp at none, fresh⟩ fun _ none => by simp at none
  case finish final =>
    simp only [RunInv, pc] at holds
    obtain ⟨middle, rfl, quiet, inv⟩ := holds
    simp only [PcInv, pc] at inv
    simp only [ioStep, pc, Option.some.injEq, Prod.mk.injEq] at step
    obtain ⟨rfl, -, rfl⟩ := step
    exact ⟨middle, final, rfl, quiet, inv⟩
  case done => simp [ioStep, pc] at step
  all_goals
    simp only [RunInv, pc] at holds
    obtain ⟨middle, rfl, quiet, inv⟩ := holds
    obtain ⟨notState, inv⟩ := pcInv_step step (by simp [pc]) inv
    rw [List.cons_append]
    refine runInv_of_pcInv inv fun event member => ?_
    rcases List.mem_append.mp member with member | member
    · exact quiet event member
    · rwa [List.mem_singleton.mp member]

theorem runInv_ioRun (s : Stream) (inputs : List (Shared × Int)) :
    RunInv s (ioRun s IoThread.initial inputs).1 (ioRun s IoThread.initial inputs).2 := by
  simpa using ioRun_invariant s (RunInv s) (fun _ _ _ _ _ _ _ step holds => runInv_step step holds)
    inputs IoThread.initial [] ⟨rfl, rfl⟩

/-- Every run of `oss_io_routine` that returns calls the state callback with `STARTED` first,
before any data callback, and then exactly once more, last, with a terminal state: `ERROR` iff
the last data callback returned the error sentinel or a device call of the last iteration
failed; `DRAINED` iff playback is open, the last data callback returned a short block and every
device call of its iteration succeeded; `STOPPED` otherwise. A record-only stream whose last
callback returned a short block read nothing in that iteration. This holds for every callback
result, every device result and every value of `running` at each test. -/
theorem ioRun_terminalLaw (s : Stream) (inputs : List (Shared × Int))
    (returned : (ioRun s IoThread.initial inputs).1.pc = .done) :
    ∃ middle final, (ioRun s IoThread.initial inputs).2 =
        .stateCallback .started :: middle ++ [.stateCallback final] ∧
      (∀ event ∈ middle, event.isStateCallback = false) ∧ TerminalLaw s middle final := by
  have holds := runInv_ioRun s inputs
  simp only [RunInv, returned] at holds
  exact holds

/-- A playback-only stream with `nfr = 2` whose callback returns one frame, flushed by one
write, drains: the run returns and its last event is the `DRAINED` state callback. -/
theorem ioRun_terminalLaw_drained :
    let s : Stream :=
      ⟨⟨3, ⟨1, 48000, 16, 16⟩, 2, false⟩, ⟨-1, .zero, 0, false⟩, 2, by decide⟩
    let inputs := [(Shared.initial, 0), (⟨true, .finite 1, 0⟩, 0), (Shared.initial, 1),
      (Shared.initial, 0), (Shared.initial, 0), (Shared.initial, 2), (Shared.initial, 0),
      (Shared.initial, 0)]
    (ioRun s IoThread.initial inputs).1.pc = .done ∧
      (ioRun s IoThread.initial inputs).2.getLast? = some (.stateCallback .drained) ∧
      ∃ middle final, (ioRun s IoThread.initial inputs).2 =
          .stateCallback .started :: middle ++ [.stateCallback final] ∧
        (∀ event ∈ middle, event.isStateCallback = false) ∧ TerminalLaw s middle final :=
  ⟨by decide, by decide, ioRun_terminalLaw _ _ (by decide)⟩

end Run

end Cubeb.Oss
