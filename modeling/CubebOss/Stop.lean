import CubebOss.System

/-!
This file proves what `oss_stream_stop` guarantees against the I/O thread, over every
interleaving of the two. Once a stop has cleared `running`, the I/O thread makes at most one more
data callback, only in an iteration whose test of `running` came before the clear, and it begins
no further iteration. A stop returns only when no I/O thread is left: the thread of the last
start ran to its end, with the state callbacks the terminal law of `CubebOss/Terminal.lean`
asks for. A stop on a stream whose `running` is clear changes nothing.

`Coherent` ties the controlling thread to `running` and to the I/O thread, `ThreadInv` ties the
I/O thread to the events of its run, and `Cleared` says what holds since a clear. `StopInv`
collects them; every transition keeps it.
-/

namespace Cubeb.Oss

/-! ### Reading the actions -/

namespace Action

def isStart : Action → Bool
  | start _ => true
  | _ => false

def isDataCallback : Action → Bool
  | io (.dataCallback _) => true
  | _ => false

/-- A test of `running` by the I/O thread. -/
def isRunningTest : Action → Bool
  | io (.running _) => true
  | _ => false

/-- What an action tells of the last start's I/O thread: a start begins a new one, an event of
the I/O thread is added to its events. -/
def nextThread (last : Option (Bool × List Event)) : Action → Option (Bool × List Event)
  | start created => some (created, [])
  | io event => last.map fun thread => (thread.1, thread.2 ++ [event])
  | _ => last

end Action

/-- The I/O thread of the last start, as the actions show it: whether its `pthread_create`
succeeded, and the events of the thread since. `none` before the first start. -/
def lastThread (actions : List Action) : Option (Bool × List Event) :=
  actions.foldl Action.nextThread none

@[simp] theorem lastThread_append (actions : List Action) (action : Action) :
    lastThread (actions ++ [action]) = Action.nextThread (lastThread actions) action := by
  simp [lastThread]

/-! ### Callbacks ahead -/

/-- The data callbacks the I/O thread makes before it next tests `running`, at most: one once it
has passed the test and not yet called back. -/
def IoPc.callbacksAhead : IoPc → Nat
  | .convertRecord | .callback => 1
  | .entry | .check | .volume | .convertPlay _ | .write | .advance _ | .read | .finish _
  | .done => 0

/-- The same for the system's I/O thread, if there is one. -/
def callbacksAhead : Option IoThread → Nat
  | some t => t.pc.callbacksAhead
  | none => 0

theorem callbacksAhead_le_one (io : Option IoThread) : callbacksAhead io ≤ 1 := by
  rcases io with _ | t
  · exact Nat.zero_le 1
  · show t.pc.callbacksAhead ≤ 1
    cases t.pc <;> simp [IoPc.callbacksAhead]

section Ahead

variable (s : Stream) (t : IoThread)

@[simp] theorem callbacksAhead_transferHead : t.transferHead.pc.callbacksAhead = 0 := by
  unfold IoThread.transferHead
  split_ifs <;> rfl

@[simp] theorem callbacksAhead_afterWrite : t.afterWrite.pc.callbacksAhead = 0 := by
  unfold IoThread.afterWrite
  split_ifs
  · rfl
  · exact callbacksAhead_transferHead _

@[simp] theorem callbacksAhead_afterConversion : (t.afterConversion s).pc.callbacksAhead = 0 := by
  unfold IoThread.afterConversion IoThread.startTransfer
  split_ifs <;> first | rfl | exact callbacksAhead_transferHead _

@[simp] theorem callbacksAhead_afterCallback (result : Int) :
    (t.afterCallback s result).pc.callbacksAhead = 0 := by
  unfold IoThread.afterCallback
  split_ifs <;> first | rfl | exact callbacksAhead_afterConversion s _

/-- With `running` clear, a step of the I/O thread makes a data callback only if one is ahead,
never finds `running` set, and has no callback ahead after a test of `running`. -/
theorem ioStep_of_cleared {shared shared' : Shared} {next : IoThread} {result : Int}
    {event : Event} (step : ioStep s shared t result = some (next, shared', event))
    (cleared : shared.running = false) :
    [Action.io event].countP Action.isDataCallback + next.pc.callbacksAhead ≤
        t.pc.callbacksAhead ∧
      event ≠ .running true ∧
      ((Action.io event).isRunningTest → next.pc.callbacksAhead = 0) := by
  cases pc : t.pc <;> simp only [ioStep, pc, Option.some.injEq, Prod.mk.injEq,
    reduceCtorEq] at step <;> obtain ⟨rfl, -, rfl⟩ := step
  case check =>
    simp only [IoThread.afterCheck, cleared]
    exact ⟨le_rfl, by simp, fun _ => rfl⟩
  case convertPlay | write | read =>
    split <;> simp [Action.isDataCallback, Action.isRunningTest, pc] <;> exact le_rfl
  all_goals simp [Action.isDataCallback, Action.isRunningTest, pc] <;> exact le_rfl

end Ahead

/-! ### Since a clear -/

/-- What holds once `oss_stream_stop` has cleared `running`, given the actions since: `running`
is still clear; the I/O thread has begun no iteration; its data callbacks since and ahead are at
most one, and none is ahead once it has tested `running`; and every data callback since came
before any test of `running`. -/
structure Cleared (σ : System) (after : List Action) : Prop where
  stopped : σ.shared.running = false
  noIteration : ∀ action ∈ after, action ≠ .io (.running true)
  callbacks : after.countP Action.isDataCallback + callbacksAhead σ.io ≤ 1
  spent : (∃ action ∈ after, action.isRunningTest) → callbacksAhead σ.io = 0
  ordered : ∀ front frames back, after = front ++ .io (.dataCallback frames) :: back →
    ∀ action ∈ front, action.isRunningTest = false

section Since

variable {s : Stream} {σ next : System} {after : List Action} {action : Action}

theorem Cleared.nil (stopped : σ.shared.running = false) : Cleared σ [] where
  stopped := stopped
  noIteration := by simp
  callbacks := by simpa using callbacksAhead_le_one σ.io
  spent := by simp
  ordered := by simp

/-- An action keeps `Cleared` if it leaves `running` clear, adds no more data callbacks than
were ahead, does not find `running` set, and leaves none ahead if it tests `running`. -/
theorem Cleared.append (cleared : Cleared σ after) (stopped : next.shared.running = false)
    (fewer : [action].countP Action.isDataCallback + callbacksAhead next.io ≤
      callbacksAhead σ.io)
    (noIteration : action ≠ .io (.running true))
    (spent : action.isRunningTest → callbacksAhead next.io = 0) :
    Cleared next (after ++ [action]) where
  stopped := stopped
  noIteration := by
    simp only [List.mem_append, List.mem_singleton]
    rintro _ (member | rfl)
    exacts [cleared.noIteration _ member, noIteration]
  callbacks := by
    have := cleared.callbacks
    rw [List.countP_append]
    omega
  spent := by
    rintro ⟨_, member, test⟩
    rcases List.mem_append.mp member with member | member
    · have := cleared.spent ⟨_, member, test⟩
      omega
    · exact spent (List.mem_singleton.mp member ▸ test)
  ordered := by
    intro front frames back split
    rcases split_of_append_singleton split.symm with ⟨rfl, rfl, rfl⟩ | ⟨back, rfl, earlier⟩
    · intro earlier member
      cases test : earlier.isRunningTest
      · rfl
      · have := cleared.spent ⟨earlier, member, test⟩
        simp [Action.isDataCallback] at fewer
        omega
    · exact cleared.ordered front frames back earlier

/-- A step of another thread keeps `Cleared` if it leaves `running` clear and adds no callback
ahead. -/
theorem Cleared.quiet (cleared : Cleared σ after) (stopped : next.shared.running = false)
    (fewer : callbacksAhead next.io ≤ callbacksAhead σ.io)
    (other : ∀ event, action ≠ .io event) :
    Cleared next (after ++ [action]) := by
  refine cleared.append stopped ?_ (other _) fun test => ?_
  all_goals cases action <;> simp_all [Action.isDataCallback, Action.isRunningTest]

/-- Every transition but a start keeps `Cleared`. -/
theorem Cleared.step (transition : Transition s σ next action) (cleared : Cleared σ after)
    (notStart : action.isStart = false) : Cleared next (after ++ [action]) := by
  cases transition with
  | io live step =>
    obtain ⟨fewer, noIteration, spent⟩ := ioStep_of_cleared s _ step cleared.stopped
    refine cleared.append ((ioStep_shared s step).1.trans cleared.stopped) ?_
      (by simpa using noIteration) spent
    simpa [callbacksAhead, live] using fewer
  | start => cases notStart
  | stopCleared => exact cleared.quiet rfl le_rfl fun _ same => by cases same
  | join => exact cleared.quiet cleared.stopped (Nat.zero_le _) fun _ same => by cases same
  | stopReturned | getPosition | setVolume =>
    exact cleared.quiet cleared.stopped le_rfl fun _ same => by cases same

end Since

/-! ### The invariant -/

/-- The controlling thread, `running` and the I/O thread agree: during a join `running` is
clear, and outside one a clear `running` means there is no I/O thread. -/
structure Coherent (σ : System) : Prop where
  joining_stopped : σ.control = .joining → σ.shared.running = false
  idle_stopped : σ.control = .idle → σ.shared.running = false → σ.io = none

/-- The system's I/O thread against the events of the last start's thread: a live thread is
where its events leave it (`RunInv`), a joined one made a whole run, and a failed start made
none. -/
def ThreadInv (s : Stream) : Option IoThread → Option (Bool × List Event) → Prop
  | none, none => True
  | some t, some (true, events) => RunInv s t events
  | none, some (true, events) => Finished s events
  | none, some (false, _) => True
  | some _, _ => False

/-- What holds after every run, for the stop law. -/
structure StopInv (s : Stream) (σ : System) (actions : List Action) : Prop where
  coherent : Coherent σ
  thread : ThreadInv s σ.io (lastThread actions)
  returned : ∀ before, actions = before ++ [.stopReturned] → σ.io = none
  cleared : ∀ before after, actions = before ++ .stopCleared :: after →
    (∀ action ∈ after, action.isStart = false) → Cleared σ after

section Steps

variable {s : Stream} {σ next : System} {action : Action} {actions : List Action}

theorem Coherent.step (transition : Transition s σ next action) (coherent : Coherent σ) :
    Coherent next := by
  cases transition with
  | io live step =>
    obtain ⟨running, -, -⟩ := ioStep_shared s step
    refine ⟨fun joining => running.trans (coherent.1 joining), fun idle stopped => ?_⟩
    simpa [live] using coherent.2 idle (running ▸ stopped)
  | start => exact ⟨fun joining => by simp_all, fun _ stopped => by simp at stopped⟩
  | stopCleared => exact ⟨fun _ => rfl, fun idle => by simp at idle⟩
  | stopReturned => exact coherent
  | join => exact ⟨fun joining => by simp at joining, fun _ _ => rfl⟩
  | getPosition => exact coherent
  | setVolume => exact ⟨coherent.1, coherent.2⟩

theorem threadInv_step (transition : Transition s σ next action)
    (inv : ThreadInv s σ.io (lastThread actions)) :
    ThreadInv s next.io (lastThread (actions ++ [action])) := by
  rw [lastThread_append]
  cases transition with
  | io live step =>
    rw [live] at inv
    rcases last : lastThread actions with _ | ⟨_ | _, events⟩ <;> rw [last] at inv
    · exact inv.elim
    · exact inv.elim
    · exact runInv_step step inv
  | start created =>
    cases created
    · trivial
    · exact ⟨rfl, rfl⟩
  | join _ live returned =>
    rw [live] at inv
    rcases last : lastThread actions with _ | ⟨_ | _, events⟩ <;> rw [last] at inv
    · exact inv.elim
    · exact inv.elim
    · simp only [ThreadInv, RunInv, returned] at inv
      exact inv
  | stopCleared | stopReturned | getPosition | setVolume => exact inv

theorem StopInv.initial : StopInv s System.initial [] where
  coherent := ⟨nofun, fun _ _ => rfl⟩
  thread := trivial
  returned := by simp
  cleared := by simp

theorem StopInv.step (transition : Transition s σ next action) (inv : StopInv s σ actions) :
    StopInv s next (actions ++ [action]) where
  coherent := inv.coherent.step transition
  thread := threadInv_step transition inv.thread
  returned := by
    intro before split
    obtain ⟨-, last⟩ := List.append_inj' split rfl
    cases transition with
    | stopReturned idle stopped => exact inv.coherent.idle_stopped idle stopped
    | join => rfl
    | _ => cases last
  cleared := by
    intro before after split notStart
    rcases split_of_append_singleton split.symm with ⟨rfl, -, rfl⟩ | ⟨front, rfl, earlier⟩
    · cases transition
      exact .nil rfl
    · refine (inv.cleared before front earlier fun _ member => ?_).step transition ?_
      · exact notStart _ (List.mem_append_left _ member)
      · exact notStart _ (List.mem_append_right _ (List.mem_singleton_self _))

end Steps

/-! ### The stop law -/

/-- Over every interleaving of the I/O thread with the application's calls: once
`oss_stream_stop` has cleared `running`, and until the next start, the I/O thread begins no
iteration (it never finds `running` set), makes at most one data callback, and makes it before
any test of `running`, so in the iteration whose test came before the clear. When a stop
returns, no I/O thread is left, and the thread of the last start that created one made a whole
run, ending with its one terminal state callback. A stop from the controlling thread on a stream
whose `running` is clear finds no I/O thread and returns at once, changing nothing. -/
theorem systemRun_stopLaw (s : Stream) (choices : List Choice) :
    let σ := (systemRun s System.initial choices).1
    let actions := (systemRun s System.initial choices).2
    (∀ before after, actions = before ++ .stopCleared :: after →
        (∀ action ∈ after, action.isStart = false) →
        (∀ action ∈ after, action ≠ .io (.running true)) ∧
          after.countP Action.isDataCallback ≤ 1 ∧
          ∀ front frames back, after = front ++ .io (.dataCallback frames) :: back →
            ∀ action ∈ front, action.isRunningTest = false) ∧
      (∀ before, actions = before ++ [.stopReturned] →
        σ.io = none ∧
          ∀ events, lastThread before = some (true, events) → Finished s events) ∧
      (σ.shared.running = false → σ.control = .idle →
        σ.io = none ∧ systemStep s σ .stop = some (σ, .stopReturned)) := by
  intro σ actions
  have inv : StopInv s σ actions :=
    systemRun_reachable (StopInv s) StopInv.initial (fun transition holds => holds.step transition)
      choices
  refine ⟨fun before after split notStart => ?_, fun before split => ?_, fun stopped idle => ?_⟩
  · obtain ⟨-, noIteration, callbacks, -, ordered⟩ := inv.cleared before after split notStart
    exact ⟨noIteration, by omega, ordered⟩
  · have thread := inv.thread
    rw [inv.returned before split, split, lastThread_append] at thread
    exact ⟨inv.returned before split, fun events last => by
      simpa [Action.nextThread, last] using thread⟩
  · refine ⟨inv.coherent.idle_stopped idle stopped, ?_⟩
    simp only [systemStep, if_pos idle, stopLocked, stopped, Bool.false_eq_true, ↓reduceIte]

/-- A clear that falls between the I/O thread's test of `running` and its data callback: the
callback still comes and its write completes, the next test stops the thread, and only then does
the stop return; a second stop returns at once. -/
example :
    let s : Stream :=
      ⟨⟨3, ⟨1, 48000, 0x10, 16⟩, 2, false⟩, ⟨-1, .zero, 0, false⟩, 1, by decide⟩
    (systemRun s System.initial [.start true, .io 0, .io 0, .stop, .io 1, .io 0, .io 0, .io 2,
        .io 0, .io 0, .io 0, .join, .stop]).2 =
      [.start true, .io (.stateCallback .started), .io (.running true), .stopCleared,
        .io (.dataCallback 1), .io (.volume (.finite 1)), .io (.linear16SetVol 1 (.finite 1)),
        .io (.write 0 2 2), .io (.framesWritten 1), .io (.running false),
        .io (.stateCallback .stopped), .stopReturned, .stopReturned] := by
  decide

end Cubeb.Oss
