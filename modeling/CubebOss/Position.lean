import CubebOss.System

/-!
This file proves what `oss_stream_get_position` reports, over every interleaving of the I/O
thread with the application's calls and across any number of start/stop cycles. The counter
`frames_written` only grows, so the positions returned never decrease; it never runs ahead of
the frames the data callbacks produced; and on a stream with playback whose writes all
completed, it equals them whenever the I/O thread is between iterations.

This holds when the environment keeps to its contract: a data callback returns between 0 and
`nfr` frames, and a write returns an error or at most the bytes it was asked for. The
partial-write accounting of `CubebOss/Transfer.lean` hands the device the wrong bytes after a
write of part of a frame, but it counts frames right: `to_write` and `frames_written` move by
the same `n / frame_size`, and the loop leaves only when `to_write` is zero.

The proof follows the frames the I/O thread has produced and not yet counted (`pending`); the
invariant is `Counted`. A failed device call ends the thread and drops what is pending, so the
writes completed when every failed call came after the counter had caught up with the frames
produced (`WritesCompleted`): a failed write never does, a failed read does once the writes of
its pass are done.
-/

namespace Cubeb.Oss

/-! ### Reading the actions -/

namespace Action

/-- The frames a data callback returned. -/
def producedFrames : Action → Nat
  | io (.dataCallback frames) => frames.toNat
  | _ => 0

/-- The frames the I/O thread added to `frames_written`. -/
def countedFrames : Action → Nat
  | io (.framesWritten frames) => frames
  | _ => 0

/-- The position a call of `oss_stream_get_position` returned. -/
def position? : Action → Option Nat
  | getPosition frames => some frames
  | _ => none

/-- A device call of the I/O thread that failed. -/
def Failed : Action → Prop
  | io event => event.Failed
  | _ => False

/-- The environment keeps to its contract in this action: a data callback returns between 0 and
`nfr` frames, a write returns an error or at most the bytes it was asked for. -/
def Contracted (s : Stream) : Action → Prop
  | io (.dataCallback frames) => 0 ≤ frames ∧ frames ≤ s.nfr
  | io (.write _ bytes result) => result ≤ bytes
  | _ => True

instance (s : Stream) : DecidablePred (Contracted s)
  | io (.dataCallback _) => inferInstanceAs (Decidable (_ ∧ _))
  | io (.write _ _ _) => inferInstanceAs (Decidable (_ ≤ _))
  | io (.stateCallback _) | io (.running _) | io (.linear32ToFloat _) | io (.volume _)
  | io (.float32ToLinear32 _ _) | io (.linear16SetVol _ _) | io (.framesWritten _)
  | io (.read _ _ _) | start _ | stopCleared | stopReturned | getPosition _ | setVolume _ =>
    isTrue trivial

end Action

/-- The frames the data callbacks returned, over the actions. -/
def framesProduced (actions : List Action) : Nat :=
  actions.foldl (fun total action => total + action.producedFrames) 0

/-- The frames the I/O thread added to `frames_written`, over the actions. -/
def framesCounted (actions : List Action) : Nat :=
  actions.foldl (fun total action => total + action.countedFrames) 0

/-- The positions `oss_stream_get_position` returned, in order. -/
def positions (actions : List Action) : List Nat := actions.filterMap Action.position?

@[simp] theorem framesProduced_append (actions : List Action) (action : Action) :
    framesProduced (actions ++ [action]) = framesProduced actions + action.producedFrames := by
  simp [framesProduced]

@[simp] theorem framesCounted_append (actions : List Action) (action : Action) :
    framesCounted (actions ++ [action]) = framesCounted actions + action.countedFrames := by
  simp [framesCounted]

@[simp] theorem positions_append (actions : List Action) (action : Action) :
    positions (actions ++ [action]) = positions actions ++ action.position?.toList := by
  simp only [positions, List.filterMap_append, List.filterMap_cons, List.filterMap_nil]
  cases action.position? <;> rfl

/-- The writes of every iteration completed: each device call that failed came when
`frames_written` had counted every frame the data callbacks had produced. A run in which no
device call failed has it (`writesCompleted_of_succeeded`), and so does a duplex run whose read
fails after the writes of its pass have completed. -/
def WritesCompleted (actions : List Action) : Prop :=
  ∀ before action after, actions = before ++ action :: after → action.Failed →
    framesCounted before = framesProduced before

section Completed

variable {actions : List Action} {action : Action}

theorem writesCompleted_of_succeeded (succeeded : ∀ action ∈ actions, ¬action.Failed) :
    WritesCompleted actions :=
  fun _ action _ split failed => absurd failed (succeeded action (by simp [split]))

theorem WritesCompleted.prefix (completed : WritesCompleted (actions ++ [action])) :
    WritesCompleted actions :=
  fun before earlier after split => completed before earlier (after ++ [action]) (by simp [split])

theorem WritesCompleted.last (completed : WritesCompleted (actions ++ [action]))
    (failed : action.Failed) : framesCounted actions = framesProduced actions :=
  completed actions action [] rfl failed

end Completed

/-! ### Frames pending in the I/O thread -/

/-- The frames the current iteration got from the data callback and has not yet added to
`frames_written`: the callback's result until the partial-I/O loop starts, then `to_write`. -/
def IoThread.pending (t : IoThread) : Nat :=
  match t.pc with
  | .volume | .convertPlay _ => t.cbNfr.toNat
  | .write | .advance _ | .read => t.toWrite
  | .entry | .check | .convertRecord | .callback | .finish _ | .done => 0

/-- What the contract lets the I/O thread know at the points that carry a count: the callback's
result lies between 0 and `nfr`, and the write just made returned at most the bytes it asked
for. -/
def IoThread.Bounded (s : Stream) (t : IoThread) : Prop :=
  match t.pc with
  | .volume | .convertPlay _ => 0 ≤ t.cbNfr ∧ t.cbNfr ≤ s.nfr
  | .advance written => written ≤ t.toWrite * s.play.frameSize
  | .entry | .check | .convertRecord | .callback | .write | .read | .finish _ | .done => True

/-- The I/O thread is between iterations: before its first, at a test of `running`, or past
its last. -/
def IoPc.betweenIterations : IoPc → Bool
  | .entry | .check | .finish _ | .done => true
  | .convertRecord | .callback | .volume | .convertPlay _ | .write | .advance _ | .read => false

/-- The frames pending in the system's I/O thread, if there is one. -/
def pendingFrames : Option IoThread → Nat
  | some t => t.pending
  | none => 0

section Pending

variable (s : Stream) (t : IoThread)

theorem pending_transferHead : t.transferHead.pending = t.toWrite := by
  unfold IoThread.transferHead
  split_ifs <;> simp only [IoThread.pending] <;> omega

theorem pending_afterWrite : t.afterWrite.pending = t.toWrite := by
  unfold IoThread.afterWrite
  split_ifs
  · rfl
  · exact pending_transferHead t

theorem bounded_transferHead : t.transferHead.Bounded s := by
  unfold IoThread.transferHead
  split_ifs <;> trivial

theorem bounded_afterWrite : t.afterWrite.Bounded s := by
  unfold IoThread.afterWrite
  split_ifs
  · trivial
  · exact bounded_transferHead s t

theorem bounded_afterConversion : (t.afterConversion s).Bounded s := by
  unfold IoThread.afterConversion
  split_ifs
  · exact bounded_transferHead s _
  · trivial
  · exact bounded_transferHead s _

theorem pending_startTransfer :
    (t.startTransfer s).pending = if s.play.Active then sizeOfLong t.cbNfr else 0 := by
  rw [IoThread.startTransfer, pending_transferHead]

/-- The short-block test hands the partial-I/O loop the callback's frames when playback is
open, and none otherwise. -/
theorem pending_afterConversion (nonneg : 0 ≤ t.cbNfr) (bounded : t.cbNfr ≤ s.nfr) :
    (t.afterConversion s).pending = if s.play.Active then t.cbNfr.toNat else 0 := by
  have small : sizeOfLong t.cbNfr = t.cbNfr.toNat :=
    sizeOfLong_of_nonneg nonneg (by have := s.nfr_lt; omega)
  unfold IoThread.afterConversion
  by_cases short : t.cbNfr < s.nfr
  · rw [if_pos short]
    split_ifs with playing
    · simp [pending_startTransfer, playing, small]
    · rfl
  · rw [if_neg short, pending_startTransfer, small]

theorem pending_afterCallback {result : Int} (nonneg : 0 ≤ result) (bounded : result ≤ s.nfr) :
    (t.afterCallback s result).pending = (if s.play.Active then result.toNat else 0) ∧
      (t.afterCallback s result).Bounded s := by
  have notError : result ≠ cubebError := by unfold cubebError; omega
  unfold IoThread.afterCallback
  rw [if_neg notError]
  split_ifs with playing
  · exact ⟨rfl, nonneg, bounded⟩
  · exact ⟨(pending_afterConversion s _ nonneg bounded).trans (if_neg playing),
      bounded_afterConversion s _⟩

theorem pending_afterCheck (running : Bool) :
    (t.afterCheck s running).pending = 0 ∧ (t.afterCheck s running).Bounded s := by
  unfold IoThread.afterCheck
  split_ifs <;> exact ⟨rfl, trivial⟩

/-- A step of the I/O thread adds to `frames_written` just the frames its event counts. -/
theorem ioStep_framesWritten {shared shared' : Shared} {next : IoThread} {result : Int}
    {event : Event} (step : ioStep s shared t result = some (next, shared', event)) :
    shared'.framesWritten = shared.framesWritten + (Action.io event).countedFrames := by
  cases pc : t.pc <;> simp only [ioStep, pc, Option.some.injEq, Prod.mk.injEq,
    reduceCtorEq] at step <;> obtain ⟨-, rfl, rfl⟩ := step
  case convertPlay => split <;> rfl
  all_goals rfl

/-- Under the contract, a step of the I/O thread adds to `frames_written` and the frames pending
at most what its data callback produced, exactly that when playback is open and its device
call did not fail with frames pending, and keeps `Bounded`. -/
theorem ioStep_pending {shared shared' : Shared} {next : IoThread} {result : Int}
    {event : Event} (step : ioStep s shared t result = some (next, shared', event))
    (bounded : t.Bounded s) (contracted : (Action.io event).Contracted s) :
    next.Bounded s ∧
      shared'.framesWritten + next.pending ≤
        shared.framesWritten + t.pending + (Action.io event).producedFrames ∧
      (s.play.Active → (event.Failed → t.pending = 0) →
        shared'.framesWritten + next.pending =
          shared.framesWritten + t.pending + (Action.io event).producedFrames) := by
  cases pc : t.pc <;> simp only [ioStep, pc, Option.some.injEq, Prod.mk.injEq,
    reduceCtorEq] at step <;> obtain ⟨rfl, rfl, rfl⟩ := step <;>
    simp only [IoThread.Bounded, pc] at bounded
  case check =>
    obtain ⟨pending, bounded⟩ := pending_afterCheck s t shared.running
    rw [pending]
    simp [bounded, IoThread.pending, pc, Action.producedFrames]
  case callback =>
    obtain ⟨pending, bounded⟩ := pending_afterCallback s t contracted.1 contracted.2
    rw [pending]
    refine ⟨bounded, ?_, fun playing _ => ?_⟩
    · split_ifs <;> simp [IoThread.pending, pc, Action.producedFrames]
    · simp [IoThread.pending, pc, Action.producedFrames, playing]
  case convertPlay =>
    rw [pending_afterConversion s t bounded.1 bounded.2]
    refine ⟨bounded_afterConversion s t, ?_, fun playing _ => ?_⟩ <;>
      split_ifs <;> simp [IoThread.pending, pc, Action.producedFrames]
  case write =>
    have contracted : result ≤ (t.toWrite * s.play.frameSize : Nat) := contracted
    split
    · refine ⟨trivial, by simp only [IoThread.pending, pc]; omega, fun _ idle => ?_⟩
      have := idle ‹result < 0›
      simp only [IoThread.pending, pc, Action.producedFrames] at this ⊢
      omega
    · refine ⟨show result.toNat ≤ t.toWrite * s.play.frameSize by omega, ?_,
        fun _ _ => ?_⟩ <;> simp [IoThread.pending, pc, Action.producedFrames]
  case advance written =>
    have counted : written / s.play.frameSize ≤ t.toWrite :=
      Nat.div_le_of_le_mul (by rwa [Nat.mul_comm])
    rw [pending_afterWrite]
    refine ⟨bounded_afterWrite s _, ?_, fun _ _ => ?_⟩ <;>
      simp only [IoThread.pending, pc, Action.producedFrames] <;> omega
  case read =>
    split
    · refine ⟨trivial, by simp only [IoThread.pending, pc]; omega, fun _ idle => ?_⟩
      have := idle ‹result < 0›
      simp only [IoThread.pending, pc, Action.producedFrames] at this ⊢
      omega
    · rw [pending_transferHead]
      refine ⟨bounded_transferHead s _, ?_, fun _ _ => ?_⟩ <;>
        simp [IoThread.pending, pc, Action.producedFrames]
  all_goals simp_all [IoThread.pending, IoThread.Bounded, Action.producedFrames]

end Pending

/-! ### The invariant -/

/-- What holds after every run in which the environment keeps to its contract: the I/O thread
is `Bounded`; the positions returned are sorted and none exceeds the counter; each was at most
the frames produced before it; the counter is the sum of the frames the thread counted; the
counter and the frames pending are at most the frames produced, and equal to them on a stream
with playback whose writes all completed. -/
structure Counted (s : Stream) (σ : System) (actions : List Action) : Prop where
  bounded : ∀ t, σ.io = some t → t.Bounded s
  sorted : (positions actions).Pairwise (· ≤ ·)
  below : ∀ frames ∈ positions actions, frames ≤ σ.shared.framesWritten
  reported : ∀ before frames after, actions = before ++ .getPosition frames :: after →
    frames ≤ framesProduced before
  written : σ.shared.framesWritten = framesCounted actions
  counted : σ.shared.framesWritten + pendingFrames σ.io ≤ framesProduced actions
  exact : s.play.Active → WritesCompleted actions →
    σ.shared.framesWritten + pendingFrames σ.io = framesProduced actions

section Steps

variable {s : Stream} {σ next : System} {action : Action} {actions : List Action}

theorem Counted.initial : Counted s System.initial [] where
  bounded := by simp [System.initial]
  sorted := List.Pairwise.nil
  below := by simp [positions]
  reported := by simp
  written := rfl
  counted := le_rfl
  exact := fun _ _ => rfl

/-- A step keeps `Counted` if it keeps the I/O thread `Bounded`, adds to the counter the frames
it counts, returns the counter as the position, and adds to the counter and the frames pending
at most what it produced, exactly that when playback is open and it did not fail with frames
pending. -/
theorem Counted.append (counted : Counted s σ actions)
    (bounded : ∀ t, next.io = some t → t.Bounded s)
    (counts : next.shared.framesWritten = σ.shared.framesWritten + action.countedFrames)
    (position : ∀ frames, action.position? = some frames → frames = σ.shared.framesWritten)
    (fewer : next.shared.framesWritten + pendingFrames next.io ≤
      σ.shared.framesWritten + pendingFrames σ.io + action.producedFrames)
    (same : s.play.Active → (action.Failed → pendingFrames σ.io = 0) →
      next.shared.framesWritten + pendingFrames next.io =
        σ.shared.framesWritten + pendingFrames σ.io + action.producedFrames) :
    Counted s next (actions ++ [action]) where
  bounded := bounded
  sorted := by
    rw [positions_append, List.pairwise_append]
    refine ⟨counted.sorted, ?_, fun earlier member frames reported => ?_⟩
    · cases action.position? <;> simp
    · rw [position frames (Option.mem_toList.mp reported)]
      exact counted.below earlier member
  below := by
    have grows : σ.shared.framesWritten ≤ next.shared.framesWritten :=
      counts ▸ Nat.le_add_right _ _
    simp only [positions_append, List.mem_append, Option.mem_toList]
    rintro frames (member | reported)
    · exact (counted.below frames member).trans grows
    · exact (position frames reported).le.trans grows
  reported := by
    intro before frames after split
    rcases split_of_append_singleton split.symm with ⟨rfl, rfl, rfl⟩ | ⟨front, rfl, earlier⟩
    · have := counted.counted
      rw [position frames rfl]
      omega
    · exact counted.reported before frames front earlier
  written := by rw [counts, framesCounted_append, counted.written]
  counted := by
    have := counted.counted
    rw [framesProduced_append]
    omega
  exact := fun playing completed => by
    have exact := counted.exact playing completed.prefix
    have idle : action.Failed → pendingFrames σ.io = 0 := fun failed => by
      have caughtUp := completed.last failed
      have written := counted.written
      omega
    rw [framesProduced_append, same playing idle]
    omega

theorem Counted.step (transition : Transition s σ next action) (counted : Counted s σ actions)
    (contracted : action.Contracted s) : Counted s next (actions ++ [action]) := by
  cases transition with
  | io live step =>
    obtain ⟨bounded, fewer, same⟩ := ioStep_pending s _ step (counted.bounded _ live) contracted
    refine counted.append (by simpa using bounded) (ioStep_framesWritten s _ step)
      (fun _ reported => by cases reported) ?_ ?_
    · simpa [pendingFrames, live] using fewer
    · simpa [pendingFrames, live, Action.Failed] using same
  | start created _ noThread =>
    refine counted.append ?_ rfl (fun _ reported => by cases reported) ?_ fun _ _ => ?_ <;>
      cases created <;>
      simp [pendingFrames, noThread, IoThread.initial, IoThread.pending, IoThread.Bounded,
        Action.producedFrames]
  | join _ live returned =>
    refine counted.append (fun _ noThread => by cases noThread) rfl
      (fun _ reported => by cases reported) ?_ fun _ _ => ?_ <;>
      simp [pendingFrames, live, IoThread.pending, returned, Action.producedFrames]
  | getPosition =>
    exact counted.append counted.bounded rfl (fun _ reported => (Option.some.inj reported).symm)
      (by simp [Action.producedFrames]) fun _ _ => by simp [Action.producedFrames]
  | stopCleared | stopReturned | setVolume =>
    exact counted.append counted.bounded rfl (fun _ reported => by cases reported)
      (by simp [Action.producedFrames])
      fun _ _ => by simp [Action.producedFrames]

end Steps

/-! ### The position law -/

/-- Over every interleaving of the I/O thread with the application's calls, across any number
of start/stop cycles, and for every environment that keeps to its contract (data callbacks
return between 0 and `nfr` frames, writes an error or at most the bytes asked for): the
positions `oss_stream_get_position` returns never decrease; each is at most the frames the data
callbacks returned before it; and on a stream with playback whose writes all completed,
whenever the I/O thread is between iterations (or there is none), `oss_stream_get_position`
returns exactly the frames the data callbacks returned. -/
theorem systemRun_position (s : Stream) (choices : List Choice)
    (contracted : ∀ action ∈ (systemRun s System.initial choices).2, action.Contracted s) :
    let σ := (systemRun s System.initial choices).1
    let actions := (systemRun s System.initial choices).2
    (positions actions).Pairwise (· ≤ ·) ∧
      (∀ before frames after, actions = before ++ .getPosition frames :: after →
        frames ≤ framesProduced before) ∧
      (s.play.Active → WritesCompleted actions → σ.io.all (·.pc.betweenIterations) →
        systemStep s σ .getPosition = some (σ, .getPosition (framesProduced actions))) := by
  intro σ actions
  have counted : Counted s σ actions :=
    systemRun_reachable (fun σ actions => (∀ action ∈ actions, action.Contracted s) →
        Counted s σ actions) (fun _ => Counted.initial)
      (fun transition holds contract => (holds fun action member =>
          contract action (List.mem_append_left _ member)).step transition
        (contract _ (List.mem_append_right _ (List.mem_singleton_self _)))) choices contracted
  refine ⟨counted.sorted, counted.reported, fun playing succeeded between => ?_⟩
  have idle : pendingFrames σ.io = 0 := by
    rcases io : σ.io with _ | t
    · rfl
    · simp only [io, Option.all_some] at between
      cases pc : t.pc <;> simp_all [pendingFrames, IoThread.pending, IoPc.betweenIterations]
  have := counted.exact playing succeeded
  simp only [systemStep, Option.some.injEq, Prod.mk.injEq, Action.getPosition.injEq, true_and]
  omega

/-- A mono 16-bit playback stream whose one-frame block the device takes in two writes, of one
byte and then of two: the positions read before the block, between the writes and after them are
0, 0 and 1, and the last equals the frames produced. -/
theorem systemRun_position_partialWrite :
    let s : Stream :=
      ⟨⟨3, ⟨1, 48000, 0x10, 16⟩, 2, false⟩, ⟨-1, .zero, 0, false⟩, 1, by decide⟩
    let choices := [.start true, .io 0, .getPosition, .io 0, .io 1, .io 0, .io 0, .io 1, .io 0,
      .getPosition, .io 2, .io 0, .getPosition]
    (∀ action ∈ (systemRun s System.initial choices).2, action.Contracted s) ∧
      positions (systemRun s System.initial choices).2 = [0, 0, 1] ∧
      framesProduced (systemRun s System.initial choices).2 = 1 ∧
      let σ := (systemRun s System.initial choices).1
      let actions := (systemRun s System.initial choices).2
      (positions actions).Pairwise (· ≤ ·) ∧
        (∀ before frames after, actions = before ++ .getPosition frames :: after →
          frames ≤ framesProduced before) ∧
        (s.play.Active → WritesCompleted actions → σ.io.all (·.pc.betweenIterations) →
          systemStep s σ .getPosition = some (σ, .getPosition (framesProduced actions))) :=
  ⟨by decide, by decide, by decide, systemRun_position _ _ (by decide)⟩

end Cubeb.Oss
