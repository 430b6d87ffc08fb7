import CubebOss.Init
import CubebOss.System

/-!
This file is about the volume. `oss_stream_set_volume` clamps its argument with two ordered
comparisons, `volume < 0.0` and then `volume > 1.0`, and stores it under the lock; the I/O
thread reads the stored value under the lock before each playback conversion and hands it to
`oss_float_to_linear32` or `oss_linear16_set_vol`.

Every argument but NaN, the infinities included, is clamped into `[0, 1]`, and over every run
whose calls pass no NaN, the stored volume and every volume a conversion is handed stay in
`[0, 1]`. NaN fails both comparisons and is stored as it is; the next iteration hands it to the
conversion, where `oss_linear16_set_vol` converts `vol * 0x8000` to `int32_t`, which C leaves
undefined for NaN.

The invariant is `VolumesIn P`, for any property `P` of volumes that the clamp's results have:
the I/O thread hands a conversion only the volume it read from the stored one.
`CubebOss.Playback` uses it again with finite `float`s for `P`.
-/

namespace Cubeb.Oss

/-! ### Volumes in flight -/

/-- The volume a playback conversion of the I/O thread was handed. -/
def Action.convertedVolume? : Action → Option FloatValue
  | io (.float32ToLinear32 _ vol) | io (.linear16SetVol _ vol) => some vol
  | _ => none

/-- The volume the I/O thread has read and not yet handed to the conversion. -/
def IoPc.heldVolume : IoPc → Option FloatValue
  | .convertPlay vol => some vol
  | .entry | .check | .convertRecord | .callback | .volume | .write | .advance _ | .read
  | .finish _ | .done => none

section Held

variable (s : Stream) (t : IoThread)

@[simp] theorem heldVolume_transferHead : t.transferHead.pc.heldVolume = none := by
  unfold IoThread.transferHead
  split_ifs <;> rfl

@[simp] theorem heldVolume_afterWrite : t.afterWrite.pc.heldVolume = none := by
  unfold IoThread.afterWrite
  split_ifs <;> first | rfl | exact heldVolume_transferHead _

@[simp] theorem heldVolume_afterConversion : (t.afterConversion s).pc.heldVolume = none := by
  unfold IoThread.afterConversion IoThread.startTransfer
  split_ifs <;> first | rfl | exact heldVolume_transferHead _

@[simp] theorem heldVolume_afterCallback (result : Int) :
    (t.afterCallback s result).pc.heldVolume = none := by
  unfold IoThread.afterCallback
  split_ifs <;> first | rfl | exact heldVolume_afterConversion s _

@[simp] theorem heldVolume_afterCheck (running : Bool) :
    (t.afterCheck s running).pc.heldVolume = none := by
  unfold IoThread.afterCheck
  split_ifs <;> rfl

end Held

/-! ### Where a converted volume comes from -/

/-- A step of the I/O thread holds afterwards only the stored volume, which it has just read,
and hands a conversion only the volume it held. -/
theorem ioStep_volume_source {s : Stream} {shared shared' : Shared} {t next : IoThread}
    {result : Int} {event : Event} (step : ioStep s shared t result = some (next, shared', event)) :
    (∀ vol, next.pc.heldVolume = some vol → vol = shared.volume) ∧
      ∀ vol, (Action.io event).convertedVolume? = some vol → t.pc.heldVolume = some vol := by
  cases pc : t.pc <;> simp only [ioStep, pc, Option.some.injEq, Prod.mk.injEq,
    reduceCtorEq] at step <;> obtain ⟨rfl, -, rfl⟩ := step
  case volume => exact ⟨fun vol read => (Option.some.inj read).symm, fun _ handed => by cases handed⟩
  case convertPlay vol =>
    refine ⟨by simp, fun converted handed => ?_⟩
    split at handed <;> simp only [Action.convertedVolume?, Option.some.injEq] at handed <;>
      rw [← handed] <;> rfl
  case write => split <;> exact ⟨fun _ held => (by cases held), fun _ handed => by cases handed⟩
  case read =>
    split
    · exact ⟨fun _ held => (by cases held), fun _ handed => by cases handed⟩
    · exact ⟨fun _ held => (by simp at held), fun _ handed => by cases handed⟩
  all_goals simp [pc, Action.convertedVolume?] <;> exact fun _ held => by cases held

/-- The volumes of a system and a trace all in `P`: the stored one, the one the I/O thread holds
and every one a conversion was handed. -/
structure VolumesIn (P : FloatValue → Prop) (σ : System) (actions : List Action) : Prop where
  stored : P σ.shared.volume
  held : ∀ t vol, σ.io = some t → t.pc.heldVolume = some vol → P vol
  converted : ∀ action ∈ actions, ∀ vol, action.convertedVolume? = some vol → P vol

section Steps

variable {P : FloatValue → Prop} {s : Stream} {σ next : System} {action : Action}
  {actions : List Action}

/-- A system as `oss_stream_init` leaves it holds the volume `1.0`, no thread and no trace. -/
theorem VolumesIn.initial (one : P (.finite 1)) : VolumesIn P System.initial [] where
  stored := one
  held _ _ noThread := by cases noThread
  converted _ member := by cases member

/-- A step whose action hands a conversion a volume in `P` keeps the converted volumes in `P`. -/
theorem VolumesIn.converted_append (inv : VolumesIn P σ actions)
    (handed : ∀ vol, action.convertedVolume? = some vol → P vol) :
    ∀ action' ∈ actions ++ [action], ∀ vol, action'.convertedVolume? = some vol → P vol := by
  simp only [List.mem_append, List.mem_singleton]
  rintro _ (member | rfl)
  exacts [inv.converted _ member, handed]

/-- Every transition keeps the volumes in `P`, provided that a `set_volume` it makes stores a
volume in `P`. -/
theorem VolumesIn.step (transition : Transition s σ next action) (inv : VolumesIn P σ actions)
    (clamped : ∀ volume, action = .setVolume volume → P (clampVolume volume)) :
    VolumesIn P next (actions ++ [action]) := by
  have quiet : action.convertedVolume? = none → ∀ vol, action.convertedVolume? = some vol → P vol :=
    fun none vol handed => by rw [none] at handed; cases handed
  cases transition with
  | io live step =>
    obtain ⟨held, handed⟩ := ioStep_volume_source step
    refine ⟨(ioStep_shared s step).2.1 ▸ inv.stored, ?_, inv.converted_append fun vol converted =>
      inv.held _ vol live (handed vol converted)⟩
    rintro _ vol ⟨⟩ holding
    exact held vol holding ▸ inv.stored
  | start created =>
    refine ⟨inv.stored, fun t vol started => ?_, inv.converted_append (quiet rfl)⟩
    cases created <;> cases started
    exact fun holding => by cases holding
  | setVolume volume =>
    exact ⟨clamped volume rfl, inv.held, inv.converted_append (quiet rfl)⟩
  | join =>
    exact ⟨inv.stored, fun _ _ noThread => (by cases noThread), inv.converted_append (quiet rfl)⟩
  | stopCleared | stopReturned | getPosition =>
    exact ⟨inv.stored, inv.held, inv.converted_append (quiet rfl)⟩

end Steps

/-- Over every interleaving, across any number of start/stop cycles: if no call of
`oss_stream_set_volume` passes NaN -- whatever finite or infinite values it passes -- the
stored volume and every volume handed to `oss_float_to_linear32` or `oss_linear16_set_vol` lie
in `[0, 1]`. -/
theorem systemRun_volume_inUnit (s : Stream) (choices : List Choice)
    (noNan : ∀ action ∈ (systemRun s System.initial choices).2, action ≠ .setVolume .nan) :
    (systemRun s System.initial choices).1.shared.volume.InUnit ∧
      ∀ action ∈ (systemRun s System.initial choices).2, ∀ vol,
        action.convertedVolume? = some vol → vol.InUnit := by
  have inv := systemRun_reachable
    (fun σ actions => (∀ action ∈ actions, action ≠ .setVolume .nan) →
      VolumesIn FloatValue.InUnit σ actions)
    (fun _ => VolumesIn.initial ⟨zero_le_one, le_rfl⟩)
    (fun transition holds clean => (holds fun action member =>
        clean action (List.mem_append_left _ member)).step transition fun volume same =>
      clampVolume_inUnit fun nan =>
        clean _ (List.mem_append_right _ (List.mem_singleton_self _)) (by rw [same, nan]))
    choices noNan
  exact ⟨inv.stored, inv.converted⟩

/-- Volumes of `+∞` and then `-∞` are clamped to `1` and to `0`, and the conversions of a
one-frame playback stream are handed those. -/
theorem systemRun_volume_inUnit_infinite :
    let s : Stream := ⟨⟨3, ⟨1, 48000, 0x10, 16⟩, 2, false⟩, .closed, 1, by decide⟩
    let choices := [.setVolume (.infinity false), .start true, .io 0, .io 0, .io 1, .io 0, .io 0,
      .io 2, .io 0, .setVolume (.infinity true), .io 0, .io 1, .io 0, .io 0]
    (∀ action ∈ (systemRun s System.initial choices).2, action ≠ .setVolume .nan) ∧
      (systemRun s System.initial choices).2.filterMap Action.convertedVolume? =
        [.finite 1, .finite 0] ∧
      (systemRun s System.initial choices).1.shared.volume.InUnit ∧
        ∀ action ∈ (systemRun s System.initial choices).2, ∀ vol,
          action.convertedVolume? = some vol → vol.InUnit :=
  ⟨by decide, by decide, systemRun_volume_inUnit _ _ (by decide)⟩

/-! ### NaN -/

/-- A mono 16-bit playback stream built by `oss_stream_init`: `oss_stream_set_volume` with NaN
stores NaN, and once started, the I/O thread reads it and hands it to `oss_linear16_set_vol`. -/
theorem systemRun_volume_nan :
    let request : InitRequest := ⟨none, some ⟨.s16le, 48000, 1, false⟩⟩
    let echo : Dsp := ⟨some, some, some, none⟩
    let world : InitWorld := ⟨true, -1, echo, 3, echo, true, true, true⟩
    let state : StreamState :=
      ⟨⟨⟨3, ⟨1, 48000, 0x10, 16⟩, 2, false⟩, .closed, 1, by decide⟩, Shared.initial,
        true, false⟩
    let choices := [.setVolume .nan, .start true, .io 0, .io 0, .io 1, .io 0, .io 0]
    let run := systemRun state.stream ⟨state.shared, none, .idle⟩ choices
    (ossStreamInit request world).stream = some state ∧
      run.2 = [.setVolume .nan, .start true, .io (.stateCallback .started), .io (.running true),
          .io (.dataCallback 1), .io (.volume .nan), .io (.linear16SetVol 1 .nan)] ∧
      ¬run.1.shared.volume.InUnit := by
  decide

end Cubeb.Oss
