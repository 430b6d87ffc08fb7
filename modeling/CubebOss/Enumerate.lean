import CubebOss.Stream
import Mathlib.Data.Nat.Bitwise

/-!
This file models the mixer branch of `oss_enumerate_devices`, the one built where the sound
status file of FreeBSD is not used: open the mixer, ask it how many audio devices it has, and
ask each of them for its `oss_audioinfo`. An enabled device passes a filter on its capability
bits and, if the strings of its entry can be allocated, is stored in the collection.

The filter switches on `ai.caps & DSP_CAP_DUPLEX` but names `DSP_CAP_INPUT` and
`DSP_CAP_OUTPUT` in its cases. The masked value is `0` or `DSP_CAP_DUPLEX`, never one of
those, so the filter does not look at the directions at all: it keeps exactly the devices with
the duplex bit, for every requested type (`mixerKeeps_eq_duplex`, `ossEnumerateDevices_ok`).
-/

namespace Cubeb.Oss

/-! ### Constants -/

/-- Modelled from the spec: `CUBEB_DEVICE_TYPE_INPUT`, a bit of `cubeb_device_type` in
`cubeb.h`. -/
def cubebDeviceTypeInput : Nat := 0x1

/-- Modelled from the spec: `CUBEB_DEVICE_TYPE_OUTPUT`. -/
def cubebDeviceTypeOutput : Nat := 0x2

/-- Modelled from the spec: `DSP_CAP_DUPLEX`, a capability bit of OSS's `sys/soundcard.h`. -/
def dspCapDuplex : Nat := 0x100

/-- Modelled from the spec: `DSP_CAP_INPUT`. -/
def dspCapInput : Nat := 0x10000

/-- Modelled from the spec: `DSP_CAP_OUTPUT`. -/
def dspCapOutput : Nat := 0x20000

/-- `OSS_PREFER_RATE`, the default rate reported for every device. -/
def ossPreferRate : Nat := 48000

/-! ### Devices and entries -/

/-- The fields of `oss_audioinfo` that the mixer loop reads, as `SNDCTL_AUDIOINFO` fills them
in. `caps` is the 32-bit pattern of the `int` field. -/
structure AudioInfo where
  dev : Int
  name : String
  devnode : String
  enabled : Bool
  caps : Nat
  maxChannels : Int
  minRate : Int
  maxRate : Int
  deriving DecidableEq, Repr

/-- The fields of `cubeb_device_info` that depend on the device or on the request. The others
are the same for every entry: no vendor name, `CUBEB_DEVICE_STATE_ENABLED`,
`CUBEB_DEVICE_PREF_NONE`, `CUBEB_DEVICE_FMT_S16NE` for both formats and no latency. -/
structure DeviceInfo where
  devid : String
  deviceId : String
  friendlyName : String
  groupId : String
  type : Nat
  maxChannels : Int
  defaultRate : Nat
  maxRate : Int
  minRate : Int
  deriving DecidableEq, Repr

/-- The entry the mixer loop fills in for a device it keeps: `devid` is the interned device
node, the three names are copies of the device's name, and the type is the requested one. -/
def deviceInfoOf (type : Nat) (ai : AudioInfo) : DeviceInfo :=
  ⟨ai.devnode, ai.name, ai.name, ai.name, type, ai.maxChannels, ossPreferRate, ai.maxRate,
    ai.minRate⟩

/-- What the system answers to the calls of `oss_enumerate_devices`: `open` of the mixer (an
fd, or `-1`), the number of audio devices `SNDCTL_SYSINFO` reports (`none` when it fails), the
`calloc` of the entries, the `oss_audioinfo` of each device (`none` when `SNDCTL_AUDIOINFO`
fails), and whether the interning of a device's node and the three `strdup`s of its name all
succeed. -/
structure MixerWorld where
  mixerOpen : Int
  numaudios : Option Int
  devinfoCalloc : Bool
  audioinfo : Nat → Option AudioInfo
  strings : Nat → Bool

/-! ### The loop -/

/-- The `switch` on `ai.caps & DSP_CAP_DUPLEX`: whether the loop keeps a device with these
capabilities for the requested type. A masked value that no case names falls out of the
`switch`, and the device is kept. -/
def mixerKeeps (caps type : Nat) : Bool :=
  if caps &&& dspCapDuplex = dspCapInput then type &&& cubebDeviceTypeOutput = 0
  else if caps &&& dspCapDuplex = dspCapOutput then type &&& cubebDeviceTypeInput = 0
  else if caps &&& dspCapDuplex = 0 then false
  else true

/-- How the mixer loop ends: having gone over every device with the entries it stored, at a
failed `SNDCTL_AUDIOINFO` (`goto fail`), or at the `assert` that the device's number is below
the device count. -/
inductive LoopEnd where
  | done (entries : List DeviceInfo)
  | failed
  | aborted
  deriving DecidableEq, Repr

/-- The mixer loop over the devices `indices`, with the entries stored so far. A device that is
disabled, that the `switch` drops or whose strings cannot all be allocated is skipped. -/
def mixerLoop (world : MixerWorld) (type : Nat) (numaudios : Int) :
    List Nat → List DeviceInfo → LoopEnd
  | [], entries => .done entries
  | i :: rest, entries =>
    match world.audioinfo i with
    | none => .failed
    | some ai =>
      if numaudios ≤ ai.dev then .aborted
      else if !ai.enabled then mixerLoop world type numaudios rest entries
      else if !mixerKeeps ai.caps type then mixerLoop world type numaudios rest entries
      else if !world.strings i then mixerLoop world type numaudios rest entries
      else mixerLoop world type numaudios rest (entries ++ [deviceInfoOf type ai])

/-- What `oss_enumerate_devices` returns: `CUBEB_OK` with the entries it stored in the
collection, `CUBEB_ERROR`, or an abort at the `assert`. -/
inductive EnumResult where
  | ok (devices : List DeviceInfo)
  | error
  | aborted
  deriving DecidableEq, Repr

/-- `oss_enumerate_devices`, mixer branch. -/
def ossEnumerateDevices (world : MixerWorld) (type : Nat) : EnumResult :=
  if world.mixerOpen = -1 then .error
  else
    match world.numaudios with
    | none => .error
    | some numaudios =>
      if !world.devinfoCalloc then .error
      else
        match mixerLoop world type numaudios (List.range numaudios.toNat) [] with
        | .done entries => .ok entries
        | .failed => .error
        | .aborted => .aborted

/-! ### The filter -/

/-- `DSP_CAP_DUPLEX` is one bit, so masking with it leaves `0` or the bit itself. -/
theorem duplex_masked (caps : Nat) :
    caps &&& dspCapDuplex = 0 ∨ caps &&& dspCapDuplex = dspCapDuplex := by
  rw [Nat.land_comm, show dspCapDuplex = 2 ^ 8 from rfl, Nat.two_pow_and]
  cases caps.testBit 8 <;> simp

/-- The `switch` keeps a device exactly when it has the duplex bit, whatever the requested
type and whatever its input and output bits. -/
theorem mixerKeeps_eq_duplex (caps type : Nat) :
    mixerKeeps caps type = decide (caps &&& dspCapDuplex ≠ 0) := by
  unfold mixerKeeps
  rcases duplex_masked caps with masked | masked <;> rw [masked] <;>
    simp [dspCapInput, dspCapOutput, dspCapDuplex]

/-- Whether the mixer loop stores an entry for device `i`, and which. -/
def mixerEntry (world : MixerWorld) (type : Nat) (i : Nat) : Option DeviceInfo :=
  (world.audioinfo i).bind fun ai =>
    if ai.enabled ∧ ai.caps &&& dspCapDuplex ≠ 0 ∧ world.strings i then some (deviceInfoOf type ai)
    else none

/-- A mixer loop that goes over every device stores, after the entries it started with, the
entries of the enabled devices with the duplex bit whose strings could be allocated, in the
order of the devices. -/
theorem mixerLoop_done (world : MixerWorld) (type : Nat) (numaudios : Int) :
    ∀ (indices : List Nat) (entries result : List DeviceInfo),
      mixerLoop world type numaudios indices entries = .done result →
        result = entries ++ indices.filterMap (mixerEntry world type)
  | [], entries, result, done => by
    cases done
    simp
  | i :: rest, entries, result, done => by
    unfold mixerLoop at done
    cases info : world.audioinfo i with
    | none => simp [info] at done
    | some ai =>
      rw [info] at done
      simp only [mixerKeeps_eq_duplex] at done
      split_ifs at done with bound enabled keeps strings
      all_goals first
        | cases done
        | rw [mixerLoop_done world type numaudios rest _ result done]
          simp_all [mixerEntry]

/-! ### `oss_enumerate_devices` -/

/-- Whenever `oss_enumerate_devices` returns `CUBEB_OK`, the mixer reported a device count and
the collection holds, in the order of the devices, the entries of those that are enabled, have
the duplex bit and whose strings could be allocated -- whatever their input and output bits and
whatever type was requested -- and no more entries than slots were allocated. -/
theorem ossEnumerateDevices_ok (world : MixerWorld) (type : Nat) (devices : List DeviceInfo)
    (returned : ossEnumerateDevices world type = .ok devices) :
    ∃ numaudios, world.numaudios = some numaudios ∧
      devices = (List.range numaudios.toNat).filterMap (mixerEntry world type) ∧
      devices.length ≤ numaudios.toNat := by
  unfold ossEnumerateDevices at returned
  rcases counted : world.numaudios with _ | numaudios
  · simp [counted] at returned
  by_cases opened : world.mixerOpen = -1
  · simp [opened] at returned
  cases allocated : world.devinfoCalloc
  · simp [counted, opened, allocated] at returned
  simp only [counted, opened, allocated, Bool.not_true, Bool.false_eq_true, if_false] at returned
  split at returned <;> cases returned
  rename_i loop
  have stored := mixerLoop_done world type numaudios _ [] devices loop
  rw [List.nil_append] at stored
  refine ⟨numaudios, rfl, stored, ?_⟩
  rw [stored]
  exact (List.length_filterMap_le _ _).trans (List.length_range _).le

/-- A mixer with one enabled duplex device and one that is not: for any type, the duplex
device alone is returned. -/
theorem ossEnumerateDevices_ok_duplex :
    let duplex : AudioInfo := ⟨0, "pcm0", "/dev/dsp0", true, 0x30100, 2, 8000, 192000⟩
    let simplex : AudioInfo := ⟨1, "pcm1", "/dev/dsp1", false, 0x30100, 2, 8000, 192000⟩
    let world : MixerWorld := ⟨3, some 2, true,
      fun i => if i = 0 then some duplex else if i = 1 then some simplex else none, fun _ => true⟩
    ossEnumerateDevices world cubebDeviceTypeInput =
        .ok [deviceInfoOf cubebDeviceTypeInput duplex] ∧
      ∃ numaudios, world.numaudios = some numaudios ∧
        [deviceInfoOf cubebDeviceTypeInput duplex] =
          (List.range numaudios.toNat).filterMap (mixerEntry world cubebDeviceTypeInput) ∧
        [deviceInfoOf cubebDeviceTypeInput duplex].length ≤ numaudios.toNat :=
  ⟨by decide, ossEnumerateDevices_ok _ _ _ (by decide)⟩

/-- A mixer with two enabled devices, asked for output devices: the one that can play but has
no duplex bit is left out, and the one with the duplex bit and no output bit is returned as an
output device. -/
theorem ossEnumerateDevices_ignores_directions :
    let playback : AudioInfo := ⟨0, "pcm0", "/dev/dsp0", true, dspCapOutput, 2, 8000, 192000⟩
    let duplexOnly : AudioInfo := ⟨1, "pcm1", "/dev/dsp1", true, dspCapDuplex, 2, 8000, 192000⟩
    let world : MixerWorld := ⟨3, some 2, true,
      fun i => if i = 0 then some playback else if i = 1 then some duplexOnly else none,
      fun _ => true⟩
    ossEnumerateDevices world cubebDeviceTypeOutput =
        .ok [deviceInfoOf cubebDeviceTypeOutput duplexOnly] ∧
      duplexOnly.caps &&& dspCapOutput = 0 ∧ playback.caps &&& dspCapOutput ≠ 0 := by
  decide

end Cubeb.Oss
