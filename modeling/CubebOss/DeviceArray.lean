import CubebOss.FreeBsd

/-!
This file models what `oss_enumerate_devices` does with the array `devinfop` of the entries it
fills in and with the file it reads the devices from, the mixer on the mixer branch and
`/dev/sndstat` on FreeBSD, and what `oss_device_collection_destroy` does with the array it is
handed.

The calls are read as a trace over what they hold (`arrayRun`): a write past the array's last
entry, a `calloc` over a live array or a second `open` makes the run undefined. The mixer branch
`calloc`s one entry per audio device and writes entry `collection_cnt` for the `i`-th device, and
`collection_cnt` never passes `i`. The FreeBSD branch starts from one entry, writes entry
`collection_cnt` of each line that names a device and, after storing one, grows the array to
`collection_cnt + 1` entries, so that the next write always has its entry. On every path each
write lies inside the array, the file is closed, and the array is freed, by the branch on
`goto fail` or by `oss_device_collection_destroy` after a success
(`ossEnumerateDevicesFreeBsd_array`, `ossEnumerateDevices_array`).
-/

namespace Cubeb.Oss

/-! ### The calls on the array and the file -/

/-- The calls of `oss_enumerate_devices` and `oss_device_collection_destroy` on the array of
entries and on the file the devices are read from, in the order they make them: `calloc` and
`reallocarray` of `count` entries, a `free` of the array, the `open` (or `fopen`) of the file and
its `close`. `access index` stands for the reads and writes of `devinfop[index]` one pass of a
loop makes. -/
inductive ArrayCall where
  | calloc (count : Nat) (ok : Bool)
  | reallocarray (count : Nat) (ok : Bool)
  | access (index : Nat)
  | free
  | openFile (ok : Bool)
  | close
  deriving DecidableEq, Repr

/-- What the calls hold: the number of entries of the live array (`none` when there is none) and
whether the file is open. -/
structure Held where
  array : Option Nat
  fileOpen : Bool
  deriving DecidableEq, Repr

/-- Nothing held: before the enumeration, and after a collection is destroyed. -/
def nothingHeld : Held := ⟨none, false⟩

/-- One call on what is held; `none` where C leaves the behaviour undefined or loses a resource:
a `calloc` while an array is live, which would leak it, a `reallocarray` or an access without a
live array, an access past its last entry, an `open` while the file is open, a `close` of a file
that is not. A failed `reallocarray` leaves the array as it was; `free(NULL)` does nothing. -/
def ArrayCall.apply (held : Held) : ArrayCall → Option Held
  | .calloc count ok =>
    if held.array = none then some { held with array := if ok then some count else none }
    else none
  | .reallocarray count ok =>
    if held.array = none then none
    else some (if ok then { held with array := some count } else held)
  | .access index =>
    match held.array with
    | some count => if index < count then some held else none
    | none => none
  | .free => some { held with array := none }
  | .openFile ok => if held.fileOpen then none else some { held with fileOpen := ok }
  | .close => if held.fileOpen then some { held with fileOpen := false } else none

/-- A trace of calls run from what is held: what is held at its end, `none` if a call of it is
undefined. -/
def arrayRun (held : Held) (calls : List ArrayCall) : Option Held :=
  calls.foldlM ArrayCall.apply held

@[simp] theorem arrayRun_nil (held : Held) : arrayRun held [] = some held := rfl

@[simp] theorem arrayRun_cons (held : Held) (call : ArrayCall) (calls : List ArrayCall) :
    arrayRun held (call :: calls) = (call.apply held).bind fun next => arrayRun next calls := rfl

theorem arrayRun_append (held : Held) (calls more : List ArrayCall) :
    arrayRun held (calls ++ more) = (arrayRun held calls).bind fun next => arrayRun next more :=
  List.foldlM_append _ _ _ _

/-- Accesses to entries below the array's size keep what is held. -/
theorem arrayRun_accesses {count : Nat} {fileOpen : Bool} :
    ∀ indices : List Nat, (∀ index ∈ indices, index < count) →
      arrayRun ⟨some count, fileOpen⟩ (indices.map .access) = some ⟨some count, fileOpen⟩
  | [], _ => rfl
  | index :: rest, below => by
    have first : index < count := below index (List.mem_cons_self _ _)
    simp only [List.map_cons, arrayRun_cons, ArrayCall.apply, if_pos first, Option.some_bind]
    exact arrayRun_accesses rest fun other member => below other (List.mem_cons_of_mem _ member)

/-! ### `oss_device_collection_destroy` -/

/-- `oss_device_collection_destroy` on a collection of `count` entries: the pass of its loop over
each entry, then the `free` of the array. -/
def ossDeviceCollectionDestroyArrayCalls (count : Nat) : List ArrayCall :=
  (List.range count).map .access ++ [.free]

/-- Destroying a collection that fits in its array, with the file closed, leaves nothing held. -/
theorem ossDeviceCollectionDestroyArrayCalls_run {count capacity : Nat}
    (fits : count ≤ capacity) :
    arrayRun ⟨some capacity, false⟩ (ossDeviceCollectionDestroyArrayCalls count) =
      some nothingHeld := by
  rw [ossDeviceCollectionDestroyArrayCalls, arrayRun_append,
    arrayRun_accesses _ fun index member => by rw [List.mem_range] at member; omega]
  rfl

/-! ### The mixer branch -/

/-- The mixer loop's calls, over the devices numbered `indices` with `count` entries stored: the
store of each device it keeps into `devinfop[collection_cnt++]`, and where it leaves the loop the
`close` of the mixer, followed on `goto fail` by the `free` of the array. At the `assert` the
process aborts holding both. -/
def mixerArrayCalls (world : MixerWorld) (type : Nat) (numaudios : Int) :
    List Nat → Nat → List ArrayCall
  | [], _ => [.close]
  | i :: rest, count =>
    match world.audioinfo i with
    | none => [.close, .free]
    | some ai =>
      if numaudios ≤ ai.dev then []
      else if !ai.enabled then mixerArrayCalls world type numaudios rest count
      else if !mixerKeeps ai.caps type then mixerArrayCalls world type numaudios rest count
      else if !world.strings i then mixerArrayCalls world type numaudios rest count
      else .access count :: mixerArrayCalls world type numaudios rest (count + 1)

/-- `oss_enumerate_devices`, mixer branch: the `open` of the mixer, from which a failure returns at
once; on `goto fail` the `close` of the mixer and the `free` of the array, `NULL` before the
`calloc`. The `calloc` asks for `si.numaudios` entries, an `int` converted to `size_t`. -/
def ossEnumerateDevicesArrayCalls (world : MixerWorld) (type : Nat) : List ArrayCall :=
  if world.mixerOpen = -1 then [.openFile false]
  else
    .openFile true ::
      match world.numaudios with
      | none => [.close, .free]
      | some numaudios =>
        .calloc (sizeOfLong numaudios) world.devinfoCalloc ::
          if !world.devinfoCalloc then [.close, .free]
          else mixerArrayCalls world type numaudios (List.range numaudios.toNat) 0

/-- What the mixer loop leaves held, by how it ends: the array and the mixer at the `assert`, the
array alone after the last device, nothing after `goto fail`. -/
def LoopEnd.held (capacity : Nat) : LoopEnd → Held
  | .done _ => ⟨some capacity, false⟩
  | .failed => nothingHeld
  | .aborted => ⟨some capacity, true⟩

section Mixer

variable (world : MixerWorld) (type : Nat) (numaudios : Int)

/-- A run of the mixer loop with room for one entry per device left is defined, and ends holding
what its end says. -/
theorem mixerArrayCalls_run (capacity : Nat) :
    ∀ (indices : List Nat) (count : Nat) (entries : List DeviceInfo),
      count + indices.length ≤ capacity →
      arrayRun ⟨some capacity, true⟩ (mixerArrayCalls world type numaudios indices count) =
        some ((mixerLoop world type numaudios indices entries).held capacity)
  | [], _, _, _ => rfl
  | i :: rest, count, entries, room => by
    rw [List.length_cons] at room
    have next := mixerArrayCalls_run capacity rest count entries (by omega)
    rcases read : world.audioinfo i with _ | ai
    · simp only [mixerArrayCalls, mixerLoop, read]
      rfl
    simp only [mixerArrayCalls, mixerLoop, read]
    by_cases bound : numaudios ≤ ai.dev
    · simp only [if_pos bound]
      rfl
    simp only [if_neg bound]
    cases ai.enabled
    · exact next
    cases mixerKeeps ai.caps type
    · exact next
    cases world.strings i
    · exact next
    simp only [Bool.not_true, Bool.false_eq_true, if_false, arrayRun_cons, ArrayCall.apply,
      if_pos (show count < capacity by omega), Option.some_bind]
    exact mixerArrayCalls_run capacity rest (count + 1) (entries ++ [deviceInfoOf type ai])
      (by omega)

/-- The mixer loop stores at most one entry per device. -/
theorem mixerLoop_length {indices : List Nat} {entries result : List DeviceInfo}
    (ended : mixerLoop world type numaudios indices entries = .done result) :
    result.length ≤ entries.length + indices.length := by
  rw [mixerLoop_done world type numaudios indices entries result ended, List.length_append]
  exact Nat.add_le_add_left (List.length_filterMap_le _ _) _

end Mixer

/-- On the mixer branch every access to the array lies inside it, and unless the `assert` aborts
the process, the branch and `oss_device_collection_destroy` on the collection it returns leave
nothing held: the mixer closed, and the array freed on `goto fail` or by the destroy. The count
of audio devices `SNDCTL_SYSINFO` gives is an `int`. -/
theorem ossEnumerateDevices_array (world : MixerWorld) (type : Nat)
    (isInt : ∀ numaudios, world.numaudios = some numaudios → numaudios < 2 ^ 31) :
    ∃ held, arrayRun nothingHeld (ossEnumerateDevicesArrayCalls world type ++
        match ossEnumerateDevices world type with
        | .ok devices => ossDeviceCollectionDestroyArrayCalls devices.length
        | _ => []) = some held ∧
      (ossEnumerateDevices world type ≠ .aborted → held = nothingHeld) := by
  unfold ossEnumerateDevicesArrayCalls ossEnumerateDevices
  by_cases opened : world.mixerOpen = -1
  · simp only [opened, if_true]
    exact ⟨nothingHeld, rfl, fun _ => rfl⟩
  simp only [opened, if_false]
  rcases read : world.numaudios with _ | numaudios
  · exact ⟨nothingHeld, rfl, fun _ => rfl⟩
  cases world.devinfoCalloc
  · exact ⟨nothingHeld, rfl, fun _ => rfl⟩
  have room : 0 + (List.range numaudios.toNat).length ≤ sizeOfLong numaudios := by
    have small := isInt numaudios read
    rw [List.length_range, sizeOfLong]
    omega
  have run := mixerArrayCalls_run world type numaudios _ _ 0 [] room
  simp only [Bool.not_true, Bool.false_eq_true, if_false, List.cons_append, arrayRun_cons,
    ArrayCall.apply, nothingHeld, Bool.false_eq_true, if_true, Option.some_bind, arrayRun_append]
  generalize ended : mixerLoop world type numaudios (List.range numaudios.toNat) [] = ending at run
  cases ending with
  | done devices =>
    have fits := mixerLoop_length world type numaudios ended
    refine ⟨nothingHeld, ?_, fun _ => rfl⟩
    rw [run]
    exact ossDeviceCollectionDestroyArrayCalls_run (fits.trans room)
  | failed => exact ⟨nothingHeld, by rw [run]; rfl, fun _ => rfl⟩
  | aborted => exact ⟨_, by rw [run]; rfl, fun notAborted => absurd rfl notAborted⟩

/-- A mixer with one enabled duplex device and one that is not, asked for input devices. -/
theorem ossEnumerateDevices_array_duplex :
    let duplex : AudioInfo := ⟨0, "pcm0", "/dev/dsp0", true, 0x30100, 2, 8000, 192000⟩
    let simplex : AudioInfo := ⟨1, "pcm1", "/dev/dsp1", false, 0x30100, 2, 8000, 192000⟩
    let world : MixerWorld := ⟨3, some 2, true,
      fun i => if i = 0 then some duplex else if i = 1 then some simplex else none, fun _ => true⟩
    (∀ numaudios, world.numaudios = some numaudios → numaudios < 2 ^ 31) ∧
      ∃ held, arrayRun nothingHeld (ossEnumerateDevicesArrayCalls world cubebDeviceTypeInput ++
          match ossEnumerateDevices world cubebDeviceTypeInput with
          | .ok devices => ossDeviceCollectionDestroyArrayCalls devices.length
          | _ => []) = some held ∧
        (ossEnumerateDevices world cubebDeviceTypeInput ≠ .aborted → held = nothingHeld) :=
  (fun isInt => ⟨isInt, ossEnumerateDevices_array _ _ isInt⟩)
    (fun _ read => by cases read; decide)

/-! ### The FreeBSD branch -/

/-- The FreeBSD loop's calls over the lines of `/dev/sndstat`, numbered from `k`, with `count`
entries stored: the writes to `devinfop[collection_cnt]` of each line that names a device, made
from `devinfop[collection_cnt].type = 0` on whether or not the line is then kept, the
`reallocarray` to `collection_cnt + 1` entries after each entry stored, and where the loop is left
the `fclose` of the file, followed on `goto fail` by the `free` of the array. -/
def sndstatArrayCalls (world : SndstatWorld) (type : Nat) (prefunit : Int) :
    Nat → Bool → List (List Char) → Nat → List ArrayCall
  | _, _, [], _ => [.close]
  | k, userspaceMatching, line :: rest, count =>
    match sndstatHeader (cString line) with
    | some mode => sndstatArrayCalls world type prefunit (k + 1) mode rest count
    | none =>
      match sndstatDevice userspaceMatching prefunit (cString line) with
      | none => sndstatArrayCalls world type prefunit (k + 1) userspaceMatching rest count
      | some _ =>
        .access count ::
          match (sndstatEntry world type prefunit k userspaceMatching (cString line)).1 with
          | none => sndstatArrayCalls world type prefunit (k + 1) userspaceMatching rest count
          | some _ =>
            .reallocarray (count + 2) (world.reallocarray k) ::
              if !world.reallocarray k then [.close, .free]
              else sndstatArrayCalls world type prefunit (k + 1) userspaceMatching rest (count + 1)

/-- `oss_enumerate_devices`, FreeBSD branch: the `calloc` of one entry, the `fopen` of
`/dev/sndstat` and the loop; on `goto fail` before the loop, the `free` of the array. -/
def ossEnumerateDevicesFreeBsdArrayCalls (world : SndstatWorld) (type : Nat) : List ArrayCall :=
  .calloc 1 world.devinfoCalloc ::
    if !world.devinfoCalloc then [.free]
    else
      match world.sndstat with
      | none => [.openFile false, .free]
      | some lines =>
        .openFile true ::
          sndstatArrayCalls world type (world.defaultUnit.getD (-1)) 0 false lines 0

/-- What the FreeBSD loop leaves held, by how it ends: after the last line the array, one entry
longer than the collection; nothing after `goto fail`. -/
def SndstatEnd.held : SndstatEnd → Held
  | .done entries _ => ⟨some (entries.length + 1), false⟩
  | .failed _ _ => nothingHeld

section Sndstat

variable (world : SndstatWorld) (type : Nat) (prefunit : Int)

/-- Every run of the FreeBSD loop, entered with an array one entry longer than the entries stored,
is defined, and ends holding what its end says. -/
theorem sndstatArrayCalls_run :
    ∀ (lines : List (List Char)) (k : Nat) (userspaceMatching : Bool)
      (entries : List CollectionEntry) (calls : List StringCall),
      arrayRun ⟨some (entries.length + 1), true⟩
          (sndstatArrayCalls world type prefunit k userspaceMatching lines entries.length) =
        some (sndstatLoop world type prefunit k userspaceMatching lines entries calls).held
  | [], _, _, _, _ => rfl
  | line :: rest, k, userspaceMatching, entries, calls => by
    cases header : sndstatHeader (cString line) with
    | some mode =>
      simp only [sndstatArrayCalls, sndstatLoop, header]
      exact sndstatArrayCalls_run rest (k + 1) mode entries calls
    | none =>
      rcases read : sndstatDevice userspaceMatching prefunit (cString line) with _ | device
      · have skipped : (sndstatEntry world type prefunit k userspaceMatching (cString line)).1 =
            none := by simp only [sndstatEntry, read]
        simp only [sndstatArrayCalls, sndstatLoop, header, read, skipped]
        exact sndstatArrayCalls_run rest (k + 1) userspaceMatching entries _
      simp only [sndstatArrayCalls, sndstatLoop, header, read, arrayRun_cons, ArrayCall.apply,
        if_pos (Nat.lt_succ_self _), Option.some_bind]
      cases stepped : (sndstatEntry world type prefunit k userspaceMatching (cString line)).1 with
      | none => exact sndstatArrayCalls_run rest (k + 1) userspaceMatching entries _
      | some entry =>
        cases grown : world.reallocarray k
        · rfl
        · simpa only [List.length_append, List.length_singleton] using
            sndstatArrayCalls_run rest (k + 1) userspaceMatching (entries ++ [entry]) _

end Sndstat

/-- A file with one unit that can only play, asked for output devices: the write to the first
entry, then the growth to two entries. -/
example :
    ossEnumerateDevicesFreeBsdArrayCalls
        ⟨true, none, some ["pcm0: <Speaker> (play)".toList], fun _ _ _ => some ⟨-1, "pcm0",
          "/dev/dsp0", true, 0, 2, 8000, 192000⟩, fun _ => true, fun _ _ => true, fun _ => true⟩
        cubebDeviceTypeOutput =
      [.calloc 1 true, .openFile true, .access 0, .reallocarray 2 true, .close] := by
  decide

/-- On the FreeBSD branch every access to the array lies inside it, and the branch and
`oss_device_collection_destroy` on the collection it returns leave nothing held: `/dev/sndstat`
closed, and the array freed on `goto fail` or by the destroy. -/
theorem ossEnumerateDevicesFreeBsd_array (world : SndstatWorld) (type : Nat) :
    arrayRun nothingHeld (ossEnumerateDevicesFreeBsdArrayCalls world type ++
        match (ossEnumerateDevicesFreeBsd world type).1 with
        | some devices => ossDeviceCollectionDestroyArrayCalls devices.length
        | none => []) = some nothingHeld := by
  unfold ossEnumerateDevicesFreeBsdArrayCalls ossEnumerateDevicesFreeBsd
  cases world.devinfoCalloc
  · rfl
  rcases world.sndstat with _ | lines
  · rfl
  have run := sndstatArrayCalls_run world type (world.defaultUnit.getD (-1)) lines 0 false [] []
  simp only [Bool.not_true, Bool.false_eq_true, if_false, List.cons_append, arrayRun_cons,
    ArrayCall.apply, nothingHeld, if_true, Option.some_bind, arrayRun_append]
  generalize sndstatLoop world type (world.defaultUnit.getD (-1)) 0 false lines [] [] = ending
    at run
  cases ending with
  | done devices calls =>
    rw [List.length_nil] at run
    rw [run]
    exact ossDeviceCollectionDestroyArrayCalls_run (Nat.le_succ _)
  | failed _ _ =>
    rw [List.length_nil] at run
    rw [run]
    rfl

end Cubeb.Oss
