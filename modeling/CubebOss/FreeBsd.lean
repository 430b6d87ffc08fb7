import CubebOss.Sndstat

/-!
This file models the FreeBSD branch of `oss_enumerate_devices`: allocate the first entry, ask
`sysctlbyname` for `hw.snd.default_unit`, open `/dev/sndstat` and read it line by line. A header
switches between the kernel's section and the userspace one. Any other line that names a device
(`sndstatDevice`) whose directions suit the request, that `oss_probe_open` can open, whose node
can be interned and whose three strings can be copied is stored, and the array is grown by one
entry after each.

Unlike the mixer branch, this `switch` tests the directions the line names: when output is
requested only lines naming `play` are kept, when input is requested only lines naming `rec`
(`ossEnumerateDevicesFreeBsd_directions`). On success the collection holds the entries of the
device lines in file order (`ossEnumerateDevicesFreeBsd_ok`) and owns every copy the loop did
not give back, so destroying it gives back each copy once; a failed `reallocarray` returns
`CUBEB_ERROR` without freeing the copies of the entries already stored
(`ossEnumerateDevicesFreeBsd_strings`).
-/

namespace Cubeb.Oss

/-! ### Directions -/

/-- The `switch` on a device's directions that both branches make: a device whose value is
`inputCase` is dropped when output is requested, one whose value is `outputCase` when input is
requested, one whose value is `0` always; any other value falls out of the `switch` and the
device is kept. -/
def directionSwitch (value inputCase outputCase type : Nat) : Bool :=
  if value = inputCase then type &&& cubebDeviceTypeOutput = 0
  else if value = outputCase then type &&& cubebDeviceTypeInput = 0
  else if value = 0 then false
  else true

/-- The mixer branch's `switch` is the shared one on `ai.caps & DSP_CAP_DUPLEX`, with the cases
`DSP_CAP_INPUT` and `DSP_CAP_OUTPUT`. -/
theorem mixerKeeps_eq_directionSwitch (caps type : Nat) :
    mixerKeeps caps type = directionSwitch (caps &&& dspCapDuplex) dspCapInput dspCapOutput type :=
  rfl

/-- `devtype`: `CUBEB_DEVICE_TYPE_OUTPUT` when the directions name `play`, and
`CUBEB_DEVICE_TYPE_INPUT` when they name `rec`. -/
def playrecType (playrec : List Char) : Nat :=
  (if strnstr playrec "play".toList then cubebDeviceTypeOutput else 0) |||
    (if strnstr playrec "rec".toList then cubebDeviceTypeInput else 0)

/-- The FreeBSD branch's `switch`: the shared one on `devtype`, with the cases
`CUBEB_DEVICE_TYPE_INPUT` and `CUBEB_DEVICE_TYPE_OUTPUT`. -/
def sndstatKeeps (devtype type : Nat) : Bool :=
  directionSwitch devtype cubebDeviceTypeInput cubebDeviceTypeOutput type

/-- The FreeBSD `switch` keeps a line exactly when its directions name `play` or `rec`, name
`play` if output is requested and name `rec` if input is requested. -/
theorem sndstatKeeps_playrecType (playrec : List Char) (type : Nat) :
    sndstatKeeps (playrecType playrec) type = true ↔
      (strnstr playrec "play".toList ∨ strnstr playrec "rec".toList) ∧
        (type &&& cubebDeviceTypeOutput ≠ 0 → strnstr playrec "play".toList) ∧
        (type &&& cubebDeviceTypeInput ≠ 0 → strnstr playrec "rec".toList) := by
  unfold sndstatKeeps directionSwitch playrecType
  cases strnstr playrec "play".toList <;> cases strnstr playrec "rec".toList <;>
    simp [cubebDeviceTypeInput, cubebDeviceTypeOutput]

/-! ### The world and one line -/

/-- `oss_probe_open(devname, type, NULL, &ai)`: open the node read-only when the type is
`CUBEB_DEVICE_TYPE_INPUT` and write-only otherwise, ask it for its `oss_audioinfo` and close it.
`probe path readOnly` is what the system answers: `none` when the `open` or the `ioctl` fails
and the function returns 1. -/
def ossProbeOpen (probe : List Char → Bool → Option AudioInfo) (dsppath : List Char)
    (type : Nat) : Option AudioInfo :=
  probe dsppath (type = cubebDeviceTypeInput)

/-- What the system answers to the calls of the FreeBSD branch: the `calloc` of the first entry,
`hw.snd.default_unit` (`none` when `sysctlbyname` fails), the lines `getline` returns from
`/dev/sndstat` before it returns `-1` (`none` when `fopen` fails), and, for the line with each
number, what `oss_probe_open` finds, whether `cubeb_strings_intern` and each copy succeed, and
whether `reallocarray` does. -/
structure SndstatWorld where
  devinfoCalloc : Bool
  defaultUnit : Option Int
  sndstat : Option (List (List Char))
  probe : Nat → List Char → Bool → Option AudioInfo
  intern : Nat → Bool
  dup : Nat → StringField → Bool
  reallocarray : Nat → Bool

/-- The entry the FreeBSD loop fills in: `devid` is the interned node, `device_id` and `group_id`
copies of the node, `friendly_name` a copy of the description, and the type the requested one. -/
def sndstatDeviceInfo (type : Nat) (device : SndstatDevice) (ai : AudioInfo) : DeviceInfo :=
  ⟨String.mk device.devname, String.mk device.devname, String.mk device.desc,
    String.mk device.devname, type, ai.maxChannels, ossPreferRate, ai.maxRate, ai.minRate⟩

/-- The body of the loop for the line numbered `k`, not a section header, read in the mode
`userspaceMatching`: the entry it stores (`none` where it `continue`s) and the calls on copies it
makes. -/
def sndstatEntry (world : SndstatWorld) (type : Nat) (prefunit : Int) (k : Nat)
    (userspaceMatching : Bool) (line : List Char) : Option CollectionEntry × List StringCall :=
  match sndstatDevice userspaceMatching prefunit line with
  | none => (none, [])
  | some device =>
    if !sndstatKeeps (playrecType device.playrec) type then (none, [])
    else
      match ossProbeOpen (world.probe k) device.devname type with
      | none => (none, [])
      | some ai =>
        if !world.intern k then (none, [])
        else
          let copies := copyStrings k (world.dup k)
          if !copies.2.complete then (none, copies.1 ++ (ossFreeCubebDeviceInfoStrings copies.2).1)
          else (some ⟨sndstatDeviceInfo type device ai, device.preferred, copies.2⟩, copies.1)

/-- What the body of the loop can do with a line: `continue` before any copy, or, for a device
whose directions the `switch` keeps, that `oss_probe_open` opens and whose node is interned, make
the three copies and store an entry owning them, or give them back if one failed. -/
theorem sndstatEntry_cases (world : SndstatWorld) (type : Nat) (prefunit : Int) (k : Nat)
    (userspaceMatching : Bool) (line : List Char) :
    sndstatEntry world type prefunit k userspaceMatching line = (none, []) ∨
      ∃ device ai, sndstatDevice userspaceMatching prefunit line = some device ∧
        sndstatKeeps (playrecType device.playrec) type ∧
        ossProbeOpen (world.probe k) device.devname type = some ai ∧ world.intern k ∧
        sndstatEntry world type prefunit k userspaceMatching line =
          if (copyStrings k (world.dup k)).2.complete then
            (some ⟨sndstatDeviceInfo type device ai, device.preferred,
              (copyStrings k (world.dup k)).2⟩, (copyStrings k (world.dup k)).1)
          else
            (none, (copyStrings k (world.dup k)).1 ++
              (ossFreeCubebDeviceInfoStrings (copyStrings k (world.dup k)).2).1) := by
  rcases read : sndstatDevice userspaceMatching prefunit line with _ | device
  · exact .inl (by simp only [sndstatEntry, read])
  cases keeps : sndstatKeeps (playrecType device.playrec) type
  · exact .inl (by simp only [sndstatEntry, read, keeps, Bool.not_false, if_true])
  rcases probed : ossProbeOpen (world.probe k) device.devname type with _ | ai
  · exact .inl (by
      simp only [sndstatEntry, read, keeps, probed, Bool.not_true, Bool.false_eq_true, if_false])
  cases interned : world.intern k
  · exact .inl (by
      simp only [sndstatEntry, read, keeps, probed, interned, Bool.not_true, Bool.not_false,
        Bool.false_eq_true, if_false, if_true])
  refine .inr ⟨device, ai, rfl, keeps, probed, rfl, ?_⟩
  simp only [sndstatEntry, read, keeps, probed, interned, Bool.not_true, Bool.false_eq_true,
    if_false]
  cases (copyStrings k (world.dup k)).2.complete <;> rfl

/-- A line allocates the copies it stores and gives back those it does not. -/
theorem sndstatEntry_copies (world : SndstatWorld) (type : Nat) (prefunit : Int) (k : Nat)
    (userspaceMatching : Bool) (line : List Char) :
    copiesAcquired (sndstatEntry world type prefunit k userspaceMatching line).2 =
      copiesReleased (sndstatEntry world type prefunit k userspaceMatching line).2 ++
        copiesOwnedBy (sndstatEntry world type prefunit k userspaceMatching line).1.toList := by
  rcases sndstatEntry_cases world type prefunit k userspaceMatching line with
    nothing | ⟨device, ai, -, -, -, -, body⟩
  · rw [nothing]
    rfl
  · obtain ⟨made, noneReleased⟩ := copyStrings_acquired k (world.dup k)
    rw [body]
    split
    · simp [made, noneReleased]
    · have freed := ossFreeCubebDeviceInfoStrings_released (copyStrings k (world.dup k)).2
      simp [made, noneReleased, freed.1, freed.2.1]

/-- A line that stores an entry names a device whose directions the `switch` keeps and that
`oss_probe_open` opens; the entry is filled in from the device and its `oss_audioinfo`, and owns
the three copies of its line. -/
theorem sndstatEntry_stored {world : SndstatWorld} {type : Nat} {prefunit : Int} {k : Nat}
    {userspaceMatching : Bool} {line : List Char} {entry : CollectionEntry}
    (stored : (sndstatEntry world type prefunit k userspaceMatching line).1 = some entry) :
    ∃ device ai, sndstatDevice userspaceMatching prefunit line = some device ∧
      sndstatKeeps (playrecType device.playrec) type ∧
      ossProbeOpen (world.probe k) device.devname type = some ai ∧
      entry = ⟨sndstatDeviceInfo type device ai, device.preferred,
        ⟨some ⟨k, .deviceId⟩, some ⟨k, .friendlyName⟩, some ⟨k, .groupId⟩⟩⟩ := by
  rcases sndstatEntry_cases world type prefunit k userspaceMatching line with
    nothing | ⟨device, ai, read, keeps, probed, -, body⟩
  · rw [nothing] at stored
    cases stored
  · rw [body] at stored
    split at stored
    · rename_i complete
      cases stored
      exact ⟨device, ai, read, keeps, probed, by rw [copyStrings_complete complete]⟩
    · cases stored

/-! ### The loop -/

/-- `SNDSTAT_BEGIN_STR`, the header of the kernel's section. -/
def sndstatBeginStr : List Char := "Installed devices:".toList

/-- `SNDSTAT_USER_BEGIN_STR`, the header of the userspace section. -/
def sndstatUserBeginStr : List Char := "Installed devices from userspace:".toList

/-- The two `strncmp` tests of a line against the headers, in the code's order: the mode a
header sets, the kernel's section (`false`) or the userspace one. -/
def sndstatHeader (line : List Char) : Option Bool :=
  if sndstatBeginStr.isPrefixOf line then some false
  else if sndstatUserBeginStr.isPrefixOf line then some true
  else none

/-- How the loop ends, with the entries stored and the calls on copies made: at the end of the
file, or at a failed `reallocarray` (`goto fail`). -/
inductive SndstatEnd where
  | done (entries : List CollectionEntry) (calls : List StringCall)
  | failed (entries : List CollectionEntry) (calls : List StringCall)
  deriving DecidableEq, Repr

/-- The entries a loop had stored when it ended. -/
def SndstatEnd.entries : SndstatEnd → List CollectionEntry
  | done entries _ => entries
  | failed entries _ => entries

/-- The calls on copies a loop had made when it ended. -/
def SndstatEnd.calls : SndstatEnd → List StringCall
  | done _ calls => calls
  | failed _ calls => calls

/-- The `getline` loop over the lines of `/dev/sndstat`, numbered from `k`, in the mode
`userspaceMatching`, with the entries stored and the calls on copies made so far. After each
stored entry the array is grown to one more entry than it holds. -/
def sndstatLoop (world : SndstatWorld) (type : Nat) (prefunit : Int) :
    Nat → Bool → List (List Char) → List CollectionEntry → List StringCall → SndstatEnd
  | _, _, [], entries, calls => .done entries calls
  | k, userspaceMatching, line :: rest, entries, calls =>
    match sndstatHeader (cString line) with
    | some mode => sndstatLoop world type prefunit (k + 1) mode rest entries calls
    | none =>
      let step := sndstatEntry world type prefunit k userspaceMatching (cString line)
      match step.1 with
      | none =>
        sndstatLoop world type prefunit (k + 1) userspaceMatching rest entries (calls ++ step.2)
      | some entry =>
        if !world.reallocarray k then .failed (entries ++ [entry]) (calls ++ step.2)
        else
          sndstatLoop world type prefunit (k + 1) userspaceMatching rest (entries ++ [entry])
            (calls ++ step.2)

/-- `oss_enumerate_devices`, FreeBSD branch: the collection it returns with `CUBEB_OK` (`none`
for `CUBEB_ERROR`), and the calls on copies it made. -/
def ossEnumerateDevicesFreeBsd (world : SndstatWorld) (type : Nat) :
    Option (List CollectionEntry) × List StringCall :=
  if !world.devinfoCalloc then (none, [])
  else
    match world.sndstat with
    | none => (none, [])
    | some lines =>
      match sndstatLoop world type (world.defaultUnit.getD (-1)) 0 false lines [] [] with
      | .done entries calls => (some entries, calls)
      | .failed _ calls => (none, calls)

/-! ### What a run of the loop keeps -/

/-- One line keeps the ledger, with the entry it stores, if any. -/
theorem CopyLedger.sndstatEntry {calls : List StringCall} {entries : List CollectionEntry}
    (ledger : CopyLedger calls entries) (world : SndstatWorld) (type : Nat) (prefunit : Int)
    (k : Nat) (userspaceMatching : Bool) (line : List Char) :
    CopyLedger (calls ++ (sndstatEntry world type prefunit k userspaceMatching line).2)
      (entries ++ (sndstatEntry world type prefunit k userspaceMatching line).1.toList) := by
  refine ledger.append (sndstatEntry_copies _ _ _ _ _ _) fun entry member => ?_
  obtain ⟨_, _, -, -, -, rfl⟩ := sndstatEntry_stored (Option.mem_toList.1 member)
  rfl

/-- The lines of the file that are not section headers, numbered from `k`, each with its C string
and the mode of the last header before it (`userspaceMatching` before the first). -/
def deviceLines : Nat → Bool → List (List Char) → List (Nat × Bool × List Char)
  | _, _, [] => []
  | k, userspaceMatching, line :: rest =>
    match sndstatHeader (cString line) with
    | some mode => deviceLines (k + 1) mode rest
    | none => (k, userspaceMatching, cString line) :: deviceLines (k + 1) userspaceMatching rest

section Loop

variable (world : SndstatWorld) (type : Nat) (prefunit : Int)

/-- The entry the loop body stores for a device line, if any. -/
def sndstatStored (line : Nat × Bool × List Char) : Option CollectionEntry :=
  (sndstatEntry world type prefunit line.1 line.2.1 line.2.2).1

/-- Every run of the loop keeps the ledger, and one that fails at `reallocarray` has stored an
entry first. -/
theorem sndstatLoop_ledger :
    ∀ (lines : List (List Char)) (k : Nat) (userspaceMatching : Bool)
      (entries : List CollectionEntry) (calls : List StringCall), CopyLedger calls entries →
      CopyLedger (sndstatLoop world type prefunit k userspaceMatching lines entries calls).calls
          (sndstatLoop world type prefunit k userspaceMatching lines entries calls).entries ∧
        ∀ stored failedCalls,
          sndstatLoop world type prefunit k userspaceMatching lines entries calls =
            .failed stored failedCalls → stored ≠ []
  | [], _, _, _, _, ledger => ⟨ledger, fun _ _ ended => by cases ended⟩
  | line :: rest, k, userspaceMatching, entries, calls, ledger => by
    cases header : sndstatHeader (cString line) with
    | some mode =>
      simp only [sndstatLoop, header]
      exact sndstatLoop_ledger rest (k + 1) mode entries calls ledger
    | none =>
      have next := ledger.sndstatEntry world type prefunit k userspaceMatching (cString line)
      cases stepped : (sndstatEntry world type prefunit k userspaceMatching (cString line)).1 with
      | none =>
        rw [stepped, Option.toList_none, List.append_nil] at next
        simp only [sndstatLoop, header, stepped]
        exact sndstatLoop_ledger rest (k + 1) userspaceMatching entries _ next
      | some entry =>
        rw [stepped, Option.toList_some] at next
        cases grown : world.reallocarray k
        · simp only [sndstatLoop, header, stepped, grown, Bool.not_false, if_true]
          refine ⟨next, fun stored _ ended => ?_⟩
          cases ended
          exact List.append_ne_nil_of_right_ne_nil _ (List.cons_ne_nil _ _)
        · simp only [sndstatLoop, header, stepped, grown, Bool.not_true, Bool.false_eq_true,
            if_false]
          exact sndstatLoop_ledger rest (k + 1) userspaceMatching _ _ next

/-- A loop that reads the file to its end has stored, after the entries it started with, the
entries the body stores for the device lines, in the order of the file. -/
theorem sndstatLoop_done :
    ∀ (lines : List (List Char)) (k : Nat) (userspaceMatching : Bool)
      (entries result : List CollectionEntry) (calls doneCalls : List StringCall),
      sndstatLoop world type prefunit k userspaceMatching lines entries calls =
          .done result doneCalls →
        result = entries ++ (deviceLines k userspaceMatching lines).filterMap
          (sndstatStored world type prefunit)
  | [], _, _, entries, result, _, _, ended => by
    cases ended
    simp [deviceLines]
  | line :: rest, k, userspaceMatching, entries, result, calls, doneCalls, ended => by
    cases header : sndstatHeader (cString line) with
    | some mode =>
      simp only [sndstatLoop, header] at ended
      simpa only [deviceLines, header] using sndstatLoop_done rest _ _ _ _ _ _ ended
    | none =>
      cases stepped : (sndstatEntry world type prefunit k userspaceMatching (cString line)).1 with
      | none =>
        simp only [sndstatLoop, header, stepped] at ended
        rw [sndstatLoop_done rest _ _ _ _ _ _ ended]
        simp [deviceLines, header, sndstatStored, stepped]
      | some entry =>
        cases grown : world.reallocarray k
        · simp only [sndstatLoop, header, stepped, grown, Bool.not_false, if_true] at ended
          cases ended
        · simp only [sndstatLoop, header, stepped, grown, Bool.not_true, Bool.false_eq_true,
            if_false] at ended
          rw [sndstatLoop_done rest _ _ _ _ _ _ ended]
          simp [deviceLines, header, sndstatStored, stepped]

end Loop

/-! ### `oss_enumerate_devices` on FreeBSD -/

/-- The branch returns what its loop over the file ends with: the collection at the end of the
file, no collection at a failed `reallocarray`; and no collection and no calls on copies when
the first `calloc` or the `fopen` fails. -/
theorem ossEnumerateDevicesFreeBsd_eq (world : SndstatWorld) (type : Nat) :
    ossEnumerateDevicesFreeBsd world type = (none, []) ∨
      ∃ lines, world.sndstat = some lines ∧
        ossEnumerateDevicesFreeBsd world type =
          match sndstatLoop world type (world.defaultUnit.getD (-1)) 0 false lines [] [] with
          | .done entries calls => (some entries, calls)
          | .failed _ calls => (none, calls) := by
  unfold ossEnumerateDevicesFreeBsd
  cases world.devinfoCalloc
  · exact .inl rfl
  rcases read : world.sndstat with _ | lines
  · exact .inl rfl
  exact .inr ⟨lines, rfl, rfl⟩

/-- A sound status file with the kernel's header, a unit that can only play and a unit that can
play and record, the default one, read on a system where every call succeeds, `reallocarray`
only when `grows`. -/
def twoUnitWorld (grows : Bool) : SndstatWorld :=
  ⟨true, some 1, some ["Installed devices:".toList, "pcm0: <Speaker> (play)".toList,
      "pcm1: <Headset> (play/rec) default".toList],
    fun _ _ _ => some ⟨-1, "pcm1", "/dev/dsp1", true, 0, 2, 8000, 192000⟩, fun _ => true,
    fun _ _ => true, fun _ => grows⟩

/-- The entry the file's second unit gets when input is requested. -/
def headsetEntry : CollectionEntry :=
  ⟨sndstatDeviceInfo cubebDeviceTypeInput
      ⟨"/dev/dsp1".toList, "Headset".toList, "play/rec".toList, true⟩
      ⟨-1, "pcm1", "/dev/dsp1", true, 0, 2, 8000, 192000⟩,
    true, ⟨some ⟨2, .deviceId⟩, some ⟨2, .friendlyName⟩, some ⟨2, .groupId⟩⟩⟩

/-- The copies the file's second unit gets. -/
def headsetCopies : List StringCall :=
  [.dup ⟨2, .deviceId⟩ true, .dup ⟨2, .friendlyName⟩ true, .dup ⟨2, .groupId⟩ true]

/-- Whenever the FreeBSD branch returns `CUBEB_OK`, the sound status file was read, and the
collection holds, in the order of the file, the entries the loop body stores for its device
lines, each read in the mode of the section it stands in. -/
theorem ossEnumerateDevicesFreeBsd_ok (world : SndstatWorld) (type : Nat)
    {devices : List CollectionEntry} {calls : List StringCall}
    (returned : ossEnumerateDevicesFreeBsd world type = (some devices, calls)) :
    ∃ lines, world.sndstat = some lines ∧
      devices = (deviceLines 0 false lines).filterMap
        (sndstatStored world type (world.defaultUnit.getD (-1))) := by
  rcases ossEnumerateDevicesFreeBsd_eq world type with failed | ⟨lines, read, ran⟩
  · rw [failed] at returned
    cases returned
  rw [ran] at returned
  split at returned
  · rename_i ended
    cases returned
    exact ⟨lines, read, sndstatLoop_done _ _ _ _ _ _ _ _ _ _ ended⟩
  · cases returned

/-- Asked for input devices, the branch returns the sample file's second unit alone. -/
theorem ossEnumerateDevicesFreeBsd_ok_headset :
    ossEnumerateDevicesFreeBsd (twoUnitWorld true) cubebDeviceTypeInput =
        (some [headsetEntry], headsetCopies) ∧
      ∃ lines, (twoUnitWorld true).sndstat = some lines ∧
        [headsetEntry] = (deviceLines 0 false lines).filterMap (sndstatStored (twoUnitWorld true)
          cubebDeviceTypeInput ((twoUnitWorld true).defaultUnit.getD (-1))) :=
  ⟨by decide, @ossEnumerateDevicesFreeBsd_ok (twoUnitWorld true) cubebDeviceTypeInput
    [headsetEntry] headsetCopies (by decide)⟩

/-- Whenever the FreeBSD branch returns `CUBEB_OK`, each entry of the collection comes from a
device line of the file whose directions name `play` or `rec`, name `play` if output was
requested and `rec` if input was; its node and name are those of the line, and its type is the
one requested. -/
theorem ossEnumerateDevicesFreeBsd_directions (world : SndstatWorld) (type : Nat)
    {devices : List CollectionEntry} {calls : List StringCall}
    (returned : ossEnumerateDevicesFreeBsd world type = (some devices, calls))
    {entry : CollectionEntry} (member : entry ∈ devices) :
    ∃ lines k userspaceMatching line device, world.sndstat = some lines ∧
      (k, userspaceMatching, line) ∈ deviceLines 0 false lines ∧
      sndstatDevice userspaceMatching (world.defaultUnit.getD (-1)) line = some device ∧
      entry.info.deviceId = String.mk device.devname ∧
      entry.info.friendlyName = String.mk device.desc ∧ entry.info.type = type ∧
      (strnstr device.playrec "play".toList ∨ strnstr device.playrec "rec".toList) ∧
      (type &&& cubebDeviceTypeOutput ≠ 0 → strnstr device.playrec "play".toList) ∧
      (type &&& cubebDeviceTypeInput ≠ 0 → strnstr device.playrec "rec".toList) := by
  obtain ⟨lines, read, collected⟩ := ossEnumerateDevicesFreeBsd_ok world type returned
  rw [collected] at member
  obtain ⟨⟨k, userspaceMatching, line⟩, listed, stored⟩ := List.mem_filterMap.1 member
  obtain ⟨device, ai, parsed, keeps, -, rfl⟩ := sndstatEntry_stored stored
  exact ⟨lines, k, userspaceMatching, line, device, read, listed, parsed, rfl, rfl, rfl,
    (sndstatKeeps_playrecType _ _).1 keeps⟩

/-- The input device the sample file gives comes from its line that names `rec`. -/
theorem ossEnumerateDevicesFreeBsd_directions_headset :
    ossEnumerateDevicesFreeBsd (twoUnitWorld true) cubebDeviceTypeInput =
        (some [headsetEntry], headsetCopies) ∧ headsetEntry ∈ [headsetEntry] ∧
      ∃ lines k userspaceMatching line device, (twoUnitWorld true).sndstat = some lines ∧
        (k, userspaceMatching, line) ∈ deviceLines 0 false lines ∧
        sndstatDevice userspaceMatching ((twoUnitWorld true).defaultUnit.getD (-1)) line =
          some device ∧
        headsetEntry.info.deviceId = String.mk device.devname ∧
        headsetEntry.info.friendlyName = String.mk device.desc ∧
        headsetEntry.info.type = cubebDeviceTypeInput ∧
        (strnstr device.playrec "play".toList ∨ strnstr device.playrec "rec".toList) ∧
        (cubebDeviceTypeInput &&& cubebDeviceTypeOutput ≠ 0 →
          strnstr device.playrec "play".toList) ∧
        (cubebDeviceTypeInput &&& cubebDeviceTypeInput ≠ 0 →
          strnstr device.playrec "rec".toList) :=
  ⟨by decide, List.mem_singleton_self _,
    @ossEnumerateDevicesFreeBsd_directions (twoUnitWorld true) cubebDeviceTypeInput
      [headsetEntry] headsetCopies (by decide) headsetEntry (List.mem_singleton_self _)⟩

/-- Whenever the FreeBSD branch returns `CUBEB_OK`, its collection owns every copy the loop
allocated and did not give back, so that `oss_device_collection_destroy` leaves every copy given
back, as often as it was allocated. -/
theorem ossEnumerateDevicesFreeBsd_destroy (world : SndstatWorld) (type : Nat)
    {devices : List CollectionEntry} {calls : List StringCall}
    (returned : ossEnumerateDevicesFreeBsd world type = (some devices, calls)) :
    (copiesAcquired (calls ++ (ossDeviceCollectionDestroy devices).1)).Perm
      (copiesReleased (calls ++ (ossDeviceCollectionDestroy devices).1)) := by
  rcases ossEnumerateDevicesFreeBsd_eq world type with failed | ⟨lines, -, ran⟩
  · rw [failed] at returned
    cases returned
  rw [ran] at returned
  have ledger := (sndstatLoop_ledger world type (world.defaultUnit.getD (-1)) lines 0 false [] []
    CopyLedger.nil).1
  split at returned
  · rename_i ended
    cases returned
    rw [ended] at ledger
    exact copies_balanced_of_destroy ledger.owned
  · cases returned

/-- Destroying the collection of the sample file gives back the three copies of its entry. -/
theorem ossEnumerateDevicesFreeBsd_destroy_headset :
    ossEnumerateDevicesFreeBsd (twoUnitWorld true) cubebDeviceTypeInput =
        (some [headsetEntry], headsetCopies) ∧
      (copiesAcquired (headsetCopies ++ (ossDeviceCollectionDestroy [headsetEntry]).1)).Perm
        (copiesReleased (headsetCopies ++ (ossDeviceCollectionDestroy [headsetEntry]).1)) :=
  ⟨by decide, @ossEnumerateDevicesFreeBsd_destroy (twoUnitWorld true) cubebDeviceTypeInput
    [headsetEntry] headsetCopies (by decide)⟩

/-- Whenever the FreeBSD branch returns `CUBEB_ERROR`, either it copied no string, or it failed at
`reallocarray` after storing entries, and then the copies it did not give back are exactly the
three copies of each entry stored: `goto fail` frees the array and not the strings of its
entries. -/
theorem ossEnumerateDevicesFreeBsd_leaks (world : SndstatWorld) (type : Nat)
    {calls : List StringCall} (returned : ossEnumerateDevicesFreeBsd world type = (none, calls)) :
    copiesAcquired calls = [] ∨ ∃ stored : List CollectionEntry, stored ≠ [] ∧
      (copiesAcquired calls).Perm (copiesReleased calls ++ copiesOwnedBy stored) ∧
      (copiesAcquired calls).length = (copiesReleased calls).length + 3 * stored.length := by
  rcases ossEnumerateDevicesFreeBsd_eq world type with failed | ⟨lines, -, ran⟩
  · rw [failed] at returned
    cases returned
    exact .inl rfl
  rw [ran] at returned
  obtain ⟨ledger, nonempty⟩ := sndstatLoop_ledger world type (world.defaultUnit.getD (-1)) lines 0 false [] []
    CopyLedger.nil
  split at returned
  · cases returned
  · rename_i stored _ ended
    cases returned
    rw [ended] at ledger
    dsimp only [SndstatEnd.calls, SndstatEnd.entries] at ledger
    refine .inr ⟨stored, nonempty _ _ ended, ledger.owned, ?_⟩
    rw [ledger.owned.length_eq, List.length_append, copiesOwnedBy_length ledger.complete]

/-- When `reallocarray` fails after the sample file's entry is stored, the branch returns
`CUBEB_ERROR` having given back none of the entry's three copies. -/
theorem ossEnumerateDevicesFreeBsd_leaks_headset :
    ossEnumerateDevicesFreeBsd (twoUnitWorld false) cubebDeviceTypeInput = (none, headsetCopies) ∧
      (copiesAcquired headsetCopies = [] ∨ ∃ stored : List CollectionEntry, stored ≠ [] ∧
        (copiesAcquired headsetCopies).Perm (copiesReleased headsetCopies ++ copiesOwnedBy stored) ∧
        (copiesAcquired headsetCopies).length =
          (copiesReleased headsetCopies).length + 3 * stored.length) :=
  ⟨by decide, @ossEnumerateDevicesFreeBsd_leaks (twoUnitWorld false) cubebDeviceTypeInput
    headsetCopies (by decide)⟩

end Cubeb.Oss
