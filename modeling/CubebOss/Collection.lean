import CubebOss.Enumerate
import Mathlib.Data.List.Perm.Basic

/-!
This file keeps the ledger of the strings `oss_enumerate_devices` copies for the entries of a
device collection, and models `oss_device_collection_destroy`, which gives them back.

An iteration of either enumeration loop that gets as far as its copies calls `strdup` (or
`strndup`) three times, for `device_id`, `friendly_name` and `group_id`, whatever the earlier
calls returned. If one of them returned `NULL`, the iteration gives the others back with
`oss_free_cubeb_device_info_strings`; otherwise the entry it stores owns all three. A copy is
named by the iteration that made it and its field, so the copies of a run are told apart.
-/

namespace Cubeb.Oss

/-! ### Copies and the calls on them -/

/-- The string fields of `cubeb_device_info` that the enumeration copies. -/
inductive StringField where
  | deviceId
  | friendlyName
  | groupId
  deriving DecidableEq, Repr

/-- A copy the enumeration allocates: the iteration that makes it (a device of the mixer, a
line of the sound status file) and the field it is made for. -/
structure StringCopy where
  site : Nat
  field : StringField
  deriving DecidableEq, Repr

/-- A call on copies: a `strdup` or `strndup` and whether it returned a copy, or a `free` of a
pointer (`none` is `free(NULL)`, which does nothing). -/
inductive StringCall where
  | dup (copy : StringCopy) (ok : Bool)
  | free (pointer : Option StringCopy)
  deriving DecidableEq, Repr

/-- The copy a call allocates. -/
def StringCall.acquired : StringCall → Option StringCopy
  | dup copy ok => if ok then some copy else none
  | free _ => none

/-- The copy a call gives back. -/
def StringCall.released : StringCall → Option StringCopy
  | dup _ _ => none
  | free pointer => pointer

/-- The copies the calls allocated, in order. -/
def copiesAcquired (calls : List StringCall) : List StringCopy :=
  calls.filterMap StringCall.acquired

/-- The copies the calls gave back, in order. -/
def copiesReleased (calls : List StringCall) : List StringCopy :=
  calls.filterMap StringCall.released

@[simp] theorem copiesAcquired_nil : copiesAcquired [] = [] := rfl

@[simp] theorem copiesReleased_nil : copiesReleased [] = [] := rfl

@[simp] theorem copiesAcquired_append (first second : List StringCall) :
    copiesAcquired (first ++ second) = copiesAcquired first ++ copiesAcquired second :=
  List.filterMap_append _ _ _

@[simp] theorem copiesReleased_append (first second : List StringCall) :
    copiesReleased (first ++ second) = copiesReleased first ++ copiesReleased second :=
  List.filterMap_append _ _ _

/-! ### The pointers of an entry -/

/-- The three string pointers of a `cubeb_device_info`; `none` is `NULL`. -/
structure DeviceStrings where
  deviceId : Option StringCopy
  friendlyName : Option StringCopy
  groupId : Option StringCopy
  deriving DecidableEq, Repr

/-- The copies the pointers hold. -/
def DeviceStrings.owned (cdi : DeviceStrings) : List StringCopy :=
  cdi.deviceId.toList ++ cdi.friendlyName.toList ++ cdi.groupId.toList

/-- Whether no pointer is `NULL`: the test after the three copies. -/
def DeviceStrings.complete (cdi : DeviceStrings) : Bool :=
  cdi.deviceId.isSome && cdi.friendlyName.isSome && cdi.groupId.isSome

/-- `oss_free_cubeb_device_info_strings`: `free` each of the three pointers, `NULL` or not, and
set them to `NULL`. -/
def ossFreeCubebDeviceInfoStrings (cdi : DeviceStrings) : List StringCall × DeviceStrings :=
  ([.free cdi.deviceId, .free cdi.friendlyName, .free cdi.groupId], ⟨none, none, none⟩)

/-- The three copies an iteration makes, each call made whatever the others returned: the calls,
and the pointers they leave in the entry. -/
def copyStrings (site : Nat) (dup : StringField → Bool) : List StringCall × DeviceStrings :=
  let pointer (field : StringField) : Option StringCopy :=
    if dup field then some ⟨site, field⟩ else none
  ([.dup ⟨site, .deviceId⟩ (dup .deviceId), .dup ⟨site, .friendlyName⟩ (dup .friendlyName),
      .dup ⟨site, .groupId⟩ (dup .groupId)],
    ⟨pointer .deviceId, pointer .friendlyName, pointer .groupId⟩)

/-- Freeing an entry's strings gives back what its pointers hold, and leaves it owning nothing. -/
theorem ossFreeCubebDeviceInfoStrings_released (cdi : DeviceStrings) :
    copiesAcquired (ossFreeCubebDeviceInfoStrings cdi).1 = [] ∧
      copiesReleased (ossFreeCubebDeviceInfoStrings cdi).1 = cdi.owned ∧
      (ossFreeCubebDeviceInfoStrings cdi).2.owned = [] := by
  refine ⟨rfl, ?_, rfl⟩
  rcases cdi with ⟨_ | _, _ | _, _ | _⟩ <;> rfl

/-- The copies of an iteration allocate what the pointers then hold, and give back nothing. -/
theorem copyStrings_acquired (site : Nat) (dup : StringField → Bool) :
    copiesAcquired (copyStrings site dup).1 = (copyStrings site dup).2.owned ∧
      copiesReleased (copyStrings site dup).1 = [] := by
  refine ⟨?_, rfl⟩
  simp only [copyStrings]
  cases dup .deviceId <;> cases dup .friendlyName <;> cases dup .groupId <;> rfl

/-- A complete set of copies holds the three copies of its iteration. -/
theorem copyStrings_complete {site : Nat} {dup : StringField → Bool}
    (complete : (copyStrings site dup).2.complete) :
    (copyStrings site dup).2 =
      ⟨some ⟨site, .deviceId⟩, some ⟨site, .friendlyName⟩, some ⟨site, .groupId⟩⟩ := by
  obtain ⟨⟨made, madeFriendly⟩, madeGroup⟩ :
      (dup .deviceId ∧ dup .friendlyName) ∧ dup .groupId := by
    simpa [copyStrings, DeviceStrings.complete] using complete
  simp [copyStrings, made, madeFriendly, madeGroup]

/-! ### The collection -/

/-- An entry of a device collection: the fields the enumeration fills in, whether the device is
the preferred one (`CUBEB_DEVICE_PREF_ALL`, else `CUBEB_DEVICE_PREF_NONE`), and the pointers to
its copies. -/
structure CollectionEntry where
  info : DeviceInfo
  preferred : Bool
  strings : DeviceStrings
  deriving DecidableEq, Repr

/-- The copies the entries of a collection own. -/
def copiesOwnedBy (device : List CollectionEntry) : List StringCopy :=
  device.flatMap fun entry => entry.strings.owned

@[simp] theorem copiesOwnedBy_nil : copiesOwnedBy [] = [] := rfl

@[simp] theorem copiesOwnedBy_append (first second : List CollectionEntry) :
    copiesOwnedBy (first ++ second) = copiesOwnedBy first ++ copiesOwnedBy second :=
  List.flatMap_append _ _ _

@[simp] theorem copiesOwnedBy_singleton (entry : CollectionEntry) :
    copiesOwnedBy [entry] = entry.strings.owned := by
  simp [copiesOwnedBy]

/-- Pointers that are all set hold three copies. -/
theorem DeviceStrings.owned_length {cdi : DeviceStrings} (complete : cdi.complete) :
    cdi.owned.length = 3 := by
  rcases cdi with ⟨_ | _, _ | _, _ | _⟩ <;> simp_all [DeviceStrings.complete, DeviceStrings.owned]

/-- The entries of a collection whose pointers are all set own three copies each. -/
theorem copiesOwnedBy_length {device : List CollectionEntry}
    (complete : ∀ entry ∈ device, entry.strings.complete) :
    (copiesOwnedBy device).length = 3 * device.length := by
  induction device with
  | nil => rfl
  | cons entry rest ih =>
    have head := DeviceStrings.owned_length (complete entry (List.mem_cons_self _ _))
    have tail := ih fun other member => complete other (List.mem_cons_of_mem _ member)
    rw [show copiesOwnedBy (entry :: rest) = entry.strings.owned ++ copiesOwnedBy rest from rfl,
      List.length_append, head, tail, List.length_cons]
    omega

/-- `oss_device_collection_destroy`: free the strings of every entry, then the array, and leave
the collection empty. The calls are those on the copies. -/
def ossDeviceCollectionDestroy (device : List CollectionEntry) :
    List StringCall × List CollectionEntry :=
  (device.flatMap fun entry => (ossFreeCubebDeviceInfoStrings entry.strings).1, [])

/-- Destroying a collection allocates nothing and gives back what its entries own, in order. -/
theorem ossDeviceCollectionDestroy_released (device : List CollectionEntry) :
    copiesAcquired (ossDeviceCollectionDestroy device).1 = [] ∧
      copiesReleased (ossDeviceCollectionDestroy device).1 = copiesOwnedBy device := by
  induction device with
  | nil => exact ⟨rfl, rfl⟩
  | cons entry rest ih =>
    have freed := ossFreeCubebDeviceInfoStrings_released entry.strings
    simp only [ossDeviceCollectionDestroy, List.flatMap_cons, copiesAcquired_append,
      copiesReleased_append] at ih ⊢
    rw [freed.1, freed.2.1, ih.1, ih.2]
    exact ⟨rfl, rfl⟩

/-- A ledger in which every copy not given back is owned by an entry balances once the
collection is destroyed: every copy is then given back, as often as it was allocated. -/
theorem copies_balanced_of_destroy {calls : List StringCall} {device : List CollectionEntry}
    (ledger : (copiesAcquired calls).Perm (copiesReleased calls ++ copiesOwnedBy device)) :
    (copiesAcquired (calls ++ (ossDeviceCollectionDestroy device).1)).Perm
      (copiesReleased (calls ++ (ossDeviceCollectionDestroy device).1)) := by
  obtain ⟨acquired, released⟩ := ossDeviceCollectionDestroy_released device
  rw [copiesAcquired_append, copiesReleased_append, acquired, released, List.append_nil]
  exact ledger

/-! ### The ledger of a loop -/

/-- What an enumeration loop keeps true of its calls on copies and its entries: every copy allocated and not
given back is owned by a stored entry, as often as it was allocated, and every stored entry owns
its three copies. -/
structure CopyLedger (calls : List StringCall) (entries : List CollectionEntry) : Prop where
  owned : (copiesAcquired calls).Perm (copiesReleased calls ++ copiesOwnedBy entries)
  complete : ∀ entry ∈ entries, entry.strings.complete

/-- The ledger of no calls and no entries. -/
theorem CopyLedger.nil : CopyLedger [] [] :=
  ⟨List.Perm.refl _, fun _ absent => absurd absent (List.not_mem_nil _)⟩

open List in
/-- Calls that allocate exactly what they give back and what new complete entries own keep the
ledger. -/
theorem CopyLedger.append {calls moreCalls : List StringCall}
    {entries moreEntries : List CollectionEntry} (ledger : CopyLedger calls entries)
    (more : copiesAcquired moreCalls = copiesReleased moreCalls ++ copiesOwnedBy moreEntries)
    (complete : ∀ entry ∈ moreEntries, entry.strings.complete) :
    CopyLedger (calls ++ moreCalls) (entries ++ moreEntries) := by
  refine ⟨?_, fun entry member => ?_⟩
  · rw [copiesAcquired_append, copiesReleased_append, copiesOwnedBy_append, more]
    calc copiesAcquired calls ++ (copiesReleased moreCalls ++ copiesOwnedBy moreEntries)
        _ ~ copiesReleased calls ++ copiesOwnedBy entries ++
            (copiesReleased moreCalls ++ copiesOwnedBy moreEntries) := ledger.owned.append_right _
        _ = copiesReleased calls ++ (copiesOwnedBy entries ++ copiesReleased moreCalls) ++
            copiesOwnedBy moreEntries := by simp only [List.append_assoc]
        _ ~ copiesReleased calls ++ (copiesReleased moreCalls ++ copiesOwnedBy entries) ++
            copiesOwnedBy moreEntries := (List.perm_append_comm.append_left _).append_right _
        _ = copiesReleased calls ++ copiesReleased moreCalls ++
            (copiesOwnedBy entries ++ copiesOwnedBy moreEntries) := by simp only [List.append_assoc]
  · rcases List.mem_append.1 member with old | new
    exacts [ledger.complete entry old, complete entry new]

/-! ### The mixer branch, call by call

`MixerWorld.strings` says only whether all the string calls for a device succeed. Here each of
them has its own outcome: the interning of the node and the three `strdup`s of the name, all made
before the test, which gives the copies back if one of the four calls failed. -/

/-- The outcomes of the string calls of the mixer loop for the device with each number: whether
`cubeb_strings_intern` of its node succeeds and whether each `strdup` of its name does. -/
structure MixerStrings where
  intern : Nat → Bool
  dup : Nat → StringField → Bool

/-- Whether all four string calls for device `i` succeed. -/
def MixerStrings.allocated (strings : MixerStrings) (i : Nat) : Bool :=
  strings.intern i && (copyStrings i (strings.dup i)).2.complete

/-- The string calls of the mixer loop for a device it has not dropped: the entry it stores, if
the four calls succeed, and the calls on copies, which give the copies back otherwise. -/
def mixerCopies (strings : MixerStrings) (type i : Nat) (ai : AudioInfo) :
    Option CollectionEntry × List StringCall :=
  let copies := copyStrings i (strings.dup i)
  if !strings.intern i || !copies.2.complete then
    (none, copies.1 ++ (ossFreeCubebDeviceInfoStrings copies.2).1)
  else (some ⟨deviceInfoOf type ai, false, copies.2⟩, copies.1)

/-- How the mixer loop ends, with the entries stored and the calls on copies made: having gone
over every device, at a failed `SNDCTL_AUDIOINFO` (`goto fail`), or at the `assert`. -/
inductive MixerEnd where
  | done (entries : List CollectionEntry) (calls : List StringCall)
  | failed (entries : List CollectionEntry) (calls : List StringCall)
  | aborted
  deriving DecidableEq, Repr

/-- The mixer loop over the devices `indices`, with its calls on copies. -/
def mixerLoopCopies (world : MixerWorld) (strings : MixerStrings) (type : Nat) (numaudios : Int) :
    List Nat → List CollectionEntry → List StringCall → MixerEnd
  | [], entries, calls => .done entries calls
  | i :: rest, entries, calls =>
    match world.audioinfo i with
    | none => .failed entries calls
    | some ai =>
      if numaudios ≤ ai.dev then .aborted
      else if !ai.enabled then mixerLoopCopies world strings type numaudios rest entries calls
      else if !mixerKeeps ai.caps type then
        mixerLoopCopies world strings type numaudios rest entries calls
      else
        mixerLoopCopies world strings type numaudios rest
          (entries ++ (mixerCopies strings type i ai).1.toList)
          (calls ++ (mixerCopies strings type i ai).2)

/-- `oss_enumerate_devices`, mixer branch, with its calls on copies. The failures before the
loop stored nothing and made no call on copies. -/
def ossEnumerateDevicesCopies (world : MixerWorld) (strings : MixerStrings) (type : Nat) :
    MixerEnd :=
  if world.mixerOpen = -1 then .failed [] []
  else
    match world.numaudios with
    | none => .failed [] []
    | some numaudios =>
      if !world.devinfoCalloc then .failed [] []
      else mixerLoopCopies world strings type numaudios (List.range numaudios.toNat) [] []

/-- What a mixer loop with its calls on copies ends with, seen without them. -/
def MixerEnd.forget : MixerEnd → LoopEnd
  | done entries _ => .done (entries.map CollectionEntry.info)
  | failed _ _ => .failed
  | aborted => .aborted

/-- What the mixer branch with its calls on copies returns, seen without them. -/
def MixerEnd.result : MixerEnd → EnumResult
  | done entries _ => .ok (entries.map CollectionEntry.info)
  | failed _ _ => .error
  | aborted => .aborted

/-- The mixer branch whose strings are those of `strings`. -/
def MixerWorld.withStrings (world : MixerWorld) (strings : MixerStrings) : MixerWorld :=
  { world with strings := strings.allocated }

@[simp] theorem MixerWorld.withStrings_mixerOpen (world : MixerWorld) (strings : MixerStrings) :
    (world.withStrings strings).mixerOpen = world.mixerOpen := rfl

@[simp] theorem MixerWorld.withStrings_numaudios (world : MixerWorld) (strings : MixerStrings) :
    (world.withStrings strings).numaudios = world.numaudios := rfl

@[simp] theorem MixerWorld.withStrings_devinfoCalloc (world : MixerWorld)
    (strings : MixerStrings) :
    (world.withStrings strings).devinfoCalloc = world.devinfoCalloc := rfl

/-- The string calls for a device store the entry `mixerLoop` stores when all four succeed,
allocate what they store and give back what they do not. -/
theorem mixerCopies_spec (strings : MixerStrings) (type i : Nat) (ai : AudioInfo) :
    ((mixerCopies strings type i ai).1.map CollectionEntry.info =
        if strings.allocated i then some (deviceInfoOf type ai) else none) ∧
      copiesAcquired (mixerCopies strings type i ai).2 =
        copiesReleased (mixerCopies strings type i ai).2 ++
          copiesOwnedBy (mixerCopies strings type i ai).1.toList ∧
      ∀ entry ∈ (mixerCopies strings type i ai).1.toList, entry.strings.complete := by
  obtain ⟨made, noneReleased⟩ := copyStrings_acquired i (strings.dup i)
  have freed := ossFreeCubebDeviceInfoStrings_released (copyStrings i (strings.dup i)).2
  unfold mixerCopies MixerStrings.allocated
  cases strings.intern i <;> cases complete : (copyStrings i (strings.dup i)).2.complete <;>
    simp [made, noneReleased, freed.1, freed.2.1, complete]

/-- The mixer loop with its calls on copies refines `mixerLoop`: seen without the calls, it ends
as `mixerLoop` does when a device's strings are allocated exactly when its four string calls
succeed. -/
theorem mixerLoopCopies_forget (world : MixerWorld) (strings : MixerStrings) (type : Nat)
    (numaudios : Int) :
    ∀ (indices : List Nat) (entries : List CollectionEntry) (calls : List StringCall),
      (mixerLoopCopies world strings type numaudios indices entries calls).forget =
        mixerLoop (world.withStrings strings) type numaudios indices
          (entries.map CollectionEntry.info)
  | [], _, _ => rfl
  | i :: rest, entries, calls => by
    have next := mixerLoopCopies_forget world strings type numaudios rest
    rcases info : world.audioinfo i with _ | ai
    · simp only [mixerLoopCopies, mixerLoop, MixerWorld.withStrings, info]
      rfl
    · have stored := (mixerCopies_spec strings type i ai).1
      simp only [mixerLoopCopies, mixerLoop, MixerWorld.withStrings, info] at next ⊢
      by_cases bound : numaudios ≤ ai.dev
      · simp only [bound, if_true]
        rfl
      cases ai.enabled
      · simp only [bound, if_false, Bool.not_false, if_true]
        exact next entries calls
      cases mixerKeeps ai.caps type
      · simp only [bound, if_false, Bool.not_true, Bool.false_eq_true, Bool.not_false, if_true]
        exact next entries calls
      simp only [bound, if_false, Bool.not_true, Bool.false_eq_true, next, List.map_append]
      cases allocated : strings.allocated i <;>
        cases entry : (mixerCopies strings type i ai).1 <;> simp_all

/-- Every run of the mixer loop keeps the ledger of its copies, whichever way it ends. -/
theorem mixerLoopCopies_ledger (world : MixerWorld) (strings : MixerStrings) (type : Nat)
    (numaudios : Int) :
    ∀ (indices : List Nat) (entries : List CollectionEntry) (calls : List StringCall),
      CopyLedger calls entries →
        match mixerLoopCopies world strings type numaudios indices entries calls with
        | .done entries calls | .failed entries calls => CopyLedger calls entries
        | .aborted => True
  | [], _, _, ledger => ledger
  | i :: rest, entries, calls, ledger => by
    rcases info : world.audioinfo i with _ | ai
    · simpa only [mixerLoopCopies, info] using ledger
    · obtain ⟨-, more, complete⟩ := mixerCopies_spec strings type i ai
      simp only [mixerLoopCopies, info]
      split_ifs
      · trivial
      · exact mixerLoopCopies_ledger world strings type numaudios rest entries calls ledger
      · exact mixerLoopCopies_ledger world strings type numaudios rest entries calls ledger
      · exact mixerLoopCopies_ledger world strings type numaudios rest _ _
          (ledger.append more complete)

/-- The mixer branch with its calls on copies refines `ossEnumerateDevices`: seen without the
calls, it returns what `ossEnumerateDevices` returns when a device's strings are allocated
exactly when its four string calls succeed. Every fact about `ossEnumerateDevices` holds of the
branch call by call. -/
theorem ossEnumerateDevicesCopies_result (world : MixerWorld) (strings : MixerStrings)
    (type : Nat) :
    (ossEnumerateDevicesCopies world strings type).result =
      ossEnumerateDevices (world.withStrings strings) type := by
  unfold ossEnumerateDevicesCopies ossEnumerateDevices
  rw [MixerWorld.withStrings_mixerOpen, MixerWorld.withStrings_numaudios,
    MixerWorld.withStrings_devinfoCalloc]
  by_cases opened : world.mixerOpen = -1
  · simp only [opened, if_true]
    rfl
  simp only [opened, if_false]
  rcases world.numaudios with _ | numaudios
  · rfl
  cases world.devinfoCalloc
  · rfl
  simp only [Bool.not_true, Bool.false_eq_true, if_false]
  have refines :=
    mixerLoopCopies_forget world strings type numaudios (List.range numaudios.toNat) [] []
  rw [List.map_nil] at refines
  rw [← refines]
  cases mixerLoopCopies world strings type numaudios (List.range numaudios.toNat) [] [] <;> rfl

/-- The branch ends as its loop over the devices does, or fails before the loop with no entry
and no call on copies. -/
theorem ossEnumerateDevicesCopies_eq (world : MixerWorld) (strings : MixerStrings) (type : Nat) :
    ossEnumerateDevicesCopies world strings type = .failed [] [] ∨
      ∃ numaudios : Int, ossEnumerateDevicesCopies world strings type =
        mixerLoopCopies world strings type numaudios (List.range numaudios.toNat) [] [] := by
  unfold ossEnumerateDevicesCopies
  by_cases opened : world.mixerOpen = -1
  · exact .inl (if_pos opened)
  rw [if_neg opened]
  rcases world.numaudios with _ | numaudios
  · exact .inl rfl
  cases world.devinfoCalloc
  · exact .inl rfl
  exact .inr ⟨numaudios, rfl⟩

/-- For every outcome of every call: when the mixer branch returns `CUBEB_OK`, its collection
owns every copy it did not give back, so that `oss_device_collection_destroy` leaves every copy
given back, as often as it was allocated; when it fails, the copies never given back are exactly
the three copies of each entry stored before the failure, which `goto fail` drops with the
array. -/
theorem ossEnumerateDevicesCopies_strings (world : MixerWorld) (strings : MixerStrings)
    (type : Nat) :
    (∀ devices calls, ossEnumerateDevicesCopies world strings type = .done devices calls →
      (copiesAcquired (calls ++ (ossDeviceCollectionDestroy devices).1)).Perm
        (copiesReleased (calls ++ (ossDeviceCollectionDestroy devices).1))) ∧
    (∀ stored calls, ossEnumerateDevicesCopies world strings type = .failed stored calls →
      (copiesAcquired calls).Perm (copiesReleased calls ++ copiesOwnedBy stored) ∧
        (copiesAcquired calls).length = (copiesReleased calls).length + 3 * stored.length) := by
  have ledger : match ossEnumerateDevicesCopies world strings type with
      | .done entries calls | .failed entries calls => CopyLedger calls entries
      | .aborted => True := by
    rcases ossEnumerateDevicesCopies_eq world strings type with failed | ⟨numaudios, ran⟩
    · rw [failed]
      exact CopyLedger.nil
    · rw [ran]
      exact mixerLoopCopies_ledger _ _ _ _ _ _ _ CopyLedger.nil
  refine ⟨fun devices calls ended => ?_, fun stored calls ended => ?_⟩
  · rw [ended] at ledger
    exact copies_balanced_of_destroy ledger.owned
  · rw [ended] at ledger
    refine ⟨ledger.owned, ?_⟩
    rw [ledger.owned.length_eq, List.length_append, copiesOwnedBy_length ledger.complete]

/-- A mixer whose first device is stored and whose second fails `SNDCTL_AUDIOINFO`: the branch
fails having given back none of the first entry's three copies. -/
theorem ossEnumerateDevicesCopies_strings_leak :
    let duplex : AudioInfo := ⟨0, "pcm0", "/dev/dsp0", true, 0x30100, 2, 8000, 192000⟩
    let world : MixerWorld := ⟨3, some 2, true, fun i => if i = 0 then some duplex else none,
      fun _ => true⟩
    let strings : MixerStrings := ⟨fun _ => true, fun _ _ => true⟩
    let calls : List StringCall :=
      [.dup ⟨0, .deviceId⟩ true, .dup ⟨0, .friendlyName⟩ true, .dup ⟨0, .groupId⟩ true]
    let stored : List CollectionEntry := [⟨deviceInfoOf cubebDeviceTypeOutput duplex, false,
      ⟨some ⟨0, .deviceId⟩, some ⟨0, .friendlyName⟩, some ⟨0, .groupId⟩⟩⟩]
    ossEnumerateDevicesCopies world strings cubebDeviceTypeOutput = .failed stored calls ∧
      (copiesAcquired calls).Perm (copiesReleased calls ++ copiesOwnedBy stored) ∧
      (copiesAcquired calls).length = (copiesReleased calls).length + 3 * stored.length :=
  (fun ended => ⟨ended, (ossEnumerateDevicesCopies_strings _ _ _).2 _ _ ended⟩) (by decide)

end Cubeb.Oss
