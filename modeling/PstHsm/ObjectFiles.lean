import PstHsm.LastWrites
import PstHsm.ObjectLoading
import PstHsm.StoredObjects

/-!
# The key directory as a map

The four object functions of the storage work on one file for each handle. Whatever sequence of
them is called, and whichever files cannot be opened or removed, their answers are those of a map
from handles to objects: a load that opens its file finds what was saved last, a list finds each
stored handle once, and a call that fails leaves everything as it was. This takes handles of
eight digits, objects whose numbers fit their fields, files written whole once they are opened,
and at most 1024 of them when they are listed.
-/

namespace PstHsm

open Tables

/-! ## Calls of the storage -/

/-- A call of one of the object functions, with what the file system does in it. -/
inductive StorageCall where
  | save (object : HsmObject) (outcome : WriteOutcome)
  | load (handle : CkObjectHandle) (fopen : Bool) (into : HsmObject)
  | delete (handle : CkObjectHandle) (unlink : Bool)
  | list (dir : Option (List FileName))

inductive StorageAnswer where
  | done (rv : CkRv)
  | loaded (rv : CkRv) (object : HsmObject)
  | listed (handles : List CkObjectHandle) (count : Nat)

def storageStep (storage : Storage) : StorageCall → StorageAnswer × Storage
  | .save object outcome =>
    (.done (hsmStorageSaveObject object outcome storage).1,
      (hsmStorageSaveObject object outcome storage).2)
  | .load handle fopen into =>
    (.loaded (hsmStorageLoadObject handle fopen storage into).1
      (hsmStorageLoadObject handle fopen storage into).2, storage)
  | .delete handle unlink =>
    (.done (hsmStorageDeleteObject handle unlink storage).1,
      (hsmStorageDeleteObject handle unlink storage).2)
  | .list dir => (.listed (hsmStorageListObjects dir).1 (hsmStorageListObjects dir).2, storage)

/-! ## The map -/

/-- The call changes which object is stored under the handle. -/
def StorageCall.changes (handle : CkObjectHandle) : StorageCall → Bool
  | .save object outcome => object.isToken && outcome.fopen && decide (object.handle = handle)
  | .delete other unlink => unlink && decide (other = handle)
  | _ => false

/-- The object that a changing call leaves under its handle. -/
def StorageCall.leaves : StorageCall → Option HsmObject
  | .save object _ => some object
  | _ => none

/-- What is stored under the handle after the calls: the object saved last, unless a deletion came
after it. -/
def storedUnder (calls : List StorageCall) (handle : CkObjectHandle) : Option HsmObject :=
  (LastWrites.last (StorageCall.changes handle) calls).bind StorageCall.leaves

/-- The object as it is read into another one: without its key and its capabilities. -/
def HsmObject.readInto (stored into : HsmObject) : HsmObject :=
  { stored with keyData := into.keyData, canSign := into.canSign, canVerify := into.canVerify }

/-- The answer is the one that the map gives. -/
def AnswersAs (held : CkObjectHandle → Option HsmObject) : StorageCall → StorageAnswer → Prop
  | .save object outcome, .done rv =>
    rv = if object.isToken && !outcome.fopen then .deviceError else .ok
  | .load handle fopen into, .loaded rv object =>
    (rv, object) = if fopen then
        (held handle).elim (.objectHandleInvalid, into) (.ok, ·.readInto into)
      else (.objectHandleInvalid, into)
  | .delete handle unlink, .done rv =>
    rv = if (held handle).isSome && !unlink then .deviceError else .ok
  | .list none, .listed handles count => handles = [] ∧ count = 0
  | .list (some _), .listed handles count =>
    handles.Nodup ∧ count = handles.length ∧ ∀ handle, handle ∈ handles ↔ (held handle).isSome
  | _, _ => False

/-- What a file that can be opened gets is the whole record of an object whose numbers fit, and
whose handle has eight digits; a directory of at most 1024 files is read in some order. -/
def Promised (storage : Storage) : StorageCall → Prop
  | .save object outcome =>
    object.isToken = true → outcome.fopen = true →
      (∃ stored : TokenObject, stored.object = object) ∧ object.handle < 2 ^ 32 ∧
        outcome.Whole (objectItems object)
  | .list (some entries) =>
    DirectoryListing storage.keyFiles entries ∧ storage.keyFiles.keys.length ≤ hsmMaxObjects
  | _ => True

/-! ## The files -/

/-- What a changing call leaves in its file. -/
def StorageCall.content : StorageCall → Option Bytes
  | .save object outcome => some (writtenBytes outcome (objectItems object))
  | _ => none

section Files

variable (handle : CkObjectHandle)

/-- A call that changes a file leaves there what it writes. -/
theorem changed_file (storage : Storage) (call : StorageCall)
    (changes : call.changes handle = true) :
    (storageStep storage call).2.keyFiles.lookup (objectFileName handle) = call.content := by
  cases call with
  | save object outcome =>
    obtain ⟨⟨token, opened⟩, rfl⟩ : (object.isToken = true ∧ outcome.fopen = true) ∧
        object.handle = handle := by
      simpa [StorageCall.changes] using changes
    simp [storageStep, hsmStorageSaveObject, StorageCall.content, token, opened]
  | delete other unlink =>
    obtain ⟨rfl, rfl⟩ : unlink = true ∧ other = handle := by
      simpa [StorageCall.changes] using changes
    cases present : storage.keyFiles.lookup (objectFileName other) with
    | none => simp [storageStep, hsmStorageDeleteObject, StorageCall.content, present]
    | some bytes => simp [storageStep, hsmStorageDeleteObject, StorageCall.content, present]
  | load other fopen into => cases changes
  | list dir => cases changes

/-- Any other leaves the file. -/
theorem unchanged_file (storage : Storage) (call : StorageCall)
    (unchanged : call.changes handle = false) :
    (storageStep storage call).2.keyFiles.lookup (objectFileName handle) =
      storage.keyFiles.lookup (objectFileName handle) := by
  have apart (other : CkObjectHandle) (different : other ≠ handle) :
      objectFileName handle ≠ objectFileName other :=
    fun same => different (object_file_name_injective handle other same).symm
  cases call with
  | save object outcome =>
    cases token : object.isToken with
    | false => simp [storageStep, hsmStorageSaveObject, token]
    | true =>
      cases opened : outcome.fopen with
      | false => simp [storageStep, hsmStorageSaveObject, token, opened]
      | true =>
        have different : object.handle ≠ handle := by
          simpa [StorageCall.changes, token, opened] using unchanged
        simp [storageStep, hsmStorageSaveObject, token, opened,
          AList.lookup_insert_ne (apart object.handle different)]
  | delete other unlink =>
    simp only [storageStep, hsmStorageDeleteObject]
    split
    · rfl
    · split
      · rename_i unlinks
        have different : other ≠ handle := by
          simpa [StorageCall.changes, unlinks] using unchanged
        exact AList.lookup_erase_ne (apart other different)
      · rfl
  | load other fopen into => rfl
  | list dir => rfl

/-- After any calls on an empty directory a file holds what the last changing call left. -/
theorem files_hold (storage : Storage) (calls : List StorageCall) (fresh : storage.keyFiles = ∅) :
    (Runs.run storageStep storage calls).keyFiles.lookup (objectFileName handle) =
      (LastWrites.last (StorageCall.changes handle) calls).bind StorageCall.content := by
  have none : storage.keyFiles.lookup (objectFileName handle) = none := by
    rw [fresh]
    rfl
  rw [Runs.run_foldl, LastWrites.fold_component (StorageCall.changes handle)
    (fun storage call => (storageStep storage call).2)
    (fun storage => storage.keyFiles.lookup (objectFileName handle)) StorageCall.content
    (changed_file handle) (unchanged_file handle), none]
  cases LastWrites.last (StorageCall.changes handle) calls with
  | none => rfl
  | some call => rfl

/-- The directory has a file for exactly the handles that the map holds. -/
theorem file_present_iff (storage : Storage) (calls : List StorageCall)
    (fresh : storage.keyFiles = ∅) :
    objectFileName handle ∈ (Runs.run storageStep storage calls).keyFiles ↔
      (storedUnder calls handle).isSome = true := by
  rw [← AList.lookup_isSome, files_hold handle storage calls fresh, storedUnder]
  cases LastWrites.last (StorageCall.changes handle) calls with
  | none => exact Iff.rfl
  | some call =>
    cases call with
    | save object outcome => exact iff_of_true rfl rfl
    | _ => exact Iff.rfl

end Files

/-! ## Names of the files -/

/-- Every file is named after a handle of eight digits. -/
def NamedByHandles (files : AList (fun _ : FileName => Bytes)) : Prop :=
  ∀ name ∈ files, ∃ handle < 2 ^ 32, name = objectFileName handle

/-- Every file is named by a handle. -/
theorem named_step (storage : Storage) (call : StorageCall)
    (named : NamedByHandles storage.keyFiles) (promised : Promised storage call) :
    NamedByHandles (storageStep storage call).2.keyFiles := by
  cases call with
  | save object outcome =>
    cases token : object.isToken with
    | false => simpa [storageStep, hsmStorageSaveObject, token] using named
    | true =>
      cases opened : outcome.fopen with
      | false => simpa [storageStep, hsmStorageSaveObject, token, opened] using named
      | true =>
        obtain ⟨-, small, -⟩ := promised token opened
        intro name member
        have inserted : name = objectFileName object.handle ∨ name ∈ storage.keyFiles := by
          simpa [storageStep, hsmStorageSaveObject, token, opened] using member
        rcases inserted with rfl | before
        · exact ⟨object.handle, small, rfl⟩
        · exact named name before
  | delete handle unlink =>
    simp only [storageStep, hsmStorageDeleteObject]
    split
    · exact named
    · split
      · intro name member
        exact named name (AList.mem_erase.mp member).2
      · exact named
  | load handle fopen into => exact named
  | list dir => exact named

/-- In such a directory every handle with a file is listed, once. -/
theorem listed_handles (files : AList (fun _ : FileName => Bytes)) (entries : List FileName)
    (listing : DirectoryListing files entries) (most : files.keys.length ≤ hsmMaxObjects)
    (named : NamedByHandles files) :
    (hsmStorageListObjects (some entries)).1.Nodup ∧
      ∀ handle, handle ∈ (hsmStorageListObjects (some entries)).1 ↔
        handle < 2 ^ 32 ∧ objectFileName handle ∈ files := by
  rw [list_objects_scan files entries listing most]
  have owner (name : FileName) (member : name ∈ files.keys) (handle : CkObjectHandle)
      (found : scanObjectName name = some handle) :
      handle < 2 ^ 32 ∧ name = objectFileName handle := by
    obtain ⟨other, small, rfl⟩ := named name member
    obtain rfl := Option.some.inj ((scan_file_name other small).symm.trans found)
    exact ⟨small, rfl⟩
  constructor
  · rw [(scanned_perm files entries listing).nodup_iff, List.Nodup, List.pairwise_filterMap]
    apply files.keys_nodup.imp_of_mem
    intro first second here there different handle found other again same
    obtain ⟨-, rfl⟩ := owner first here handle found
    obtain ⟨-, rfl⟩ := owner second there other again
    exact different (congrArg objectFileName same)
  · intro handle
    rw [mem_scanned_iff files entries listing]
    constructor
    · rintro ⟨name, member, found⟩
      obtain ⟨small, rfl⟩ := owner name member handle found
      exact ⟨small, member⟩
    · rintro ⟨small, member⟩
      exact ⟨_, member, scan_file_name handle small⟩

/-! ## The answers -/

/-- A file that holds the whole record, once opened, is loaded with everything but the key and
the capabilities. -/
theorem load_record (stored : TokenObject) (storage : Storage) (into : HsmObject)
    (present : storage.keyFiles.lookup (objectFileName stored.object.handle) =
      some stored.object.record) :
    hsmStorageLoadObject stored.object.handle true storage into =
      (.ok, stored.object.readInto into) := by
  rw [hsmStorageLoadObject, fopenRead, if_pos rfl, present, record_bytes]
  simp only [read_bool_item, read_buffer_item, read_number_item 8 _ _ stored.handle,
    read_number_item 4 _ _ stored.type, read_number_item 8 _ _ stored.idLen,
    read_number_item 4 _ _ stored.keyType]
  rfl

section Answers

variable (storage : Storage) (calls : List StorageCall) (fresh : storage.keyFiles = ∅)
  (promised : Runs.EveryStep storageStep Promised storage calls)

include promised

/-- What the map holds was saved whole, under its own handle. -/
theorem stored_saved (handle : CkObjectHandle) (object : HsmObject)
    (held : storedUnder calls handle = some object) :
    object.handle = handle ∧ (∃ stored : TokenObject, stored.object = object) ∧
      handle < 2 ^ 32 ∧ ∃ outcome,
        LastWrites.last (StorageCall.changes handle) calls = some (.save object outcome) ∧
        outcome.Whole (objectItems object) := by
  obtain ⟨call, found, leaves⟩ := Option.bind_eq_some_iff.mp held
  obtain ⟨member, changes⟩ := LastWrites.last_sound _ found
  obtain ⟨before, after, split⟩ := List.append_of_mem member
  have kept := (Runs.every_step_iff storageStep Promised storage calls).mp promised before call
    after split
  cases call with
  | save saved outcome =>
    obtain rfl := Option.some.inj leaves
    obtain ⟨⟨token, opened⟩, rfl⟩ : (saved.isToken = true ∧ outcome.fopen = true) ∧
        saved.handle = handle := by
      simpa [StorageCall.changes] using changes
    obtain ⟨fits, small, whole⟩ := kept token opened
    exact ⟨rfl, fits, small, outcome, found, whole⟩
  | _ => cases leaves

include fresh

/-- A load that opens its file finds what the map holds. -/
theorem load_answers (handle : CkObjectHandle) (into : HsmObject) :
    hsmStorageLoadObject handle true (Runs.run storageStep storage calls) into =
      (storedUnder calls handle).elim (.objectHandleInvalid, into) (.ok, ·.readInto into) := by
  cases held : storedUnder calls handle with
  | none =>
    have absent : (Runs.run storageStep storage calls).keyFiles.lookup (objectFileName handle) =
        none := by
      rw [AList.lookup_eq_none, file_present_iff handle storage calls fresh, held]
      exact Bool.false_ne_true
    rw [hsmStorageLoadObject, fopenRead, if_pos rfl, absent]
    rfl
  | some object =>
    obtain ⟨rfl, ⟨stored, rfl⟩, -, outcome, last, whole⟩ :=
      stored_saved storage calls promised handle object held
    apply load_record stored
    rw [files_hold _ storage calls fresh, last, Option.bind_some, StorageCall.content,
      (written_whole_iff outcome _).mpr whole]
    rfl

end Answers

/-- Along any sequence of calls of the storage, every answer is that of the map from handles to
the objects saved last. -/
theorem object_files_refine_map (storage : Storage) (calls : List StorageCall)
    (fresh : storage.keyFiles = ∅)
    (promised : Runs.EveryStep storageStep Promised storage calls) (before after : List StorageCall)
    (call : StorageCall) (split : calls = before ++ call :: after) :
    AnswersAs (storedUnder before) call
      (storageStep (Runs.run storageStep storage before) call).1 := by
  rw [split] at promised
  obtain ⟨earlier, here, -⟩ := (Runs.every_step_append storageStep Promised storage before _).mp
    promised
  cases call with
  | save object outcome =>
    cases token : object.isToken with
    | false => simp [AnswersAs, storageStep, hsmStorageSaveObject, token]
    | true =>
      cases opened : outcome.fopen with
      | false => simp [AnswersAs, storageStep, hsmStorageSaveObject, token, opened]
      | true => simp [AnswersAs, storageStep, hsmStorageSaveObject, token, opened]
  | load handle fopen into =>
    cases fopen with
    | true => exact load_answers storage before fresh earlier handle into
    | false => rfl
  | delete handle unlink =>
    have present := file_present_iff handle storage before fresh
    rw [← AList.lookup_isSome] at present
    have same := Bool.eq_iff_iff.mpr present
    simp only [AnswersAs, storageStep, hsmStorageDeleteObject]
    rw [← same]
    generalize (Runs.run storageStep storage before).keyFiles.lookup (objectFileName handle) = file
    cases file with
    | none => rfl
    | some bytes =>
      cases unlink with
      | false => rfl
      | true => rfl
  | list dir =>
    cases dir with
    | none => exact ⟨rfl, rfl⟩
    | some entries =>
      have named := Runs.invariant_run storageStep (fun now => NamedByHandles now.keyFiles)
        Promised named_step storage before (by
          intro name member
          rw [fresh] at member
          exact absurd member (AList.notMem_empty name)) earlier
      obtain ⟨once, exactly⟩ := listed_handles _ entries here.1 here.2 named
      refine ⟨once, rfl, ?_⟩
      intro handle
      rw [exactly, file_present_iff handle storage before fresh]
      constructor
      · exact fun both => both.2
      · intro held
        obtain ⟨object, found⟩ := Option.isSome_iff_exists.mp held
        obtain ⟨-, -, small, -⟩ := stored_saved storage before earlier handle object found
        exact ⟨small, held⟩

/-- Save an object, find it in the directory, load it and delete it. -/
def savedAndDeleted : List StorageCall :=
  [.save labelledData wholeWrite,
    .list (some [['.'], ['.', '.'], objectFileName labelledData.handle]),
    .load labelledData.handle true {}, .delete labelledData.handle true]

/-- These calls meet the conditions. -/
theorem saved_and_deleted_promised :
    Runs.EveryStep storageStep Promised freshStorage savedAndDeleted := by
  refine ⟨?_, ⟨?_, ?_⟩, trivial, trivial, trivial⟩
  · intro _ _
    refine ⟨⟨labelledToken, rfl⟩, by decide +kernel, ?_⟩
    intro item member reached cut
    cases cut
  · exact List.Perm.of_eq (by decide +kernel)
  · decide +kernel

theorem object_files_refine_map_saved :
    AnswersAs (storedUnder (savedAndDeleted.take 2)) (.load labelledData.handle true {})
      (storageStep (Runs.run storageStep freshStorage (savedAndDeleted.take 2))
        (.load labelledData.handle true {})).1 :=
  object_files_refine_map freshStorage savedAndDeleted rfl saved_and_deleted_promised
    (savedAndDeleted.take 2) [.delete labelledData.handle true]
    (.load labelledData.handle true {}) rfl

end PstHsm
