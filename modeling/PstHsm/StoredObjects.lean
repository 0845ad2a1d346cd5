import PstHsm.KeyFiles
import PstHsm.Loops

/-!
# Enumerating the stored objects

`hsm_storage_list_objects` parses the names of the key directory with the format that the files
are named by. Printing takes eight digits at least and parsing eight at most, and parsing does
not look at what follows the digits. The handles found are those of the files exactly when no
name is accepted but that of a handle of eight digits.
-/

namespace PstHsm

/-- A base of a class and any value of the counter. -/
def Producible (handle : CkObjectHandle) : Prop :=
  ∃ type counter, counter < 2 ^ 32 ∧ handle = hsmGenerateObjectHandle type counter

/-- The names that `readdir` returns for the key directory, in some order. -/
def DirectoryListing (files : AList (fun _ : FileName => Bytes)) (entries : List FileName) : Prop :=
  entries.Perm (['.'] :: ['.', '.'] :: files.keys)

/-- The handles listed are those that can be generated and whose files are there, each once;
files of different handles are different, and an entry with any other name makes no
difference. -/
structure EnumerationExact (files : AList (fun _ : FileName => Bytes))
    (entries : List FileName) : Prop where
  once : (hsmStorageListObjects (some entries)).1.Nodup
  exactly : ∀ handle, handle ∈ (hsmStorageListObjects (some entries)).1 ↔
    Producible handle ∧ objectFileName handle ∈ files
  names : ∀ left right, Producible left → Producible right →
    objectFileName left = objectFileName right → left = right
  others : ∀ name ∈ entries, (∀ handle, Producible handle → name ≠ objectFileName handle) →
    hsmStorageListObjects (some (entries.erase name)) = hsmStorageListObjects (some entries)

/-! ## Handles and names -/

/-- Every handle of 32 bits can be generated or read. -/
theorem small_producible (handle : CkObjectHandle) (small : handle < 2 ^ 32) :
    Producible handle := by
  refine ⟨4, handle, small, ?_⟩
  rw [hsmGenerateObjectHandle, show handleBase 4 = 0 from rfl, Nat.zero_add]

/-- And none is much larger. -/
theorem producible_bound (handle : Nat) (producible : Producible handle) :
    handle < 2 ^ 33 := by
  obtain ⟨type, counter, small, rfl⟩ := producible
  have base : handleBase type ≤ objectHandleDataBase := by
    unfold handleBase
    split
    · decide
    · split
      · decide
      · split
        · decide
        · split
          · exact Nat.le_refl _
          · exact Nat.zero_le _
  have data : objectHandleDataBase = 0x40000000 := rfl
  change handleBase type + counter < 2 ^ 33
  omega

/-- A handle of eight digits is found in the name of its file. -/
theorem scan_file_name (handle : CkObjectHandle) (small : handle < 2 ^ 32) :
    scanObjectName (objectFileName handle) = some handle := by
  have shape : scanObjectName (objectFileName handle) =
      HexNames.scanHex 8 (HexNames.paddedHex 8 handle ++ ['.', 'd', 'a', 't']) := rfl
  rw [shape]
  exact HexNames.scan_hex_read 8 handle (by decide) (small.trans_eq (by decide)) _

/-- In the name of any other file too a handle is found. -/
theorem file_name_accepted (handle : CkObjectHandle) :
    (scanObjectName (objectFileName handle)).isSome = true := by
  have shape : scanObjectName (objectFileName handle) =
      HexNames.scanHex 8 (HexNames.paddedHex 8 handle ++ ['.', 'd', 'a', 't']) := rfl
  rw [shape, HexNames.scan_hex_written 8 handle (by decide)]
  rfl

/-- A handle found that can be generated has at most eight digits. -/
theorem scanned_small (name : FileName) (handle : Nat)
    (found : scanObjectName name = some handle) (producible : Producible handle) :
    handle < 2 ^ 32 := by
  have bound := producible_bound handle producible
  unfold scanObjectName at found
  split at found
  · rcases HexNames.scan_hex_bound 8 _ handle found with small | negative
    · exact small.trans_eq (by decide)
    · omega
  · cases found

/-! ## The loop -/

/-- The listing is a loop that fills an array. -/
theorem list_names_fill (names : List FileName) (handles : List CkObjectHandle) :
    listNames names handles = Loops.fill hsmMaxObjects scanObjectName names handles := by
  induction names generalizing handles with
  | nil => rfl
  | cons name rest inductionHypothesis =>
    rw [listNames, Loops.fill]
    cases scanObjectName name with
    | none => simp only [inductionHypothesis]
    | some handle => simp only [inductionHypothesis]

/-- The loop collects what the names give until the array is full. -/
theorem list_names_scan (names : List FileName) :
    listNames names [] = (names.filterMap scanObjectName).take hsmMaxObjects := by
  rw [list_names_fill, Loops.fill_take _ _ _ _ (Nat.zero_le _), List.nil_append]

/-- What is listed, up to the size of the array. -/
theorem list_objects_take (entries : List FileName) :
    (hsmStorageListObjects (some entries)).1 =
      (entries.filterMap scanObjectName).take hsmMaxObjects :=
  list_names_scan entries

/-- A name in which nothing is found can be left out. -/
theorem filter_map_erase (names : List FileName) (name : FileName)
    (nothing : scanObjectName name = none) :
    (names.erase name).filterMap scanObjectName = names.filterMap scanObjectName := by
  induction names with
  | nil => rfl
  | cons first rest inductionHypothesis =>
    by_cases same : first = name
    · rw [same, List.erase_cons_head, List.filterMap_cons_none nothing]
    · rw [List.erase_cons_tail (by simpa using same), List.filterMap_cons, List.filterMap_cons,
        inductionHypothesis]

/-- A name that is no object file can be left out. -/
theorem list_objects_erase (entries : List FileName) (name : FileName)
    (nothing : scanObjectName name = none) :
    hsmStorageListObjects (some (entries.erase name)) = hsmStorageListObjects (some entries) := by
  have same : listNames (entries.erase name) [] = listNames entries [] := by
    rw [list_names_scan, list_names_scan, filter_map_erase entries name nothing]
  rw [hsmStorageListObjects, hsmStorageListObjects, same]

/-- When no handle is found twice, the name in which it is found is determined. -/
theorem scanned_name_unique (names : List FileName)
    (distinct : (names.filterMap scanObjectName).Nodup) (first second : FileName)
    (handle : CkObjectHandle) (here : first ∈ names) (there : second ∈ names)
    (found : scanObjectName first = some handle) (again : scanObjectName second = some handle) :
    first = second := by
  let Apart (one other : FileName) : Prop :=
    ∀ x, scanObjectName one = some x → ∀ y, scanObjectName other = some y → x ≠ y
  have symmetric : Std.Symm Apart :=
    ⟨fun one other apart x left y right same => apart y right x left same.symm⟩
  have pairwise : names.Pairwise Apart := List.pairwise_filterMap.mp distinct
  by_contra different
  exact pairwise.forall here there different handle found handle again rfl

section Listing

variable (files : AList (fun _ : FileName => Bytes)) (entries : List FileName)
  (listing : DirectoryListing files entries) (most : files.keys.length ≤ hsmMaxObjects)

include listing

/-- The two entries that are no files give nothing. -/
theorem scanned_perm :
    (entries.filterMap scanObjectName).Perm (files.keys.filterMap scanObjectName) :=
  listing.filterMap scanObjectName

/-- A handle is read from a name of the directory. -/
theorem mem_scanned_iff (handle : CkObjectHandle) :
    handle ∈ entries.filterMap scanObjectName ↔
      ∃ name ∈ files.keys, scanObjectName name = some handle := by
  rw [(scanned_perm files entries listing).mem_iff, List.mem_filterMap]

include most

/-- The array has room for all that is found. -/
theorem list_objects_scan :
    (hsmStorageListObjects (some entries)).1 = entries.filterMap scanObjectName := by
  have fits : (entries.filterMap scanObjectName).length ≤ hsmMaxObjects := by
    rw [(scanned_perm files entries listing).length_eq]
    exact (List.length_filterMap_le _ _).trans most
  rw [list_objects_take, List.take_of_length_le fits]

/-- The enumeration is exact if and only if every name in which a handle is found is that of a
handle of eight digits. -/
theorem enumeration_exact_iff :
    EnumerationExact files entries ↔
      ∀ name ∈ files.keys, (scanObjectName name).isSome = true →
        ∃ handle < 2 ^ 32, name = objectFileName handle := by
  have scanned := list_objects_scan files entries listing most
  have members := mem_scanned_iff files entries listing
  have permuted := scanned_perm files entries listing
  constructor
  · intro exact name member accepted
    obtain ⟨handle, found⟩ := Option.isSome_iff_exists.mp accepted
    have once := exact.once
    have named := exact.exactly handle
    rw [scanned] at once named
    obtain ⟨producible, there⟩ := named.mp ((members handle).mpr ⟨name, member, found⟩)
    have small := scanned_small name handle found producible
    refine ⟨handle, small, ?_⟩
    exact scanned_name_unique files.keys (permuted.nodup_iff.mp once) name _ handle member there
      found (scan_file_name handle small)
  · intro canonical
    have named (name : FileName) (member : name ∈ files.keys) (handle : CkObjectHandle)
        (found : scanObjectName name = some handle) :
        handle < 2 ^ 32 ∧ name = objectFileName handle := by
      obtain ⟨other, small, rfl⟩ := canonical name member (by rw [found]; rfl)
      obtain rfl := Option.some.inj ((scan_file_name other small).symm.trans found)
      exact ⟨small, rfl⟩
    constructor
    · rw [scanned, permuted.nodup_iff, List.Nodup, List.pairwise_filterMap]
      apply files.keys_nodup.imp_of_mem
      intro first second here there different handle found other again same
      obtain ⟨-, rfl⟩ := named first here handle found
      obtain ⟨-, rfl⟩ := named second there other again
      exact different (congrArg objectFileName same)
    · intro handle
      rw [scanned, members]
      constructor
      · rintro ⟨name, member, found⟩
        obtain ⟨small, rfl⟩ := named name member handle found
        exact ⟨small_producible handle small, member⟩
      · rintro ⟨-, there⟩
        obtain ⟨other, found⟩ := Option.isSome_iff_exists.mp (file_name_accepted handle)
        obtain ⟨small, same⟩ := named _ there other found
        obtain rfl := object_file_name_injective handle other same
        exact ⟨_, there, found⟩
    · intro left right _ _
      exact object_file_name_injective left right
    · intro name member unnamed
      apply list_objects_erase
      by_contra accepted
      obtain ⟨handle, found⟩ := Option.ne_none_iff_exists'.mp accepted
      rcases List.mem_cons.mp (listing.mem_iff.mp member) with rfl | member
      · cases found
      · rcases List.mem_cons.mp member with rfl | member
        · cases found
        · obtain ⟨small, same⟩ := named name member handle found
          exact unnamed handle (small_producible handle small) same

end Listing

/-! ## One stored object -/

/-- A token object of the given class, generated at a value of the counter. -/
def generatedAt (type counter : Nat) : HsmObject :=
  { handle := hsmGenerateObjectHandle type counter, type := type, isToken := true }

/-- The files after it was saved on a fresh machine. -/
def savedAlone (type counter : Nat) : AList (fun _ : FileName => Bytes) :=
  (hsmStorageSaveObject (generatedAt type counter) wholeWrite freshStorage).2.keyFiles

/-- The key directory with its file. -/
def entriesAlone (type counter : Nat) : List FileName :=
  [['.'], ['.', '.'], objectFileName (hsmGenerateObjectHandle type counter)]

theorem saved_alone_keys (type counter : Nat) :
    (savedAlone type counter).keys = [objectFileName (hsmGenerateObjectHandle type counter)] := by
  simp [savedAlone, hsmStorageSaveObject, generatedAt, wholeWrite, freshStorage]

theorem entries_alone_listing (type counter : Nat) :
    DirectoryListing (savedAlone type counter) (entriesAlone type counter) := by
  rw [DirectoryListing, saved_alone_keys]
  exact List.Perm.refl _

/-- The first private key of a process is found again. -/
theorem first_private_key_enumerated :
    EnumerationExact (savedAlone objTypePrivateKey 1) (entriesAlone objTypePrivateKey 1) := by
  have fits : (savedAlone objTypePrivateKey 1).keys.length ≤ hsmMaxObjects := by
    rw [saved_alone_keys]
    decide
  apply (enumeration_exact_iff _ _ (entries_alone_listing objTypePrivateKey 1) fits).mpr
  intro name member _
  rw [saved_alone_keys] at member
  exact ⟨_, by decide, List.mem_singleton.mp member⟩

/-- A private key generated late in a process has a handle of nine digits; the first eight are
taken for the handle, and no file has that name. -/
theorem late_private_key_misread :
    DirectoryListing (savedAlone objTypePrivateKey 0xe0000001)
        (entriesAlone objTypePrivateKey 0xe0000001) ∧
      ¬ EnumerationExact (savedAlone objTypePrivateKey 0xe0000001)
        (entriesAlone objTypePrivateKey 0xe0000001) := by
  refine ⟨entries_alone_listing _ _, fun exact => ?_⟩
  have listed : 0x10000000 ∈
      (hsmStorageListObjects (some (entriesAlone objTypePrivateKey 0xe0000001))).1 := by
    decide +kernel
  have there := ((exact.exactly _).mp listed).2
  rw [AList.mem_keys, saved_alone_keys, List.mem_singleton] at there
  exact absurd (object_file_name_injective _ _ there) (by decide)

end PstHsm
