import PstHsm.KeyRecords

/-!
# Loading a stored object

`hsm_storage_load_object` reads back the header of a record. The key data that
`hsm_storage_save_object` writes after it is not read, and the two capabilities are not written
in the first place. An object therefore comes back as it was exactly when it has no key and no
capability.
-/

namespace PstHsm

open Tables

/-- Reading back a number that fits. -/
theorem read_number_item (width current value : Nat) (fits : value < 256 ^ width) (rest : Bytes) :
    freadNumber width current (Bytes.littleEndian width value ++ rest) = (value, rest) := by
  have length : (Bytes.littleEndian width value).length = width :=
    Bytes.little_endian_length width value
  have whole : (Bytes.littleEndian width value ++ rest).take width =
      Bytes.littleEndian width value := by
    rw [List.take_append_of_le_length length.ge, List.take_of_length_le length.le]
  have tail : (Bytes.littleEndian width value ++ rest).drop width = rest := by
    rw [List.drop_append_of_le_length length.ge, List.drop_eq_nil_of_le length.le, List.nil_append]
  have replaced : (Bytes.littleEndian width current).drop width = [] :=
    List.drop_eq_nil_of_le (Bytes.little_endian_length width current).le
  simp only [freadNumber, whole, tail, length, replaced, List.append_nil,
    Bytes.little_endian_read width value fits]

/-- A saved object is loaded with its metadata; the key and the capabilities are those of the
object that is loaded into. -/
theorem load_saved (stored : TokenObject) (outcome : WriteOutcome) (complete : outcome.Complete)
    (storage : Storage) (into : HsmObject) :
    hsmStorageLoadObject stored.object.handle true
        (hsmStorageSaveObject stored.object outcome storage).2 into =
      (.ok, { stored.object with
        keyData := into.keyData
        canSign := into.canSign
        canVerify := into.canVerify }) := by
  rw [hsmStorageLoadObject, fopenRead, if_pos rfl,
    saved_object_record stored outcome complete storage, record_bytes]
  simp only [read_bool_item, read_buffer_item, read_number_item 8 _ _ stored.handle,
    read_number_item 4 _ _ stored.type, read_number_item 8 _ _ stored.idLen,
    read_number_item 4 _ _ stored.keyType]

/-! ## What operations consult -/

/-- The member of the union that the key type selects, with the other one blank. -/
def HsmObject.selectedKey (object : HsmObject) : HsmKeyData :=
  if object.keyType = keyTypeRsa then { rsa := object.keyData.rsa }
  else if object.keyType = keyTypeEc then { ec := object.keyData.ec }
  else {}

/-- All fields, of the key only the member that is in use. -/
def HsmObject.consulted (object : HsmObject) : HsmObject :=
  { object with keyData := object.selectedKey }

/-- The object loaded from its own file, once that is opened, into a zeroed one is the same to
every operation. -/
def LoadRestores (object : HsmObject) (outcome : WriteOutcome) (storage : Storage) : Prop :=
  ∃ loaded, hsmStorageLoadObject object.handle true
      (hsmStorageSaveObject object outcome storage).2 {} = (.ok, loaded) ∧
    loaded.consulted = object.consulted

/-- Without key data the member that is selected is blank. -/
theorem blank_selected (object : HsmObject) (blank : object.keyData = {}) :
    object.selectedKey = {} := by
  rw [HsmObject.selectedKey, blank]
  split
  · rfl
  · split
    · rfl
    · rfl

section Restored

variable (stored : TokenObject) (outcome : WriteOutcome) (complete : outcome.Complete)
  (storage : Storage)

include complete

/-- What comes back has no key and no capability. -/
theorem restored_blank (restored : LoadRestores stored.object outcome storage) :
    stored.object.selectedKey = {} ∧ stored.object.canSign = false ∧
      stored.object.canVerify = false := by
  obtain ⟨object, read, same⟩ := restored
  rw [load_saved stored outcome complete storage] at read
  obtain rfl := (Prod.mk.inj read).2
  have key := congrArg HsmObject.keyData same
  have sign := congrArg HsmObject.canSign same
  have verify := congrArg HsmObject.canVerify same
  exact ⟨key.symm.trans (blank_selected _ rfl), sign.symm, verify.symm⟩

/-- Loading undoes saving exactly for objects that have neither a key nor a capability. -/
theorem load_undoes_save_iff :
    LoadRestores stored.object outcome storage ↔
      stored.object.selectedKey = {} ∧ stored.object.canSign = false ∧
        stored.object.canVerify = false := by
  constructor
  · exact restored_blank stored outcome complete storage
  · rintro ⟨key, sign, verify⟩
    refine ⟨_, load_saved stored outcome complete storage {}, ?_⟩
    have blank := blank_selected { stored.object with
      keyData := {}, canSign := false, canVerify := false } rfl
    simp only [HsmObject.consulted]
    rw [key, sign, verify]
    exact congrArg (fun data : HsmKeyData => { stored.object with
      keyData := data, canSign := false, canVerify := false }) blank

/-- With the other member of the union blank, such an object comes back as itself, so that every
operation treats it as before. -/
theorem restored_object (restored : LoadRestores stored.object outcome storage)
    (alone : stored.object.consulted = stored.object) :
    hsmStorageLoadObject stored.object.handle true
        (hsmStorageSaveObject stored.object outcome storage).2 {} = (.ok, stored.object) := by
  obtain ⟨key, sign, verify⟩ := restored_blank stored outcome complete storage restored
  have data : stored.object.keyData = {} :=
    (congrArg HsmObject.keyData alone).symm.trans key
  rw [load_saved stored outcome complete storage]
  generalize stored.object = object at data sign verify
  obtain ⟨handle, type, isToken, isPrivate, isSensitive, isExtractable, label, id, idLen, keyType,
    keyData, canSign, canVerify⟩ := object
  obtain rfl := data
  obtain rfl := sign
  obtain rfl := verify
  rfl

end Restored

/-- A token object with a label. -/
def labelledData : HsmObject :=
  createdObject [entryOf ckaToken [1], entryOf ckaLabel [0x61]] 1

/-- Blank key data fits. -/
theorem no_key_fits : (({} : HsmKeyData).rsa.Fits) ∧ ({} : HsmKeyData).ec.Fits :=
  ⟨⟨by decide, by decide⟩, ⟨by decide, by decide⟩⟩

/-- It has no key. -/
def labelledToken : TokenObject where
  object := labelledData
  token := rfl
  handle := by decide +kernel
  type := by decide +kernel
  idLen := by decide +kernel
  keyType := by decide +kernel
  rsa := no_key_fits.1
  ec := no_key_fits.2

theorem labelled_token_restored : LoadRestores labelledData wholeWrite freshStorage :=
  (load_undoes_save_iff labelledToken wholeWrite ⟨rfl, fun _ => rfl⟩ freshStorage).mpr
    ⟨rfl, rfl, rfl⟩

/-- Both halves of a key pair are to be token objects. -/
def keptPair : Event :=
  calmly (.generateKeyPair 1 (some ckmEcKeyPairGen) [entryOf ckaToken [1]] [entryOf ckaToken [1]]
    true true)

/-- The private half as it is stored. -/
def keptKey : HsmObject := (live (step pinSha256 userReady keptPair).2.objects).getLastD {}

/-- All numbers of the key fit their types. -/
theorem kept_key_fits :
    (keptKey.isToken = true ∧ keptKey.handle < 256 ^ 8 ∧ keptKey.type < 256 ^ 4 ∧
        keptKey.idLen < 256 ^ 8 ∧ keptKey.keyType < 256 ^ 4) ∧
      (keptKey.keyData.rsa.bits < 256 ^ 4 ∧
        ∀ component ∈ keptKey.keyData.rsa.components, component.length < 256 ^ 8) ∧
      (keptKey.keyData.ec.curveNid < 256 ^ 4 ∧
        ∀ component ∈ keptKey.keyData.ec.components, component.length < 256 ^ 8) := by
  decide +kernel

/-- It is a token object whose numbers fit. -/
def keptToken : TokenObject where
  object := keptKey
  token := kept_key_fits.1.1
  handle := kept_key_fits.1.2.1
  type := kept_key_fits.1.2.2.1
  idLen := kept_key_fits.1.2.2.2.1
  keyType := kept_key_fits.1.2.2.2.2
  rsa := ⟨kept_key_fits.2.1.1, kept_key_fits.2.1.2⟩
  ec := ⟨kept_key_fits.2.2.1, kept_key_fits.2.2.2⟩

/-- A generated key is loaded without its numbers, and it can no longer sign. -/
theorem generated_key_not_restored :
    (keptToken.object.type = objTypePrivateKey ∧ keptToken.object.canSign = true) ∧
      ¬ LoadRestores keptToken.object wholeWrite freshStorage := by
  have signs : keptToken.object.type = objTypePrivateKey ∧ keptToken.object.canSign = true := by
    decide +kernel
  refine ⟨signs, ?_⟩
  intro restored
  obtain ⟨-, unsigned, -⟩ :=
    restored_blank keptToken wholeWrite ⟨rfl, fun _ => rfl⟩ freshStorage restored
  rw [signs.2] at unsigned
  cases unsigned

end PstHsm
