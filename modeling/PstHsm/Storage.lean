import PstHsm.HexNames
import PstHsm.Types

/-!
# Storage of the token and its objects

The token file and one file per token object, written item by item. A failed
`fopen` leaves the old content in place; a successful one truncates the file, so
a short write loses the rest of the record. Reading takes whatever the file
holds and leaves the fields beyond its end as they were; a file that is there can
fail to open for reading too.

Numbers are written least significant byte first, with the sizes of a 64-bit
platform. Errors of `fwrite` and `fclose` are not reported by the code and are
not reported here.
-/

namespace PstHsm

/-- The content left in a file by writing the items in order. -/
def writtenBytes (outcome : WriteOutcome) (items : List Bytes) : Bytes :=
  (items.zipIdx.map fun item =>
    match outcome.fwrite item.2 with
    | none => item.1
    | some reached => item.1.take reached).flatten

/-- One byte for a C `bool`. -/
def boolItem (value : Bool) : Bytes := [if value then 1 else 0]

/-- A length, followed by the bytes unless there are none. -/
def sizedItems (bytes : Bytes) : List Bytes :=
  Bytes.littleEndian 8 bytes.length :: if bytes.length > 0 then [bytes] else []

/-! ## Directories -/

/-- `hsm_storage_init`: create the directories that are missing. -/
def hsmStorageInit (env : Env) (storage : Storage) : CkRv × Storage :=
  if !storage.storageDir && !env.mkdirStorage then (.deviceError, storage)
  else
    let storage := { storage with storageDir := true }
    if !storage.keyDir && !env.mkdirKeys then (.deviceError, storage)
    else (.ok, { storage with keyDir := true })

/-! ## The token file -/

/-- What `hsm_storage_save_token_info` writes, one `fwrite` after the other. -/
def tokenInfoItems (slot : HsmSlot) : List Bytes :=
  [boolItem slot.tokenInitialized, boolItem slot.userPinInitialized,
    boolItem slot.soPinInitialized, slot.tokenLabel.toList, slot.userPinHash.toList,
    slot.soPinHash.toList]

/-- `hsm_storage_save_token_info`. -/
def hsmStorageSaveTokenInfo (slot : HsmSlot) (outcome : WriteOutcome) (storage : Storage) :
    CkRv × Storage :=
  if outcome.fopen then
    (.ok, { storage with tokenFile := some (writtenBytes outcome (tokenInfoItems slot)) })
  else (.deviceError, storage)

/-- An `fread` of a flag, which stays as it is at the end of the file. -/
def freadBool (current : Bool) : Bytes → Bool × Bytes
  | [] => (current, [])
  | byte :: rest => (byte != 0, rest)

/-- An `fread` of an array, of which the rest stays as it is at the end of the file. -/
def freadBuffer {size : Nat} (current : Buffer size) (stream : Bytes) : Buffer size × Bytes :=
  (current.overwrite (stream.take size), stream.drop size)

/-- The bytes read replace the first ones of the number in memory. -/
def freadNumber (width current : Nat) (stream : Bytes) : Nat × Bytes :=
  let bytes := stream.take width
  (Bytes.ofLittleEndian (bytes ++ (Bytes.littleEndian width current).drop bytes.length),
    stream.drop width)

/-- What `fopen` gives to read: nothing if the file is missing or cannot be opened. -/
def fopenRead (fopen : Bool) (file : Option Bytes) : Option Bytes :=
  if fopen then file else none

/-- `hsm_storage_load_token_info`. A file that cannot be opened leaves the slot as it is, for
whatever reason it cannot. -/
def hsmStorageLoadTokenInfo (fopen : Bool) (storage : Storage) (slot : HsmSlot) : HsmSlot :=
  match fopenRead fopen storage.tokenFile with
  | none => slot
  | some stream =>
    let (tokenInitialized, stream) := freadBool slot.tokenInitialized stream
    let (userPinInitialized, stream) := freadBool slot.userPinInitialized stream
    let (soPinInitialized, stream) := freadBool slot.soPinInitialized stream
    let (tokenLabel, stream) := freadBuffer slot.tokenLabel stream
    let (userPinHash, stream) := freadBuffer slot.userPinHash stream
    let (soPinHash, _) := freadBuffer slot.soPinHash stream
    { slot with
      tokenInitialized := tokenInitialized
      userPinInitialized := userPinInitialized
      soPinInitialized := soPinInitialized
      tokenLabel := tokenLabel
      userPinHash := userPinHash
      soPinHash := soPinHash }

/-! ## Object files -/

/-- The name under which every function of the storage addresses an object. -/
def objectFileName (handle : CkObjectHandle) : FileName :=
  ['o', 'b', 'j', '_'] ++ HexNames.paddedHex 8 handle ++ ['.', 'd', 'a', 't']

/-- What `hsm_storage_save_object` writes of an RSA key. -/
def rsaKeyItems (type : Nat) (rsa : HsmRsaKey) : List Bytes :=
  [Bytes.littleEndian 4 rsa.bits] ++ sizedItems rsa.modulus ++ sizedItems rsa.publicExponent ++
    if type = objTypePrivateKey then
      sizedItems rsa.privateExponent ++ sizedItems rsa.prime1 ++ sizedItems rsa.prime2 ++
        sizedItems rsa.exponent1 ++ sizedItems rsa.exponent2 ++ sizedItems rsa.coefficient
    else []

/-- What it writes of a key on an elliptic curve. -/
def ecKeyItems (type : Nat) (ec : HsmEcKey) : List Bytes :=
  [Bytes.littleEndian 4 ec.curveNid] ++ sizedItems ec.ecParams ++ sizedItems ec.ecPoint ++
    if type = objTypePrivateKey then sizedItems ec.ecPrivate else []

/-- All that it writes of an object. -/
def objectItems (object : HsmObject) : List Bytes :=
  [Bytes.littleEndian 8 object.handle, Bytes.littleEndian 4 object.type,
    boolItem object.isToken, boolItem object.isPrivate, boolItem object.isSensitive,
    boolItem object.isExtractable, object.label.toList, object.id.toList,
    Bytes.littleEndian 8 object.idLen, Bytes.littleEndian 4 object.keyType] ++
    if object.keyType = keyTypeRsa then rsaKeyItems object.type object.keyData.rsa
    else if object.keyType = keyTypeEc then ecKeyItems object.type object.keyData.ec
    else []

/-- `hsm_storage_save_object`. -/
def hsmStorageSaveObject (object : HsmObject) (outcome : WriteOutcome) (storage : Storage) :
    CkRv × Storage :=
  if !object.isToken then (.ok, storage)
  else if outcome.fopen then
    (.ok, { storage with
      keyFiles := storage.keyFiles.insert (objectFileName object.handle)
        (writtenBytes outcome (objectItems object)) })
  else (.deviceError, storage)

/-- `hsm_storage_load_object`. Only the metadata is read; the key data and the two capabilities
stay as they are in the object passed. -/
def hsmStorageLoadObject (handle : CkObjectHandle) (fopen : Bool) (storage : Storage)
    (object : HsmObject) : CkRv × HsmObject :=
  match fopenRead fopen (storage.keyFiles.lookup (objectFileName handle)) with
  | none => (.objectHandleInvalid, object)
  | some stream =>
    let (handle, stream) := freadNumber 8 object.handle stream
    let (type, stream) := freadNumber 4 object.type stream
    let (isToken, stream) := freadBool object.isToken stream
    let (isPrivate, stream) := freadBool object.isPrivate stream
    let (isSensitive, stream) := freadBool object.isSensitive stream
    let (isExtractable, stream) := freadBool object.isExtractable stream
    let (label, stream) := freadBuffer object.label stream
    let (id, stream) := freadBuffer object.id stream
    let (idLen, stream) := freadNumber 8 object.idLen stream
    let (keyType, _) := freadNumber 4 object.keyType stream
    (.ok, { object with
      handle := handle
      type := type
      isToken := isToken
      isPrivate := isPrivate
      isSensitive := isSensitive
      isExtractable := isExtractable
      label := label
      id := id
      idLen := idLen
      keyType := keyType })

/-- `hsm_storage_delete_object`. A missing file is not an error. -/
def hsmStorageDeleteObject (handle : CkObjectHandle) (unlink : Bool) (storage : Storage) :
    CkRv × Storage :=
  if (storage.keyFiles.lookup (objectFileName handle)).isNone then (.ok, storage)
  else if unlink then
    (.ok, { storage with keyFiles := storage.keyFiles.erase (objectFileName handle) })
  else (.deviceError, storage)

/-- The handle that `sscanf` with the format of the file names finds in a name. A conversion
takes at most eight characters, and what follows them is not compared. -/
def scanObjectName : FileName → Option CkObjectHandle
  | 'o' :: 'b' :: 'j' :: '_' :: rest => HexNames.scanHex 8 rest
  | _ => none

/-- The loop of `hsm_storage_list_objects` over the names that are left. -/
def listNames : List FileName → List CkObjectHandle → List CkObjectHandle
  | [], handles => handles
  | name :: rest, handles =>
    if handles.length < hsmMaxObjects then
      match scanObjectName name with
      | none => listNames rest handles
      | some handle => listNames rest (handles ++ [handle])
    else handles

/-- `hsm_storage_list_objects`, for the names in the order in which `readdir` returns them, or
none if `opendir` fails. -/
def hsmStorageListObjects (dir : Option (List FileName)) : List CkObjectHandle × Nat :=
  match dir with
  | none => ([], 0)
  | some entries => (listNames entries [], (listNames entries []).length)

/-! ## What storage functions leave alone -/

/-- Creating directories touches no file. -/
theorem storage_init_files (env : Env) (storage : Storage) :
    (hsmStorageInit env storage).2.tokenFile = storage.tokenFile ∧
      (hsmStorageInit env storage).2.keyFiles = storage.keyFiles := by
  rw [hsmStorageInit]
  split
  · exact ⟨rfl, rfl⟩
  · simp only
    split
    · exact ⟨rfl, rfl⟩
    · exact ⟨rfl, rfl⟩

/-- Saving the token touches no key file. -/
theorem save_token_info_key_files (slot : HsmSlot) (outcome : WriteOutcome) (storage : Storage) :
    (hsmStorageSaveTokenInfo slot outcome storage).2.keyFiles = storage.keyFiles := by
  rw [hsmStorageSaveTokenInfo]
  split
  · rfl
  · rfl

/-- Saving an object touches neither the directories nor the token file. -/
theorem save_object_frame (object : HsmObject) (outcome : WriteOutcome) (storage : Storage) :
    (hsmStorageSaveObject object outcome storage).2.storageDir = storage.storageDir ∧
      (hsmStorageSaveObject object outcome storage).2.keyDir = storage.keyDir ∧
      (hsmStorageSaveObject object outcome storage).2.tokenFile = storage.tokenFile := by
  rw [hsmStorageSaveObject]
  split
  · exact ⟨rfl, rfl, rfl⟩
  · split
    · exact ⟨rfl, rfl, rfl⟩
    · exact ⟨rfl, rfl, rfl⟩

/-- Distinct handles have distinct file names. -/
theorem object_file_name_injective (left right : CkObjectHandle)
    (same : objectFileName left = objectFileName right) : left = right := by
  have inner := List.append_cancel_left (List.append_cancel_right same)
  exact HexNames.padded_hex_injective 8 left right inner

end PstHsm
