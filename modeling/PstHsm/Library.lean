import PstHsm.Signing
import PstHsm.KeyGeneration

/-!
# The library as a whole

Initialization and finalization, the information functions of `pkcs11_impl.c`,
and one step function over all entry points. A new process starts with fresh
static variables over the storage the old one left.
-/

namespace PstHsm

open Tables

/-! ## Initialization and finalization -/

/-- `hsm_init_slot` on a zeroed slot, up to the loading of the token file. -/
def blankSlot : HsmSlot :=
  { tokenPresent := true
    tokenLabel := Buffer.filled 32 0
    tokenInitialized := false
    userPinInitialized := false
    soPinInitialized := false
    userPinHash := Buffer.filled 32 0
    soPinHash := Buffer.filled 32 0
    userPinRetryCount := hsmPinRetryCount
    soPinRetryCount := hsmPinRetryCount
    userPinLocked := false
    soPinLocked := false
    sessions := empty
    sessionCount := 0
    objects := empty
    objectCount := 0 }

/-- `hsm_init_slot`. -/
def hsmInitSlot (fopen : Bool) (storage : Storage) : HsmSlot :=
  hsmStorageLoadTokenInfo fopen storage blankSlot

/-- `hsm_init_context`, together with the slot `C_Initialize` creates. -/
def hsmInitContext (slot : HsmSlot) : HsmContext :=
  { slot := slot
    maxSessions := hsmMaxSessions
    maxObjects := hsmMaxObjects
    enforceTimeouts := true
    sessionTimeout := hsmSessionTimeout }

/-- `C_Initialize`. -/
def cInitialize (env : Env) (system : System) : CkRv × System :=
  match system.gHsmContext with
  | some _ => (.cryptokiAlreadyInitialized, system)
  | none =>
    let (rv, storage) := hsmStorageInit env system.storage
    if rv ≠ .ok then (rv, { system with storage := storage })
    else if !env.calloc 0 then (.hostMemory, { system with storage := storage })
    else
      (.ok, { system with
        gHsmContext := some (hsmInitContext (hsmInitSlot env.tokenRead storage))
        storage := storage })

/-- `C_Finalize`. The slot with its sessions and objects is freed. -/
def cFinalize (system : System) (pReserved : Bool) : CkRv × System :=
  if pReserved then (.argumentsBad, system)
  else
    match system.gHsmContext with
    | none => (.cryptokiNotInitialized, system)
    | some _ => (.ok, { system with gHsmContext := none })

/-- A process that has just started over the given storage. -/
def bootProcess (storage : Storage) : System :=
  { gHsmContext := none
    gNextSessionHandle := 1
    handleCounter := 1
    storage := storage }

/-! ## Information -/

def manufacturerId : Bytes := "PST Cryptographic Systems".toUTF8.toList

/-- A text field: the text at the start of a blank field. -/
def textField (size : Nat) (text : Bytes) : Buffer size := (Buffer.filled size 32).overwrite text

structure CkInfo where
  cryptokiVersion : Nat × Nat
  manufacturerID : Buffer 32
  flags : CkFlags
  libraryDescription : Buffer 32
  libraryVersion : Nat × Nat
  deriving DecidableEq

/-- `C_GetInfo`. -/
def cGetInfo (system : System) (pInfo : Bool) : CkRv × Option CkInfo :=
  if !pInfo then (.argumentsBad, none)
  else
    match system.gHsmContext with
    | none => (.cryptokiNotInitialized, none)
    | some _ =>
      (.ok, some {
        cryptokiVersion := (2, 40)
        manufacturerID := textField 32 manufacturerId
        flags := 0
        libraryDescription := textField 32 "PST HSM PKCS#11 Library".toUTF8.toList
        libraryVersion := (1, 0) })

/-- `C_GetSlotList`: the slot numbers written, if any, and the count. -/
def cGetSlotList (system : System) (tokenPresent : Bool) (pSlotList : Bool)
    (pulCount : Option CkUlong) : CkRv × Option (List CkSlotId × CkUlong) :=
  match pulCount with
  | none => (.argumentsBad, none)
  | some room =>
    match system.gHsmContext with
    | none => (.cryptokiNotInitialized, some ([], room))
    | some context =>
      let listed : List CkSlotId := if !tokenPresent || context.slot.tokenPresent then [0] else []
      if !pSlotList then (.ok, some ([], listed.length))
      else if room < listed.length then (.bufferTooSmall, some ([], listed.length))
      else (.ok, some (listed, listed.length))

structure CkSlotInfo where
  slotDescription : Buffer 64
  manufacturerID : Buffer 32
  flags : CkFlags
  deriving DecidableEq

/-- `C_GetSlotInfo`. The description ends with the zero byte of `snprintf`. -/
def cGetSlotInfo (system : System) (slotID : CkSlotId) (pInfo : Bool) :
    CkRv × Option CkSlotInfo :=
  if !pInfo then (.argumentsBad, none)
  else
    match system.gHsmContext with
    | none => (.cryptokiNotInitialized, none)
    | some context =>
      if slotID ≥ slotCount then (.slotIdInvalid, none)
      else (.ok, some {
        slotDescription := textField 64 ("PST HSM Slot 0".toUTF8.toList ++ [0])
        manufacturerID := textField 32 manufacturerId
        flags := if context.slot.tokenPresent then 0x4 ||| 0x1 else 0x4 })

structure CkTokenInfo where
  label : Buffer 32
  manufacturerID : Buffer 32
  model : Buffer 16
  serialNumber : Buffer 16
  flags : CkFlags
  ulMaxSessionCount : CkUlong
  ulSessionCount : CkUlong
  ulMaxRwSessionCount : CkUlong
  ulRwSessionCount : CkUlong
  ulMaxPinLen : CkUlong
  ulMinPinLen : CkUlong
  ulTotalPublicMemory : CkUlong
  ulFreePublicMemory : CkUlong
  ulTotalPrivateMemory : CkUlong
  ulFreePrivateMemory : CkUlong
  utcTime : Buffer 16
  deriving DecidableEq

/-- The label field: the stored label up to its first zero byte, or a default
name when it starts with one. -/
def reportedLabel (tokenLabel : Buffer 32) : Buffer 32 :=
  if Bytes.cString tokenLabel.toList = [] then textField 32 "PST HSM Token".toUTF8.toList
  else textField 32 (Bytes.cString tokenLabel.toList)

/-- The time in sixteen uppercase digits; the field keeps fifteen and a zero byte. -/
def reportedSerial (now : Nat) : Buffer 16 :=
  let digits := (HexNames.paddedHex 16 now).map fun digit => UInt8.ofNat digit.toUpper.toNat
  (Buffer.filled 16 32).overwrite (digits.take 15 ++ [0])

/-- The flag bits of `C_GetTokenInfo`. -/
def tokenFlags (slot : HsmSlot) : CkFlags :=
  0x1 ||| 0x4 ||| (if slot.tokenInitialized then 0x400 else 0) |||
    (if slot.userPinInitialized then 0x8 else 0) ||| (if slot.userPinLocked then 0x40000 else 0)

/-- `C_GetTokenInfo`. -/
def cGetTokenInfo (env : Env) (system : System) (slotID : CkSlotId) (pInfo : Bool) :
    CkRv × Option CkTokenInfo :=
  if !pInfo then (.argumentsBad, none)
  else
    match system.gHsmContext with
    | none => (.cryptokiNotInitialized, none)
    | some context =>
      if slotID ≥ slotCount then (.slotIdInvalid, none)
      else if !context.slot.tokenPresent then (.tokenNotPresent, none)
      else (.ok, some {
        label := reportedLabel context.slot.tokenLabel
        manufacturerID := textField 32 manufacturerId
        model := textField 16 "PST-HSM-001".toUTF8.toList
        serialNumber := reportedSerial env.now
        flags := tokenFlags context.slot
        ulMaxSessionCount := hsmMaxSessions
        ulSessionCount := context.slot.sessionCount
        ulMaxRwSessionCount := hsmMaxSessions
        ulRwSessionCount := context.slot.sessionCount
        ulMaxPinLen := hsmMaxPinLen
        ulMinPinLen := hsmMinPinLen
        ulTotalPublicMemory := ckUnavailableInformation
        ulFreePublicMemory := ckUnavailableInformation
        ulTotalPrivateMemory := ckUnavailableInformation
        ulFreePrivateMemory := ckUnavailableInformation
        utcTime := Buffer.filled 16 32 })

/-- `C_GetMechanismList`: the mechanisms written, if any, and the count. -/
def cGetMechanismList (system : System) (slotID : CkSlotId) (pMechanismList : Bool)
    (pulCount : Option CkUlong) : CkRv × Option (List CkMechanismType × CkUlong) :=
  match pulCount with
  | none => (.argumentsBad, none)
  | some room =>
    match system.gHsmContext with
    | none => (.cryptokiNotInitialized, some ([], room))
    | some _ =>
      if slotID ≥ slotCount then (.slotIdInvalid, some ([], room))
      else if !pMechanismList then (.ok, some ([], supportedMechanisms.length))
      else if room < supportedMechanisms.length then
        (.bufferTooSmall, some ([], supportedMechanisms.length))
      else (.ok, some (supportedMechanisms, supportedMechanisms.length))

structure CkMechanismInfo where
  ulMinKeySize : CkUlong
  ulMaxKeySize : CkUlong
  flags : CkFlags
  deriving DecidableEq

/-- The switch of `C_GetMechanismInfo`. -/
def mechanismInfo (type : CkMechanismType) : Option CkMechanismInfo :=
  if type = ckmRsaPkcsKeyPairGen then some ⟨2048, 4096, 0x1 ||| 0x10000⟩
  else if type ∈ [ckmRsaPkcs, ckmRsaPkcsPss, ckmSha256RsaPkcs, ckmSha384RsaPkcs,
      ckmSha512RsaPkcs, ckmSha256RsaPkcsPss, ckmSha384RsaPkcsPss, ckmSha512RsaPkcsPss] then
    some ⟨2048, 4096, 0x1 ||| 0x800 ||| 0x2000⟩
  else if type = ckmEcKeyPairGen then some ⟨256, 521, 0x1 ||| 0x10000 ||| 0x800000⟩
  else if type ∈ [ckmEcdsa, ckmEcdsaSha256, ckmEcdsaSha384, ckmEcdsaSha512] then
    some ⟨256, 521, 0x1 ||| 0x800 ||| 0x2000 ||| 0x800000⟩
  else if type ∈ [ckmSha256, ckmSha384, ckmSha512] then some ⟨0, 0, 0x1 ||| 0x400⟩
  else none

/-- `C_GetMechanismInfo`. -/
def cGetMechanismInfo (system : System) (slotID : CkSlotId) (type : CkMechanismType)
    (pInfo : Bool) : CkRv × Option CkMechanismInfo :=
  if !pInfo then (.argumentsBad, none)
  else
    match system.gHsmContext with
    | none => (.cryptokiNotInitialized, none)
    | some _ =>
      if slotID ≥ slotCount then (.slotIdInvalid, none)
      else if hsmCheckMechanismSupported type ≠ .ok then (.mechanismInvalid, none)
      else
        match mechanismInfo type with
        | none => (.mechanismInvalid, none)
        | some info => (.ok, some info)

end PstHsm
