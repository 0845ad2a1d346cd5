import PstHsm.Mutexes
import PstHsm.Api

/-!
# The library with its mutexes

The entry points once more, each with the mutex operations on its way, in the order of
the source and on every return path. One slot has one lock, every session has its own,
and two static locks guard the handle generators. Entry points that touch no mutex are
taken as they are. What the calls compute is unchanged.
-/

namespace PstHsm

open Tables Mutexes

/-- The mutexes of the library. -/
inductive LockName where
  | globalLock
  | slotLock
  | sessionLock (index : Fin hsmMaxSessions)
  | sessionHandleLock
  | objectHandleLock
  deriving DecidableEq

/-- A computation of the library with its mutex operations. -/
abbrev Locking (α : Type) : Type := Traced LockName α

namespace Locked

/-! ## Initialization and finalization -/

/-- The mutex part of `hsm_init_context`. -/
def hsmInitContext : Locking PUnit := init .globalLock

/-- `hsm_cleanup_context`. -/
def hsmCleanupContext : Locking PUnit := destroy .globalLock

/-- `hsm_init_slot`. -/
def hsmInitSlot (fopen : Bool) (storage : Storage) : Locking HsmSlot := do
  init .slotLock
  return PstHsm.hsmInitSlot fopen storage

/-- `C_Initialize`. Its call of `hsm_init_slot` cannot fail, since slot 0 exists. -/
def cInitialize (env : Env) (system : System) : Locking (CkRv × System) := do
  lock .globalLock
  match system.gHsmContext with
  | some _ =>
    unlock .globalLock
    return (.cryptokiAlreadyInitialized, system)
  | none =>
    hsmInitContext
    let (rv, storage) := hsmStorageInit env system.storage
    if rv ≠ .ok then
      hsmCleanupContext
      unlock .globalLock
      return (rv, { system with storage := storage })
    else if !env.calloc 0 then
      hsmCleanupContext
      unlock .globalLock
      return (.hostMemory, { system with storage := storage })
    else
      let slot ← hsmInitSlot env.tokenRead storage
      unlock .globalLock
      return (.ok, { system with
        gHsmContext := some (PstHsm.hsmInitContext slot)
        storage := storage })

/-- `hsm_destroy_session`. It finds the session under the lock of the slot. -/
def hsmDestroySession (system : System) (hSession : CkSessionHandle) :
    Locking (CkRv × System) :=
  match system.gHsmContext with
  | none => return (.cryptokiNotInitialized, system)
  | some context => do
    lock .slotLock
    match find context.slot.sessions (fun session => decide (session.handle = hSession)) with
    | none =>
      unlock .slotLock
      return (.sessionHandleInvalid, system)
    | some (index, _) =>
      destroy (.sessionLock index)
      unlock .slotLock
      return (.ok, system.withSlot context { context.slot with
        sessions := put context.slot.sessions index none
        sessionCount := context.slot.sessionCount - 1 })

/-- One turn of the loops that close every session of the slot. -/
def closeSessionAt (system : System) (index : Fin hsmMaxSessions) : Locking System :=
  match system.gHsmContext with
  | none => return system
  | some context =>
    match context.slot.sessions index with
    | none => return system
    | some session => do
      let (_, system) ← hsmDestroySession system session.handle
      return system

/-- The loop over all indices. -/
def closeSessions (system : System) : Locking System :=
  (List.finRange hsmMaxSessions).foldlM closeSessionAt system

/-- `hsm_cleanup_slot`. The objects go with the slot. -/
def hsmCleanupSlot (system : System) : Locking System := do
  let system ← closeSessions system
  destroy .slotLock
  return system

/-- `C_Finalize`. -/
def cFinalize (system : System) (pReserved : Bool) : Locking (CkRv × System) :=
  if pReserved then return (.argumentsBad, system)
  else do
    lock .globalLock
    match system.gHsmContext with
    | none =>
      unlock .globalLock
      return (.cryptokiNotInitialized, system)
    | some _ =>
      let system ← hsmCleanupSlot system
      unlock .globalLock
      return (.ok, { system with gHsmContext := none })

/-! ## Sessions and tokens -/

/-- `hsm_create_session`. -/
def hsmCreateSession (env : Env) (system : System) (context : HsmContext) (flags : CkFlags) :
    Locking (CkRv × Option CkSessionHandle × System) := do
  lock .slotLock
  let slot := context.slot
  if slot.sessionCount ≥ hsmMaxSessions then
    unlock .slotLock
    return (.sessionCount, none, system)
  else
    match firstFree slot.sessions with
    | none =>
      unlock .slotLock
      return (.sessionCount, none, system)
    | some index =>
      if !env.calloc 0 then
        unlock .slotLock
        return (.hostMemory, none, system)
      else
        lock .sessionHandleLock
        let handle := system.gNextSessionHandle
        unlock .sessionHandleLock
        init (.sessionLock index)
        let slot := { slot with
          sessions := put slot.sessions index (some (freshSession handle flags env.now))
          sessionCount := slot.sessionCount + 1 }
        unlock .slotLock
        return (.ok, some handle,
          { system.withSlot context slot with gNextSessionHandle := (handle + 1) % 2 ^ 64 })

/-- `C_OpenSession`. -/
def cOpenSession (env : Env) (system : System) (slotID : CkSlotId) (flags : CkFlags)
    (phSession : Bool) : Locking (CkRv × Option CkSessionHandle × System) :=
  if !phSession then return (.argumentsBad, none, system)
  else
    match system.gHsmContext with
    | none => return (.cryptokiNotInitialized, none, system)
    | some context =>
      if slotID ≥ slotCount then return (.slotIdInvalid, none, system)
      else if flags &&& ckfSerialSession = 0 then
        return (.sessionParallelNotSupported, none, system)
      else hsmCreateSession env system context flags

/-- `C_CloseSession`. -/
def cCloseSession (system : System) (hSession : CkSessionHandle) : Locking (CkRv × System) :=
  hsmDestroySession system hSession

/-- `C_CloseAllSessions`. The loop runs under the lock of the slot. -/
def cCloseAllSessions (system : System) (slotID : CkSlotId) : Locking (CkRv × System) :=
  match system.gHsmContext with
  | none => return (.cryptokiNotInitialized, system)
  | some _ =>
    if slotID ≥ slotCount then return (.slotIdInvalid, system)
    else do
      lock .slotLock
      let system ← closeSessions system
      unlock .slotLock
      return (.ok, system)

/-- `C_GetSessionInfo`. -/
def cGetSessionInfo (system : System) (hSession : CkSessionHandle) (pInfo : Bool) :
    Locking (CkRv × Option CkSessionInfo) :=
  if !pInfo then return (.argumentsBad, none)
  else
    match hsmGetSession system hSession with
    | .error rv => return (rv, none)
    | .ok found => do
      lock (.sessionLock found.index)
      let info : CkSessionInfo := {
        slotID := 0
        state := found.session.state.reported
        flags :=
          if found.session.isReadWrite then ckfSerialSession ||| ckfRwSession
          else ckfSerialSession
        ulDeviceError := 0 }
      unlock (.sessionLock found.index)
      return (.ok, some info)

/-- `C_Login`. -/
def cLogin (sha256 : Sha256) (env : Env) (system : System) (hSession : CkSessionHandle)
    (userType : CkUserType) (pPin : Option Bytes) : Locking (CkRv × System) :=
  match pPin with
  | none => return (.argumentsBad, system)
  | some pin =>
    if userType ≠ ckuSo ∧ userType ≠ ckuUser then return (.userTypeInvalid, system)
    else
      match hsmGetSession system hSession with
      | .error rv => return (rv, system)
      | .ok found => do
        lock (.sessionLock found.index)
        if found.session.userLoggedIn || found.session.soLoggedIn then
          unlock (.sessionLock found.index)
          return (.userAlreadyLoggedIn, system)
        else if userType = ckuSo ∧ !found.session.isReadWrite then
          unlock (.sessionLock found.index)
          return (.sessionReadOnly, system)
        else
          lock .slotLock
          let (rv, slot) := hsmVerifyPin sha256 found.slot userType pin
          if rv ≠ .ok then
            unlock .slotLock
            unlock (.sessionLock found.index)
            return (rv, system.withSlot found.context slot)
          else
            let session := found.session.loggedIn userType env.now
            unlock .slotLock
            unlock (.sessionLock found.index)
            return (.ok, system.withSlot found.context
              { slot with sessions := put slot.sessions found.index (some session) })

/-- `C_Logout`. -/
def cLogout (system : System) (hSession : CkSessionHandle) : Locking (CkRv × System) :=
  match hsmGetSession system hSession with
  | .error rv => return (rv, system)
  | .ok found => do
    lock (.sessionLock found.index)
    if !found.session.userLoggedIn && !found.session.soLoggedIn then
      unlock (.sessionLock found.index)
      return (.userNotLoggedIn, system)
    else
      unlock (.sessionLock found.index)
      return (.ok, system.withSession found found.session.loggedOut)

/-- `C_InitToken`. The sessions are closed under the lock of the slot. -/
def cInitToken (sha256 : Sha256) (env : Env) (system : System) (slotID : CkSlotId)
    (pPin pLabel : Option Bytes) : Locking (CkRv × System) :=
  match pPin, pLabel with
  | some pin, some label =>
    if pin.length < hsmMinPinLen || pin.length > hsmMaxPinLen then return (.pinLenRange, system)
    else
      match system.gHsmContext with
      | none => return (.cryptokiNotInitialized, system)
      | some _ =>
        if slotID ≥ slotCount then return (.slotIdInvalid, system)
        else do
          lock .slotLock
          let system ← closeSessions system
          match system.gHsmContext with
          | none =>
            unlock .slotLock
            return (.cryptokiNotInitialized, system)
          | some context =>
            let (rv, slot) := hsmSetPin sha256 context.slot ckuSo pin
            if rv ≠ .ok then
              unlock .slotLock
              return (rv, system)
            else
              let slot := slot.tokenReset (initTokenLabel pin.length label)
              unlock .slotLock
              return (.ok, system.withSavedSlot env context slot)
  | _, _ => return (.argumentsBad, system)

/-- `C_InitPIN`. -/
def cInitPIN (sha256 : Sha256) (env : Env) (system : System) (hSession : CkSessionHandle)
    (pPin : Option Bytes) : Locking (CkRv × System) :=
  match pPin with
  | none => return (.argumentsBad, system)
  | some pin =>
    if pin.length < hsmMinPinLen || pin.length > hsmMaxPinLen then return (.pinLenRange, system)
    else
      match hsmGetSession system hSession with
      | .error rv => return (rv, system)
      | .ok found => do
        lock (.sessionLock found.index)
        if !found.session.soLoggedIn then
          unlock (.sessionLock found.index)
          return (.userNotLoggedIn, system)
        else
          lock .slotLock
          let (rv, slot) := hsmSetPin sha256 found.slot ckuUser pin
          if rv ≠ .ok then
            unlock .slotLock
            unlock (.sessionLock found.index)
            return (rv, system)
          else
            let slot := { slot with
              userPinInitialized := true
              userPinLocked := false
              userPinRetryCount := hsmPinRetryCount }
            unlock .slotLock
            unlock (.sessionLock found.index)
            return (.ok, system.withSavedSlot env found.context slot)

/-- `C_SetPIN`. -/
def cSetPIN (sha256 : Sha256) (env : Env) (system : System) (hSession : CkSessionHandle)
    (pOldPin pNewPin : Option Bytes) : Locking (CkRv × System) :=
  match pOldPin, pNewPin with
  | some oldPin, some newPin =>
    if newPin.length < hsmMinPinLen || newPin.length > hsmMaxPinLen then
      return (.pinLenRange, system)
    else
      match hsmGetSession system hSession with
      | .error rv => return (rv, system)
      | .ok found => do
        lock (.sessionLock found.index)
        if !found.session.userLoggedIn && !found.session.soLoggedIn then
          unlock (.sessionLock found.index)
          return (.userNotLoggedIn, system)
        else
          lock .slotLock
          let userType := found.session.pinOwner
          let (rv, slot) := hsmVerifyPin sha256 found.slot userType oldPin
          if rv ≠ .ok then
            unlock .slotLock
            unlock (.sessionLock found.index)
            return (rv, system.withSlot found.context slot)
          else
            let (rv, slot) := hsmSetPin sha256 slot userType newPin
            if rv ≠ .ok then
              unlock .slotLock
              unlock (.sessionLock found.index)
              return (rv, system.withSlot found.context slot)
            else
              let slot :=
                if userType = ckuUser then { slot with userPinRetryCount := hsmPinRetryCount }
                else { slot with soPinRetryCount := hsmPinRetryCount }
              unlock .slotLock
              unlock (.sessionLock found.index)
              return (.ok, system.withSavedSlot env found.context slot)
  | _, _ => return (.argumentsBad, system)

/-! ## Objects -/

/-- `hsm_generate_object_handle`. -/
def hsmGenerateObjectHandle (type counter : Nat) : Locking CkObjectHandle := do
  lock .objectHandleLock
  let handle := PstHsm.hsmGenerateObjectHandle type counter
  unlock .objectHandleLock
  return handle

/-- `hsm_create_object`. -/
def hsmCreateObject (env : Env) (system : System) (found : FoundSession)
    (pTemplate : List CkAttribute) : Locking (CkRv × Option CkObjectHandle × System) := do
  lock .slotLock
  let slot := found.slot
  if slot.objectCount ≥ hsmMaxObjects then
    unlock .slotLock
    return (.hostMemory, none, system)
  else
    match firstFree slot.objects with
    | none =>
      unlock .slotLock
      return (.hostMemory, none, system)
    | some index =>
      if !env.calloc 0 then
        unlock .slotLock
        return (.hostMemory, none, system)
      else
        let object := hsmParseTemplate pTemplate {}
        let handle ← hsmGenerateObjectHandle object.type system.handleCounter
        let object := { object with handle := handle }
        let slot := { slot with
          objects := put slot.objects index (some object)
          objectCount := slot.objectCount + 1 }
        let storage := (hsmStorageSaveObject object (env.objectWrite 0) system.storage).2
        unlock .slotLock
        return (.ok, some object.handle,
          { system.withSlot found.context slot with
            handleCounter := advanceCounter system.handleCounter
            storage := storage })

/-- `hsm_destroy_object`. -/
def hsmDestroyObject (env : Env) (system : System) (found : FoundSession)
    (hObject : CkObjectHandle) : Locking (CkRv × System) := do
  lock .slotLock
  match hsmGetObject found.slot hObject with
  | .error rv =>
    unlock .slotLock
    return (rv, system)
  | .ok (index, object) =>
    let storage :=
      if object.isToken then (hsmStorageDeleteObject hObject env.unlink system.storage).2
      else system.storage
    let slot := { found.slot with
      objects := put found.slot.objects index none
      objectCount := found.slot.objectCount - 1 }
    unlock .slotLock
    return (.ok, { system.withSlot found.context slot with storage := storage })

/-- `C_CreateObject`. -/
def cCreateObject (env : Env) (system : System) (hSession : CkSessionHandle)
    (pTemplate : Option (List CkAttribute)) (phObject : Bool) :
    Locking (CkRv × Option CkObjectHandle × System) :=
  match pTemplate, phObject with
  | some template, true =>
    match hsmGetSession system hSession with
    | .error rv => return (rv, none, system)
    | .ok found => hsmCreateObject env system found template
  | _, _ => return (.argumentsBad, none, system)

/-- `C_DestroyObject`. -/
def cDestroyObject (env : Env) (system : System) (hSession : CkSessionHandle)
    (hObject : CkObjectHandle) : Locking (CkRv × System) :=
  match hsmGetSession system hSession with
  | .error rv => return (rv, system)
  | .ok found => hsmDestroyObject env system found hObject

/-- `C_FindObjectsInit`. The search reads the object table without the lock of the slot. -/
def cFindObjectsInit (system : System) (hSession : CkSessionHandle) :
    Locking (CkRv × System) :=
  match hsmGetSession system hSession with
  | .error rv => return (rv, system)
  | .ok found => do
    lock (.sessionLock found.index)
    if found.session.findActive then
      unlock (.sessionLock found.index)
      return (.operationActive, system)
    else
      let session := hsmFindObjects found.slot found.session
      unlock (.sessionLock found.index)
      return (.ok, system.withSession found { session with findActive := true, findIndex := 0 })

/-- `C_FindObjects`. -/
def cFindObjects (system : System) (hSession : CkSessionHandle) (phObject : Bool)
    (ulMaxObjectCount : CkUlong) (pulObjectCount : Bool) :
    Locking (CkRv × List CkObjectHandle × System) :=
  if !phObject || !pulObjectCount then return (.argumentsBad, [], system)
  else
    match hsmGetSession system hSession with
    | .error rv => return (rv, [], system)
    | .ok found => do
      lock (.sessionLock found.index)
      let session := found.session
      if !session.findActive then
        unlock (.sessionLock found.index)
        return (.operationNotInitialized, [], system)
      else
        let count := min ulMaxObjectCount (session.findCount - session.findIndex)
        let chunk := (List.range count).map fun offset =>
          session.findResults.getD (session.findIndex + offset) 0
        unlock (.sessionLock found.index)
        return (.ok, chunk,
          system.withSession found { session with findIndex := session.findIndex + count })

/-- `C_FindObjectsFinal`. -/
def cFindObjectsFinal (system : System) (hSession : CkSessionHandle) :
    Locking (CkRv × System) :=
  match hsmGetSession system hSession with
  | .error rv => return (rv, system)
  | .ok found => do
    lock (.sessionLock found.index)
    if !found.session.findActive then
      unlock (.sessionLock found.index)
      return (.operationNotInitialized, system)
    else
      unlock (.sessionLock found.index)
      return (.ok, system.withSession found
        { found.session with findActive := false, findCount := 0, findIndex := 0 })

/-! ## Keys and signatures -/

/-- The section that adds both halves of a key pair to the slot. -/
def insertKeyPair (env : Env) (system : System) (context : HsmContext)
    (pubObj privObj : HsmObject) :
    Locking (CkRv × Option (CkObjectHandle × CkObjectHandle) × System) := do
  lock .slotLock
  let slot := context.slot
  match freeIndices slot.objects with
  | pubIdx :: privIdx :: _ =>
    let counter := system.handleCounter
    let pubHandle ← hsmGenerateObjectHandle objTypePublicKey counter
    let privHandle ← hsmGenerateObjectHandle objTypePrivateKey (advanceCounter counter)
    let pubObj := { pubObj with handle := pubHandle }
    let privObj := { privObj with handle := privHandle }
    let slot := { slot with
      objects := put (put slot.objects pubIdx (some pubObj)) privIdx (some privObj)
      objectCount := slot.objectCount + 2 }
    let storage := (hsmStorageSaveObject pubObj (env.objectWrite 0) system.storage).2
    let storage := (hsmStorageSaveObject privObj (env.objectWrite 1) storage).2
    unlock .slotLock
    return (.ok, some (pubObj.handle, privObj.handle),
      { system.withSlot context slot with
        handleCounter := advanceCounter (advanceCounter counter)
        storage := storage })
  | _ =>
    unlock .slotLock
    return (.hostMemory, none, system)

/-- `C_GenerateKeyPair`. The session's lock covers the login check only. -/
def cGenerateKeyPair (env : Env) (system : System) (hSession : CkSessionHandle)
    (pMechanism : Option CkMechanismType)
    (pPublicKeyTemplate pPrivateKeyTemplate : List CkAttribute)
    (phPublicKey phPrivateKey : Bool) :
    Locking (CkRv × Option (CkObjectHandle × CkObjectHandle) × System) :=
  match pMechanism, phPublicKey, phPrivateKey with
  | some mechanism, true, true =>
    match hsmGetSession system hSession with
    | .error rv => return (rv, none, system)
    | .ok found => do
      lock (.sessionLock found.index)
      if !found.session.userLoggedIn then
        unlock (.sessionLock found.index)
        return (.userNotLoggedIn, none, system)
      else
        unlock (.sessionLock found.index)
        if !env.calloc 0 || !env.calloc 1 then return (.hostMemory, none, system)
        else
          match generateHalves env mechanism pPublicKeyTemplate pPrivateKeyTemplate with
          | .error rv => return (rv, none, system)
          | .ok (pubObj, privObj) => insertKeyPair env system found.context pubObj privObj
  | _, _, _ => return (.argumentsBad, none, system)

/-- `C_SignInit`. -/
def cSignInit (system : System) (hSession : CkSessionHandle)
    (pMechanism : Option CkMechanismType) (hKey : CkObjectHandle) : Locking (CkRv × System) :=
  match pMechanism with
  | none => return (.argumentsBad, system)
  | some mechanism =>
    match hsmGetSession system hSession with
    | .error rv => return (rv, system)
    | .ok found => do
      lock (.sessionLock found.index)
      if found.session.operation.active then
        unlock (.sessionLock found.index)
        return (.operationActive, system)
      else
        match hsmGetObject found.slot hKey with
        | .error rv =>
          unlock (.sessionLock found.index)
          return (rv, system)
        | .ok (_, key) =>
          if key.type ≠ objTypePrivateKey then
            unlock (.sessionLock found.index)
            return (.keyTypeInconsistent, system)
          else if !key.canSign then
            unlock (.sessionLock found.index)
            return (.keyFunctionNotPermitted, system)
          else if hsmCheckMechanismSupported mechanism ≠ .ok then
            unlock (.sessionLock found.index)
            return (.mechanismInvalid, system)
          else
            unlock (.sessionLock found.index)
            return (.ok, system.withSession found { found.session with
              operation :=
                { type := .sign, mechanism := mechanism, keyHandle := hKey, active := true } })

/-- `C_VerifyInit`. -/
def cVerifyInit (system : System) (hSession : CkSessionHandle)
    (pMechanism : Option CkMechanismType) (hKey : CkObjectHandle) : Locking (CkRv × System) :=
  match pMechanism with
  | none => return (.argumentsBad, system)
  | some mechanism =>
    match hsmGetSession system hSession with
    | .error rv => return (rv, system)
    | .ok found => do
      lock (.sessionLock found.index)
      if found.session.operation.active then
        unlock (.sessionLock found.index)
        return (.operationActive, system)
      else
        match hsmGetObject found.slot hKey with
        | .error rv =>
          unlock (.sessionLock found.index)
          return (rv, system)
        | .ok (_, key) =>
          if key.type ≠ objTypePublicKey then
            unlock (.sessionLock found.index)
            return (.keyTypeInconsistent, system)
          else
            unlock (.sessionLock found.index)
            return (.ok, system.withSession found { found.session with
              operation :=
                { type := .verify, mechanism := mechanism, keyHandle := hKey, active := true } })

/-- `C_Sign`. -/
def cSign (env : Env) (system : System) (hSession : CkSessionHandle) (pData : Option Bytes)
    (pSignature : Bool) (pulSignatureLen : Option CkUlong) :
    Locking (CkRv × Option (Option Bytes × CkUlong) × System) :=
  match pData, pulSignatureLen with
  | some data, some signatureLen =>
    match hsmGetSession system hSession with
    | .error rv => return (rv, some (none, signatureLen), system)
    | .ok found => do
      lock (.sessionLock found.index)
      let operation := found.session.operation
      if !operation.active || operation.type ≠ .sign then
        unlock (.sessionLock found.index)
        return (.operationNotInitialized, some (none, signatureLen), system)
      else
        match hsmGetObject found.slot operation.keyHandle with
        | .error rv =>
          unlock (.sessionLock found.index)
          return (rv, some (none, signatureLen),
            system.withSession found found.session.operationDropped)
        | .ok (_, privKey) =>
          let result :=
            hsmSignData env.signer privKey operation.mechanism data pSignature signatureLen
          unlock (.sessionLock found.index)
          return (result.rv, some (result.signature, result.signatureLen),
            system.withSession found found.session.operationCleared)
  | _, _ => return (.argumentsBad, none, system)

/-- `C_Verify`. -/
def cVerify (system : System) (hSession : CkSessionHandle) (pData pSignature : Option Bytes) :
    Locking (CkRv × System) :=
  match pData, pSignature with
  | some _, some _ =>
    match hsmGetSession system hSession with
    | .error rv => return (rv, system)
    | .ok found => do
      lock (.sessionLock found.index)
      let operation := found.session.operation
      if !operation.active || operation.type ≠ .verify then
        unlock (.sessionLock found.index)
        return (.operationNotInitialized, system)
      else
        match hsmGetObject found.slot operation.keyHandle with
        | .error rv =>
          unlock (.sessionLock found.index)
          return (rv, system.withSession found found.session.operationDropped)
        | .ok _ =>
          unlock (.sessionLock found.index)
          return (hsmVerifySignature, system.withSession found found.session.operationCleared)
  | _, _ => return (.argumentsBad, system)

/-! ## One call -/

/-- One API call with its mutex operations. -/
def callStep (sha256 : Sha256) (env : Env) (system : System) :
    Call → Locking (Response × System)
  | .initializeLibrary => do
    let (rv, system) ← cInitialize env system
    return (⟨rv, .nothing⟩, system)
  | .finalizeLibrary pReserved => do
    let (rv, system) ← cFinalize system pReserved
    return (⟨rv, .nothing⟩, system)
  | .initToken slotID pPin pLabel => do
    let (rv, system) ← cInitToken sha256 env system slotID pPin pLabel
    return (⟨rv, .nothing⟩, system)
  | .initPIN hSession pPin => do
    let (rv, system) ← cInitPIN sha256 env system hSession pPin
    return (⟨rv, .nothing⟩, system)
  | .setPIN hSession pOldPin pNewPin => do
    let (rv, system) ← cSetPIN sha256 env system hSession pOldPin pNewPin
    return (⟨rv, .nothing⟩, system)
  | .openSession slotID flags phSession => do
    let (rv, handle, system) ← cOpenSession env system slotID flags phSession
    return (⟨rv, .handle handle⟩, system)
  | .closeSession hSession => do
    let (rv, system) ← cCloseSession system hSession
    return (⟨rv, .nothing⟩, system)
  | .closeAllSessions slotID => do
    let (rv, system) ← cCloseAllSessions system slotID
    return (⟨rv, .nothing⟩, system)
  | .getSessionInfo hSession pInfo => do
    let (rv, info) ← cGetSessionInfo system hSession pInfo
    return (⟨rv, .sessionInfo info⟩, system)
  | .login hSession userType pPin => do
    let (rv, system) ← cLogin sha256 env system hSession userType pPin
    return (⟨rv, .nothing⟩, system)
  | .logout hSession => do
    let (rv, system) ← cLogout system hSession
    return (⟨rv, .nothing⟩, system)
  | .createObject hSession pTemplate phObject => do
    let (rv, handle, system) ← cCreateObject env system hSession pTemplate phObject
    return (⟨rv, .handle handle⟩, system)
  | .destroyObject hSession hObject => do
    let (rv, system) ← cDestroyObject env system hSession hObject
    return (⟨rv, .nothing⟩, system)
  | .findObjectsInit hSession _ => do
    let (rv, system) ← cFindObjectsInit system hSession
    return (⟨rv, .nothing⟩, system)
  | .findObjects hSession phObject ulMaxObjectCount pulObjectCount => do
    let (rv, chunk, system) ←
      cFindObjects system hSession phObject ulMaxObjectCount pulObjectCount
    return (⟨rv, .handles chunk⟩, system)
  | .findObjectsFinal hSession => do
    let (rv, system) ← cFindObjectsFinal system hSession
    return (⟨rv, .nothing⟩, system)
  | .signInit hSession pMechanism hKey => do
    let (rv, system) ← cSignInit system hSession pMechanism hKey
    return (⟨rv, .nothing⟩, system)
  | .sign hSession pData pSignature pulSignatureLen => do
    let (rv, written, system) ← cSign env system hSession pData pSignature pulSignatureLen
    return (⟨rv, .signature written⟩, system)
  | .verifyInit hSession pMechanism hKey => do
    let (rv, system) ← cVerifyInit system hSession pMechanism hKey
    return (⟨rv, .nothing⟩, system)
  | .verify hSession pData pSignature => do
    let (rv, system) ← cVerify system hSession pData pSignature
    return (⟨rv, .nothing⟩, system)
  | .generateKeyPair hSession pMechanism pPublicKeyTemplate pPrivateKeyTemplate
      phPublicKey phPrivateKey => do
    let (rv, handles, system) ← cGenerateKeyPair env system hSession pMechanism
      pPublicKeyTemplate pPrivateKeyTemplate phPublicKey phPrivateKey
    return (⟨rv, .keyPair handles⟩, system)
  | call => return PstHsm.callStep sha256 env system call

end Locked

end PstHsm
