import PstHsm.CriticalSections
import PstHsm.Effects
import PstHsm.Locks

/-!
# The sections under the lock of the slot

`hsm_create_session`, `hsm_destroy_session`, `hsm_create_object`, `hsm_destroy_object`, the last
part of `C_GenerateKeyPair` and what `C_Login`, `C_SetPIN` and `C_InitPIN` do with the PINs once
more, one access to the shared memory at a time, so that threads can be interleaved at each of
them. The slot, both handle counters and the storage are shared. A loop over a table looks at one
entry after the other, and an increment reads before it writes.

The library stays initialized, so that the context is there and the slot is the one slot. A file
is written or removed in one access, and so is a hash compared or copied. The mutex of a session
is not locked here, and the fields of a session, which are under that one, are not written.

Most calls come in by a session that they looked up before, and read the number of its slot from
it while they do not have the lock. A session that another thread has closed by then is freed, and
what the call does next is not known: it is a parameter here.
-/

namespace PstHsm

open Tables CriticalSections

/-- What the threads share. -/
structure SlotMemory where
  context : HsmContext
  gNextSessionHandle : CkSessionHandle
  handleCounter : Nat
  storage : Storage

namespace SlotMemory

def slot (memory : SlotMemory) : HsmSlot := memory.context.slot

def onSlot (change : HsmSlot → HsmSlot) (memory : SlotMemory) : SlotMemory :=
  { memory with context := { memory.context with slot := change memory.context.slot } }

/-- The process with this memory. -/
def system (memory : SlotMemory) : System :=
  ⟨some memory.context, memory.gNextSessionHandle, memory.handleCounter, memory.storage⟩

end SlotMemory

/-- A return code and the handles written. -/
abbrev SlotAnswer := CkRv × List CkObjectHandle

abbrev SlotProgram := Program LockName SlotMemory

namespace Threaded

/-! ## Tables and handles -/

section Scans

variable {capacity : Nat} {α : Type}

/-- The loop to the first entry that passes the test. -/
def scan (table : SlotMemory → Table capacity α) (test : Option α → Bool) :
    List (Fin capacity) → SlotProgram (Option (Fin capacity × Option α))
  | [] => return none
  | idx :: rest => do
    let entry ← read fun memory => table memory idx
    if test entry then return some (idx, entry) else scan table test rest

/-- The loop that looks for two null entries, with the first one once it has it. -/
def scanPair (table : SlotMemory → Table capacity α) (pubIdx : Option (Fin capacity)) :
    List (Fin capacity) → SlotProgram (Option (Fin capacity × Fin capacity))
  | [] => return none
  | idx :: rest => do
    let entry ← read fun memory => table memory idx
    if entry.isSome then scanPair table pubIdx rest
    else
      match pubIdx with
      | none => scanPair table (some idx) rest
      | some pubIdx => return some (pubIdx, idx)

end Scans

/-- `hsm_generate_object_handle`. -/
def hsmGenerateObjectHandle (type : Nat) : SlotProgram CkObjectHandle := do
  lock .objectHandleLock
  let counter ← read SlotMemory.handleCounter
  write fun memory => { memory with handleCounter := advanceCounter counter }
  unlock .objectHandleLock
  return PstHsm.hsmGenerateObjectHandle type counter

/-- The handle of a new session. -/
def nextSessionHandle : SlotProgram CkSessionHandle := do
  lock .sessionHandleLock
  let handle ← read SlotMemory.gNextSessionHandle
  write fun memory => { memory with gNextSessionHandle := (handle + 1) % 2 ^ 64 }
  unlock .sessionHandleLock
  return handle

/-! ## Sessions -/

def putSession (idx : Fin hsmMaxSessions) (session : Option HsmSession) : SlotProgram Unit :=
  write (SlotMemory.onSlot fun slot => { slot with sessions := put slot.sessions idx session })

/-- `hsm_create_session`. -/
def hsmCreateSession (env : Env) (flags : CkFlags) : SlotProgram SlotAnswer := do
  lock .slotLock
  let sessionCount ← read fun memory => memory.slot.sessionCount
  if sessionCount ≥ hsmMaxSessions then
    unlock .slotLock
    return (.sessionCount, [])
  else
    let free ← scan (fun memory => memory.slot.sessions) Option.isNone
      (List.finRange hsmMaxSessions)
    match free with
    | none =>
      unlock .slotLock
      return (.sessionCount, [])
    | some (idx, _) =>
      if !env.calloc 0 then
        unlock .slotLock
        return (.hostMemory, [])
      else
        let handle ← nextSessionHandle
        putSession idx (some (freshSession handle flags env.now))
        let sessionCount ← read fun memory => memory.slot.sessionCount
        write (SlotMemory.onSlot fun slot => { slot with sessionCount := sessionCount + 1 })
        unlock .slotLock
        return (.ok, [handle])

/-- `hsm_destroy_session`. The entry is cleared with the session that is freed: nobody else looks
at the entry in between, and the session is gone from then on. -/
def hsmDestroySession (hSession : CkSessionHandle) : SlotProgram SlotAnswer := do
  lock .slotLock
  let found ← scan (fun memory => memory.slot.sessions)
    (fun entry => entry.any fun session => session.handle = hSession)
    (List.finRange hsmMaxSessions)
  match found with
  | none =>
    unlock .slotLock
    return (.sessionHandleInvalid, [])
  | some (idx, _) =>
    putSession idx none
    let sessionCount ← read fun memory => memory.slot.sessionCount
    write (SlotMemory.onSlot fun slot => { slot with sessionCount := sessionCount - 1 })
    unlock .slotLock
    return (.ok, [])

/-! ## Objects -/

def putObject (idx : Fin hsmMaxObjects) (object : Option HsmObject) : SlotProgram Unit :=
  write (SlotMemory.onSlot fun slot => { slot with objects := put slot.objects idx object })

/-- A call of `hsm_storage_save_object`, made for token objects only. -/
def saveToken (object : HsmObject) (outcome : WriteOutcome) : SlotProgram Unit :=
  if object.isToken then
    write fun memory =>
      { memory with storage := (hsmStorageSaveObject object outcome memory.storage).2 }
  else return ()

/-- `hsm_create_object` from its lock on. As in `hsm_create_session`, the branch without a free
entry is not taken. -/
def hsmCreateObject (env : Env) (pTemplate : List CkAttribute) : SlotProgram SlotAnswer := do
  lock .slotLock
  let objectCount ← read fun memory => memory.slot.objectCount
  if objectCount ≥ hsmMaxObjects then
    unlock .slotLock
    return (.hostMemory, [])
  else
    let free ← scan (fun memory => memory.slot.objects) Option.isNone
      (List.finRange hsmMaxObjects)
    match free with
    | none =>
      unlock .slotLock
      return (.hostMemory, [])
    | some (idx, _) =>
      if !env.calloc 0 then
        unlock .slotLock
        return (.hostMemory, [])
      else
        let object := hsmParseTemplate pTemplate {}
        let handle ← hsmGenerateObjectHandle object.type
        let object := { object with handle := handle }
        putObject idx (some object)
        let objectCount ← read fun memory => memory.slot.objectCount
        write (SlotMemory.onSlot fun slot => { slot with objectCount := objectCount + 1 })
        saveToken object (env.objectWrite 0)
        unlock .slotLock
        return (.ok, [handle])

/-- `hsm_destroy_object` from its lock on. -/
def hsmDestroyObject (env : Env) (hObject : CkObjectHandle) : SlotProgram SlotAnswer := do
  lock .slotLock
  let found ← scan (fun memory => memory.slot.objects)
    (fun entry => entry.any fun object => object.handle = hObject)
    (List.finRange hsmMaxObjects)
  match found with
  | some (idx, some object) =>
    if object.isToken then
      write fun memory =>
        { memory with storage := (hsmStorageDeleteObject hObject env.unlink memory.storage).2 }
    putObject idx none
    let objectCount ← read fun memory => memory.slot.objectCount
    write (SlotMemory.onSlot fun slot => { slot with objectCount := objectCount - 1 })
    unlock .slotLock
    return (.ok, [])
  | _ =>
    unlock .slotLock
    return (.objectHandleInvalid, [])

/-- The section of `C_GenerateKeyPair` that adds both halves to the slot. -/
def insertKeyPair (env : Env) (pubObj privObj : HsmObject) : SlotProgram SlotAnswer := do
  lock .slotLock
  let free ← scanPair (fun memory => memory.slot.objects) none (List.finRange hsmMaxObjects)
  match free with
  | none =>
    unlock .slotLock
    return (.hostMemory, [])
  | some (pubIdx, privIdx) =>
    let pubHandle ← hsmGenerateObjectHandle objTypePublicKey
    let privHandle ← hsmGenerateObjectHandle objTypePrivateKey
    let pubObj := { pubObj with handle := pubHandle }
    let privObj := { privObj with handle := privHandle }
    putObject pubIdx (some pubObj)
    putObject privIdx (some privObj)
    let objectCount ← read fun memory => memory.slot.objectCount
    write (SlotMemory.onSlot fun slot => { slot with objectCount := objectCount + 2 })
    saveToken pubObj (env.objectWrite 0)
    saveToken privObj (env.objectWrite 1)
    unlock .slotLock
    return (.ok, [pubHandle, privHandle])

/-! ## PINs -/

def readRetryCount (userType : CkUserType) : SlotProgram Nat :=
  read fun memory => (memory.slot.pinFields userType).retryCount

/-- Write through the pointer to the counter only. -/
def storeRetryCount (userType : CkUserType) (retryCount : Nat) : SlotProgram Unit :=
  write (SlotMemory.onSlot fun slot =>
    slot.storeAttempts userType retryCount (slot.pinFields userType).locked)

/-- Write through the pointer to the lock only. -/
def storeLocked (userType : CkUserType) : SlotProgram Unit :=
  write (SlotMemory.onSlot fun slot =>
    slot.storeAttempts userType (slot.pinFields userType).retryCount true)

/-- The decrement, for which the counter is read again. -/
def spendAttempt (userType : CkUserType) : SlotProgram Unit := do
  let retryCount ← readRetryCount userType
  if retryCount > 0 then
    let retryCount ← readRetryCount userType
    storeRetryCount userType (retryCount - 1)
  else return ()

/-- The lock once nothing is left, for which the counter is read once more. -/
def lockExhausted (userType : CkUserType) : SlotProgram CkRv := do
  let retryCount ← readRetryCount userType
  if retryCount = 0 then
    storeLocked userType
    return .pinLocked
  else return .pinIncorrect

/-- `hsm_verify_pin`. -/
def hsmVerifyPin (sha256 : Sha256) (userType : CkUserType) (pPin : Bytes) : SlotProgram CkRv := do
  let initialized ← read fun memory => (memory.slot.pinFields userType).initialized
  if !initialized then return .userPinNotInitialized
  else
    let locked ← read fun memory => (memory.slot.pinFields userType).locked
    if locked then return .pinLocked
    else
      let storedHash ← read fun memory => (memory.slot.pinFields userType).storedHash
      if sha256 pPin ≠ storedHash then
        spendAttempt userType
        lockExhausted userType
      else
        storeRetryCount userType hsmPinRetryCount
        return .ok

/-- `hsm_set_pin`. -/
def hsmSetPin (sha256 : Sha256) (userType : CkUserType) (pPin : Bytes) : SlotProgram CkRv :=
  if pPin.length < hsmMinPinLen || pPin.length > hsmMaxPinLen then return .pinLenRange
  else do
    write (SlotMemory.onSlot fun slot =>
      if userType = ckuSo then { slot with soPinHash := sha256 pPin }
      else { slot with userPinHash := sha256 pPin })
    return .ok

/-- The call of `hsm_storage_save_token_info`. -/
def saveTokenInfo (env : Env) : SlotProgram Unit :=
  write fun memory =>
    { memory with
      storage := (hsmStorageSaveTokenInfo memory.slot env.tokenWrite memory.storage).2 }

/-- The section of `C_Login`, but for its session. -/
def login (sha256 : Sha256) (userType : CkUserType) (pPin : Bytes) : SlotProgram SlotAnswer := do
  lock .slotLock
  let rv ← hsmVerifyPin sha256 userType pPin
  unlock .slotLock
  return (rv, [])

/-- The section of `C_SetPIN`. -/
def changePin (sha256 : Sha256) (env : Env) (session : HsmSession) (pOldPin pNewPin : Bytes) :
    SlotProgram SlotAnswer := do
  lock .slotLock
  let rv ← hsmVerifyPin sha256 session.pinOwner pOldPin
  if rv ≠ .ok then
    unlock .slotLock
    return (rv, [])
  else
    let rv ← hsmSetPin sha256 session.pinOwner pNewPin
    if rv ≠ .ok then
      unlock .slotLock
      return (rv, [])
    else
      write (SlotMemory.onSlot fun slot =>
        if session.pinOwner = ckuUser then { slot with userPinRetryCount := hsmPinRetryCount }
        else { slot with soPinRetryCount := hsmPinRetryCount })
      saveTokenInfo env
      unlock .slotLock
      return (rv, [])

/-- The section of `C_InitPIN`. -/
def initPin (sha256 : Sha256) (env : Env) (pPin : Bytes) : SlotProgram SlotAnswer := do
  lock .slotLock
  let rv ← hsmSetPin sha256 ckuUser pPin
  if rv ≠ .ok then
    unlock .slotLock
    return (rv, [])
  else
    write (SlotMemory.onSlot fun slot => { slot with userPinInitialized := true })
    write (SlotMemory.onSlot fun slot => { slot with userPinLocked := false })
    write (SlotMemory.onSlot fun slot => { slot with userPinRetryCount := hsmPinRetryCount })
    saveTokenInfo env
    unlock .slotLock
    return (rv, [])

end Threaded

/-! ## Calls -/

/-- A new PIN whose length has been checked. -/
abbrev NewPin := { pin : Bytes // hsmMinPinLen ≤ pin.length ∧ pin.length ≤ hsmMaxPinLen }

/-- A session as `hsm_get_session` found it, with its entry. -/
abbrev CameBy := Fin hsmMaxSessions × HsmSession

/-- What threads call, with the session that they came in by. Of that session only the number of
its slot is read, and for `C_SetPIN` who is logged in. -/
inductive SlotCall where
  | createSession (flags : CkFlags) (env : Env)
  | destroySession (hSession : CkSessionHandle)
  | createObject (cameBy : CameBy) (pTemplate : List CkAttribute) (env : Env)
  | destroyObject (cameBy : CameBy) (hObject : CkObjectHandle) (env : Env)
  | insertKeyPair (cameBy : CameBy) (pubObj privObj : HsmObject) (env : Env)
  | login (cameBy : CameBy) (userType : CkUserType) (pPin : Bytes)
  | changePin (cameBy : CameBy) (pOldPin : Bytes) (pNewPin : NewPin) (env : Env)
  | initPin (cameBy : CameBy) (pPin : NewPin) (env : Env)

namespace SlotCall

/-- The session that the call came in by. -/
def cameBy : SlotCall → Option CameBy
  | .createSession _ _ => none
  | .destroySession _ => none
  | .createObject cameBy _ _ => some cameBy
  | .destroyObject cameBy _ _ => some cameBy
  | .insertKeyPair cameBy _ _ _ => some cameBy
  | .login cameBy _ _ => some cameBy
  | .changePin cameBy _ _ _ => some cameBy
  | .initPin cameBy _ _ => some cameBy

/-- The session that the call came in by is still open. -/
def sessionOpen (call : SlotCall) (memory : SlotMemory) : Bool :=
  match call.cameBy with
  | none => true
  | some (index, session) =>
    (memory.slot.sessions index).any fun there => there.handle = session.handle

/-- What the call does from the lock on, access by access. -/
def underLock (sha256 : Sha256) : SlotCall → SlotProgram SlotAnswer
  | .createSession flags env => Threaded.hsmCreateSession env flags
  | .destroySession hSession => Threaded.hsmDestroySession hSession
  | .createObject _ pTemplate env => Threaded.hsmCreateObject env pTemplate
  | .destroyObject _ hObject env => Threaded.hsmDestroyObject env hObject
  | .insertKeyPair _ pubObj privObj env => Threaded.insertKeyPair env pubObj privObj
  | .login _ userType pPin => Threaded.login sha256 userType pPin
  | .changePin cameBy pOldPin pNewPin env =>
    Threaded.changePin sha256 env cameBy.2 pOldPin pNewPin
  | .initPin _ pPin env => Threaded.initPin sha256 env pPin

/-- A call, access by access. One that came in by a session reads `session->slot_id` first, which
is the number of the one slot unless the session has been freed. -/
def program (sha256 : Sha256) (astray : SlotProgram SlotAnswer) (call : SlotCall) :
    SlotProgram SlotAnswer :=
  match call.cameBy with
  | none => call.underLock sha256
  | some _ => guarded call.sessionOpen astray (call.underLock sha256)

end SlotCall

/-- A call in one step, as everywhere else. -/
def SlotCall.inOneStep (sha256 : Sha256) (call : SlotCall) (system : System) :
    SlotAnswer × System :=
  match system.gHsmContext with
  | none => ((.cryptokiNotInitialized, []), system)
  | some context =>
    match call with
    | .createSession flags env =>
      let (rv, handle, system) := hsmCreateSession env system context flags
      ((rv, handle.toList), system)
    | .destroySession hSession =>
      let (rv, system) := hsmDestroySession system hSession
      ((rv, []), system)
    | .createObject (index, session) pTemplate env =>
      let (rv, handle, system) := hsmCreateObject env system ⟨context, index, session⟩ pTemplate
      ((rv, handle.toList), system)
    | .destroyObject (index, session) hObject env =>
      let (rv, system) := hsmDestroyObject env system ⟨context, index, session⟩ hObject
      ((rv, []), system)
    | .insertKeyPair _ pubObj privObj env =>
      let (rv, handles, system) := PstHsm.insertKeyPair env system context pubObj privObj
      ((rv, (handles.map fun pair => [pair.1, pair.2]).getD []), system)
    | .login _ userType pPin =>
      let (rv, slot) := hsmVerifyPin sha256 context.slot userType pPin
      ((rv, []), system.withSlot context slot)
    | .changePin (_, session) pOldPin pNewPin env =>
      let (rv, slot) := hsmVerifyPin sha256 context.slot session.pinOwner pOldPin
      if rv ≠ .ok then ((rv, []), system.withSlot context slot)
      else
        ((.ok, []), system.withSavedSlot env context
          (slot.pinReplaced session.pinOwner (sha256 pNewPin)))
    | .initPin _ pPin env =>
      ((.ok, []), system.withSavedSlot env context (context.slot.userPinSet (sha256 pPin)))

end PstHsm
