import PstHsm.Pins
import PstHsm.Storage

/-!
# Sessions and tokens

The functions of `session.c`. Mutexes are no operations here: each call runs
alone, and what the model says holds of the calls that return. Null pointers are
absent options, and a byte pointer with its length is one list of bytes.
-/

namespace PstHsm

open Tables

/-- The number of slots that `C_Initialize` creates. -/
def slotCount : Nat := 1

/-- Write a slot back into the context it came from. -/
def System.withSlot (system : System) (context : HsmContext) (slot : HsmSlot) : System :=
  { system with gHsmContext := some { context with slot := slot } }

/-- A session together with where it was found. -/
structure FoundSession where
  context : HsmContext
  index : Fin hsmMaxSessions
  session : HsmSession

/-- The slot that holds the session. -/
def FoundSession.slot (found : FoundSession) : HsmSlot := found.context.slot

/-- The slot after the session's record is overwritten. -/
def FoundSession.slotWith (found : FoundSession) (session : HsmSession) : HsmSlot :=
  { found.slot with sessions := put found.slot.sessions found.index (some session) }

/-- Overwrite the session's record. -/
def System.withSession (system : System) (found : FoundSession) (session : HsmSession) :
    System :=
  system.withSlot found.context (found.slotWith session)

/-! ## Internal functions -/

/-- `hsm_get_session`. -/
def hsmGetSession (system : System) (hSession : CkSessionHandle) : Except CkRv FoundSession :=
  match system.gHsmContext with
  | none => .error .cryptokiNotInitialized
  | some context =>
    match find context.slot.sessions (fun session => decide (session.handle = hSession)) with
    | none => .error .sessionHandleInvalid
    | some (index, session) => .ok ⟨context, index, session⟩

/-- The record that `hsm_create_session` fills in. -/
def freshSession (handle : CkSessionHandle) (flags : CkFlags) (now : Nat) : HsmSession :=
  let isReadWrite := flags &&& ckfRwSession != 0
  { handle := handle
    isReadWrite := isReadWrite
    state := if isReadWrite then .rwPublic else .roPublic
    lastActivity := now }

/-- `hsm_create_session`. The handle counter is a `CK_ULONG` and wraps. -/
def hsmCreateSession (env : Env) (system : System) (context : HsmContext) (flags : CkFlags) :
    CkRv × Option CkSessionHandle × System :=
  let slot := context.slot
  if slot.sessionCount ≥ hsmMaxSessions then (.sessionCount, none, system)
  else
    match firstFree slot.sessions with
    | none => (.sessionCount, none, system)
    | some index =>
      if !env.calloc 0 then (.hostMemory, none, system)
      else
        let handle := system.gNextSessionHandle
        let slot := { slot with
          sessions := put slot.sessions index (some (freshSession handle flags env.now))
          sessionCount := slot.sessionCount + 1 }
        (.ok, some handle,
          { system.withSlot context slot with gNextSessionHandle := (handle + 1) % 2 ^ 64 })

/-- `hsm_destroy_session`. -/
def hsmDestroySession (system : System) (hSession : CkSessionHandle) : CkRv × System :=
  match hsmGetSession system hSession with
  | .error rv => (rv, system)
  | .ok found =>
    (.ok, system.withSlot found.context { found.slot with
      sessions := put found.slot.sessions found.index none
      sessionCount := found.slot.sessionCount - 1 })

/-- One turn of the loops that close every session of the slot. -/
def closeSessionAt (system : System) (index : Fin hsmMaxSessions) : System :=
  match system.gHsmContext with
  | none => system
  | some context =>
    match context.slot.sessions index with
    | none => system
    | some session => (hsmDestroySession system session.handle).2

/-- The loop over all indices. -/
def closeSessions (system : System) : System :=
  (List.finRange hsmMaxSessions).foldl closeSessionAt system

/-! ## Entry points -/

/-- `C_OpenSession`. -/
def cOpenSession (env : Env) (system : System) (slotID : CkSlotId) (flags : CkFlags)
    (phSession : Bool) : CkRv × Option CkSessionHandle × System :=
  if !phSession then (.argumentsBad, none, system)
  else
    match system.gHsmContext with
    | none => (.cryptokiNotInitialized, none, system)
    | some context =>
      if slotID ≥ slotCount then (.slotIdInvalid, none, system)
      else if flags &&& ckfSerialSession = 0 then (.sessionParallelNotSupported, none, system)
      else hsmCreateSession env system context flags

/-- `C_CloseSession`. -/
def cCloseSession (system : System) (hSession : CkSessionHandle) : CkRv × System :=
  hsmDestroySession system hSession

/-- `C_CloseAllSessions`. -/
def cCloseAllSessions (system : System) (slotID : CkSlotId) : CkRv × System :=
  match system.gHsmContext with
  | none => (.cryptokiNotInitialized, system)
  | some _ =>
    if slotID ≥ slotCount then (.slotIdInvalid, system)
    else (.ok, closeSessions system)

/-- What `C_GetSessionInfo` reports. -/
structure CkSessionInfo where
  slotID : CkSlotId
  state : CkUlong
  flags : CkFlags
  ulDeviceError : CkUlong
  deriving DecidableEq

/-- The state numbers of `pkcs11.h`, with the default branch of the switch. -/
def HsmSessionState.reported : HsmSessionState → CkUlong
  | .roPublic => 0
  | .roUser => 1
  | .rwPublic => 2
  | .rwUser => 3
  | .rwSo => 4
  | .invalid => 2

/-- `C_GetSessionInfo`. -/
def cGetSessionInfo (system : System) (hSession : CkSessionHandle) (pInfo : Bool) :
    CkRv × Option CkSessionInfo :=
  if !pInfo then (.argumentsBad, none)
  else
    match hsmGetSession system hSession with
    | .error rv => (rv, none)
    | .ok found =>
      (.ok, some {
        slotID := 0
        state := found.session.state.reported
        flags :=
          if found.session.isReadWrite then ckfSerialSession ||| ckfRwSession
          else ckfSerialSession
        ulDeviceError := 0 })

/-- The session after a successful login. -/
def HsmSession.loggedIn (session : HsmSession) (userType : CkUserType) (now : Nat) : HsmSession :=
  if userType = ckuSo then { session with soLoggedIn := true, state := .rwSo, lastActivity := now }
  else { session with
    userLoggedIn := true
    state := if session.isReadWrite then .rwUser else .roUser
    lastActivity := now }

/-- `C_Login`. -/
def cLogin (sha256 : Sha256) (env : Env) (system : System) (hSession : CkSessionHandle)
    (userType : CkUserType) (pPin : Option Bytes) : CkRv × System :=
  match pPin with
  | none => (.argumentsBad, system)
  | some pin =>
    if userType ≠ ckuSo ∧ userType ≠ ckuUser then (.userTypeInvalid, system)
    else
      match hsmGetSession system hSession with
      | .error rv => (rv, system)
      | .ok found =>
        if found.session.userLoggedIn || found.session.soLoggedIn then
          (.userAlreadyLoggedIn, system)
        else if userType = ckuSo ∧ !found.session.isReadWrite then (.sessionReadOnly, system)
        else
          let (rv, slot) := hsmVerifyPin sha256 found.slot userType pin
          if rv ≠ .ok then (rv, system.withSlot found.context slot)
          else
            let session := found.session.loggedIn userType env.now
            (.ok, system.withSlot found.context
              { slot with sessions := put slot.sessions found.index (some session) })

/-- The session after a logout. -/
def HsmSession.loggedOut (session : HsmSession) : HsmSession :=
  { session with
    userLoggedIn := false
    soLoggedIn := false
    state := if session.isReadWrite then .rwPublic else .roPublic }

/-- `C_Logout`. -/
def cLogout (system : System) (hSession : CkSessionHandle) : CkRv × System :=
  match hsmGetSession system hSession with
  | .error rv => (rv, system)
  | .ok found =>
    if !found.session.userLoggedIn && !found.session.soLoggedIn then (.userNotLoggedIn, system)
    else (.ok, system.withSession found found.session.loggedOut)

/-- The label field after `memset` and the copy, whose length is taken from the
PIN's length. -/
def initTokenLabel (pinLength : Nat) (pLabel : Bytes) : Buffer 32 :=
  (Buffer.filled 32 32).overwrite (Bytes.memory pLabel (min pinLength 32))

/-- The slot fields that `C_InitToken` sets after the security officer's PIN. -/
def HsmSlot.tokenReset (slot : HsmSlot) (label : Buffer 32) : HsmSlot :=
  { slot with
    tokenLabel := label
    tokenInitialized := true
    tokenPresent := true
    soPinInitialized := true
    userPinInitialized := false
    userPinLocked := false
    soPinLocked := false
    userPinRetryCount := hsmPinRetryCount
    soPinRetryCount := hsmPinRetryCount }

/-- Save the token file and keep the slot; the result of the saving is ignored. -/
def System.withSavedSlot (system : System) (env : Env) (context : HsmContext) (slot : HsmSlot) :
    System :=
  { system.withSlot context slot with
    storage := (hsmStorageSaveTokenInfo slot env.tokenWrite system.storage).2 }

/-- The part of `C_InitToken` after the sessions are closed. -/
def resetToken (sha256 : Sha256) (env : Env) (system : System) (pin pLabel : Bytes) :
    CkRv × System :=
  match system.gHsmContext with
  | none => (.cryptokiNotInitialized, system)
  | some context =>
    let (rv, slot) := hsmSetPin sha256 context.slot ckuSo pin
    if rv ≠ .ok then (rv, system)
    else
      let slot := slot.tokenReset (initTokenLabel pin.length pLabel)
      (.ok, system.withSavedSlot env context slot)

/-- `C_InitToken`. -/
def cInitToken (sha256 : Sha256) (env : Env) (system : System) (slotID : CkSlotId)
    (pPin pLabel : Option Bytes) : CkRv × System :=
  match pPin, pLabel with
  | some pin, some label =>
    if pin.length < hsmMinPinLen || pin.length > hsmMaxPinLen then (.pinLenRange, system)
    else
      match system.gHsmContext with
      | none => (.cryptokiNotInitialized, system)
      | some _ =>
        if slotID ≥ slotCount then (.slotIdInvalid, system)
        else resetToken sha256 env (closeSessions system) pin label
  | _, _ => (.argumentsBad, system)

/-- `C_InitPIN`. -/
def cInitPIN (sha256 : Sha256) (env : Env) (system : System) (hSession : CkSessionHandle)
    (pPin : Option Bytes) : CkRv × System :=
  match pPin with
  | none => (.argumentsBad, system)
  | some pin =>
    if pin.length < hsmMinPinLen || pin.length > hsmMaxPinLen then (.pinLenRange, system)
    else
      match hsmGetSession system hSession with
      | .error rv => (rv, system)
      | .ok found =>
        if !found.session.soLoggedIn then (.userNotLoggedIn, system)
        else
          let (rv, slot) := hsmSetPin sha256 found.slot ckuUser pin
          if rv ≠ .ok then (rv, system)
          else
            let slot := { slot with
              userPinInitialized := true
              userPinLocked := false
              userPinRetryCount := hsmPinRetryCount }
            (.ok, system.withSavedSlot env found.context slot)

/-- The user type whose PIN `C_SetPIN` changes. -/
def HsmSession.pinOwner (session : HsmSession) : CkUserType :=
  if session.userLoggedIn then ckuUser else ckuSo

/-- `C_SetPIN`. -/
def cSetPIN (sha256 : Sha256) (env : Env) (system : System) (hSession : CkSessionHandle)
    (pOldPin pNewPin : Option Bytes) : CkRv × System :=
  match pOldPin, pNewPin with
  | some oldPin, some newPin =>
    if newPin.length < hsmMinPinLen || newPin.length > hsmMaxPinLen then (.pinLenRange, system)
    else
      match hsmGetSession system hSession with
      | .error rv => (rv, system)
      | .ok found =>
        if !found.session.userLoggedIn && !found.session.soLoggedIn then
          (.userNotLoggedIn, system)
        else
          let userType := found.session.pinOwner
          let (rv, slot) := hsmVerifyPin sha256 found.slot userType oldPin
          if rv ≠ .ok then (rv, system.withSlot found.context slot)
          else
            let (rv, slot) := hsmSetPin sha256 slot userType newPin
            if rv ≠ .ok then (rv, system.withSlot found.context slot)
            else
              let slot :=
                if userType = ckuUser then { slot with userPinRetryCount := hsmPinRetryCount }
                else { slot with soPinRetryCount := hsmPinRetryCount }
              (.ok, system.withSavedSlot env found.context slot)
  | _, _ => (.argumentsBad, system)

end PstHsm
