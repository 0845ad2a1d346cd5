import PstHsm.Locks
import PstHsm.SessionTable

/-!
# Calls that lock in pairs

The entry points that neither create nor destroy a mutex lock and unlock in pairs,
nested in one order, on each of their return paths: the lock of the session, within it
the lock of the slot, within that the lock of the handle generator. Each of them is
followed along the branches of its source.
-/

namespace PstHsm

open Tables Mutexes

/-- The mutexes that a call on an initialized library may find free. -/
def Lockable (system : System) : LockName → Prop
  | .globalLock => False
  | .slotLock => system.gHsmContext.isSome = true
  | .sessionLock index => (system.sessions index).isSome = true
  | .sessionHandleLock | .objectHandleLock => True

section Paired

variable (sha256 : Sha256) (env : Env) (system : System)

/-- The lock of a session that was found may be taken. -/
theorem session_lockable (hSession : CkSessionHandle) (found : FoundSession)
    (located : hsmGetSession system hSession = .ok found) :
    Lockable system (.sessionLock found.index) := by
  change (system.sessions found.index).isSome = true
  rw [(get_session_entry system hSession found located).1]
  rfl

/-- So may the lock of its slot. -/
theorem slot_lockable (hSession : CkSessionHandle) (found : FoundSession)
    (located : hsmGetSession system hSession = .ok found) : Lockable system .slotLock := by
  change system.gHsmContext.isSome = true
  rw [(get_session_sound system hSession found located).1]
  rfl

/-- The session's lock alone. -/
theorem balanced_session (hSession : CkSessionHandle) (found : FoundSession)
    (located : hsmGetSession system hSession = .ok found) :
    Balanced (Lockable system)
      [.lock (.sessionLock found.index), .unlock (.sessionLock found.index)] :=
  balanced_alone _ _ (session_lockable system hSession found located)

/-- The slot's lock inside the session's. -/
theorem balanced_session_slot (hSession : CkSessionHandle) (found : FoundSession)
    (located : hsmGetSession system hSession = .ok found) :
    Balanced (Lockable system)
      [.lock (.sessionLock found.index), .lock .slotLock, .unlock .slotLock,
        .unlock (.sessionLock found.index)] :=
  balanced_nested _ _ _ (session_lockable system hSession found located)
    (slot_lockable system hSession found located) LockName.noConfusion

/-- A call refused before any lock. -/
theorem refused {α : Type} (value : α) :
    Disciplined (Lockable system) [] (pure value) value :=
  disciplined_return _ _ value (balanced_nil _)

/-- A section under the session's lock that makes one check and ends either way. -/
theorem checked_section_disciplined {α : Type} (hSession : CkSessionHandle)
    (found : FoundSession) (located : hsmGetSession system hSession = .ok found)
    (condition : Prop) [Decidable condition] (refusal result : α) :
    Disciplined (Lockable system) []
      (lock (LockName.sessionLock found.index) >>= fun _ =>
        if condition then unlock (.sessionLock found.index) >>= fun _ => pure refusal
        else unlock (.sessionLock found.index) >>= fun _ => pure result)
      (if condition then refusal else result) := by
  have alone := balanced_session system hSession found located
  apply disciplined_lock
  apply disciplined_branch
  · intro fails
    exact disciplined_release _ _ _ alone
  · intro passes
    exact disciplined_release _ _ _ alone

/-- `C_Login` takes the session's lock, and inside it the slot's. -/
theorem login_disciplined (hSession : CkSessionHandle) (userType : CkUserType)
    (pPin : Option Bytes) :
    Disciplined (Lockable system) [] (Locked.cLogin sha256 env system hSession userType pPin)
      (cLogin sha256 env system hSession userType pPin) := by
  unfold Locked.cLogin cLogin
  cases pPin with
  | none => exact refused system _
  | some pin =>
    apply disciplined_branch
    · intro unknown
      exact refused system _
    · intro known
      cases located : hsmGetSession system hSession with
      | error rv => exact refused system _
      | ok found =>
        have alone := balanced_session system hSession found located
        have nested := balanced_session_slot system hSession found located
        apply disciplined_lock
        apply disciplined_branch
        · intro loggedIn
          exact disciplined_release _ _ _ alone
        · intro fresh
          apply disciplined_branch
          · intro readOnly
            exact disciplined_release _ _ _ alone
          · intro writable
            apply disciplined_lock
            generalize hsmVerifyPin sha256 found.slot userType pin = verified
            obtain ⟨rv, slot⟩ := verified
            apply disciplined_branch
            · intro wrong
              exact disciplined_release_both _ _ _ _ nested
            · intro right
              exact disciplined_release_both _ _ _ _ nested

/-- `C_Logout` takes the session's lock. -/
theorem logout_disciplined (hSession : CkSessionHandle) :
    Disciplined (Lockable system) [] (Locked.cLogout system hSession)
      (cLogout system hSession) := by
  rw [Locked.cLogout, cLogout]
  cases located : hsmGetSession system hSession with
  | error rv => exact refused system _
  | ok found =>
    exact checked_section_disciplined system hSession found located _ _ _

/-- `C_GetSessionInfo` takes the session's lock. -/
theorem get_session_info_disciplined (hSession : CkSessionHandle) (pInfo : Bool) :
    Disciplined (Lockable system) [] (Locked.cGetSessionInfo system hSession pInfo)
      (cGetSessionInfo system hSession pInfo) := by
  rw [Locked.cGetSessionInfo, cGetSessionInfo]
  apply disciplined_branch
  · intro missing
    exact refused system _
  · intro given
    cases located : hsmGetSession system hSession with
    | error rv => exact refused system _
    | ok found =>
      apply disciplined_lock
      exact disciplined_release _ _ _ (balanced_session system hSession found located)

/-- `C_InitPIN` takes the session's lock, and inside it the slot's. -/
theorem init_pin_disciplined (hSession : CkSessionHandle) (pPin : Option Bytes) :
    Disciplined (Lockable system) [] (Locked.cInitPIN sha256 env system hSession pPin)
      (cInitPIN sha256 env system hSession pPin) := by
  unfold Locked.cInitPIN cInitPIN
  cases pPin with
  | none => exact refused system _
  | some pin =>
    apply disciplined_branch
    · intro outOfRange
      exact refused system _
    · intro inRange
      cases located : hsmGetSession system hSession with
      | error rv => exact refused system _
      | ok found =>
        have nested := balanced_session_slot system hSession found located
        apply disciplined_lock
        apply disciplined_branch
        · intro stranger
          exact disciplined_release _ _ _ (balanced_session system hSession found located)
        · intro officer
          apply disciplined_lock
          generalize hsmSetPin sha256 found.slot ckuUser pin = setting
          obtain ⟨rv, slot⟩ := setting
          apply disciplined_branch
          · intro failed
            exact disciplined_release_both _ _ _ _ nested
          · intro succeeded
            exact disciplined_release_both _ _ _ _ nested

/-- `C_SetPIN` takes the session's lock, and inside it the slot's. -/
theorem set_pin_disciplined (hSession : CkSessionHandle) (pOldPin pNewPin : Option Bytes) :
    Disciplined (Lockable system) []
      (Locked.cSetPIN sha256 env system hSession pOldPin pNewPin)
      (cSetPIN sha256 env system hSession pOldPin pNewPin) := by
  unfold Locked.cSetPIN cSetPIN
  cases pOldPin with
  | none => exact refused system _
  | some oldPin =>
    cases pNewPin with
    | none => exact refused system _
    | some newPin =>
      apply disciplined_branch
      · intro outOfRange
        exact refused system _
      · intro inRange
        cases located : hsmGetSession system hSession with
        | error rv => exact refused system _
        | ok found =>
          have nested := balanced_session_slot system hSession found located
          apply disciplined_lock
          apply disciplined_branch
          · intro stranger
            exact disciplined_release _ _ _ (balanced_session system hSession found located)
          · intro loggedIn
            apply disciplined_lock
            generalize hsmVerifyPin sha256 found.slot found.session.pinOwner oldPin = verified
            obtain ⟨rv, slot⟩ := verified
            apply disciplined_branch
            · intro wrong
              exact disciplined_release_both _ _ _ _ nested
            · intro right
              generalize hsmSetPin sha256 slot found.session.pinOwner newPin = setting
              obtain ⟨rv', slot'⟩ := setting
              apply disciplined_branch
              · intro failed
                exact disciplined_release_both _ _ _ _ nested
              · intro succeeded
                exact disciplined_release_both _ _ _ _ nested

/-- `C_FindObjectsInit` takes the session's lock. -/
theorem find_objects_init_disciplined (hSession : CkSessionHandle) :
    Disciplined (Lockable system) [] (Locked.cFindObjectsInit system hSession)
      (cFindObjectsInit system hSession) := by
  rw [Locked.cFindObjectsInit, cFindObjectsInit]
  cases located : hsmGetSession system hSession with
  | error rv => exact refused system _
  | ok found =>
    exact checked_section_disciplined system hSession found located _ _ _

/-- `C_FindObjects` takes the session's lock. -/
theorem find_objects_disciplined (hSession : CkSessionHandle) (phObject : Bool)
    (most : CkUlong) (pulObjectCount : Bool) :
    Disciplined (Lockable system) []
      (Locked.cFindObjects system hSession phObject most pulObjectCount)
      (cFindObjects system hSession phObject most pulObjectCount) := by
  rw [Locked.cFindObjects, cFindObjects]
  apply disciplined_branch
  · intro missing
    exact refused system _
  · intro given
    cases located : hsmGetSession system hSession with
    | error rv => exact refused system _
    | ok found =>
      exact checked_section_disciplined system hSession found located _ _ _

/-- `C_FindObjectsFinal` takes the session's lock. -/
theorem find_objects_final_disciplined (hSession : CkSessionHandle) :
    Disciplined (Lockable system) [] (Locked.cFindObjectsFinal system hSession)
      (cFindObjectsFinal system hSession) := by
  rw [Locked.cFindObjectsFinal, cFindObjectsFinal]
  cases located : hsmGetSession system hSession with
  | error rv => exact refused system _
  | ok found =>
    exact checked_section_disciplined system hSession found located _ _ _

/-- `C_SignInit` gives the session's lock up after each of its checks. -/
theorem sign_init_disciplined (hSession : CkSessionHandle)
    (pMechanism : Option CkMechanismType) (hKey : CkObjectHandle) :
    Disciplined (Lockable system) [] (Locked.cSignInit system hSession pMechanism hKey)
      (cSignInit system hSession pMechanism hKey) := by
  unfold Locked.cSignInit cSignInit
  cases pMechanism with
  | none => exact refused system _
  | some mechanism =>
    cases located : hsmGetSession system hSession with
    | error rv => exact refused system _
    | ok found =>
      have alone := balanced_session system hSession found located
      apply disciplined_lock
      apply disciplined_branch
      · intro active
        exact disciplined_release _ _ _ alone
      · intro idle
        cases hsmGetObject found.slot hKey with
        | error rv =>
          exact disciplined_release _ _ _ alone
        | ok key =>
          apply disciplined_branch
          · intro otherType
            exact disciplined_release _ _ _ alone
          · intro isPrivateKey
            apply disciplined_branch
            · intro forbidden
              exact disciplined_release _ _ _ alone
            · intro permitted
              apply disciplined_branch
              · intro unsupported
                exact disciplined_release _ _ _ alone
              · intro supported
                exact disciplined_release _ _ _ alone

/-- So does `C_VerifyInit`. -/
theorem verify_init_disciplined (hSession : CkSessionHandle)
    (pMechanism : Option CkMechanismType) (hKey : CkObjectHandle) :
    Disciplined (Lockable system) [] (Locked.cVerifyInit system hSession pMechanism hKey)
      (cVerifyInit system hSession pMechanism hKey) := by
  unfold Locked.cVerifyInit cVerifyInit
  cases pMechanism with
  | none => exact refused system _
  | some mechanism =>
    cases located : hsmGetSession system hSession with
    | error rv => exact refused system _
    | ok found =>
      have alone := balanced_session system hSession found located
      apply disciplined_lock
      apply disciplined_branch
      · intro active
        exact disciplined_release _ _ _ alone
      · intro idle
        cases hsmGetObject found.slot hKey with
        | error rv =>
          exact disciplined_release _ _ _ alone
        | ok key =>
          apply disciplined_branch
          · intro otherType
            exact disciplined_release _ _ _ alone
          · intro isPublicKey
            exact disciplined_release _ _ _ alone

/-- `C_Sign` gives the session's lock up whether or not it signs. -/
theorem sign_disciplined (hSession : CkSessionHandle) (pData : Option Bytes) (pSignature : Bool)
    (pulSignatureLen : Option CkUlong) :
    Disciplined (Lockable system) []
      (Locked.cSign env system hSession pData pSignature pulSignatureLen)
      (cSign env system hSession pData pSignature pulSignatureLen) := by
  unfold Locked.cSign cSign
  cases pData with
  | none => exact refused system _
  | some data =>
    cases pulSignatureLen with
    | none => exact refused system _
    | some signatureLen =>
      cases located : hsmGetSession system hSession with
      | error rv => exact refused system _
      | ok found =>
        have alone := balanced_session system hSession found located
        apply disciplined_lock
        apply disciplined_branch
        · intro idle
          exact disciplined_release _ _ _ alone
        · intro active
          cases hsmGetObject found.slot found.session.operation.keyHandle with
          | error rv =>
            exact disciplined_release _ _ _ alone
          | ok key =>
            exact disciplined_release _ _ _ alone

/-- And so does `C_Verify`. -/
theorem verify_disciplined (hSession : CkSessionHandle) (pData pSignature : Option Bytes) :
    Disciplined (Lockable system) [] (Locked.cVerify system hSession pData pSignature)
      (cVerify system hSession pData pSignature) := by
  unfold Locked.cVerify cVerify
  cases pData with
  | none => exact refused system _
  | some data =>
    cases pSignature with
    | none => exact refused system _
    | some signature =>
      cases located : hsmGetSession system hSession with
      | error rv => exact refused system _
      | ok found =>
        have alone := balanced_session system hSession found located
        apply disciplined_lock
        apply disciplined_branch
        · intro idle
          exact disciplined_release _ _ _ alone
        · intro active
          cases hsmGetObject found.slot found.session.operation.keyHandle with
          | error rv =>
            exact disciplined_release _ _ _ alone
          | ok key =>
            exact disciplined_release _ _ _ alone

/-- `hsm_create_object` draws its handle under the slot's lock. -/
theorem create_object_disciplined (hSession : CkSessionHandle)
    (pTemplate : Option (List CkAttribute)) (phObject : Bool) :
    Disciplined (Lockable system) []
      (Locked.cCreateObject env system hSession pTemplate phObject)
      (cCreateObject env system hSession pTemplate phObject) := by
  unfold Locked.cCreateObject cCreateObject
  cases pTemplate with
  | none => exact refused system _
  | some template =>
    cases phObject with
    | false => exact refused system _
    | true =>
      cases located : hsmGetSession system hSession with
      | error rv => exact refused system _
      | ok found =>
        have slot := slot_lockable system hSession found located
        have alone := balanced_alone (Lockable system) .slotLock slot
        have nested := balanced_nested (Lockable system) .slotLock .objectHandleLock slot trivial
          LockName.noConfusion
        change Disciplined _ [] (Locked.hsmCreateObject env system found template)
          (hsmCreateObject env system found template)
        rw [Locked.hsmCreateObject, hsmCreateObject]
        apply disciplined_lock
        apply disciplined_branch
        · intro full
          exact disciplined_release _ _ _ alone
        · intro room
          cases firstFree found.slot.objects with
          | none =>
            exact disciplined_release _ _ _ alone
          | some index =>
            apply disciplined_branch
            · intro exhausted
              exact disciplined_release _ _ _ alone
            · intro memory
              exact ⟨rfl, nested⟩

/-- `hsm_destroy_object` takes the slot's lock. -/
theorem destroy_object_disciplined (hSession : CkSessionHandle) (hObject : CkObjectHandle) :
    Disciplined (Lockable system) [] (Locked.cDestroyObject env system hSession hObject)
      (cDestroyObject env system hSession hObject) := by
  unfold Locked.cDestroyObject cDestroyObject
  cases located : hsmGetSession system hSession with
  | error rv => exact refused system _
  | ok found =>
    have alone := balanced_alone (Lockable system) .slotLock
      (slot_lockable system hSession found located)
    change Disciplined _ [] (Locked.hsmDestroyObject env system found hObject)
      (hsmDestroyObject env system found hObject)
    unfold Locked.hsmDestroyObject hsmDestroyObject
    apply disciplined_lock
    cases hsmGetObject found.slot hObject with
    | error rv =>
      exact disciplined_release _ _ _ alone
    | ok object =>
      exact disciplined_release _ _ _ alone

/-- The section that inserts a key pair. The handle lock is taken twice inside it. -/
theorem insert_key_pair_disciplined (hSession : CkSessionHandle) (found : FoundSession)
    (located : hsmGetSession system hSession = .ok found) (pubObj privObj : HsmObject) :
    Disciplined (Lockable system) []
      (Locked.insertKeyPair env system found.context pubObj privObj)
      (insertKeyPair env system found.context pubObj privObj) := by
  have slot := slot_lockable system hSession found located
  have alone := balanced_alone (Lockable system) .slotLock slot
  have handle : Balanced (fun name => Lockable system name ∧ name ≠ .slotLock)
      [.lock .objectHandleLock, .unlock .objectHandleLock] :=
    balanced_alone _ _ ⟨trivial, LockName.noConfusion⟩
  have twice := balanced_section (Lockable system) .slotLock _ slot
    (balanced_append _ _ _ handle handle)
  unfold Locked.insertKeyPair insertKeyPair
  apply disciplined_lock
  dsimp only
  cases freeIndices found.context.slot.objects with
  | nil =>
    exact disciplined_release _ _ _ alone
  | cons pubIdx rest =>
    cases rest with
    | nil =>
      exact disciplined_release _ _ _ alone
    | cons privIdx others => exact ⟨rfl, twice⟩

/-- `C_GenerateKeyPair` draws both handles under the slot's lock. -/
theorem generate_key_pair_disciplined (hSession : CkSessionHandle)
    (pMechanism : Option CkMechanismType) (publicTemplate privateTemplate : List CkAttribute)
    (phPublicKey phPrivateKey : Bool) :
    Disciplined (Lockable system) []
      (Locked.cGenerateKeyPair env system hSession pMechanism publicTemplate privateTemplate
        phPublicKey phPrivateKey)
      (cGenerateKeyPair env system hSession pMechanism publicTemplate privateTemplate
        phPublicKey phPrivateKey) := by
  unfold Locked.cGenerateKeyPair cGenerateKeyPair
  cases pMechanism with
  | none => exact refused system _
  | some mechanism =>
    cases phPublicKey with
    | false => exact refused system _
    | true =>
      cases phPrivateKey with
      | false => exact refused system _
      | true =>
        cases located : hsmGetSession system hSession with
        | error rv => exact refused system _
        | ok found =>
          have alone := balanced_session system hSession found located
          apply disciplined_lock
          apply disciplined_branch
          · intro stranger
            exact disciplined_release _ _ _ alone
          · intro user
            apply disciplined_unlock
            apply disciplined_branch
            · intro exhausted
              exact disciplined_return _ _ _ alone
            · intro memory
              cases generateHalves env mechanism publicTemplate privateTemplate with
              | error rv => exact disciplined_return _ _ _ alone
              | ok halves =>
                have inserted := insert_key_pair_disciplined env system hSession found located
                  halves.1 halves.2
                exact ⟨inserted.value, balanced_append _ _ _ alone inserted.balanced⟩

/-- The calls that create or destroy mutexes. -/
def Call.managesMutexes : Call → Bool
  | .initializeLibrary => true
  | call => call.managesSessions

/-- Every other call locks in pairs. -/
theorem paired_call_disciplined (call : Call) (paired : call.managesMutexes = false) :
    Disciplined (Lockable system) [] (Locked.callStep sha256 env system call)
      (callStep sha256 env system call) := by
  cases call with
  | initializeLibrary | finalizeLibrary | initToken | openSession | closeSession
  | closeAllSessions => cases paired
  | initPIN hSession pPin =>
    exact disciplined_answer _ _ _ _ _ _ (init_pin_disciplined sha256 env system hSession pPin)
      rfl rfl
  | setPIN hSession pOldPin pNewPin =>
    exact disciplined_answer _ _ _ _ _ _
      (set_pin_disciplined sha256 env system hSession pOldPin pNewPin) rfl rfl
  | getSessionInfo hSession pInfo =>
    exact disciplined_answer _ _ _ _ _ _ (get_session_info_disciplined system hSession pInfo)
      rfl rfl
  | login hSession userType pPin =>
    exact disciplined_answer _ _ _ _ _ _
      (login_disciplined sha256 env system hSession userType pPin) rfl rfl
  | logout hSession =>
    exact disciplined_answer _ _ _ _ _ _ (logout_disciplined system hSession) rfl rfl
  | createObject hSession pTemplate phObject =>
    exact disciplined_answer _ _ _ _ _ _
      (create_object_disciplined env system hSession pTemplate phObject) rfl rfl
  | destroyObject hSession hObject =>
    exact disciplined_answer _ _ _ _ _ _
      (destroy_object_disciplined env system hSession hObject) rfl rfl
  | findObjectsInit hSession template =>
    exact disciplined_answer _ _ _ _ _ _ (find_objects_init_disciplined system hSession) rfl rfl
  | findObjects hSession phObject most pulObjectCount =>
    exact disciplined_answer _ _ _ _ _ _
      (find_objects_disciplined system hSession phObject most pulObjectCount) rfl rfl
  | findObjectsFinal hSession =>
    exact disciplined_answer _ _ _ _ _ _ (find_objects_final_disciplined system hSession) rfl rfl
  | signInit hSession pMechanism hKey =>
    exact disciplined_answer _ _ _ _ _ _ (sign_init_disciplined system hSession pMechanism hKey)
      rfl rfl
  | sign hSession pData pSignature pulSignatureLen =>
    exact disciplined_answer _ _ _ _ _ _
      (sign_disciplined env system hSession pData pSignature pulSignatureLen) rfl rfl
  | verifyInit hSession pMechanism hKey =>
    exact disciplined_answer _ _ _ _ _ _
      (verify_init_disciplined system hSession pMechanism hKey) rfl rfl
  | verify hSession pData pSignature =>
    exact disciplined_answer _ _ _ _ _ _ (verify_disciplined system hSession pData pSignature)
      rfl rfl
  | generateKeyPair hSession pMechanism publicTemplate privateTemplate phPublicKey phPrivateKey =>
    exact disciplined_answer _ _ _ _ _ _
      (generate_key_pair_disciplined env system hSession pMechanism publicTemplate privateTemplate
        phPublicKey phPrivateKey) rfl rfl
  | _ => exact refused system _

end Paired

end PstHsm
