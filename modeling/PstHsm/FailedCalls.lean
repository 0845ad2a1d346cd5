import PstHsm.Erasure
import PstHsm.PinMachine
import PstHsm.Views

/-!
# Calls that fail

Almost every call that returns an error leaves the process as it was. The exceptions are
few: a PIN check that fails costs an attempt, `C_Sign` and `C_Verify` end their operation
whatever comes of it, `C_SetAttributeValue` keeps the labels it stored before the entry it
refuses, and `C_Initialize` keeps the directories it made. So the other failures of a run
can be left out of it, and all failures together never touch anything but attempts,
operations, labels and directories.
-/

namespace PstHsm

open Tables Runs Erasure

/-! ## What a failed call leaves -/

/-- The calls that verify a PIN. -/
def Call.verifiesPin : Call → Bool
  | .login _ _ _ | .setPIN _ _ _ => true
  | _ => false

/-- The calls that run an operation. -/
def Call.runsOperation : Call → Bool
  | .sign _ _ _ _ | .verify _ _ _ => true
  | _ => false

/-- The errors of these calls before they reach the operation. -/
def CkRv.beforeOperation : CkRv → Bool
  | .argumentsBad | .cryptokiNotInitialized | .sessionHandleInvalid
  | .operationNotInitialized => true
  | _ => false

/-- What a call that returns the given error leaves of the process. -/
inductive FailedCall (sha256 : Sha256) (system : System) : Call → CkRv → System → Prop
  | kept (call : Call) (rv : CkRv) : FailedCall sha256 system call rv system
  | attempted (call : Call) (verifies : call.verifiesPin = true) (context : HsmContext)
      (present : system.gHsmContext = some context) (userType : CkUserType) (pin : Bytes) :
      FailedCall sha256 system call (hsmVerifyPin sha256 context.slot userType pin).1
        (system.withSlot context (hsmVerifyPin sha256 context.slot userType pin).2)
  | ended (call : Call) (rv : CkRv) (runs : call.runsOperation = true)
      (reached : rv.beforeOperation = false) (hSession : CkSessionHandle) (found : FoundSession)
      (located : hsmGetSession system hSession = .ok found) (operation : HsmOperation)
      (ended : operation.active = false) :
      FailedCall sha256 system call rv
        (system.withSession found { found.session with operation := operation })
  | relabelled (hSession : CkSessionHandle) (hObject : CkObjectHandle)
      (pTemplate : Option (List CkAttribute)) (found : FoundSession)
      (located : hsmGetSession system hSession = .ok found) (index : Fin hsmMaxObjects)
      (object : HsmObject) (lookup : hsmGetObject found.slot hObject = .ok (index, object))
      (label : Buffer 256) :
      FailedCall sha256 system (.setAttributeValue hSession hObject pTemplate) .attributeReadOnly
        (system.withSlot found.context (found.slot.withObject index
          (some { object with label := label }) found.slot.objectCount))
  | directories (rv : CkRv) (storage : Storage) (absent : system.gHsmContext = none)
      (reached : rv ≠ .cryptokiAlreadyInitialized)
      (files : storage.tokenFile = system.storage.tokenFile)
      (keys : storage.keyFiles = system.storage.keyFiles) :
      FailedCall sha256 system .initializeLibrary rv { system with storage := storage }

section Calls

variable (sha256 : Sha256) (env : Env) (system : System)

/-! ## All or nothing -/

/-- A call that does not succeed has changed nothing. -/
def AllOrNothing (before : System) (rv : CkRv) (after : System) : Prop :=
  after = before ∨ rv = .ok

/-- `C_Finalize` frees everything or nothing. -/
theorem finalize_all_or_nothing (pReserved : Bool) :
    AllOrNothing system (cFinalize system pReserved).1 (cFinalize system pReserved).2 := by
  unfold cFinalize
  split
  · exact Or.inl rfl
  · cases system.gHsmContext with
    | none => exact Or.inl rfl
    | some context => exact Or.inr rfl

/-- `C_InitToken` resets the token or changes nothing. -/
theorem init_token_all_or_nothing (slotID : CkSlotId) (pPin pLabel : Option Bytes) :
    AllOrNothing system (cInitToken sha256 env system slotID pPin pLabel).1
      (cInitToken sha256 env system slotID pPin pLabel).2 := by
  rcases init_token_cases sha256 env system slotID pPin pLabel with
    ⟨rv, -, same⟩ | ⟨pin, label, context, -, -, -, -, -, -, same⟩
  · rw [same]
    exact Or.inl rfl
  · rw [same]
    exact Or.inr rfl

/-- `C_InitPIN` sets the PIN or changes nothing. -/
theorem init_pin_all_or_nothing (hSession : CkSessionHandle) (pPin : Option Bytes) :
    AllOrNothing system (cInitPIN sha256 env system hSession pPin).1
      (cInitPIN sha256 env system hSession pPin).2 := by
  rcases init_pin_cases sha256 env system hSession pPin with
    ⟨rv, -, same⟩ | ⟨pin, found, -, -, -, -, -, same⟩
  · rw [same]
    exact Or.inl rfl
  · rw [same]
    exact Or.inr rfl

/-- `C_OpenSession` opens a session or changes nothing. -/
theorem open_session_all_or_nothing (slotID : CkSlotId) (flags : CkFlags) (phSession : Bool) :
    AllOrNothing system (cOpenSession env system slotID flags phSession).1
      (cOpenSession env system slotID flags phSession).2.2 := by
  rcases open_session_cases env system slotID flags phSession with
    ⟨rv, -, same⟩ | ⟨context, index, -, -, -, -, -, -, same⟩
  · rw [same]
    exact Or.inl rfl
  · rw [same]
    exact Or.inr rfl

/-- `C_CloseSession` closes its session or changes nothing. -/
theorem close_session_all_or_nothing (hSession : CkSessionHandle) :
    AllOrNothing system (cCloseSession system hSession).1 (cCloseSession system hSession).2 := by
  unfold cCloseSession hsmDestroySession
  cases hsmGetSession system hSession with
  | error rv => exact Or.inl rfl
  | ok found => exact Or.inr rfl

/-- `C_CloseAllSessions` closes all sessions or none. -/
theorem close_all_sessions_all_or_nothing (slotID : CkSlotId) :
    AllOrNothing system (cCloseAllSessions system slotID).1
      (cCloseAllSessions system slotID).2 := by
  unfold cCloseAllSessions
  cases system.gHsmContext with
  | none => exact Or.inl rfl
  | some context =>
    dsimp only
    split
    · exact Or.inl rfl
    · exact Or.inr rfl

/-- `C_Logout` logs out or changes nothing. -/
theorem logout_all_or_nothing (hSession : CkSessionHandle) :
    AllOrNothing system (cLogout system hSession).1 (cLogout system hSession).2 := by
  rcases logout_cases system hSession with ⟨rv, -, same⟩ | ⟨found, -, same⟩
  · rw [same]
    exact Or.inl rfl
  · rw [same]
    exact Or.inr rfl

/-- `C_CreateObject` adds an object or changes nothing. -/
theorem create_object_all_or_nothing (hSession : CkSessionHandle)
    (pTemplate : Option (List CkAttribute)) (phObject : Bool) :
    AllOrNothing system (cCreateObject env system hSession pTemplate phObject).1
      (cCreateObject env system hSession pTemplate phObject).2.2 := by
  rcases create_object_cases env system hSession pTemplate phObject with
    ⟨rv, -, same⟩ | ⟨template, found, index, -, -, -, -, -, same⟩
  · rw [same]
    exact Or.inl rfl
  · rw [same]
    exact Or.inr rfl

/-- `C_DestroyObject` takes an object away or changes nothing. -/
theorem destroy_object_all_or_nothing (hSession : CkSessionHandle) (hObject : CkObjectHandle) :
    AllOrNothing system (cDestroyObject env system hSession hObject).1
      (cDestroyObject env system hSession hObject).2 := by
  rcases destroy_object_cases env system hSession hObject with
    ⟨rv, -, same⟩ | ⟨found, index, object, -, -, same⟩
  · rw [same]
    exact Or.inl rfl
  · rw [same]
    exact Or.inr rfl

/-- `C_FindObjectsInit` starts a search or changes nothing. -/
theorem find_objects_init_all_or_nothing (hSession : CkSessionHandle) :
    AllOrNothing system (cFindObjectsInit system hSession).1
      (cFindObjectsInit system hSession).2 := by
  unfold cFindObjectsInit
  cases hsmGetSession system hSession with
  | error rv => exact Or.inl rfl
  | ok found =>
    dsimp only
    split
    · exact Or.inl rfl
    · exact Or.inr rfl

/-- `C_FindObjects` moves the search on or changes nothing. -/
theorem find_objects_all_or_nothing (hSession : CkSessionHandle) (phObject : Bool) (most : CkUlong)
    (pulObjectCount : Bool) :
    AllOrNothing system (cFindObjects system hSession phObject most pulObjectCount).1
      (cFindObjects system hSession phObject most pulObjectCount).2.2 := by
  unfold cFindObjects
  split
  · exact Or.inl rfl
  · cases hsmGetSession system hSession with
    | error rv => exact Or.inl rfl
    | ok found =>
      dsimp only
      split
      · exact Or.inl rfl
      · exact Or.inr rfl

/-- `C_FindObjectsFinal` ends the search or changes nothing. -/
theorem find_objects_final_all_or_nothing (hSession : CkSessionHandle) :
    AllOrNothing system (cFindObjectsFinal system hSession).1
      (cFindObjectsFinal system hSession).2 := by
  unfold cFindObjectsFinal
  cases hsmGetSession system hSession with
  | error rv => exact Or.inl rfl
  | ok found =>
    dsimp only
    split
    · exact Or.inl rfl
    · exact Or.inr rfl

/-- `C_SignInit` starts an operation or changes nothing. -/
theorem sign_init_all_or_nothing (hSession : CkSessionHandle)
    (pMechanism : Option CkMechanismType) (hKey : CkObjectHandle) :
    AllOrNothing system (cSignInit system hSession pMechanism hKey).1
      (cSignInit system hSession pMechanism hKey).2 := by
  unfold cSignInit
  cases pMechanism with
  | none => exact Or.inl rfl
  | some mechanism =>
    cases hsmGetSession system hSession with
    | error rv => exact Or.inl rfl
    | ok found =>
      dsimp only
      split
      · exact Or.inl rfl
      · cases hsmGetObject found.slot hKey with
        | error rv => exact Or.inl rfl
        | ok key =>
          dsimp only
          split
          · exact Or.inl rfl
          · split
            · exact Or.inl rfl
            · split
              · exact Or.inl rfl
              · exact Or.inr rfl

/-- `C_VerifyInit` starts an operation or changes nothing. -/
theorem verify_init_all_or_nothing (hSession : CkSessionHandle)
    (pMechanism : Option CkMechanismType) (hKey : CkObjectHandle) :
    AllOrNothing system (cVerifyInit system hSession pMechanism hKey).1
      (cVerifyInit system hSession pMechanism hKey).2 := by
  unfold cVerifyInit
  cases pMechanism with
  | none => exact Or.inl rfl
  | some mechanism =>
    cases hsmGetSession system hSession with
    | error rv => exact Or.inl rfl
    | ok found =>
      dsimp only
      split
      · exact Or.inl rfl
      · cases hsmGetObject found.slot hKey with
        | error rv => exact Or.inl rfl
        | ok key =>
          dsimp only
          split
          · exact Or.inl rfl
          · exact Or.inr rfl

/-- `C_GenerateKeyPair` adds both halves or changes nothing. -/
theorem generate_key_pair_all_or_nothing (hSession : CkSessionHandle)
    (pMechanism : Option CkMechanismType) (publicTemplate privateTemplate : List CkAttribute)
    (phPublicKey phPrivateKey : Bool) :
    AllOrNothing system
      (cGenerateKeyPair env system hSession pMechanism publicTemplate privateTemplate phPublicKey
        phPrivateKey).1
      (cGenerateKeyPair env system hSession pMechanism publicTemplate privateTemplate phPublicKey
        phPrivateKey).2.2 := by
  rcases generate_key_pair_cases env system hSession pMechanism publicTemplate privateTemplate
    phPublicKey phPrivateKey with ⟨rv, -, same⟩ |
    ⟨mechanism, found, pubObj, privObj, pubIdx, privIdx, rest, -, -, -, -, -, -, -, same⟩
  · rw [same]
    exact Or.inl rfl
  · rw [same]
    exact Or.inr rfl

/-! ## Calls that leave something -/

/-- A refused update keeps the labels stored before the refusal. -/
theorem set_attribute_value_refused (object : HsmObject) (template : List CkAttribute) :
    (hsmSetAttributeValue object template).1 = .ok ∨
      (hsmSetAttributeValue object template).1 = .attributeReadOnly := by
  induction template generalizing object with
  | nil => exact Or.inl rfl
  | cons entry rest inductionHypothesis =>
    rw [hsmSetAttributeValue]
    split
    · exact inductionHypothesis _
    · exact Or.inr rfl

/-- A failing update has stored labels at most. -/
theorem set_attribute_value_fails (hSession : CkSessionHandle) (hObject : CkObjectHandle)
    (pTemplate : Option (List CkAttribute))
    (failed : (cSetAttributeValue system hSession hObject pTemplate).1 ≠ .ok) :
    FailedCall sha256 system (.setAttributeValue hSession hObject pTemplate)
      (cSetAttributeValue system hSession hObject pTemplate).1
      (cSetAttributeValue system hSession hObject pTemplate).2 := by
  cases pTemplate with
  | none => exact .kept _ _
  | some template =>
    cases located : hsmGetSession system hSession with
    | error rv =>
      simp only [cSetAttributeValue, located]
      exact .kept _ _
    | ok found =>
      cases lookup : hsmGetObject found.slot hObject with
      | error rv =>
        simp only [cSetAttributeValue, located, lookup]
        exact .kept _ _
      | ok pair =>
        obtain ⟨index, object⟩ := pair
        obtain ⟨label, stored⟩ := set_attribute_value_label template object
        simp only [cSetAttributeValue, located, lookup] at failed ⊢
        rw [(set_attribute_value_refused object template).resolve_left failed, stored]
        exact .relabelled hSession hObject (some template) found located index object lookup label

/-- The signing itself never answers as if there were no operation. -/
theorem sign_data_late (signer : Signer) (privKey : HsmObject) (mechanism : CkMechanismType)
    (data : Bytes) (pSignature : Bool) (signatureLen : CkUlong) :
    (hsmSignData signer privKey mechanism data pSignature signatureLen).rv.beforeOperation =
      false := by
  have hashed (md : EvpMd) (pss : Bool) : (digestSign signer privKey.keyData md pss data pSignature
      signatureLen).rv.beforeOperation = false := by
    rw [digestSign]
    repeat' split
    all_goals rfl
  rw [hsmSignData]
  split
  · rfl
  · split
    · rw [signRsa]
      split
      · rfl
      · split
        · rfl
        · split
          · rfl
          · split
            · exact hashed _ _
            · split
              · rfl
              · split <;> rfl
    · split
      · rw [signEc]
        split
        · rfl
        · split
          · rfl
          · split
            · rfl
            · split
              · exact hashed _ _
              · split
                · rfl
                · split <;> rfl
      · rfl

/-- `C_Sign` has ended the operation at most. -/
theorem sign_fails (hSession : CkSessionHandle) (pData : Option Bytes) (pSignature : Bool)
    (pulSignatureLen : Option CkUlong) :
    FailedCall sha256 system (.sign hSession pData pSignature pulSignatureLen)
      (cSign env system hSession pData pSignature pulSignatureLen).1
      (cSign env system hSession pData pSignature pulSignatureLen).2.2 := by
  unfold cSign
  split
  · cases located : hsmGetSession system hSession with
    | error rv => exact .kept _ _
    | ok found =>
      dsimp only
      split
      · exact .kept _ _
      · cases lookup : hsmGetObject found.slot found.session.operation.keyHandle with
        | error rv =>
          rw [get_object_error _ _ _ lookup]
          exact .ended _ _ rfl rfl hSession found located _ rfl
        | ok pair =>
          exact .ended _ _ rfl (sign_data_late _ _ _ _ _ _) hSession found located _ rfl
  · exact .kept _ _

/-- And so has `C_Verify`. -/
theorem verify_fails (hSession : CkSessionHandle) (pData pSignature : Option Bytes) :
    FailedCall sha256 system (.verify hSession pData pSignature)
      (cVerify system hSession pData pSignature).1
      (cVerify system hSession pData pSignature).2 := by
  unfold cVerify
  split
  · cases located : hsmGetSession system hSession with
    | error rv => exact .kept _ _
    | ok found =>
      dsimp only
      split
      · exact .kept _ _
      · cases lookup : hsmGetObject found.slot found.session.operation.keyHandle with
        | error rv =>
          rw [get_object_error _ _ _ lookup]
          exact .ended _ _ rfl rfl hSession found located _ rfl
        | ok pair => exact .ended _ _ rfl rfl hSession found located _ rfl
  · exact .kept _ _

/-- A failing initialization has made directories at most. -/
theorem initialize_fails (failed : (cInitialize env system).1 ≠ .ok) :
    FailedCall sha256 system .initializeLibrary (cInitialize env system).1
      (cInitialize env system).2 := by
  have files : (hsmStorageInit env system.storage).2.tokenFile = system.storage.tokenFile ∧
      (hsmStorageInit env system.storage).2.keyFiles = system.storage.keyFiles ∧
      (hsmStorageInit env system.storage).1 ≠ .cryptokiAlreadyInitialized := by
    rw [hsmStorageInit]
    split
    · exact ⟨rfl, rfl, CkRv.noConfusion⟩
    · dsimp only
      split
      · exact ⟨rfl, rfl, CkRv.noConfusion⟩
      · exact ⟨rfl, rfl, CkRv.noConfusion⟩
  rw [cInitialize] at failed ⊢
  cases absent : system.gHsmContext with
  | some context => exact .kept _ _
  | none =>
    simp only [absent] at failed ⊢
    split
    · rw [← absent]
      exact .directories _ _ absent files.2.2 files.1 files.2.1
    · rename_i made
      rw [if_neg made] at failed
      split
      · rw [← absent]
        exact .directories _ _ absent CkRv.noConfusion files.1 files.2.1
      · rename_i memory
        rw [if_neg memory] at failed
        exact absurd rfl failed

/-- A failing login has cost an attempt at most. -/
theorem login_fails (hSession : CkSessionHandle) (userType : CkUserType) (pPin : Option Bytes)
    (failed : (cLogin sha256 env system hSession userType pPin).1 ≠ .ok) :
    FailedCall sha256 system (.login hSession userType pPin)
      (cLogin sha256 env system hSession userType pPin).1
      (cLogin sha256 env system hSession userType pPin).2 := by
  rcases login_cases sha256 env system hSession userType pPin with
    ⟨rv, -, same⟩ | ⟨pin, found, -, logsIn, ⟨rv, -, rfl, same⟩ | ⟨-, same⟩⟩
  · rw [same]
    exact .kept _ _
  · rw [same]
    exact .attempted _ rfl found.context
      (get_session_sound system hSession found logsIn.session).1 _ _
  · rw [same] at failed
    exact absurd rfl failed

/-- So has a failing change of a PIN. -/
theorem set_pin_fails (hSession : CkSessionHandle) (pOldPin pNewPin : Option Bytes)
    (failed : (cSetPIN sha256 env system hSession pOldPin pNewPin).1 ≠ .ok) :
    FailedCall sha256 system (.setPIN hSession pOldPin pNewPin)
      (cSetPIN sha256 env system hSession pOldPin pNewPin).1
      (cSetPIN sha256 env system hSession pOldPin pNewPin).2 := by
  rcases set_pin_cases sha256 env system hSession pOldPin pNewPin with
    ⟨rv, -, same⟩ | ⟨oldPin, newPin, found, -, -, changes, ⟨rv, -, rfl, same⟩ | ⟨-, same⟩⟩
  · rw [same]
    exact .kept _ _
  · rw [same]
    exact .attempted _ rfl found.context
      (get_session_sound system hSession found changes.session).1 _ _
  · rw [same] at failed
    exact absurd rfl failed

/-- What a failed call leaves, for every call. -/
theorem failed_call (call : Call) (failed : (callStep sha256 env system call).1.rv ≠ .ok) :
    FailedCall sha256 system call (callStep sha256 env system call).1.rv
      (callStep sha256 env system call).2 := by
  have refused (outcomes : AllOrNothing system (callStep sha256 env system call).1.rv
      (callStep sha256 env system call).2) :
      FailedCall sha256 system call (callStep sha256 env system call).1.rv
        (callStep sha256 env system call).2 := by
    rw [outcomes.resolve_right failed]
    exact .kept _ _
  cases call with
  | initializeLibrary => exact initialize_fails sha256 env system failed
  | finalizeLibrary pReserved => exact refused (finalize_all_or_nothing system pReserved)
  | initToken slotID pPin pLabel =>
    exact refused (init_token_all_or_nothing sha256 env system slotID pPin pLabel)
  | initPIN hSession pPin => exact refused (init_pin_all_or_nothing sha256 env system hSession pPin)
  | setPIN hSession pOldPin pNewPin =>
    exact set_pin_fails sha256 env system hSession pOldPin pNewPin failed
  | openSession slotID flags phSession =>
    exact refused (open_session_all_or_nothing env system slotID flags phSession)
  | closeSession hSession => exact refused (close_session_all_or_nothing system hSession)
  | closeAllSessions slotID => exact refused (close_all_sessions_all_or_nothing system slotID)
  | login hSession userType pPin =>
    exact login_fails sha256 env system hSession userType pPin failed
  | logout hSession => exact refused (logout_all_or_nothing system hSession)
  | createObject hSession pTemplate phObject =>
    exact refused (create_object_all_or_nothing env system hSession pTemplate phObject)
  | destroyObject hSession hObject =>
    exact refused (destroy_object_all_or_nothing env system hSession hObject)
  | setAttributeValue hSession hObject pTemplate =>
    exact set_attribute_value_fails sha256 system hSession hObject pTemplate failed
  | findObjectsInit hSession template =>
    exact refused (find_objects_init_all_or_nothing system hSession)
  | findObjects hSession phObject most pulObjectCount =>
    exact refused (find_objects_all_or_nothing system hSession phObject most pulObjectCount)
  | findObjectsFinal hSession => exact refused (find_objects_final_all_or_nothing system hSession)
  | signInit hSession pMechanism hKey =>
    exact refused (sign_init_all_or_nothing system hSession pMechanism hKey)
  | sign hSession pData pSignature pulSignatureLen =>
    exact sign_fails sha256 env system hSession pData pSignature pulSignatureLen
  | verifyInit hSession pMechanism hKey =>
    exact refused (verify_init_all_or_nothing system hSession pMechanism hKey)
  | verify hSession pData pSignature =>
    exact verify_fails sha256 system hSession pData pSignature
  | generateKeyPair hSession pMechanism publicTemplate privateTemplate phPublicKey phPrivateKey =>
    exact refused (generate_key_pair_all_or_nothing env system hSession pMechanism publicTemplate
      privateTemplate phPublicKey phPrivateKey)
  | _ => exact .kept _ _

end Calls

/-! ## Leaving failures out -/

/-- The calls that only report. -/
def Call.onlyReports : Call → Bool
  | .getInfo _ | .getFunctionList _ | .getSlotList _ _ _ | .getSlotInfo _ _ | .getTokenInfo _ _
  | .getMechanismList _ _ _ | .getMechanismInfo _ _ _ | .getSessionInfo _ _
  | .getAttributeValue _ _ _ | .generateRandom _ _ _ | .seedRandom | .notSupported
  | .notParallel => true
  | _ => false

/-- The return value alone shows that the call changed nothing. -/
def Call.idle (call : Call) (rv : CkRv) : Bool :=
  call.onlyReports ||
    match call with
    | .initializeLibrary => rv == .cryptokiAlreadyInitialized
    | .login _ _ _ | .setPIN _ _ _ => rv != .ok && rv != .pinIncorrect && rv != .pinLocked
    | .sign _ _ _ _ | .verify _ _ _ => rv.beforeOperation
    | .setAttributeValue _ _ _ => rv != .ok && rv != .attributeReadOnly
    | _ => rv != .ok

/-- A new process is never idle. -/
def Event.idle : Event → Response → Bool
  | .call made _, response => made.idle response.rv
  | .newProcess, _ => false

section Idle

variable (sha256 : Sha256)

/-- A verification that fails for want of a PIN costs nothing. -/
theorem verify_pin_free (slot : HsmSlot) (userType : CkUserType) (pin : Bytes)
    (right : (hsmVerifyPin sha256 slot userType pin).1 ≠ .ok)
    (wrong : (hsmVerifyPin sha256 slot userType pin).1 ≠ .pinIncorrect)
    (locked : (hsmVerifyPin sha256 slot userType pin).1 ≠ .pinLocked) :
    (hsmVerifyPin sha256 slot userType pin).2 = slot := by
  unfold hsmVerifyPin at right wrong locked ⊢
  dsimp only at right wrong locked ⊢
  generalize (if (slot.pinFields userType).retryCount > 0 then
    (slot.pinFields userType).retryCount - 1 else (slot.pinFields userType).retryCount) = left
    at right wrong locked ⊢
  split
  · rfl
  · rename_i initialized
    rw [if_neg initialized] at right wrong locked
    split
    · rfl
    · rename_i unlocked
      rw [if_neg unlocked] at right wrong locked
      split
      · rename_i differs
        rw [if_pos differs] at right wrong locked
        split
        · rename_i exhausted
          rw [if_pos exhausted] at locked
          exact absurd rfl locked
        · rename_i more
          rw [if_neg more] at wrong
          exact absurd rfl wrong
      · rename_i same
        rw [if_neg same] at right
        exact absurd rfl right

/-- A call whose return value shows that it is idle changes nothing. -/
theorem idle_call_still (env : Env) (system : System) (call : Call)
    (idle : call.idle (callStep sha256 env system call).1.rv = true) :
    (callStep sha256 env system call).2 = system := by
  cases reports : call.onlyReports with
  | true =>
    cases call with
    | getInfo | getFunctionList | getSlotList | getSlotInfo | getTokenInfo | getMechanismList
    | getMechanismInfo | getSessionInfo | getAttributeValue | generateRandom | seedRandom
    | notSupported | notParallel => rfl
    | _ => cases reports
  | false =>
    unfold Call.idle at idle
    rw [reports, Bool.false_or] at idle
    have failed : (callStep sha256 env system call).1.rv ≠ .ok := by
      intro succeeded
      rw [succeeded] at idle
      cases call with
      | _ => cases idle
    have left := failed_call sha256 env system call failed
    generalize (callStep sha256 env system call).1.rv = rv at idle failed left
    generalize (callStep sha256 env system call).2 = after at left ⊢
    cases left with
    | kept => rfl
    | attempted _ verifies context present userType pin =>
      have costs : (hsmVerifyPin sha256 context.slot userType pin).1 ≠ .pinIncorrect ∧
          (hsmVerifyPin sha256 context.slot userType pin).1 ≠ .pinLocked := by
        cases call with
        | login | setPIN =>
          simp only [Bool.and_eq_true, bne_iff_ne, ne_eq] at idle
          exact ⟨idle.1.2, idle.2⟩
        | _ => cases verifies
      rw [verify_pin_free sha256 context.slot userType pin failed costs.1 costs.2]
      exact with_slot_same system context present
    | ended _ _ runs reached hSession found located operation inactive =>
      cases call with
      | sign | verify => cases idle.symm.trans reached
      | _ => cases runs
    | relabelled => cases idle
    | directories _ storage absent reached => exact absurd (eq_of_beq idle) reached

/-- Nor does an event. -/
theorem idle_event_still (system : System) (event : Event)
    (idle : event.idle (step sha256 system event).1 = true) :
    (step sha256 system event).2 = system := by
  cases event with
  | newProcess => cases idle
  | call call env => exact idle_call_still sha256 env system call idle

/-- The reports and almost all failures of a run can be left out of it, in any number and
wherever they stand: the other calls are answered as before, and the run ends in the same
state. What must stay is a failure that may cost a PIN attempt, ends an operation or follows
stored labels, and that of a `C_Initialize` that got as far as the directories. -/
theorem idle_calls_erasable (system : System) (events : List Event) :
    history (step sha256) system
        ((remaining Event.idle (history (step sha256) system events)).map Prod.fst) =
      remaining Event.idle (history (step sha256) system events) ∧
    Runs.run (step sha256) system
        ((remaining Event.idle (history (step sha256) system events)).map Prod.fst) =
      Runs.run (step sha256) system events :=
  erased (step sha256) Event.idle (idle_event_still sha256) system events

end Idle

/-! ## What failures can never do -/

/-- The session without its operation. -/
def HsmSession.withoutOperation (session : HsmSession) : HsmSession :=
  { session with operation := {} }

/-- The object without its label. -/
def HsmObject.withoutLabel (object : HsmObject) : HsmObject :=
  { object with label := Buffer.filled 256 0 }

/-- The slot without attempts, operations and labels. -/
def HsmSlot.substance (slot : HsmSlot) : HsmSlot :=
  { slot with
    userPinRetryCount := 0
    soPinRetryCount := 0
    userPinLocked := false
    soPinLocked := false
    sessions := mapped HsmSession.withoutOperation slot.sessions
    objects := mapped HsmObject.withoutLabel slot.objects }

/-- The storage without its directories. -/
def Storage.files (storage : Storage) : Storage :=
  { storage with storageDir := true, keyDir := true }

/-- The slot is worn: its substance is the same, no attempt is given back, no lock is
released, and no operation is started. -/
structure HsmSlot.WornTo (before after : HsmSlot) : Prop where
  substance : after.substance = before.substance
  attempts : ∀ userType,
    (after.pinFields userType).retryCount ≤ (before.pinFields userType).retryCount
  locks : ∀ userType, (before.pinFields userType).locked = true →
    (after.pinFields userType).locked = true
  operations : ∀ index session later, before.sessions index = some session →
    after.sessions index = some later → later.operation.active = true →
      later.operation = session.operation

/-- The process is worn: it is initialized as before, and its slot at most worn. -/
structure System.WornTo (before after : System) : Prop where
  slots : Option.Rel (fun context later : HsmContext =>
      context.slot.WornTo later.slot ∧ later = { context with slot := later.slot })
    before.gHsmContext after.gHsmContext
  handles : after.gNextSessionHandle = before.gNextSessionHandle
  counter : after.handleCounter = before.handleCounter
  files : after.storage.files = before.storage.files

section Failures

/-- No wear at all. -/
theorem slot_worn_same (slot : HsmSlot) : slot.WornTo slot where
  substance := rfl
  attempts _ := Nat.le_refl _
  locks _ held := held
  operations index session later before after _ := by
    rw [Option.some.inj (after.symm.trans before)]

/-- The slots of one substance hold sessions at the same places. -/
theorem substance_session (slot other : HsmSlot) (index : Fin hsmMaxSessions)
    (session : HsmSession) (same : other.substance = slot.substance)
    (present : slot.sessions index = some session) :
    ∃ standing, other.sessions index = some standing := by
  have entries : mapped HsmSession.withoutOperation other.sessions index =
      mapped HsmSession.withoutOperation slot.sessions index :=
    congrFun (congrArg HsmSlot.sessions same) index
  simp only [mapped, present, Option.map_some] at entries
  obtain ⟨standing, holds, -⟩ := Option.map_eq_some_iff.mp entries
  exact ⟨standing, holds⟩

/-- Wear adds up. -/
theorem slot_worn_trans (slot middle last : HsmSlot) (first : slot.WornTo middle)
    (second : middle.WornTo last) : slot.WornTo last where
  substance := second.substance.trans first.substance
  attempts userType := (second.attempts userType).trans (first.attempts userType)
  locks userType held := second.locks userType (first.locks userType held)
  operations index session later before after active := by
    obtain ⟨standing, between⟩ :=
      substance_session slot middle index session first.substance before
    have kept : later.operation = standing.operation :=
      second.operations index standing later between after active
    rw [kept] at active ⊢
    exact first.operations index session standing before between active

/-- No wear of a process. -/
theorem system_worn_same (system : System) : system.WornTo system where
  slots := by
    cases system.gHsmContext with
    | none => exact .none
    | some context => exact .some ⟨slot_worn_same context.slot, rfl⟩
  handles := rfl
  counter := rfl
  files := rfl

/-- It adds up as well. -/
theorem system_worn_trans (system middle last : System) (first : system.WornTo middle)
    (second : middle.WornTo last) : system.WornTo last where
  slots := by
    have earlier := first.slots
    have later := second.slots
    revert earlier later
    cases system.gHsmContext with
    | none =>
      cases middle.gHsmContext with
      | none => exact fun _ later => later
      | some context =>
        intro earlier
        cases earlier
    | some context =>
      cases middle.gHsmContext with
      | none =>
        intro earlier
        cases earlier
      | some between =>
        cases last.gHsmContext with
        | none =>
          intro _ later
          cases later
        | some final =>
          intro earlier later
          obtain ⟨earlier, rebuilt⟩ := Option.rel_some_some.mp earlier
          obtain ⟨later, again⟩ := Option.rel_some_some.mp later
          refine .some ⟨slot_worn_trans _ _ _ earlier later, ?_⟩
          rw [again, rebuilt]
  handles := second.handles.trans first.handles
  counter := second.counter.trans first.counter
  files := second.files.trans first.files

/-- Replacing the slot wears the process as much as it wears the slot. -/
theorem with_slot_worn (system : System) (context : HsmContext) (slot : HsmSlot)
    (present : system.gHsmContext = some context) (worn : context.slot.WornTo slot) :
    system.WornTo (system.withSlot context slot) where
  slots := by
    rw [present]
    exact .some ⟨worn, rfl⟩
  handles := rfl
  counter := rfl
  files := rfl

variable (sha256 : Sha256)

/-- Fewer attempts and perhaps a lock are wear. -/
theorem store_attempts_worn (slot : HsmSlot) (userType : CkUserType) (retryCount : Nat)
    (locked : Bool) (fewer : retryCount ≤ (slot.pinFields userType).retryCount)
    (stays : (slot.pinFields userType).locked = true → locked = true) :
    slot.WornTo (slot.storeAttempts userType retryCount locked) where
  substance := by
    unfold HsmSlot.storeAttempts
    split <;> rfl
  attempts tested := by
    rw [store_attempts_fields]
    split
    · rename_i selected
      have fields : slot.pinFields tested = slot.pinFields userType := by
        simp only [HsmSlot.pinFields, selected]
      rw [fields]
      exact fewer
    · exact Nat.le_refl _
  locks tested held := by
    rw [store_attempts_fields]
    split
    · rename_i selected
      have fields : slot.pinFields tested = slot.pinFields userType := by
        simp only [HsmSlot.pinFields, selected]
      rw [fields] at held
      exact stays held
    · exact held
  operations index session later before after _ := by
    rw [(store_attempts_tables slot userType retryCount locked).1] at after
    rw [Option.some.inj (after.symm.trans before)]

/-- A verification that fails only wears the slot. -/
theorem verify_pin_worn (slot : HsmSlot) (userType : CkUserType) (pin : Bytes)
    (failed : (hsmVerifyPin sha256 slot userType pin).1 ≠ .ok) :
    slot.WornTo (hsmVerifyPin sha256 slot userType pin).2 := by
  cases initialized : (slot.pinFields userType).initialized with
  | false =>
    rw [verify_pin_unset sha256 slot userType pin initialized]
    exact slot_worn_same slot
  | true =>
    cases locked : (slot.pinFields userType).locked with
    | true =>
      rw [verify_pin_locked sha256 slot userType pin initialized locked]
      exact slot_worn_same slot
    | false =>
      by_cases matching : sha256 pin = (slot.pinFields userType).storedHash
      · rw [verify_pin_right sha256 slot userType pin initialized locked matching] at failed
        exact absurd rfl failed
      · rw [verify_pin_wrong sha256 slot userType pin initialized locked matching]
        apply store_attempts_worn
        · exact Nat.sub_le _ _
        · intro held
          rw [locked] at held
          cases held

/-- Ending an operation wears the slot. -/
theorem operation_over_worn (slot : HsmSlot) (index : Fin hsmMaxSessions) (session : HsmSession)
    (present : slot.sessions index = some session) (operation : HsmOperation)
    (ended : operation.active = false) :
    slot.WornTo { slot with
      sessions := put slot.sessions index (some { session with operation := operation }) } where
  substance := by
    unfold HsmSlot.substance
    simp only [mapped_put, Option.map_some]
    have entry : some (HsmSession.withoutOperation { session with operation := operation }) =
        mapped HsmSession.withoutOperation slot.sessions index := by
      simp only [mapped, present, Option.map_some]
      rfl
    rw [entry, put_kept]
  attempts _ := Nat.le_refl _
  locks _ held := held
  operations tested earlier later before after active := by
    by_cases here : tested = index
    · rw [here] at after
      dsimp only at after
      rw [put_self] at after
      cases after
      rw [ended] at active
      cases active
    · dsimp only at after
      rw [put_other _ _ _ _ here] at after
      rw [Option.some.inj (after.symm.trans before)]

/-- A label wears the slot. -/
theorem label_worn (slot : HsmSlot) (index : Fin hsmMaxObjects) (object : HsmObject)
    (present : slot.objects index = some object) (label : Buffer 256) :
    slot.WornTo (slot.withObject index (some { object with label := label })
      slot.objectCount) where
  substance := by
    unfold HsmSlot.substance HsmSlot.withObject
    simp only [mapped_put, Option.map_some]
    have entry : some (HsmObject.withoutLabel { object with label := label }) =
        mapped HsmObject.withoutLabel slot.objects index := by
      simp only [mapped, present, Option.map_some]
      rfl
    rw [entry, put_kept]
  attempts _ := Nat.le_refl _
  locks _ held := held
  operations tested earlier later before after _ := by
    rw [Option.some.inj (Eq.trans (Eq.symm after) before)]

/-- A failed call only wears the process. -/
theorem failed_call_worn (env : Env) (system : System) (call : Call)
    (failed : (callStep sha256 env system call).1.rv ≠ .ok) :
    system.WornTo (callStep sha256 env system call).2 := by
  have left := failed_call sha256 env system call failed
  generalize (callStep sha256 env system call).1.rv = rv at failed left
  generalize (callStep sha256 env system call).2 = after at left ⊢
  cases left with
  | kept => exact system_worn_same system
  | attempted _ verifies context present userType pin =>
    exact with_slot_worn system context _ present (verify_pin_worn sha256 _ userType pin failed)
  | ended _ _ runs reached hSession found located operation inactive =>
    obtain ⟨present, entry, -⟩ := get_session_sound system hSession found located
    exact with_slot_worn system found.context _ present
      (operation_over_worn found.slot found.index found.session entry operation inactive)
  | relabelled hSession hObject pTemplate found located index object lookup label =>
    have present := (get_session_sound system hSession found located).1
    exact with_slot_worn system found.context _ present
      (label_worn found.slot index object
        (get_object_sound found.slot hObject index object lookup).1 label)
  | directories _ storage absent reached files keys =>
    refine ⟨?_, rfl, rfl, ?_⟩
    · exact (system_worn_same system).slots
    · simp only [Storage.files, files, keys]

/-- However many calls fail, in whatever order and however the environment behaves, they
only wear the process: what they leave differs from what they met in PIN attempts that were
lost, locks that were set, operations that ended, labels and the two directories, and in
nothing else. -/
theorem failures_only_wear (system : System) (events : List Event)
    (fails : EveryStep (step sha256)
      (fun now event => event ≠ .newProcess ∧ (step sha256 now event).1.rv ≠ .ok) system events) :
    system.WornTo (run (step sha256) system events) := by
  refine invariant_run (step sha256) system.WornTo _ ?_ system events
    (system_worn_same system) fails
  intro now event worn failed
  refine system_worn_trans system now _ worn ?_
  cases event with
  | newProcess => exact absurd rfl failed.1
  | call call env => exact failed_call_worn sha256 env now call failed.2

end Failures

/-- A wrong PIN, a session that is not open and a key that does not exist. -/
def refusedUse : List Event :=
  [calmly (.setPIN 1 (some soPin) (some userPin)), calmly (.closeSession 9),
    calmly (.signInit 1 (some ckmRsaPkcs) 5)]

set_option maxRecDepth 4000 in
theorem refused_use_wears :
    userReady.WornTo (run (step pinSha256) userReady refusedUse) := by
  refine failures_only_wear pinSha256 userReady refusedUse ⟨⟨?_, ?_⟩, ⟨?_, ?_⟩, ⟨?_, ?_⟩, trivial⟩
  · exact Event.noConfusion
  · decide
  · exact Event.noConfusion
  · decide
  · exact Event.noConfusion
  · decide

end PstHsm
