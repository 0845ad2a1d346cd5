import PstHsm.Durability
import PstHsm.FailedCalls
import PstHsm.Isolation

/-!
# Processes over one storage

Several processes use the library at the same time, as the network server and the tests or
another application do. Each has its own memory; the token file and the key directory are
shared, and nothing locks them. The library reads the storage only when it is initialized,
so from then on no process notices another. What a process saves is what it has in memory,
so the last save wins, whatever the others stored before.

A call is one step also between processes: the writes of two calls do not mix.
-/

namespace PstHsm

open Tables Isolation

/-- What a process holds in memory. -/
structure Process where
  gHsmContext : Option HsmContext
  gNextSessionHandle : CkSessionHandle
  handleCounter : Nat

def System.process (system : System) : Process :=
  ⟨system.gHsmContext, system.gNextSessionHandle, system.handleCounter⟩

/-- The process over a storage. -/
def Process.over (process : Process) (storage : Storage) : System :=
  ⟨process.gHsmContext, process.gNextSessionHandle, process.handleCounter, storage⟩

/-- The processes, numbered, and the storage they share. -/
structure Machine where
  processes : Nat → Process
  storage : Storage

/-- One process as it sees itself. -/
def Machine.system (machine : Machine) (index : Nat) : System :=
  (machine.processes index).over machine.storage

/-- One event of one process. -/
def machineStep (sha256 : Sha256) (machine : Machine) (event : Nat × Event) :
    Response × Machine :=
  let (response, system) := step sha256 (machine.system event.1) event.2
  (response,
    { processes := Function.update machine.processes event.1 system.process
      storage := system.storage })

/-- The process whose events are looked at. -/
def ofProcess (index : Nat) (event : Nat × Event) : Bool := event.1 == index

/-- The events of one process. -/
def eventsOf (index : Nat) (events : List (Nat × Event)) : List Event :=
  (events.filter (ofProcess index)).map Prod.snd

/-- The event does not initialize the library. -/
def Event.keepsLibrary : Event → Prop
  | .call made _ => made ≠ .initializeLibrary
  | .newProcess => True

/-! ## Only initialization reads the storage -/

section Storage

variable (sha256 : Sha256) (env : Env) (process : Process) (storage other : Storage)

/-- Two results with the same answer and the same process. -/
def Unread {α : Type} (result other : α × System) : Prop :=
  result.1 = other.1 ∧ result.2.process = other.2.process

/-- A session is found without a look at the storage. -/
theorem get_session_over (hSession : CkSessionHandle) :
    hsmGetSession (process.over storage) hSession = hsmGetSession (process.over other) hSession :=
  rfl

/-- The library of a process is its own. -/
theorem context_over : (process.over storage).gHsmContext = process.gHsmContext := rfl

/-- And so is its counter. -/
theorem counter_over : (process.over storage).handleCounter = process.handleCounter := rfl

/-- Closing a session changes the process alone, whatever the storage. -/
theorem close_session_over (index : Fin hsmMaxSessions) :
    ∃ after : Process, ∀ storage, closeSessionAt (process.over storage) index =
      after.over storage := by
  cases present : process.gHsmContext with
  | none =>
    refine ⟨process, fun storage => ?_⟩
    simp only [closeSessionAt, context_over, present]
  | some context =>
    cases entry : context.slot.sessions index with
    | none =>
      refine ⟨process, fun storage => ?_⟩
      simp only [closeSessionAt, context_over, present, entry]
    | some session =>
      cases located : hsmGetSession (process.over ⟨false, false, none, ∅⟩) session.handle with
      | error rv =>
        refine ⟨process, fun storage => ?_⟩
        rw [get_session_over process _ storage] at located
        simp only [closeSessionAt, context_over, present, entry, hsmDestroySession, located]
      | ok found =>
        refine ⟨((process.over ⟨false, false, none, ∅⟩).withSlot found.context
          { found.slot with
            sessions := put found.slot.sessions found.index none
            sessionCount := found.slot.sessionCount - 1 }).process, fun storage => ?_⟩
        rw [get_session_over process _ storage] at located
        simp only [closeSessionAt, context_over, present, entry, hsmDestroySession, located]
        rfl

/-- Closing all sessions is no business of the storage. -/
theorem close_sessions_over :
    ∃ after : Process, ∀ storage, closeSessions (process.over storage) = after.over storage := by
  unfold closeSessions
  generalize List.finRange hsmMaxSessions = indices
  induction indices generalizing process with
  | nil => exact ⟨process, fun _ => rfl⟩
  | cons index rest inductionHypothesis =>
    obtain ⟨next, closed⟩ := close_session_over process index
    obtain ⟨after, others⟩ := inductionHypothesis next
    refine ⟨after, fun storage => ?_⟩
    rw [List.foldl_cons, closed, others]

/-- `C_Finalize` does not see the storage. -/
theorem finalize_unread (pReserved : Bool) :
    Unread (callStep sha256 env (process.over storage) (.finalizeLibrary pReserved))
      (callStep sha256 env (process.over other) (.finalizeLibrary pReserved)) := by
  simp only [callStep, cFinalize, context_over]
  split
  · exact ⟨rfl, rfl⟩
  · split <;> exact ⟨rfl, rfl⟩

/-- `C_InitToken` only writes it. -/
theorem init_token_unread (slotID : CkSlotId) (pPin pLabel : Option Bytes) :
    Unread (callStep sha256 env (process.over storage) (.initToken slotID pPin pLabel))
      (callStep sha256 env (process.over other) (.initToken slotID pPin pLabel)) := by
  obtain ⟨after, closed⟩ := close_sessions_over process
  simp only [callStep, cInitToken, resetToken, context_over, closed]
  repeat' split
  all_goals exact ⟨rfl, rfl⟩

/-- `C_InitPIN` only writes it. -/
theorem init_pin_unread (hSession : CkSessionHandle) (pPin : Option Bytes) :
    Unread (callStep sha256 env (process.over storage) (.initPIN hSession pPin))
      (callStep sha256 env (process.over other) (.initPIN hSession pPin)) := by
  simp only [callStep, cInitPIN, get_session_over process storage other]
  repeat' split
  all_goals exact ⟨rfl, rfl⟩

/-- `C_SetPIN` only writes it. -/
theorem set_pin_unread (hSession : CkSessionHandle) (pOldPin pNewPin : Option Bytes) :
    Unread (callStep sha256 env (process.over storage) (.setPIN hSession pOldPin pNewPin))
      (callStep sha256 env (process.over other) (.setPIN hSession pOldPin pNewPin)) := by
  simp only [callStep, cSetPIN, get_session_over process storage other]
  repeat' split
  all_goals exact ⟨rfl, rfl⟩

/-- `C_OpenSession` does not see it. -/
theorem open_session_unread (slotID : CkSlotId) (flags : CkFlags) (phSession : Bool) :
    Unread (callStep sha256 env (process.over storage) (.openSession slotID flags phSession))
      (callStep sha256 env (process.over other) (.openSession slotID flags phSession)) := by
  simp only [callStep, cOpenSession, hsmCreateSession, context_over]
  repeat' split
  all_goals exact ⟨rfl, rfl⟩

/-- `C_CloseSession` does not see it. -/
theorem close_session_unread (hSession : CkSessionHandle) :
    Unread (callStep sha256 env (process.over storage) (.closeSession hSession))
      (callStep sha256 env (process.over other) (.closeSession hSession)) := by
  simp only [callStep, cCloseSession, hsmDestroySession, get_session_over process storage other]
  repeat' split
  all_goals exact ⟨rfl, rfl⟩

/-- `C_CloseAllSessions` does not see it. -/
theorem close_all_sessions_unread (slotID : CkSlotId) :
    Unread (callStep sha256 env (process.over storage) (.closeAllSessions slotID))
      (callStep sha256 env (process.over other) (.closeAllSessions slotID)) := by
  obtain ⟨after, closed⟩ := close_sessions_over process
  simp only [callStep, cCloseAllSessions, context_over, closed]
  repeat' split
  all_goals exact ⟨rfl, rfl⟩

/-- `C_Login` does not see it. -/
theorem login_unread (hSession : CkSessionHandle) (userType : CkUserType) (pPin : Option Bytes) :
    Unread (callStep sha256 env (process.over storage) (.login hSession userType pPin))
      (callStep sha256 env (process.over other) (.login hSession userType pPin)) := by
  simp only [callStep, cLogin, get_session_over process storage other]
  repeat' split
  all_goals exact ⟨rfl, rfl⟩

/-- `C_Logout` does not see it. -/
theorem logout_unread (hSession : CkSessionHandle) :
    Unread (callStep sha256 env (process.over storage) (.logout hSession))
      (callStep sha256 env (process.over other) (.logout hSession)) := by
  simp only [callStep, cLogout, get_session_over process storage other]
  repeat' split
  all_goals exact ⟨rfl, rfl⟩

/-- `C_CreateObject` only writes it. -/
theorem create_object_unread
    (hSession : CkSessionHandle) (pTemplate : Option (List CkAttribute)) (phObject : Bool) :
    Unread (callStep sha256 env (process.over storage) (.createObject hSession pTemplate phObject))
      (callStep sha256 env (process.over other) (.createObject hSession pTemplate phObject)) := by
  simp only [callStep, cCreateObject, hsmCreateObject, get_session_over process storage other,
    counter_over]
  repeat' split
  all_goals simp only [Unread, System.process, System.withSlot, Process.over, and_self]

/-- `C_DestroyObject` answers the same whether or not there is a file. -/
theorem destroy_object_unread (hSession : CkSessionHandle) (hObject : CkObjectHandle) :
    Unread (callStep sha256 env (process.over storage) (.destroyObject hSession hObject))
      (callStep sha256 env (process.over other) (.destroyObject hSession hObject)) := by
  simp only [callStep, cDestroyObject, get_session_over process storage other]
  cases hsmGetSession (process.over other) hSession with
  | error rv => exact ⟨rfl, rfl⟩
  | ok found =>
    dsimp only
    unfold hsmDestroyObject
    generalize hsmGetObject found.slot hObject = lookup
    cases lookup with
    | error rv => exact ⟨rfl, rfl⟩
    | ok pair => exact ⟨rfl, rfl⟩

/-- `C_SetAttributeValue` does not see it. -/
theorem set_attribute_value_unread (hSession : CkSessionHandle) (hObject : CkObjectHandle)
    (pTemplate : Option (List CkAttribute)) :
    Unread
      (callStep sha256 env (process.over storage)
        (.setAttributeValue hSession hObject pTemplate))
      (callStep sha256 env (process.over other)
        (.setAttributeValue hSession hObject pTemplate)) := by
  simp only [callStep, cSetAttributeValue, get_session_over process storage other]
  repeat' split
  all_goals exact ⟨rfl, rfl⟩

/-- `C_FindObjectsInit` does not see it. -/
theorem find_objects_init_unread (hSession : CkSessionHandle) (template : List CkAttribute) :
    Unread (callStep sha256 env (process.over storage) (.findObjectsInit hSession template))
      (callStep sha256 env (process.over other) (.findObjectsInit hSession template)) := by
  simp only [callStep, cFindObjectsInit, get_session_over process storage other]
  repeat' split
  all_goals exact ⟨rfl, rfl⟩

/-- `C_FindObjects` does not see it. -/
theorem find_objects_unread
    (hSession : CkSessionHandle) (phObject : Bool) (most : CkUlong) (pulObjectCount : Bool) :
    Unread
      (callStep sha256 env (process.over storage)
        (.findObjects hSession phObject most pulObjectCount))
      (callStep sha256 env (process.over other)
        (.findObjects hSession phObject most pulObjectCount)) := by
  simp only [callStep, cFindObjects, get_session_over process storage other]
  repeat' split
  all_goals exact ⟨rfl, rfl⟩

/-- `C_FindObjectsFinal` does not see it. -/
theorem find_objects_final_unread (hSession : CkSessionHandle) :
    Unread (callStep sha256 env (process.over storage) (.findObjectsFinal hSession))
      (callStep sha256 env (process.over other) (.findObjectsFinal hSession)) := by
  simp only [callStep, cFindObjectsFinal, get_session_over process storage other]
  repeat' split
  all_goals exact ⟨rfl, rfl⟩

/-- `C_SignInit` does not see it. -/
theorem sign_init_unread
    (hSession : CkSessionHandle) (pMechanism : Option CkMechanismType) (hKey : CkObjectHandle) :
    Unread (callStep sha256 env (process.over storage) (.signInit hSession pMechanism hKey))
      (callStep sha256 env (process.over other) (.signInit hSession pMechanism hKey)) := by
  simp only [callStep, cSignInit, get_session_over process storage other]
  repeat' split
  all_goals exact ⟨rfl, rfl⟩

/-- `C_Sign` does not see it. -/
theorem sign_unread (hSession : CkSessionHandle) (pData : Option Bytes) (pSignature : Bool)
    (pulSignatureLen : Option CkUlong) :
    Unread
      (callStep sha256 env (process.over storage)
        (.sign hSession pData pSignature pulSignatureLen))
      (callStep sha256 env (process.over other)
        (.sign hSession pData pSignature pulSignatureLen)) := by
  simp only [callStep, cSign, get_session_over process storage other]
  repeat' split
  all_goals exact ⟨rfl, rfl⟩

/-- `C_VerifyInit` does not see it. -/
theorem verify_init_unread
    (hSession : CkSessionHandle) (pMechanism : Option CkMechanismType) (hKey : CkObjectHandle) :
    Unread (callStep sha256 env (process.over storage) (.verifyInit hSession pMechanism hKey))
      (callStep sha256 env (process.over other) (.verifyInit hSession pMechanism hKey)) := by
  simp only [callStep, cVerifyInit, get_session_over process storage other]
  repeat' split
  all_goals exact ⟨rfl, rfl⟩

/-- `C_Verify` does not see it. -/
theorem verify_unread (hSession : CkSessionHandle) (pData pSignature : Option Bytes) :
    Unread (callStep sha256 env (process.over storage) (.verify hSession pData pSignature))
      (callStep sha256 env (process.over other) (.verify hSession pData pSignature)) := by
  simp only [callStep, cVerify, get_session_over process storage other]
  repeat' split
  all_goals exact ⟨rfl, rfl⟩

/-- `C_GenerateKeyPair` only writes it. -/
theorem generate_key_pair_unread (hSession : CkSessionHandle) (pMechanism : Option CkMechanismType)
    (publicTemplate privateTemplate : List CkAttribute) (phPublicKey phPrivateKey : Bool) :
    Unread
      (callStep sha256 env (process.over storage)
        (.generateKeyPair hSession pMechanism publicTemplate privateTemplate phPublicKey
          phPrivateKey))
      (callStep sha256 env (process.over other)
        (.generateKeyPair hSession pMechanism publicTemplate privateTemplate phPublicKey
          phPrivateKey)) := by
  simp only [callStep, cGenerateKeyPair, get_session_over process storage other]
  split
  · cases hsmGetSession (process.over other) hSession with
    | error rv => exact ⟨rfl, rfl⟩
    | ok found =>
      dsimp only
      split
      · exact ⟨rfl, rfl⟩
      · split
        · exact ⟨rfl, rfl⟩
        · split
          · exact ⟨rfl, rfl⟩
          · unfold insertKeyPair
            dsimp only
            generalize freeIndices found.context.slot.objects = free
            split
            · simp only [Unread, System.process, System.withSlot, Process.over, and_self]
            · exact ⟨rfl, rfl⟩
  · exact ⟨rfl, rfl⟩

/-- No call but the initialization sees the storage. -/
theorem call_unread (call : Call) (later : call ≠ .initializeLibrary) :
    Unread (callStep sha256 env (process.over storage) call)
      (callStep sha256 env (process.over other) call) := by
  cases call with
  | initializeLibrary => exact absurd rfl later
  | finalizeLibrary pReserved =>
    exact finalize_unread sha256 env process storage other pReserved
  | initToken slotID pPin pLabel =>
    exact init_token_unread sha256 env process storage other slotID pPin pLabel
  | initPIN hSession pPin =>
    exact init_pin_unread sha256 env process storage other hSession pPin
  | setPIN hSession pOldPin pNewPin =>
    exact set_pin_unread sha256 env process storage other hSession pOldPin pNewPin
  | openSession slotID flags phSession =>
    exact open_session_unread sha256 env process storage other slotID flags phSession
  | closeSession hSession =>
    exact close_session_unread sha256 env process storage other hSession
  | closeAllSessions slotID =>
    exact close_all_sessions_unread sha256 env process storage other slotID
  | login hSession userType pPin =>
    exact login_unread sha256 env process storage other hSession userType pPin
  | logout hSession =>
    exact logout_unread sha256 env process storage other hSession
  | createObject hSession pTemplate phObject =>
    exact create_object_unread sha256 env process storage other hSession pTemplate phObject
  | destroyObject hSession hObject =>
    exact destroy_object_unread sha256 env process storage other hSession hObject
  | setAttributeValue hSession hObject pTemplate =>
    exact set_attribute_value_unread sha256 env process storage other hSession hObject pTemplate
  | findObjectsInit hSession template =>
    exact find_objects_init_unread sha256 env process storage other hSession template
  | findObjects hSession phObject most pulObjectCount =>
    exact find_objects_unread sha256 env process storage other hSession phObject most pulObjectCount
  | findObjectsFinal hSession =>
    exact find_objects_final_unread sha256 env process storage other hSession
  | signInit hSession pMechanism hKey =>
    exact sign_init_unread sha256 env process storage other hSession pMechanism hKey
  | sign hSession pData pSignature pulSignatureLen =>
    exact sign_unread sha256 env process storage other hSession pData pSignature pulSignatureLen
  | verifyInit hSession pMechanism hKey =>
    exact verify_init_unread sha256 env process storage other hSession pMechanism hKey
  | verify hSession pData pSignature =>
    exact verify_unread sha256 env process storage other hSession pData pSignature
  | generateKeyPair hSession pMechanism publicTemplate privateTemplate phPublicKey phPrivateKey =>
    exact generate_key_pair_unread sha256 env process storage other hSession pMechanism
      publicTemplate privateTemplate phPublicKey phPrivateKey
  | _ => exact ⟨rfl, rfl⟩

end Storage

/-- An event that does not initialize the library neither sees nor depends on the storage. -/
theorem event_unread (sha256 : Sha256) (process : Process) (storage other : Storage)
    (event : Event) (later : event.keepsLibrary) :
    Unread (step sha256 (process.over storage) event) (step sha256 (process.over other) event) := by
  cases event with
  | newProcess => exact ⟨rfl, rfl⟩
  | call call env => exact call_unread sha256 env process storage other call later

/-! ## Processes do not notice each other -/

section Machines

variable (sha256 : Sha256)

/-- A process makes its own step. -/
theorem machine_own_step (machine : Machine) (index : Nat) (event : Event) :
    (machineStep sha256 machine (index, event)).1 =
        (step sha256 (machine.system index) event).1 ∧
      (machineStep sha256 machine (index, event)).2.system index =
        (step sha256 (machine.system index) event).2 := by
  refine ⟨rfl, ?_⟩
  simp only [machineStep, Machine.system, Function.update_self]
  rfl

/-- The answer and the storage are those of the process that makes the step. -/
theorem machine_step_result (machine : Machine) (event : Nat × Event) :
    (machineStep sha256 machine event).1 = (step sha256 (machine.system event.1) event.2).1 ∧
      (machineStep sha256 machine event).2.storage =
        (step sha256 (machine.system event.1) event.2).2.storage :=
  ⟨rfl, rfl⟩

/-- The others stay as they are. -/
theorem machine_other_step (machine : Machine) (event : Nat × Event) (index : Nat)
    (other : event.1 ≠ index) :
    (machineStep sha256 machine event).2.processes index = machine.processes index :=
  Function.update_of_ne (fun same => other same.symm) _ _

/-- To a process two machines are the same where it is itself. -/
theorem process_isolated (index : Nat) :
    Isolated (machineStep sha256) (ofProcess index)
      (fun machine other => machine.processes index = other.processes index)
      (fun event => event.1 = index → event.2.keepsLibrary) where
  answered := by
    rintro machine other ⟨number, event⟩ later own same
    obtain rfl : number = index := eq_of_beq own
    have unread := event_unread sha256 (machine.processes number) machine.storage other.storage
      event (later rfl)
    simp only [machineStep, Machine.system, Function.update_self]
    rw [← same]
    exact unread
  untouched := by
    intro machine other event _ notOwn same
    have elsewhere : event.1 ≠ index := by
      intro here
      rw [ofProcess, here, beq_self_eq_true] at notOwn
      cases notOwn
    rw [← same]
    exact machine_other_step sha256 machine event index elsewhere

/-- A process alone on the machine runs as it would with the storage to itself. -/
theorem process_alone (machine : Machine) (index : Nat) (events : List (Nat × Event))
    (own : ∀ event ∈ events, ofProcess index event = true) :
    Runs.answers (machineStep sha256) machine events =
        Runs.answers (step sha256) (machine.system index) (events.map Prod.snd) ∧
      (Runs.run (machineStep sha256) machine events).system index =
        Runs.run (step sha256) (machine.system index) (events.map Prod.snd) := by
  induction events generalizing machine with
  | nil => exact ⟨rfl, rfl⟩
  | cons first rest inductionHypothesis =>
    obtain ⟨number, event⟩ := first
    obtain rfl : number = index := eq_of_beq (own (number, event) List.mem_cons_self)
    obtain ⟨answered, follows⟩ := machine_own_step sha256 machine number event
    obtain ⟨answers, final⟩ :=
      inductionHypothesis (machineStep sha256 machine (number, event)).2
        fun other member => own other (List.mem_cons_of_mem _ member)
    rw [follows] at answers final
    simp only [Runs.answers, Runs.run, List.map_cons]
    exact ⟨by rw [answered, answers], final⟩

/-- What a process is answered and what it holds in memory depend on its own calls alone,
whatever other processes do with the storage, as long as it does not initialize the library
again. -/
theorem processes_isolated (machine : Machine) (index : Nat) (events : List (Nat × Event))
    (running : ∀ event ∈ events, event.1 = index → event.2.keepsLibrary) :
    answersTo (machineStep sha256) (ofProcess index) machine events =
        Runs.answers (step sha256) (machine.system index) (eventsOf index events) ∧
      (Runs.run (machineStep sha256) machine events).processes index =
        (Runs.run (step sha256) (machine.system index) (eventsOf index events)).process := by
  obtain ⟨answered, same⟩ := alone (machineStep sha256) (ofProcess index)
    (process_isolated sha256 index) machine machine events rfl running
  obtain ⟨answers, final⟩ := process_alone sha256 machine index (events.filter (ofProcess index))
    fun event member => List.of_mem_filter member
  refine ⟨answered.trans answers, ?_⟩
  rw [same]
  exact congrArg System.process final

/-! ## The last save wins -/

/-- A call that saves the token and succeeds leaves its own record in the token file, if the
file can be opened and is written whole. -/
theorem success_saves (env : Env) (system : System) (call : Call) (saves : call.savesToken = true)
    (complete : env.tokenWrite.Complete) (succeeds : (callStep sha256 env system call).1.rv = .ok) :
    ∃ context, (callStep sha256 env system call).2.gHsmContext = some context ∧
      (callStep sha256 env system call).2.storage.tokenFile =
        some (tokenInfoItems context.slot).flatten := by
  have saved (context : HsmContext) (slot : HsmSlot) :
      (system.withSavedSlot env context slot).gHsmContext = some { context with slot := slot } ∧
        (system.withSavedSlot env context slot).storage.tokenFile =
          some (tokenInfoItems slot).flatten := by
    have whole : env.tokenWrite.Whole (tokenInfoItems slot) := by
      intro item _ reached cut
      rw [complete.2 item.2] at cut
      cases cut
    refine ⟨rfl, ?_⟩
    rw [← (written_whole_iff env.tokenWrite (tokenInfoItems slot)).mpr whole]
    simp only [System.withSavedSlot, hsmStorageSaveTokenInfo, complete.1, if_true]
  cases call with
  | initToken slotID pPin pLabel =>
    rcases init_token_cases sha256 env system slotID pPin pLabel with
      ⟨rv, refused, same⟩ | ⟨pin, label, context, -, -, -, -, -, -, same⟩
    · simp only [callStep, same] at succeeds
      exact absurd succeeds refused
    · simp only [callStep, same]
      exact ⟨_, saved context _⟩
  | initPIN hSession pPin =>
    rcases init_pin_cases sha256 env system hSession pPin with
      ⟨rv, refused, same⟩ | ⟨pin, found, -, -, -, -, -, same⟩
    · simp only [callStep, same] at succeeds
      exact absurd succeeds refused
    · simp only [callStep, same]
      exact ⟨_, saved found.context _⟩
  | setPIN hSession pOldPin pNewPin =>
    rcases set_pin_cases sha256 env system hSession pOldPin pNewPin with
      ⟨rv, refused, same⟩ | ⟨oldPin, newPin, found, -, -, -, ⟨rv, refused, -, same⟩ | ⟨-, same⟩⟩
    · simp only [callStep, same] at succeeds
      exact absurd succeeds refused
    · simp only [callStep, same] at succeeds
      exact absurd succeeds refused
    · simp only [callStep, same]
      exact ⟨_, saved found.context _⟩
  | _ => cases saves

/-- A failed call leaves the token file alone. -/
theorem failed_token_file (env : Env) (system : System) (call : Call)
    (failed : (callStep sha256 env system call).1.rv ≠ .ok) :
    (callStep sha256 env system call).2.storage.tokenFile = system.storage.tokenFile := by
  have same := congrArg Storage.tokenFile (failed_call_worn sha256 env system call failed).files
  exact same

/-- So does every call that is not there to save the token. -/
theorem other_token_file (env : Env) (system : System) (call : Call)
    (other : call.savesToken = false) :
    (callStep sha256 env system call).2.storage.tokenFile = system.storage.tokenFile := by
  have change := token_step sha256 env system call
  generalize (callStep sha256 env system call).2 = after at change
  cases change with
  | kept _ _ file same => exact file
  | saved _ context slot present saves label => cases other.symm.trans saves
  | initialized storage absent file => exact file
  | reset slotID pin label context succeeded => cases other

/-- The event is a call that saves the token. -/
def Event.savesToken : Event → Bool
  | .call made _ => made.savesToken
  | .newProcess => false

/-- The event saves nothing: it is another call, or it fails. -/
def SavesNothing (machine : Machine) (event : Nat × Event) : Prop :=
  event.2.savesToken = true → (machineStep sha256 machine event).1.rv ≠ .ok

/-- What saves nothing leaves the token file. -/
theorem machine_token_file (machine : Machine) (event : Nat × Event)
    (nothing : SavesNothing sha256 machine event) :
    (machineStep sha256 machine event).2.storage.tokenFile = machine.storage.tokenFile := by
  obtain ⟨answered, stored⟩ := machine_step_result sha256 machine event
  rw [SavesNothing, answered] at nothing
  rw [stored]
  obtain ⟨number, event⟩ := event
  cases event with
  | newProcess => rfl
  | call call env =>
    dsimp only [step] at nothing ⊢
    cases saves : call.savesToken with
    | false => exact other_token_file sha256 env (machine.system number) call saves
    | true => exact failed_token_file sha256 env (machine.system number) call (nothing saves)

/-- And so does a run of such events. -/
theorem unsaved_token_file (machine : Machine) (events : List (Nat × Event))
    (nothing : Runs.EveryStep (machineStep sha256) (SavesNothing sha256) machine events) :
    (Runs.run (machineStep sha256) machine events).storage.tokenFile =
      machine.storage.tokenFile :=
  Runs.invariant_run (machineStep sha256)
    (fun now => now.storage.tokenFile = machine.storage.tokenFile) (SavesNothing sha256)
    (fun now event same unsaved => (machine_token_file sha256 now event unsaved).trans same)
    machine events rfl nothing

/-- After the last call that saved the token, in whichever process, the storage holds what
that process would have stored if it had been the only one since it was initialized: every
process initialized from then on that opens the token file gets that flag, label and those
hashes, and nothing of what the others stored in between. One that cannot open it gets a blank
slot. -/
theorem last_save_wins (machine : Machine) (index : Nat) (earlier later : List (Nat × Event))
    (call : Call) (env : Env)
    (running : ∀ event ∈ earlier, event.1 = index → event.2.keepsLibrary)
    (saves : call.savesToken = true) (complete : env.tokenWrite.Complete)
    (succeeds : (callStep sha256 env
      (Runs.run (step sha256) (machine.system index) (eventsOf index earlier)) call).1.rv = .ok)
    (last : Runs.EveryStep (machineStep sha256) (SavesNothing sha256)
      (Runs.run (machineStep sha256) machine (earlier ++ [(index, .call call env)])) later) :
    ∃ context,
      (Runs.run (step sha256) (machine.system index)
        (eventsOf index earlier ++ [.call call env])).gHsmContext = some context ∧
      tokenInfoItems (hsmInitSlot true (Runs.run (machineStep sha256) machine
        (earlier ++ (index, .call call env) :: later)).storage) = tokenInfoItems context.slot ∧
      hsmInitSlot false (Runs.run (machineStep sha256) machine
        (earlier ++ (index, .call call env) :: later)).storage = blankSlot := by
  have memory := (processes_isolated sha256 machine index earlier running).2
  have kept := unsaved_token_file sha256 _ later last
  rw [Runs.run_snoc] at kept ⊢
  rw [Runs.run_append, Runs.run]
  generalize Runs.run (step sha256) (machine.system index) (eventsOf index earlier) = own
    at memory succeeds ⊢
  generalize Runs.run (machineStep sha256) machine earlier = now at memory kept ⊢
  -- The saving call does in the machine what it does with the storage to itself.
  obtain ⟨answered, same⟩ := call_unread sha256 env own.process now.storage own.storage call
    (by rintro rfl; cases saves)
  have here : now.system index = own.process.over now.storage := by rw [Machine.system, memory]
  obtain ⟨context, present, file⟩ := success_saves sha256 env (own.process.over now.storage) call
    saves complete (by rw [answered]; exact succeeds)
  refine ⟨context, ?_, ?_, rfl⟩
  · have contexts := congrArg Process.gHsmContext same
    exact contexts.symm.trans present
  · have stored := (machine_step_result sha256 now (index, .call call env)).2
    dsimp only at stored
    rw [stored, here] at kept
    exact loaded_items _ context.slot blankSlot (kept.trans file)

end Machines

/-- Beside the process that set the token up, a second one with the user logged in. -/
def sharedToken : Machine where
  processes index :=
    if index = 0 then userReady.process
    else (Runs.run (step pinSha256) (bootProcess userReady.storage)
      [calmly .initializeLibrary, calmly (.openSession 0 (ckfSerialSession ||| ckfRwSession) true),
        calmly (.login 1 ckuUser (some userPin))]).process
  storage := userReady.storage

/-- The second process changes the user's PIN. -/
def secondChangesPin : List (Nat × Event) := [(1, calmly (.setPIN 1 (some userPin) (some soPin)))]

/-- The first process goes on with the old PIN. -/
theorem old_pin_goes_on :
    answersTo (machineStep pinSha256) (ofProcess 0) sharedToken
        (secondChangesPin ++ [(0, calmly (.setPIN 1 (some userPin) (some otherUserPin)))]) =
      Runs.answers (step pinSha256) userReady
        [calmly (.setPIN 1 (some userPin) (some otherUserPin))] := by
  refine (processes_isolated pinSha256 sharedToken 0 _ ?_).1
  intro event member own
  simp only [secondChangesPin, List.cons_append, List.nil_append, List.mem_cons,
    List.not_mem_nil, or_false] at member
  rcases member with rfl | rfl
  · cases own
  · exact Call.noConfusion

/-- And saves its own, so what the second one set is lost. -/
theorem second_change_lost :
    ∃ context,
      (Runs.run (step pinSha256) userReady
        [calmly (.setPIN 1 (some userPin) (some otherUserPin))]).gHsmContext = some context ∧
      tokenInfoItems (hsmInitSlot true (Runs.run (machineStep pinSha256) sharedToken
        (secondChangesPin ++
          [(0, calmly (.setPIN 1 (some userPin) (some otherUserPin)))])).storage) =
        tokenInfoItems context.slot ∧
      hsmInitSlot false (Runs.run (machineStep pinSha256) sharedToken
        (secondChangesPin ++
          [(0, calmly (.setPIN 1 (some userPin) (some otherUserPin)))])).storage = blankSlot := by
  refine last_save_wins pinSha256 sharedToken 0 secondChangesPin []
    (.setPIN 1 (some userPin) (some otherUserPin)) (calmEnv 1) ?_ rfl ⟨rfl, fun _ => rfl⟩ ?_ trivial
  · intro event member own
    rw [List.mem_singleton.mp member] at own
    cases own
  · decide

end PstHsm
