import PstHsm.LockPairs

/-!
# Lock discipline

At rest every live mutex is free and every other one is destroyed. Three things go
wrong. `C_Initialize` creates the global lock anew while it holds it; when it fails
instead, it leaves the global lock destroyed for good. `C_CloseAllSessions` and
`C_InitToken` hold the lock of the slot while they call `hsm_destroy_session`, which
locks it. All other calls, and these where no session is open, start and end at rest.
-/

namespace PstHsm

open Tables Mutexes

/-! ## Mutexes at rest -/

/-- The status of a mutex that nobody holds. -/
def unheld (live : Bool) : Status := if live then .free else .destroyed

theorem unheld_not_held (live : Bool) : unheld live ≠ .held := by
  cases live <;> decide

/-- The mutexes of the slot and of its sessions are at rest. -/
structure SlotAtRest (system : System) (mutexes : LockName → Status) : Prop where
  slotLock : mutexes .slotLock = unheld system.gHsmContext.isSome
  sessionLock : ∀ index, mutexes (.sessionLock index) = unheld (system.sessions index).isSome

/-- No mutex is held, and the live ones are free. -/
structure AtRest (system : System) (mutexes : LockName → Status) : Prop
    extends SlotAtRest system mutexes where
  globalLock : mutexes .globalLock = .free ∨
    (mutexes .globalLock = .destroyed ∧ system.gHsmContext = none)
  sessionHandleLock : mutexes .sessionHandleLock = .free
  objectHandleLock : mutexes .objectHandleLock = .free

/-- The mutexes with every live one free, the global lock included. -/
def freeMutexes (system : System) : LockName → Status
  | .slotLock => unheld system.gHsmContext.isSome
  | .sessionLock index => unheld (system.sessions index).isSome
  | .globalLock | .sessionHandleLock | .objectHandleLock => .free

theorem free_mutexes_at_rest (system : System) : AtRest system (freeMutexes system) :=
  ⟨⟨rfl, fun _ => rfl⟩, Or.inl rfl, rfl, rfl⟩

/-- At rest the mutexes of what is live can be locked. -/
theorem lockable_free (system : System) (mutexes : LockName → Status)
    (rest : AtRest system mutexes) (name : LockName) (lockable : Lockable system name) :
    mutexes name = .free := by
  cases name with
  | globalLock => exact lockable.elim
  | slotLock =>
    rw [rest.slotLock, show system.gHsmContext.isSome = true from lockable]
    rfl
  | sessionLock index =>
    rw [rest.sessionLock, show (system.sessions index).isSome = true from lockable]
    rfl
  | sessionHandleLock => exact rest.sessionHandleLock
  | objectHandleLock => exact rest.objectHandleLock

/-- The global lock of an initialized library is free. -/
theorem global_lock_free (system : System) (mutexes : LockName → Status)
    (rest : AtRest system mutexes) (context : HsmContext)
    (present : system.gHsmContext = some context) : mutexes .globalLock = .free := by
  rcases rest.globalLock with free | ⟨-, absent⟩
  · exact free
  · cases absent.symm.trans present

/-- Rest depends only on what is live. -/
theorem at_rest_congr (system after : System) (mutexes : LockName → Status)
    (rest : AtRest system mutexes)
    (initialized : after.gHsmContext.isSome = system.gHsmContext.isSome)
    (sessions : ∀ index, (after.sessions index).isSome = (system.sessions index).isSome) :
    AtRest after mutexes := by
  refine ⟨⟨?_, ?_⟩, ?_, rest.sessionHandleLock, rest.objectHandleLock⟩
  · rw [initialized, rest.slotLock]
  · intro index
    rw [sessions index, rest.sessionLock]
  · rcases rest.globalLock with free | ⟨gone, absent⟩
    · exact Or.inl free
    · refine Or.inr ⟨gone, ?_⟩
      rwa [absent, Option.isSome_none, Option.isSome_eq_false_iff, Option.isNone_iff_eq_none]
        at initialized

/-! ## One call, disciplined -/

/-- The call runs the closing loop under the lock of the slot, if the library is initialized. -/
def Call.closesUnderLock : Call → Prop
  | .closeAllSessions slotID => slotID < slotCount
  | .initToken slotID (some pin) (some _) =>
    hsmMinPinLen ≤ pin.length ∧ pin.length ≤ hsmMaxPinLen ∧ slotID < slotCount
  | _ => False

/-- The call makes no lock error and ends at rest. -/
def KeepsLocks (sha256 : Sha256) (env : Env) (system : System) (mutexes : LockName → Status)
    (call : Call) : Prop :=
  ∃ after, performs mutexes (Locked.callStep sha256 env system call).ops = some after ∧
    AtRest (Locked.callStep sha256 env system call).value.2 after

section Calls

variable (sha256 : Sha256) (env : Env) (system : System) (mutexes : LockName → Status)
  (rest : AtRest system mutexes)

/-- Closing every session is managing sessions. -/
theorem closing_manages (call : Call) (clears : call.closesAll = true) :
    call.managesSessions = true := by
  cases call with
  | openSession | closeSession => rfl
  | _ => exact clears

/-- A call that neither opens nor closes sessions leaves their entries occupied or not. -/
theorem occupied_stays (call : Call) (quiet : call.managesSessions = false)
    (index : Fin hsmMaxSessions) :
    ((callStep sha256 env system call).2.sessions index).isSome =
      (system.sessions index).isSome := by
  have change := quiet_sessions_step sha256 env system call ⟨.ok, .nothing⟩ quiet
  change ((callStep sha256 env system call).2.sessionStore.sessions index).isSome =
    (system.sessionStore.sessions index).isSome
  generalize system.sessionStore = store at change
  generalize (callStep sha256 env system call).2.sessionStore = changed at change
  cases change with
  | kept => rfl
  | rewritten _ _ place session after _ present sameHandle =>
    change (put store.sessions place (some after) index).isSome = (store.sessions index).isSome
    by_cases here : index = place
    · subst here
      rw [put_self, present]
      rfl
    · rw [put_other _ _ _ _ here]
  | closed hSession place session present named => cases quiet
  | cleared _ _ remaining clears => cases quiet.symm.trans (closing_manages call clears)

/-- Only `C_Initialize` and `C_Finalize` begin or end the initialized state. -/
theorem initialized_stays (call : Call) (starts : call ≠ .initializeLibrary)
    (ends : call ≠ .finalizeLibrary false) :
    (callStep sha256 env system call).2.gHsmContext.isSome = system.gHsmContext.isSome := by
  cases present : system.gHsmContext with
  | some context =>
    obtain ⟨after, stays⟩ := context_stays sha256 env system call context present ends
    rw [stays]
    rfl
  | none =>
    cases afterwards : (callStep sha256 env system call).2.gHsmContext with
    | none => rfl
    | some after =>
      obtain ⟨-, -, -, initializes⟩ :=
        absent_initializes sha256 env system call after present afterwards
      exact absurd initializes starts

include rest

/-- A call that locks in pairs. -/
theorem paired_call_keeps (call : Call) (paired : call.managesMutexes = false) :
    KeepsLocks sha256 env system mutexes call := by
  obtain ⟨value, balanced⟩ := paired_call_disciplined sha256 env system call paired
  refine ⟨mutexes, balanced mutexes (lockable_free system mutexes rest), ?_⟩
  rw [value]
  apply at_rest_congr system _ mutexes rest
  · apply initialized_stays
    · rintro rfl
      cases paired
    · rintro rfl
      cases paired
  · apply occupied_stays
    cases call with
    | initializeLibrary => cases paired
    | _ => exact paired

end Calls

/-! ## Opening and closing sessions -/

/-- A new session's lock starts free. -/
theorem slot_at_rest_opened (system after : System) (mutexes : LockName → Status)
    (rest : SlotAtRest system mutexes) (index : Fin hsmMaxSessions) (live : Bool)
    (initialized : after.gHsmContext.isSome = system.gHsmContext.isSome)
    (here : (after.sessions index).isSome = live)
    (elsewhere : ∀ other, other ≠ index → after.sessions other = system.sessions other) :
    SlotAtRest after (Function.update mutexes (.sessionLock index) (unheld live)) := by
  constructor
  · rw [Function.update_of_ne LockName.noConfusion, rest.slotLock, initialized]
  · intro other
    by_cases same : other = index
    · rw [same, Function.update_self, here]
    · rw [Function.update_of_ne (fun impossible => same (LockName.sessionLock.inj impossible)),
        rest.sessionLock, elsewhere other same]

section Sessions

variable (system : System) (mutexes : LockName → Status)

/-- Nothing but the locks of sessions differs. -/
def SameElsewhere (mutexes after : LockName → Status) : Prop :=
  ∀ name, (∀ index, name ≠ .sessionLock index) → after name = mutexes name

/-- The operations lead from rest to rest and move only the locks of sessions. -/
def ClosesSafely (mutexes : LockName → Status) (ops : List (Op LockName)) (closed : System) :
    Prop :=
  ∃ after, performs mutexes ops = some after ∧ SlotAtRest closed after ∧
    SameElsewhere mutexes after

theorem destroy_session_value (hSession : CkSessionHandle) :
    (Locked.hsmDestroySession system hSession).value = hsmDestroySession system hSession := by
  rw [Locked.hsmDestroySession, hsmDestroySession, hsmGetSession]
  cases system.gHsmContext with
  | none => rfl
  | some context =>
    dsimp only
    cases find context.slot.sessions (fun session => decide (session.handle = hSession)) with
    | none => rfl
    | some located => rfl

theorem close_session_at_value (index : Fin hsmMaxSessions) :
    (Locked.closeSessionAt system index).value = closeSessionAt system index := by
  rw [Locked.closeSessionAt, closeSessionAt]
  cases system.gHsmContext with
  | none => rfl
  | some context =>
    dsimp only
    cases context.slot.sessions index with
    | none => rfl
    | some session => exact congrArg Prod.snd (destroy_session_value system session.handle)

theorem close_sessions_value : (Locked.closeSessions system).value = closeSessions system :=
  fold_value Locked.closeSessionAt closeSessionAt close_session_at_value _ system

/-- `hsm_destroy_session` with the lock of the slot free. -/
theorem destroy_session_safely (hSession : CkSessionHandle) (context : HsmContext)
    (present : system.gHsmContext = some context) (rest : SlotAtRest system mutexes) :
    ClosesSafely mutexes (Locked.hsmDestroySession system hSession).ops
      (hsmDestroySession system hSession).2 := by
  have free : mutexes .slotLock = .free := by
    rw [rest.slotLock, present]
    rfl
  rw [Locked.hsmDestroySession, hsmDestroySession, hsmGetSession]
  simp only [present]
  cases find context.slot.sessions (fun session => decide (session.handle = hSession)) with
  | none =>
    refine ⟨mutexes, ?_, rest, fun _ _ => rfl⟩
    exact balanced_alone (· = LockName.slotLock) _ rfl mutexes (fun _ same => same ▸ free)
  | some located =>
    obtain ⟨index, session⟩ := located
    refine ⟨Function.update mutexes (.sessionLock index) (unheld false), ?_, ?_, ?_⟩
    · have unheldHere : Function.update mutexes .slotLock Status.held (.sessionLock index) ≠
          .held := by
        rw [Function.update_of_ne LockName.noConfusion, rest.sessionLock]
        exact unheld_not_held _
      have heldStill : Function.update (Function.update mutexes .slotLock Status.held)
          (.sessionLock index) .destroyed .slotLock = .held := by
        rw [Function.update_of_ne LockName.noConfusion, Function.update_self]
      change performs mutexes
        [.lock .slotLock, .destroy (.sessionLock index), .unlock .slotLock] = _
      rw [performs_lock _ _ _ free, performs_destroy _ _ _ unheldHere,
        performs_unlock _ _ _ heldStill, performs_nil,
        changed_under_lock mutexes _ _ _ LockName.noConfusion free]
      rfl
    · apply slot_at_rest_opened system _ mutexes rest index false
      · rw [present]
        rfl
      · exact congrArg Option.isSome (put_self context.slot.sessions index none)
      · intro other different
        rw [sessions_present system context present]
        exact put_other context.slot.sessions index other none different
    · intro name elsewhere
      exact Function.update_of_ne (elsewhere index) _ _

/-- Destroying a session keeps the library initialized. -/
theorem destroy_session_context (hSession : CkSessionHandle) (context : HsmContext)
    (present : system.gHsmContext = some context) :
    ∃ after, (hsmDestroySession system hSession).2.gHsmContext = some after := by
  rw [hsmDestroySession]
  cases hsmGetSession system hSession with
  | error rv => exact ⟨context, present⟩
  | ok found => exact ⟨_, rfl⟩

/-- One turn of the closing loops. -/
theorem close_session_at_safely (index : Fin hsmMaxSessions) (context : HsmContext)
    (present : system.gHsmContext = some context) (rest : SlotAtRest system mutexes) :
    ClosesSafely mutexes (Locked.closeSessionAt system index).ops (closeSessionAt system index) ∧
      ∃ after, (closeSessionAt system index).gHsmContext = some after := by
  rw [Locked.closeSessionAt, closeSessionAt]
  simp only [present]
  cases context.slot.sessions index with
  | none => exact ⟨⟨mutexes, rfl, rest, fun _ _ => rfl⟩, context, present⟩
  | some session =>
    refine ⟨?_, destroy_session_context system session.handle context present⟩
    dsimp only
    rw [bind_ops, pure_ops, List.append_nil]
    exact destroy_session_safely system mutexes session.handle context present rest

/-- The closing loop with the lock of the slot free. -/
theorem close_sessions_safely (indices : List (Fin hsmMaxSessions)) (context : HsmContext)
    (present : system.gHsmContext = some context) (rest : SlotAtRest system mutexes) :
    ClosesSafely mutexes (indices.foldlM Locked.closeSessionAt system).ops
      (indices.foldl closeSessionAt system) := by
  induction indices generalizing system context mutexes with
  | nil => exact ⟨mutexes, rfl, rest, fun _ _ => rfl⟩
  | cons index others inductionHypothesis =>
    obtain ⟨⟨between, performed, closed, same⟩, context', present'⟩ :=
      close_session_at_safely system mutexes index context present rest
    obtain ⟨after, performed', closed', same'⟩ :=
      inductionHypothesis (closeSessionAt system index) between context' present' closed
    refine ⟨after, ?_, closed', fun name elsewhere => ?_⟩
    · rw [List.foldlM_cons, bind_ops, performs_append, performed, Option.bind_some,
        close_session_at_value]
      exact performed'
    · rw [same' name elsewhere, same name elsewhere]

/-! ## Closing with the lock of the slot held -/

/-- With no session open the loop does nothing. -/
theorem close_no_sessions (indices : List (Fin hsmMaxSessions)) (context : HsmContext)
    (present : system.gHsmContext = some context)
    (vacant : ∀ index, context.slot.sessions index = none) :
    (indices.foldlM Locked.closeSessionAt system).ops = [] := by
  have nothing (index : Fin hsmMaxSessions) :
      Locked.closeSessionAt system index = pure system := by
    simp only [Locked.closeSessionAt, present, vacant index]
  induction indices with
  | nil => rfl
  | cons index others inductionHypothesis =>
    rw [List.foldlM_cons, nothing]
    exact inductionHypothesis

/-- With one open among the indices the loop starts by locking the slot. -/
theorem close_sessions_locks (indices : List (Fin hsmMaxSessions)) (context : HsmContext)
    (present : system.gHsmContext = some context) (index : Fin hsmMaxSessions)
    (session : HsmSession) (member : index ∈ indices)
    (occupied : context.slot.sessions index = some session) :
    ∃ later, (indices.foldlM Locked.closeSessionAt system).ops = .lock .slotLock :: later := by
  induction indices with
  | nil => cases member
  | cons first others inductionHypothesis =>
    rw [List.foldlM_cons]
    cases lies : context.slot.sessions first with
    | none =>
      have nothing : Locked.closeSessionAt system first = pure system := by
        simp only [Locked.closeSessionAt, present, lies]
      have further : index ∈ others := by
        rcases List.mem_cons.mp member with rfl | further
        · cases lies.symm.trans occupied
        · exact further
      rw [nothing]
      exact inductionHypothesis further
    | some other =>
      have locks : ∃ later, (Locked.closeSessionAt system first).ops =
          .lock .slotLock :: later := by
        unfold Locked.closeSessionAt Locked.hsmDestroySession
        simp only [present, lies]
        exact ⟨_, rfl⟩
      obtain ⟨later, starts⟩ := locks
      rw [bind_ops, starts]
      exact ⟨_, rfl⟩

end Sessions

/-! ## What the calls compute -/

section Values

variable (sha256 : Sha256) (env : Env) (system : System)

theorem initialize_value : (Locked.cInitialize env system).value = cInitialize env system := by
  rw [Locked.cInitialize, cInitialize]
  cases system.gHsmContext with
  | some context => rfl
  | none =>
    dsimp only
    generalize hsmStorageInit env system.storage = made
    obtain ⟨rv, storage⟩ := made
    dsimp only [bind_value]
    split
    · rfl
    · split
      · rfl
      · rfl

theorem finalize_value (pReserved : Bool) :
    (Locked.cFinalize system pReserved).value = cFinalize system pReserved := by
  rw [Locked.cFinalize, cFinalize]
  cases pReserved with
  | true => rfl
  | false =>
    cases present : system.gHsmContext with
    | none => rfl
    | some context =>
      simp only [Locked.hsmCleanupSlot, Bool.false_eq_true, if_false, bind_value, pure_value,
        close_sessions_value, close_sessions_all system context present, System.withSlot]

theorem open_session_value (slotID : CkSlotId) (flags : CkFlags) (phSession : Bool) :
    (Locked.cOpenSession env system slotID flags phSession).value =
      cOpenSession env system slotID flags phSession := by
  rw [Locked.cOpenSession, cOpenSession]
  split
  · rfl
  · cases system.gHsmContext with
    | none => rfl
    | some context =>
      dsimp only
      split
      · rfl
      · split
        · rfl
        · rw [Locked.hsmCreateSession, hsmCreateSession]
          dsimp only [bind_value]
          split
          · rfl
          · cases firstFree context.slot.sessions with
            | none => rfl
            | some index =>
              dsimp only
              split
              · rfl
              · rfl

theorem close_all_sessions_value (slotID : CkSlotId) :
    (Locked.cCloseAllSessions system slotID).value = cCloseAllSessions system slotID := by
  rw [Locked.cCloseAllSessions, cCloseAllSessions]
  cases system.gHsmContext with
  | none => rfl
  | some context =>
    dsimp only
    split
    · rfl
    · simp only [bind_value, pure_value, close_sessions_value]

theorem init_token_value (slotID : CkSlotId) (pPin pLabel : Option Bytes) :
    (Locked.cInitToken sha256 env system slotID pPin pLabel).value =
      cInitToken sha256 env system slotID pPin pLabel := by
  unfold Locked.cInitToken cInitToken
  cases pPin with
  | none => rfl
  | some pin =>
    cases pLabel with
    | none => rfl
    | some label =>
      dsimp only
      split
      · rfl
      · cases system.gHsmContext with
        | none => rfl
        | some context =>
          dsimp only
          split
          · rfl
          · simp only [bind_value, close_sessions_value]
            rw [resetToken]
            cases (closeSessions system).gHsmContext with
            | none => rfl
            | some context' =>
              dsimp only
              generalize hsmSetPin sha256 context'.slot ckuSo pin = setting
              obtain ⟨rv, slot⟩ := setting
              dsimp only
              split
              · rfl
              · rfl

/-- With its mutexes every call computes what it computes without. -/
theorem locked_call_value (call : Call) :
    (Locked.callStep sha256 env system call).value = callStep sha256 env system call := by
  cases managed : call.managesMutexes with
  | false => exact (paired_call_disciplined sha256 env system call managed).value
  | true =>
    cases call with
    | initializeLibrary =>
      exact congrArg (fun result : CkRv × System => ((⟨result.1, .nothing⟩, result.2) :
        Response × System)) (initialize_value env system)
    | finalizeLibrary pReserved =>
      exact congrArg (fun result : CkRv × System => ((⟨result.1, .nothing⟩, result.2) :
        Response × System)) (finalize_value system pReserved)
    | initToken slotID pPin pLabel =>
      exact congrArg (fun result : CkRv × System => ((⟨result.1, .nothing⟩, result.2) :
        Response × System)) (init_token_value sha256 env system slotID pPin pLabel)
    | openSession slotID flags phSession =>
      exact congrArg (fun result : CkRv × Option CkSessionHandle × System =>
        ((⟨result.1, .handle result.2.1⟩, result.2.2) : Response × System))
        (open_session_value env system slotID flags phSession)
    | closeSession hSession =>
      exact congrArg (fun result : CkRv × System => ((⟨result.1, .nothing⟩, result.2) :
        Response × System)) (destroy_session_value system hSession)
    | closeAllSessions slotID =>
      exact congrArg (fun result : CkRv × System => ((⟨result.1, .nothing⟩, result.2) :
        Response × System)) (close_all_sessions_value system slotID)
    | _ => cases managed

/-- The operations of `C_OpenSession`: in pairs where it fails, and with the creation of the
session's lock under the lock of the slot where it succeeds. -/
theorem open_session_ops (slotID : CkSlotId) (flags : CkFlags) (phSession : Bool) :
    (Balanced (Lockable system) (Locked.cOpenSession env system slotID flags phSession).ops ∧
        (cOpenSession env system slotID flags phSession).2.2 = system) ∨
      ∃ context index, system.gHsmContext = some context ∧
        firstFree context.slot.sessions = some index ∧
        (Locked.cOpenSession env system slotID flags phSession).ops =
          [.lock .slotLock, .lock .sessionHandleLock, .unlock .sessionHandleLock,
            .init (.sessionLock index), .unlock .slotLock] ∧
        (cOpenSession env system slotID flags phSession).2.2 =
          system.withOpened context index flags env.now := by
  have nothing := balanced_nil (Lockable system)
  rw [Locked.cOpenSession, cOpenSession]
  split
  · exact Or.inl ⟨nothing, rfl⟩
  · cases present : system.gHsmContext with
    | none => exact Or.inl ⟨nothing, rfl⟩
    | some context =>
      have alone : Balanced (Lockable system) [.lock .slotLock, .unlock .slotLock] :=
        balanced_alone _ _ (congrArg Option.isSome present)
      dsimp only
      split
      · exact Or.inl ⟨nothing, rfl⟩
      · split
        · exact Or.inl ⟨nothing, rfl⟩
        · rw [Locked.hsmCreateSession, hsmCreateSession]
          dsimp only
          split
          · exact Or.inl ⟨alone, rfl⟩
          · cases free : firstFree context.slot.sessions with
            | none => exact Or.inl ⟨alone, rfl⟩
            | some index =>
              dsimp only
              split
              · exact Or.inl ⟨alone, rfl⟩
              · exact Or.inr ⟨context, index, rfl, free, rfl, rfl⟩

/-- The operations of a `C_InitToken` that passes its checks. -/
theorem init_token_ops (slotID : CkSlotId) (pin label : Bytes) (context : HsmContext)
    (present : system.gHsmContext = some context) (valid : slotID < slotCount)
    (longEnough : hsmMinPinLen ≤ pin.length) (shortEnough : pin.length ≤ hsmMaxPinLen) :
    (Locked.cInitToken sha256 env system slotID (some pin) (some label)).ops =
      .lock .slotLock :: ((Locked.closeSessions system).ops ++ [.unlock .slotLock]) := by
  have admissible : ¬ (pin.length < hsmMinPinLen || pin.length > hsmMaxPinLen) = true := by
    simp only [Bool.or_eq_true, decide_eq_true_eq]
    omega
  simp only [Locked.cInitToken, present, if_neg admissible, if_neg (Nat.not_le_of_lt valid),
    bind_ops, lock_ops, close_sessions_value, close_sessions_all system context present,
    System.withSlot, List.cons_append, List.nil_append]
  rw [set_pin_admissible sha256 _ _ pin longEnough shortEnough]
  rfl

end Values

/-! ## The calls that manage mutexes -/

section Managing

variable (sha256 : Sha256) (env : Env) (system : System) (mutexes : LockName → Status)
  (rest : AtRest system mutexes)

include rest

/-- `C_Initialize` is disciplined only where it has nothing to do. -/
theorem initialize_keeps_iff :
    KeepsLocks sha256 env system mutexes .initializeLibrary ↔
      system.gHsmContext.isSome = true := by
  cases present : system.gHsmContext with
  | some context =>
    refine iff_of_true ⟨mutexes, ?_, ?_⟩ rfl
    · have free := global_lock_free system mutexes rest context present
      simp only [Locked.callStep, Locked.cInitialize, present, bind_ops, pure_ops]
      exact balanced_alone (· = LockName.globalLock) _ rfl mutexes (fun _ same => same ▸ free)
    · rw [locked_call_value]
      simpa only [callStep, cInitialize, present] using rest
  | none =>
    refine iff_of_false ?_ (by decide)
    rintro ⟨after, performed, -⟩
    simp only [Locked.callStep, Locked.cInitialize, Locked.hsmInitContext, present, bind_ops,
      lock_ops, init_ops, List.cons_append, List.nil_append] at performed
    rw [recreating_fails] at performed
    cases performed

/-- `C_Finalize` of an initialized library destroys the locks of the sessions and of the
slot under the global lock. -/
theorem finalize_initialized_keeps (context : HsmContext)
    (present : system.gHsmContext = some context) :
    KeepsLocks sha256 env system mutexes (.finalizeLibrary false) := by
  have free := global_lock_free system mutexes rest context present
  have resting : SlotAtRest system (Function.update mutexes .globalLock .held) := by
    refine ⟨?_, fun index => ?_⟩
    · rw [Function.update_of_ne LockName.noConfusion, rest.slotLock]
    · rw [Function.update_of_ne LockName.noConfusion, rest.sessionLock]
  obtain ⟨closed, performed, settled, elsewhere⟩ :=
    close_sessions_safely system _ (List.finRange hsmMaxSessions) context present resting
  change SlotAtRest (closeSessions system) closed at settled
  have slotUnheld : closed .slotLock ≠ .held := by
    rw [settled.slotLock]
    exact unheld_not_held _
  have globalHeld : Function.update closed .slotLock Status.destroyed .globalLock = .held := by
    rw [Function.update_of_ne LockName.noConfusion,
      elsewhere .globalLock (fun _ => LockName.noConfusion), Function.update_self]
  have handleLocks (name : LockName) (handle : name = .sessionHandleLock ∨
      name = .objectHandleLock) :
      Function.update (Function.update closed .slotLock Status.destroyed) .globalLock
        Status.free name = mutexes name := by
    rcases handle with rfl | rfl
    all_goals
      rw [Function.update_of_ne LockName.noConfusion, Function.update_of_ne LockName.noConfusion,
        elsewhere _ (fun _ => LockName.noConfusion), Function.update_of_ne LockName.noConfusion]
  refine ⟨Function.update (Function.update closed .slotLock .destroyed) .globalLock .free, ?_, ?_⟩
  · simp only [Locked.callStep, Locked.cFinalize, Locked.hsmCleanupSlot, present,
      Bool.false_eq_true, if_false, bind_ops, pure_ops, lock_ops, unlock_ops, destroy_ops,
      List.append_nil, List.append_assoc, List.cons_append, List.nil_append]
    change performs _ (Locked.closeSessions system).ops = some closed at performed
    rw [performs_lock _ _ _ free, performs_append, performed, Option.bind_some,
      performs_destroy _ _ _ slotUnheld, performs_unlock _ _ _ globalHeld, performs_nil]
  · have ended : (callStep sha256 env system (.finalizeLibrary false)).2 =
        { system with gHsmContext := none } := by
      simp only [callStep, cFinalize, present, Bool.false_eq_true, if_false]
    rw [locked_call_value, ended]
    refine ⟨⟨?_, fun index => ?_⟩, Or.inl (Function.update_self _ _ _), ?_, ?_⟩
    · rw [Function.update_of_ne LockName.noConfusion, Function.update_self]
      rfl
    · rw [Function.update_of_ne LockName.noConfusion, Function.update_of_ne LockName.noConfusion,
        settled.sessionLock, close_sessions_all system context present]
      rfl
    · rw [handleLocks _ (Or.inl rfl)]
      exact rest.sessionHandleLock
    · rw [handleLocks _ (Or.inr rfl)]
      exact rest.objectHandleLock

/-- `C_Finalize` is disciplined as long as the global lock is there. -/
theorem finalize_keeps_iff (pReserved : Bool) :
    KeepsLocks sha256 env system mutexes (.finalizeLibrary pReserved) ↔
      (pReserved = false → mutexes .globalLock = .free) := by
  cases pReserved with
  | true =>
    refine iff_of_true ⟨mutexes, rfl, ?_⟩ Bool.noConfusion
    rw [locked_call_value]
    exact rest
  | false =>
    cases present : system.gHsmContext with
    | some context =>
      exact iff_of_true
        (finalize_initialized_keeps sha256 env system mutexes rest context present)
        (fun _ => global_lock_free system mutexes rest context present)
    | none =>
      rcases rest.globalLock with free | ⟨gone, -⟩
      · refine iff_of_true ⟨mutexes, ?_, ?_⟩ (fun _ => free)
        · simp only [Locked.callStep, Locked.cFinalize, present, Bool.false_eq_true, if_false,
            bind_ops, pure_ops]
          exact balanced_alone (· = LockName.globalLock) _ rfl mutexes
            (fun _ same => same ▸ free)
        · rw [locked_call_value]
          simpa only [callStep, cFinalize, present, Bool.false_eq_true, if_false] using rest
      · refine iff_of_false ?_ (fun free => ?_)
        · rintro ⟨after, performed, -⟩
          simp only [Locked.callStep, Locked.cFinalize, present, Bool.false_eq_true, if_false,
            bind_ops, lock_ops, List.cons_append, List.nil_append] at performed
          rw [locking_fails _ _ _ (by rw [gone]; decide)] at performed
          cases performed
        · rw [gone] at free
          cases free rfl

/-- Creating the lock of a session under the lock of the slot. -/
theorem open_session_performs (context : HsmContext)
    (present : system.gHsmContext = some context) (index : Fin hsmMaxSessions) :
    performs mutexes [.lock .slotLock, .lock .sessionHandleLock, .unlock .sessionHandleLock,
        .init (.sessionLock index), .unlock .slotLock] =
      some (Function.update mutexes (.sessionLock index) (unheld true)) := by
  have free : mutexes .slotLock = .free := by
    rw [rest.slotLock, present]
    rfl
  have handles := balanced_alone (· = LockName.sessionHandleLock) _ rfl
    (Function.update mutexes .slotLock .held) (by
      rintro name rfl
      rw [Function.update_of_ne LockName.noConfusion]
      exact rest.sessionHandleLock)
  have unheldHere : Function.update mutexes .slotLock Status.held (.sessionLock index) ≠
      .held := by
    rw [Function.update_of_ne LockName.noConfusion, rest.sessionLock]
    exact unheld_not_held _
  have heldStill : Function.update (Function.update mutexes .slotLock Status.held)
      (.sessionLock index) .free .slotLock = .held := by
    rw [Function.update_of_ne LockName.noConfusion, Function.update_self]
  rw [performs_lock _ _ _ free]
  change performs _ ([Op.lock LockName.sessionHandleLock, .unlock .sessionHandleLock] ++
    [.init (.sessionLock index), .unlock .slotLock]) = _
  rw [performs_append, handles, Option.bind_some, performs_init _ _ _ unheldHere,
    performs_unlock _ _ _ heldStill, performs_nil,
    changed_under_lock mutexes _ _ _ LockName.noConfusion free]
  rfl

/-- `C_OpenSession` creates the lock of the session, and is disciplined. -/
theorem open_session_keeps (slotID : CkSlotId) (flags : CkFlags) (phSession : Bool) :
    KeepsLocks sha256 env system mutexes (.openSession slotID flags phSession) := by
  have ops : (Locked.callStep sha256 env system (.openSession slotID flags phSession)).ops =
      (Locked.cOpenSession env system slotID flags phSession).ops := List.append_nil _
  have state : (callStep sha256 env system (.openSession slotID flags phSession)).2 =
      (cOpenSession env system slotID flags phSession).2.2 := rfl
  rw [KeepsLocks]
  rw [locked_call_value, ops, state]
  rcases open_session_ops env system slotID flags phSession with
    ⟨balanced, unchanged⟩ | ⟨context, index, present, free, opens, opened⟩
  · rw [unchanged]
    exact ⟨mutexes, balanced mutexes (lockable_free system mutexes rest), rest⟩
  · rw [opens, opened]
    refine ⟨Function.update mutexes (.sessionLock index) (unheld true), ?_, ?_, Or.inl ?_, ?_, ?_⟩
    · exact open_session_performs system mutexes rest context present index
    · apply slot_at_rest_opened system _ mutexes rest.toSlotAtRest index true
      · rw [present]
        rfl
      · exact congrArg Option.isSome (put_self context.slot.sessions index _)
      · intro other different
        rw [sessions_present system context present]
        exact put_other context.slot.sessions index other _ different
    · rw [Function.update_of_ne LockName.noConfusion]
      exact global_lock_free system mutexes rest context present
    · rw [Function.update_of_ne LockName.noConfusion]
      exact rest.sessionHandleLock
    · rw [Function.update_of_ne LockName.noConfusion]
      exact rest.objectHandleLock

/-- `C_CloseSession` destroys the lock of the session, and is disciplined. -/
theorem close_session_keeps (hSession : CkSessionHandle) :
    KeepsLocks sha256 env system mutexes (.closeSession hSession) := by
  have ops : (Locked.callStep sha256 env system (.closeSession hSession)).ops =
      (Locked.hsmDestroySession system hSession).ops := List.append_nil _
  have state : (callStep sha256 env system (.closeSession hSession)).2 =
      (hsmDestroySession system hSession).2 := rfl
  rw [KeepsLocks]
  rw [locked_call_value, ops, state]
  cases present : system.gHsmContext with
  | none =>
    refine ⟨mutexes, ?_, ?_⟩
    · simp only [Locked.hsmDestroySession, present, pure_ops, performs_nil]
    · simpa only [hsmDestroySession, hsmGetSession, present] using rest
  | some context =>
    obtain ⟨after, performed, settled, elsewhere⟩ :=
      destroy_session_safely system mutexes hSession context present rest.toSlotAtRest
    refine ⟨after, performed, settled, Or.inl ?_, ?_, ?_⟩
    · rw [elsewhere _ (fun _ => LockName.noConfusion)]
      exact global_lock_free system mutexes rest context present
    · rw [elsewhere _ (fun _ => LockName.noConfusion)]
      exact rest.sessionHandleLock
    · rw [elsewhere _ (fun _ => LockName.noConfusion)]
      exact rest.objectHandleLock

/-- A call that runs the closing loop under the lock of the slot is disciplined exactly
where the loop finds no session: with one the slot is locked again. -/
theorem closing_call_keeps_iff (context : HsmContext)
    (present : system.gHsmContext = some context) (call : Call)
    (ops : (Locked.callStep sha256 env system call).ops =
      .lock .slotLock :: ((Locked.closeSessions system).ops ++ [.unlock .slotLock]))
    (initialized : (callStep sha256 env system call).2.gHsmContext.isSome = true)
    (closed : ∀ index, (callStep sha256 env system call).2.sessions index = none) :
    KeepsLocks sha256 env system mutexes call ↔ ∀ index, system.sessions index = none := by
  have free : mutexes .slotLock = .free := by
    rw [rest.slotLock, present]
    rfl
  rw [KeepsLocks]
  rw [locked_call_value, ops, sessions_present system context present]
  by_cases vacant : ∀ index, context.slot.sessions index = none
  · refine iff_of_true ⟨mutexes, ?_, ?_⟩ vacant
    · have nothing : (Locked.closeSessions system).ops = [] :=
        close_no_sessions system _ context present vacant
      rw [nothing]
      exact balanced_alone (· = LockName.slotLock) _ rfl mutexes (fun _ same => same ▸ free)
    · apply at_rest_congr system _ mutexes rest
      · rw [initialized, present]
        rfl
      · intro index
        rw [closed index, sessions_present system context present, vacant index]
  · refine iff_of_false ?_ vacant
    rintro ⟨after, performed, -⟩
    obtain ⟨index, occupied⟩ := not_forall.mp vacant
    obtain ⟨session, lies⟩ := Option.ne_none_iff_exists'.mp occupied
    obtain ⟨later, locks⟩ := close_sessions_locks system (List.finRange hsmMaxSessions) context
      present index session (List.mem_finRange index) lies
    change (Locked.closeSessions system).ops = _ at locks
    rw [locks, List.cons_append, relocking_fails] at performed
    cases performed

/-- A call refused before any lock keeps the rest. -/
theorem refused_call_keeps (call : Call)
    (ops : (Locked.callStep sha256 env system call).ops = [])
    (unchanged : (callStep sha256 env system call).2 = system) :
    KeepsLocks sha256 env system mutexes call := by
  refine ⟨mutexes, ?_, ?_⟩
  · rw [ops]
    rfl
  · rw [locked_call_value, unchanged]
    exact rest

/-- `C_CloseAllSessions` is disciplined where it finds no session. -/
theorem close_all_sessions_keeps_iff (slotID : CkSlotId) :
    KeepsLocks sha256 env system mutexes (.closeAllSessions slotID) ↔
      (slotID < slotCount → ∀ index, system.sessions index = none) := by
  cases present : system.gHsmContext with
  | none =>
    refine iff_of_true (refused_call_keeps sha256 env system mutexes rest _ ?_ ?_) ?_
    · simp only [Locked.callStep, Locked.cCloseAllSessions, present, bind_ops, pure_ops,
        List.append_nil]
    · simp only [callStep, cCloseAllSessions, present]
    · intro _ index
      rw [sessions_absent system present]
      rfl
  | some context =>
    by_cases valid : slotID < slotCount
    · simp only [valid, true_implies]
      have state : (callStep sha256 env system (.closeAllSessions slotID)).2 =
          system.withSlot context context.slot.sessionsClosed := by
        simp only [callStep, cCloseAllSessions, present, if_neg (Nat.not_le_of_lt valid),
          close_sessions_all system context present]
      apply closing_call_keeps_iff sha256 env system mutexes rest context present
      · simp only [Locked.callStep, Locked.cCloseAllSessions, present,
          if_neg (Nat.not_le_of_lt valid), bind_ops, lock_ops, unlock_ops, pure_ops,
          List.append_nil, List.cons_append, List.nil_append]
      · rw [state]
        rfl
      · intro index
        rw [state]
        rfl
    · refine iff_of_true (refused_call_keeps sha256 env system mutexes rest _ ?_ ?_)
        (fun impossible => absurd impossible valid)
      · simp only [Locked.callStep, Locked.cCloseAllSessions, present,
          if_pos (Nat.le_of_not_lt valid), bind_ops, pure_ops, List.append_nil]
      · simp only [callStep, cCloseAllSessions, present, if_pos (Nat.le_of_not_lt valid)]

/-- `C_InitToken` is disciplined where it is refused or finds no session. -/
theorem init_token_keeps_iff (slotID : CkSlotId) (pPin pLabel : Option Bytes) :
    KeepsLocks sha256 env system mutexes (.initToken slotID pPin pLabel) ↔
      ((Call.initToken slotID pPin pLabel).closesUnderLock →
        ∀ index, system.sessions index = none) := by
  have refusedOps (nothing : (Locked.cInitToken sha256 env system slotID pPin pLabel).ops = [])
      (unchanged : (cInitToken sha256 env system slotID pPin pLabel).2 = system) :
      KeepsLocks sha256 env system mutexes (.initToken slotID pPin pLabel) := by
    apply refused_call_keeps sha256 env system mutexes rest
    · exact (List.append_nil _).trans nothing
    · exact unchanged
  cases pPin with
  | none => exact iff_of_true (refusedOps rfl rfl) False.elim
  | some pin =>
    cases pLabel with
    | none => exact iff_of_true (refusedOps rfl rfl) False.elim
    | some label =>
      cases present : system.gHsmContext with
      | none =>
        refine iff_of_true (refusedOps ?_ ?_) (fun _ index => ?_)
        · simp only [Locked.cInitToken, present]
          split
          · rfl
          · rfl
        · simp only [cInitToken, present]
          split
          · rfl
          · rfl
        · rw [sessions_absent system present]
          rfl
      | some context =>
        by_cases passes : (Call.initToken slotID (some pin) (some label)).closesUnderLock
        · obtain ⟨longEnough, shortEnough, valid⟩ := passes
          have state : (callStep sha256 env system
              (.initToken slotID (some pin) (some label))).2 = system.withSavedSlot env context
                (context.slot.reinitialized (sha256 pin) (initTokenLabel pin.length label)) :=
            congrArg Prod.snd (init_token_resets sha256 env system slotID pin label context present
              valid longEnough shortEnough)
          have ops := init_token_ops sha256 env system slotID pin label context present
            valid longEnough shortEnough
          have loop := closing_call_keeps_iff sha256 env system mutexes rest context present
            (.initToken slotID (some pin) (some label)) ((List.append_nil _).trans ops)
            (by rw [state]; rfl) (fun _ => by rw [state]; rfl)
          rw [loop]
          exact ⟨fun vacant _ => vacant, fun vacant => vacant ⟨longEnough, shortEnough, valid⟩⟩
        · refine iff_of_true ?_ (fun impossible => absurd impossible passes)
          by_cases outOfRange : (pin.length < hsmMinPinLen || pin.length > hsmMaxPinLen) = true
          · apply refusedOps
            · simp only [Locked.cInitToken, if_pos outOfRange, pure_ops]
            · simp only [cInitToken, if_pos outOfRange]
          · have inRange := outOfRange
            simp only [Bool.or_eq_true, decide_eq_true_eq, not_or, not_lt] at inRange
            have invalid : slotID ≥ slotCount := by
              by_contra valid
              exact passes ⟨inRange.1, inRange.2, Nat.lt_of_not_le valid⟩
            apply refusedOps
            · simp only [Locked.cInitToken, if_neg outOfRange, present, if_pos invalid, pure_ops]
            · simp only [cInitToken, if_neg outOfRange, present, if_pos invalid]

end Managing

/-! ## Runs -/

/-- What a disciplined call must avoid: `C_Initialize` with something to do, `C_Finalize`
after the global lock was destroyed, and the closing loop under the lock of the slot
with a session open. -/
structure LocksAllow (system : System) (mutexes : LockName → Status) (call : Call) : Prop where
  initializing : call = .initializeLibrary → system.gHsmContext.isSome = true
  finalizing : call = .finalizeLibrary false → mutexes .globalLock = .free
  closing : call.closesUnderLock → ∀ index, system.sessions index = none

/-- At rest a call is disciplined exactly when it avoids these. -/
theorem keeps_locks_iff (sha256 : Sha256) (env : Env) (system : System)
    (mutexes : LockName → Status) (rest : AtRest system mutexes) (call : Call) :
    KeepsLocks sha256 env system mutexes call ↔ LocksAllow system mutexes call := by
  have allowed (initializing : call ≠ .initializeLibrary)
      (finalizing : call ≠ .finalizeLibrary false) (closing : ¬ call.closesUnderLock) :
      LocksAllow system mutexes call :=
    ⟨fun same => absurd same initializing, fun same => absurd same finalizing,
      fun closes => absurd closes closing⟩
  cases call with
  | initializeLibrary =>
    rw [initialize_keeps_iff sha256 env system mutexes rest]
    constructor
    · intro initialized
      exact ⟨fun _ => initialized, Call.noConfusion, False.elim⟩
    · intro allow
      exact allow.initializing rfl
  | finalizeLibrary pReserved =>
    rw [finalize_keeps_iff sha256 env system mutexes rest]
    constructor
    · intro free
      exact ⟨Call.noConfusion, fun same => free (Call.finalizeLibrary.inj same), False.elim⟩
    · rintro allow rfl
      exact allow.finalizing rfl
  | closeAllSessions slotID =>
    rw [close_all_sessions_keeps_iff sha256 env system mutexes rest]
    constructor
    · intro vacant
      exact ⟨Call.noConfusion, Call.noConfusion, vacant⟩
    · intro allow
      exact allow.closing
  | initToken slotID pPin pLabel =>
    rw [init_token_keeps_iff sha256 env system mutexes rest]
    constructor
    · intro vacant
      exact ⟨Call.noConfusion, Call.noConfusion, vacant⟩
    · intro allow
      exact allow.closing
  | openSession slotID flags phSession =>
    exact iff_of_true (open_session_keeps sha256 env system mutexes rest slotID flags phSession)
      (allowed Call.noConfusion Call.noConfusion id)
  | closeSession hSession =>
    exact iff_of_true (close_session_keeps sha256 env system mutexes rest hSession)
      (allowed Call.noConfusion Call.noConfusion id)
  | _ =>
    exact iff_of_true (paired_call_keeps sha256 env system mutexes rest _ rfl)
      (allowed Call.noConfusion Call.noConfusion id)

/-- The process with its mutexes. After a lock error they stay as they were; a new process
has new ones. -/
def lockStep (sha256 : Sha256) (pair : System × (LockName → Status)) (event : Event) :
    Response × System × (LockName → Status) :=
  ((step sha256 pair.1 event).1, (step sha256 pair.1 event).2,
    match event with
    | .newProcess => freeMutexes (bootProcess pair.1.storage)
    | .call call env =>
      (performs pair.2 (Locked.callStep sha256 env pair.1 call).ops).getD pair.2)

/-- The event makes no lock error and ends at rest. -/
def LockDisciplined (sha256 : Sha256) (pair : System × (LockName → Status)) : Event → Prop
  | .call call env => KeepsLocks sha256 env pair.1 pair.2 call
  | .newProcess => True

/-- The event avoids what must be avoided. -/
def EventAllowed (pair : System × (LockName → Status)) : Event → Prop
  | .call call _ => LocksAllow pair.1 pair.2 call
  | .newProcess => True

/-- At rest an event is disciplined exactly when it is allowed. -/
theorem event_disciplined_iff (sha256 : Sha256) (pair : System × (LockName → Status))
    (rest : AtRest pair.1 pair.2) (event : Event) :
    LockDisciplined sha256 pair event ↔ EventAllowed pair event := by
  cases event with
  | newProcess => exact Iff.rfl
  | call call env => exact keeps_locks_iff sha256 env pair.1 pair.2 rest call

/-- A disciplined event leaves the mutexes at rest. -/
theorem disciplined_at_rest (sha256 : Sha256) (pair : System × (LockName → Status))
    (event : Event) (disciplined : LockDisciplined sha256 pair event) :
    AtRest (lockStep sha256 pair event).2.1 (lockStep sha256 pair event).2.2 := by
  cases event with
  | newProcess => exact free_mutexes_at_rest (bootProcess pair.1.storage)
  | call call env =>
    obtain ⟨after, performed, settled⟩ := disciplined
    rw [locked_call_value] at settled
    change AtRest (callStep sha256 env pair.1 call).2
      ((performs pair.2 (Locked.callStep sha256 env pair.1 call).ops).getD pair.2)
    rw [performed]
    exact settled

/-- From any state at rest a run is disciplined throughout exactly when each of its calls
avoids the three failures. -/
theorem lock_discipline_iff (sha256 : Sha256) (system : System) (mutexes : LockName → Status)
    (events : List Event) (rest : AtRest system mutexes) :
    Runs.EveryStep (lockStep sha256) (LockDisciplined sha256) (system, mutexes) events ↔
      Runs.EveryStep (lockStep sha256) EventAllowed (system, mutexes) events := by
  constructor
  · apply Runs.every_step_of_invariant (lockStep sha256) (fun pair => AtRest pair.1 pair.2)
    · intro pair event _ disciplined
      exact disciplined_at_rest sha256 pair event disciplined
    · intro pair event settled disciplined
      exact (event_disciplined_iff sha256 pair settled event).mp disciplined
    · exact rest
  · apply Runs.every_step_of_invariant (lockStep sha256) (fun pair => AtRest pair.1 pair.2)
    · intro pair event settled allowed
      exact disciplined_at_rest sha256 pair event
        ((event_disciplined_iff sha256 pair settled event).mpr allowed)
    · intro pair event settled allowed
      exact (event_disciplined_iff sha256 pair settled event).mpr allowed
    · exact rest

/-- On an initialized library the token is set up without a lock error. -/
theorem set_up_disciplined :
    Runs.EveryStep (lockStep pinSha256) (LockDisciplined pinSha256)
      (blankToken, freeMutexes blankToken) tokenSetUp.tail := by
  refine (lock_discipline_iff pinSha256 blankToken (freeMutexes blankToken) tokenSetUp.tail
    (free_mutexes_at_rest blankToken)).mpr ⟨?_, ?_, ?_, ?_, ?_, ?_, trivial⟩
  · exact ⟨Call.noConfusion, Call.noConfusion, fun _ _ => rfl⟩
  all_goals exact ⟨Call.noConfusion, Call.noConfusion, False.elim⟩

/-- A library with one session open. -/
def oneSession : System :=
  Runs.run (step pinSha256) (bootProcess freshStorage)
    [calmly .initializeLibrary, calmly (.openSession 0 ckfSerialSession true)]

/-- The first `C_Initialize` creates the global lock while it is held, and
`C_CloseAllSessions` with a session open locks the slot twice. -/
theorem mutexes_misused :
    ¬ LockDisciplined pinSha256
        (bootProcess freshStorage, freeMutexes (bootProcess freshStorage))
        (calmly .initializeLibrary) ∧
      Reachable pinSha256 oneSession ∧
      ¬ LockDisciplined pinSha256 (oneSession, freeMutexes oneSession)
        (calmly (.closeAllSessions 0)) := by
  refine ⟨fun disciplined => ?_, ⟨bootProcess freshStorage, _, rfl, rfl⟩, fun disciplined => ?_⟩
  · have allowed : LocksAllow _ _ _ := (event_disciplined_iff pinSha256 _
      (free_mutexes_at_rest (bootProcess freshStorage)) _).mp disciplined
    cases allowed.initializing rfl
  · have allowed : LocksAllow _ _ _ := (event_disciplined_iff pinSha256 _
      (free_mutexes_at_rest oneSession) _).mp disciplined
    have vacant := allowed.closing (by decide : (0 : Nat) < slotCount) ⟨0, by decide⟩
    have occupied : (oneSession.sessions ⟨0, by decide⟩).isSome = true := by decide +kernel
    rw [vacant] at occupied
    cases occupied

end PstHsm
