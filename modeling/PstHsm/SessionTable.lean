import PstHsm.Views

/-!
# The session table

The table, its counter and the handle generator move together through single
opens and closes, through the loops that close everything and through
`C_Finalize`. Beside the process a list of the handles that `C_OpenSession` has
answered is kept, and a list of those not closed since, both taken from calls and
answers alone. Lookups succeed exactly for the second list.

The generator is a `CK_ULONG` that wraps. Up to 2^64 - 1 openings no handle comes
up twice; at the last of them the generator itself has already wrapped to 0, and
the handles are no longer below it.
-/

namespace PstHsm

open Tables

/-! ## The table during one call -/

/-- The session table, its counter and the handle generator. -/
structure SessionStore where
  sessions : Table hsmMaxSessions HsmSession
  sessionCount : Nat
  nextHandle : Nat

/-- The counter of the slot. -/
def System.sessionCount (system : System) : Nat :=
  match system.gHsmContext with
  | none => 0
  | some context => context.slot.sessionCount

/-- The session table of the process, its count and the next handle. -/
def System.sessionStore (system : System) : SessionStore :=
  ⟨system.sessions, system.sessionCount, system.gNextSessionHandle⟩

/-- The calls that close every session. -/
def Call.closesAll : Call → Bool
  | .closeAllSessions _ | .initToken _ _ _ | .finalizeLibrary _ => true
  | _ => false

/-- The calls that can open or close sessions. -/
def Call.managesSessions : Call → Bool
  | .openSession _ _ _ | .closeSession _ => true
  | call => call.closesAll

/-- What one call does to the session table, together with its answer. -/
inductive SessionsStep (store : SessionStore) : Call → Response → SessionStore → Prop
  | kept (call : Call) (response : Response)
      (quiet : call.managesSessions = false ∨ response.rv ≠ .ok) :
      SessionsStep store call response store
  | rewritten (call : Call) (response : Response) (index : Fin hsmMaxSessions)
      (session after : HsmSession) (quiet : call.managesSessions = false)
      (present : store.sessions index = some session) (sameHandle : after.handle = session.handle) :
      SessionsStep store call response
        { store with sessions := put store.sessions index (some after) }
  | opened (slotID : CkSlotId) (flags : CkFlags) (now : Nat) (index : Fin hsmMaxSessions)
      (room : store.sessionCount < hsmMaxSessions) (free : firstFree store.sessions = some index) :
      SessionsStep store (.openSession slotID flags true) ⟨.ok, .handle (some store.nextHandle)⟩
        { sessions := put store.sessions index (some (freshSession store.nextHandle flags now))
          sessionCount := store.sessionCount + 1
          nextHandle := (store.nextHandle + 1) % 2 ^ 64 }
  | closed (hSession : CkSessionHandle) (index : Fin hsmMaxSessions) (session : HsmSession)
      (present : store.sessions index = some session) (named : session.handle = hSession) :
      SessionsStep store (.closeSession hSession) ⟨.ok, .nothing⟩
        { store with
          sessions := put store.sessions index none
          sessionCount := store.sessionCount - 1 }
  | cleared (call : Call) (response : Response) (remaining : Nat) (clears : call.closesAll = true)
      (succeeded : response.rv = .ok)
      (counted : remaining ≤ store.sessionCount - count store.sessions) :
      SessionsStep store call response
        { store with sessions := empty, sessionCount := remaining }

/-- With a context the count is that of its slot. -/
theorem session_count_present (system : System) (context : HsmContext)
    (present : system.gHsmContext = some context) :
    system.sessionCount = context.slot.sessionCount := by
  simp [System.sessionCount, present]

/-- With a context so is the table. -/
theorem session_store_present (system : System) (context : HsmContext)
    (present : system.gHsmContext = some context) :
    system.sessionStore =
      ⟨context.slot.sessions, context.slot.sessionCount, system.gNextSessionHandle⟩ := by
  rw [System.sessionStore, sessions_present system context present,
    session_count_present system context present]

/-- A change of one session's record keeps its handle. -/
theorem session_update_handle (slot : HsmSlot) (session after : HsmSession) (call : Call)
    (update : SessionUpdate slot session call after) : after.handle = session.handle := by
  cases update with
  | searchStarted hSession template idle => simp [hsmFindObjects]
  | _ => rfl

/-- A guess at a PIN does not change the count. -/
@[simp]
theorem verify_pin_session_count (sha256 : Sha256) (slot : HsmSlot) (userType : CkUserType)
    (pPin : Bytes) :
    (hsmVerifyPin sha256 slot userType pPin).2.sessionCount = slot.sessionCount := by
  obtain ⟨retryCount, locked, stored⟩ := verify_pin_stores sha256 slot userType pPin
  rw [stored]
  exact (store_attempts_tables slot userType retryCount locked).2.1

/-- Nor does a new PIN. -/
@[simp]
theorem pin_replaced_session_count (slot : HsmSlot) (userType : CkUserType) (hash : Buffer 32) :
    (slot.pinReplaced userType hash).sessionCount = slot.sessionCount := by
  rw [HsmSlot.pinReplaced]
  split <;> rfl

/-- A slot starts without sessions. -/
theorem init_slot_session_count (fopen : Bool) (storage : Storage) :
    (hsmInitSlot fopen storage).sessionCount = 0 := by
  rw [hsmInitSlot, hsmStorageLoadTokenInfo]
  split <;> rfl

/-- A call that neither opens nor closes sessions rewrites one record at most. -/
theorem quiet_sessions_step (sha256 : Sha256) (env : Env) (system : System) (call : Call)
    (response : Response) (quiet : call.managesSessions = false) :
    SessionsStep system.sessionStore call response
      (callStep sha256 env system call).2.sessionStore := by
  have effect := call_effect sha256 env system call
  generalize (callStep sha256 env system call).2 = changed at effect
  have kept (context : HsmContext) (slot : HsmSlot)
      (present : system.gHsmContext = some context) (later : System)
      (afterwards : later.gHsmContext = some { context with slot := slot })
      (next : later.gNextSessionHandle = system.gNextSessionHandle)
      (sessions : slot.sessions = context.slot.sessions)
      (sessionCount : slot.sessionCount = context.slot.sessionCount) :
      SessionsStep system.sessionStore call response later.sessionStore := by
    have same : later.sessionStore = system.sessionStore := by
      rw [session_store_present later _ afterwards, session_store_present system context present]
      exact congrArg₂ (fun table number => (⟨table, number, _⟩ : SessionStore)) sessions
        sessionCount |>.trans (congrArg _ next)
    rw [same]
    exact .kept call response (Or.inl quiet)
  have rewritten (found : FoundSession) (hSession : CkSessionHandle)
      (session : hsmGetSession system hSession = .ok found) (slot : HsmSlot) (after : HsmSession)
      (sameHandle : after.handle = found.session.handle)
      (sessions : slot.sessions = put found.slot.sessions found.index (some after))
      (sessionCount : slot.sessionCount = found.slot.sessionCount) :
      SessionsStep system.sessionStore call response
        (system.withSlot found.context slot).sessionStore := by
    obtain ⟨present, entry, -⟩ := get_session_sound system hSession found session
    have step : SessionsStep ⟨found.slot.sessions, found.slot.sessionCount,
        system.gNextSessionHandle⟩ call response _ :=
      .rewritten call response found.index found.session after quiet entry sameHandle
    rw [session_store_present system found.context present,
      session_store_present (system.withSlot found.context slot) _ rfl]
    change SessionsStep _ call response ⟨slot.sessions, slot.sessionCount, _⟩
    rw [sessions, sessionCount]
    exact step
  cases effect with
  | unchanged => exact .kept call response (Or.inl quiet)
  | directoriesMade rv storage absent made => exact .kept _ response (Or.inl quiet)
  | initialized storage absent made =>
    have same : ({ system with
        gHsmContext := some (hsmInitContext (hsmInitSlot env.tokenRead storage))
        storage := storage } : System).sessionStore = system.sessionStore := by
      rw [session_store_present _ (hsmInitContext (hsmInitSlot env.tokenRead storage)) rfl,
        System.sessionStore, sessions_absent system absent, System.sessionCount, absent]
      exact congrArg₂ (fun table number => (⟨table, number, _⟩ : SessionStore))
        (init_slot_tables _ storage).1 (init_slot_session_count _ storage)
    rw [same]
    exact .kept _ response (Or.inl quiet)
  | finalized context present => cases quiet
  | sessionsClosed slotID context present valid => cases quiet
  | tokenReset slotID pin label context present valid longEnough shortEnough => cases quiet
  | sessionOpened slotID flags context chosen present valid serial room free => cases quiet
  | sessionClosed hSession found session => cases quiet
  | userPinSet hSession pin found session officer longEnough shortEnough =>
    obtain ⟨present, -, -⟩ := get_session_sound system hSession found session
    exact kept found.context _ present _ rfl rfl rfl rfl
  | pinChangeRefused hSession oldPin newPin found session loggedIn longEnough shortEnough refused =>
    obtain ⟨present, -, -⟩ := get_session_sound system hSession found session
    exact kept found.context _ present _ rfl rfl (verify_pin_sessions _ _ _ _)
      (verify_pin_session_count _ _ _ _)
  | pinChanged hSession oldPin newPin found session loggedIn longEnough shortEnough accepted =>
    obtain ⟨present, -, -⟩ := get_session_sound system hSession found session
    refine kept found.context _ present _ rfl rfl ?_ ?_
    · rw [pin_replaced_sessions, verify_pin_sessions]
      rfl
    · rw [pin_replaced_session_count, verify_pin_session_count]
      rfl
  | loginRefused hSession userType pin found session known fresh writable refused =>
    obtain ⟨present, -, -⟩ := get_session_sound system hSession found session
    exact kept found.context _ present _ rfl rfl (verify_pin_sessions _ _ _ _)
      (verify_pin_session_count _ _ _ _)
  | loggedIn hSession userType pin found session known fresh writable accepted =>
    exact rewritten found hSession session _ _ (logged_in_frame _ _ _).1 rfl
      (verify_pin_session_count _ _ _ _)
  | sessionUpdated call hSession found updated named session update =>
    exact rewritten found hSession session _ updated
      (session_update_handle found.slot found.session updated _ update) rfl rfl
  | objectCreated hSession template found chosen session room free =>
    obtain ⟨present, -, -⟩ := get_session_sound system hSession found session
    exact kept found.context _ present _ rfl rfl rfl rfl
  | objectDestroyed hSession hObject found chosen object session lookup =>
    obtain ⟨present, -, -⟩ := get_session_sound system hSession found session
    exact kept found.context _ present _ rfl rfl rfl rfl
  | labelSet hSession hObject template found chosen object session lookup =>
    obtain ⟨present, -, -⟩ := get_session_sound system hSession found session
    exact kept found.context _ present _ rfl rfl rfl rfl
  | keyPairInserted hSession mechanism publicTemplate privateTemplate found pubObj privObj pubIdx
      privIdx rest session user generated free =>
    obtain ⟨present, -, -⟩ := get_session_sound system hSession found session
    exact kept found.context _ present _ rfl rfl rfl rfl

section Managing

variable (sha256 : Sha256) (env : Env) (system : System)

/-- The step of `C_OpenSession`. -/
theorem open_session_step (slotID : CkSlotId) (flags : CkFlags) (phSession : Bool) :
    SessionsStep system.sessionStore (.openSession slotID flags phSession)
      (callStep sha256 env system (.openSession slotID flags phSession)).1
      (callStep sha256 env system (.openSession slotID flags phSession)).2.sessionStore := by
  rcases open_session_cases env system slotID flags phSession with
    ⟨rv, failed, same⟩ | ⟨context, index, rfl, present, -, -, room, free, same⟩
  · simp only [callStep, same]
    exact .kept _ _ (Or.inr failed)
  · simp only [callStep, same]
    rw [session_store_present system context present, session_store_present _ _ rfl]
    exact .opened slotID flags env.now index room free

/-- The step of `C_CloseSession`. -/
theorem close_session_step (hSession : CkSessionHandle) :
    SessionsStep system.sessionStore (.closeSession hSession)
      (callStep sha256 env system (.closeSession hSession)).1
      (callStep sha256 env system (.closeSession hSession)).2.sessionStore := by
  cases session : hsmGetSession system hSession with
  | error rv =>
    have failed := get_session_refused system hSession rv session
    simp only [callStep, cCloseSession, hsmDestroySession, session]
    exact .kept _ _ (Or.inr failed)
  | ok found =>
    obtain ⟨present, entry, named⟩ := get_session_sound system hSession found session
    simp only [callStep, cCloseSession, hsmDestroySession, session]
    rw [session_store_present system found.context present, session_store_present _ _ rfl]
    exact .closed hSession found.index found.session entry named

/-- `C_CloseAllSessions` on the slot closes every session. -/
theorem close_all_sessions_closes (slotID : CkSlotId) (context : HsmContext)
    (present : system.gHsmContext = some context) (valid : slotID < slotCount) :
    cCloseAllSessions system slotID =
      (.ok, system.withSlot context context.slot.sessionsClosed) := by
  simp only [cCloseAllSessions, present, if_neg (Nat.not_le_of_lt valid)]
  rw [close_sessions_all system context present]

/-- The step of `C_CloseAllSessions`. -/
theorem close_all_sessions_step (slotID : CkSlotId) :
    SessionsStep system.sessionStore (.closeAllSessions slotID)
      (callStep sha256 env system (.closeAllSessions slotID)).1
      (callStep sha256 env system (.closeAllSessions slotID)).2.sessionStore := by
  cases present : system.gHsmContext with
  | none =>
    simp only [callStep, cCloseAllSessions, present]
    exact .kept _ _ (Or.inr CkRv.noConfusion)
  | some context =>
    by_cases valid : slotID < slotCount
    · simp only [callStep, close_all_sessions_closes system slotID context present valid]
      rw [session_store_present system context present, session_store_present _ _ rfl]
      exact .cleared _ _ _ rfl rfl (Nat.le_refl _)
    · simp only [callStep, cCloseAllSessions, present, if_pos (Nat.le_of_not_lt valid)]
      exact .kept _ _ (Or.inr CkRv.noConfusion)

/-- The step of `C_InitToken`. -/
theorem init_token_step (slotID : CkSlotId) (pPin pLabel : Option Bytes) :
    SessionsStep system.sessionStore (.initToken slotID pPin pLabel)
      (callStep sha256 env system (.initToken slotID pPin pLabel)).1
      (callStep sha256 env system (.initToken slotID pPin pLabel)).2.sessionStore := by
  rcases init_token_cases sha256 env system slotID pPin pLabel with
    ⟨rv, failed, same⟩ | ⟨pin, label, context, rfl, rfl, present, -, -, -, same⟩
  · simp only [callStep, same]
    exact .kept _ _ (Or.inr failed)
  · simp only [callStep, same]
    rw [session_store_present system context present, session_store_present _ _ rfl]
    exact .cleared _ _ _ rfl rfl (Nat.le_refl _)

/-- The step of `C_Finalize`. -/
theorem finalize_step (pReserved : Bool) :
    SessionsStep system.sessionStore (.finalizeLibrary pReserved)
      (callStep sha256 env system (.finalizeLibrary pReserved)).1
      (callStep sha256 env system (.finalizeLibrary pReserved)).2.sessionStore := by
  cases pReserved with
  | true => exact .kept _ _ (Or.inr CkRv.noConfusion)
  | false =>
    cases present : system.gHsmContext with
    | none =>
      simp only [callStep, cFinalize, present]
      exact .kept _ _ (Or.inr CkRv.noConfusion)
    | some context =>
      simp only [callStep, cFinalize, present]
      exact .cleared _ _ 0 rfl rfl (Nat.zero_le _)

/-- The session table makes one of the steps at every call. -/
theorem sessions_step (call : Call) :
    SessionsStep system.sessionStore call (callStep sha256 env system call).1
      (callStep sha256 env system call).2.sessionStore := by
  cases call with
  | openSession slotID flags phSession =>
    exact open_session_step sha256 env system slotID flags phSession
  | closeSession hSession => exact close_session_step sha256 env system hSession
  | closeAllSessions slotID => exact close_all_sessions_step sha256 env system slotID
  | initToken slotID pPin pLabel => exact init_token_step sha256 env system slotID pPin pLabel
  | finalizeLibrary pReserved => exact finalize_step sha256 env system pReserved
  | _ => exact quiet_sessions_step sha256 env system _ _ rfl

end Managing

/-! ## The handles answered -/

/-- The handles that `C_OpenSession` answered in this process, the newest first, and
those of them that were not closed since. -/
structure OpenHandles where
  issued : List CkSessionHandle
  unclosed : List CkSessionHandle

/-- Only what the caller sees decides: the call and its answer. -/
def OpenHandles.next (record : OpenHandles) (call : Call) (response : Response) : OpenHandles :=
  if response.rv ≠ .ok then record
  else
    match call, response.output with
    | .openSession _ _ _, .handle (some handle) =>
      ⟨handle :: record.issued, handle :: record.unclosed⟩
    | .closeSession hSession, _ =>
      { record with unclosed := record.unclosed.filter fun handle => handle ≠ hSession }
    | .closeAllSessions _, _ | .initToken _ _ _, _ | .finalizeLibrary _, _ =>
      { record with unclosed := [] }
    | _, _ => record

/-- The process with the handles it has answered; a new process has answered none. -/
def openedStep (sha256 : Sha256) : System × OpenHandles → Event → Response × System × OpenHandles :=
  Runs.traced (step sha256) fun system record event =>
    match event with
    | .call call env => record.next call (callStep sha256 env system call).1
    | .newProcess => ⟨[], []⟩

/-- What holds of the table and the record as long as the generator has not given out
2^64 handles: the record numbers what it gave out, and the table carries exactly the
handles not yet closed. -/
structure SessionsIssued (store : SessionStore) (record : OpenHandles) : Prop where
  next : store.nextHandle = (1 + record.issued.length) % 2 ^ 64
  numbered : ∀ handle : Nat, handle ∈ record.issued → 1 ≤ handle ∧ handle ≤ record.issued.length
  nodup : record.issued.Nodup
  drawn : ∀ handle ∈ record.unclosed, handle ∈ record.issued
  counted : store.sessionCount = count store.sessions
  distinct : KeysDistinct HsmSession.handle store.sessions
  carried : ∀ handle, handle ∈ record.unclosed ↔ Carries HsmSession.handle store.sessions handle

/-- A call that is refused, or that has nothing to do with opening and closing, leaves
the record alone. -/
theorem record_quiet (record : OpenHandles) (call : Call) (response : Response)
    (quiet : call.managesSessions = false ∨ response.rv ≠ .ok) :
    record.next call response = record := by
  unfold OpenHandles.next
  rcases quiet with unrelated | refused
  · split
    · rfl
    · split
      all_goals first
        | rfl
        | cases unrelated
  · rw [if_pos refused]

/-- A call that closes everything leaves no handle unclosed. -/
theorem record_cleared (record : OpenHandles) (call : Call) (response : Response)
    (clears : call.closesAll = true) (succeeded : response.rv = .ok) :
    record.next call response = { record with unclosed := [] } := by
  unfold OpenHandles.next
  rw [if_neg (not_not.mpr succeeded)]
  cases call with
  | closeAllSessions slotID => rfl
  | initToken slotID pPin pLabel => rfl
  | finalizeLibrary pReserved => rfl
  | _ => cases clears

/-- One step of the session table keeps the handles issued. -/
theorem sessions_issued_store (store after : SessionStore) (call : Call) (response : Response)
    (record : OpenHandles) (change : SessionsStep store call response after)
    (issued : SessionsIssued store record)
    (few : (record.next call response).issued.length < 2 ^ 64) :
    SessionsIssued after (record.next call response) := by
  cases change with
  | kept _ _ quiet =>
    rw [record_quiet record call response quiet]
    exact issued
  | rewritten _ _ index session changed quiet present sameHandle =>
    rw [record_quiet record call response (Or.inl quiet)]
    refine ⟨issued.next, issued.numbered, issued.nodup, issued.drawn, ?_, ?_, ?_⟩
    · exact issued.counted.trans (count_replace _ index session changed present).symm
    · exact keys_distinct_replace HsmSession.handle _ index session changed issued.distinct present
        sameHandle
    · intro handle
      exact (issued.carried handle).trans
        (carries_replace HsmSession.handle _ index session changed present sameHandle handle).symm
  | opened slotID flags now index room free =>
    have noted : record.next (.openSession slotID flags true)
        ⟨.ok, .handle (some store.nextHandle)⟩ =
        ⟨store.nextHandle :: record.issued, store.nextHandle :: record.unclosed⟩ := rfl
    rw [noted] at few ⊢
    have longer : record.issued.length + 1 < 2 ^ 64 := few
    have number : store.nextHandle = record.issued.length + 1 := by
      rw [issued.next]
      omega
    have vacant := first_free_sound store.sessions index free
    have fresh : ∀ handle : Nat, handle ∈ record.issued → handle ≠ store.nextHandle := by
      intro handle member same
      have bound := (issued.numbered handle member).2
      omega
    refine ⟨?_, ?_, ?_, ?_, ?_, ?_, ?_⟩
    · change (store.nextHandle + 1) % 2 ^ 64 = (1 + (record.issued.length + 1)) % 2 ^ 64
      rw [number, Nat.add_comm 1]
    · intro handle member
      change 1 ≤ handle ∧ handle ≤ record.issued.length + 1
      rcases List.mem_cons.mp member with rfl | earlier
      · omega
      · have bound := issued.numbered handle earlier
        omega
    · exact List.nodup_cons.mpr ⟨fun member => fresh _ member rfl, issued.nodup⟩
    · intro handle member
      rcases List.mem_cons.mp member with rfl | earlier
      · exact List.mem_cons_self
      · exact List.mem_cons_of_mem _ (issued.drawn handle earlier)
    · change store.sessionCount + 1 = count (put store.sessions index _)
      rw [count_fill _ index _ vacant, issued.counted]
    · apply keys_distinct_fill HsmSession.handle store.sessions index _ issued.distinct
      intro tested session present
      have unclosed : session.handle ∈ record.unclosed :=
        (issued.carried _).mpr ⟨tested, session, present, rfl⟩
      exact fresh session.handle (issued.drawn _ unclosed)
    · intro handle
      rw [carries_fill HsmSession.handle store.sessions index _ vacant, List.mem_cons,
        issued.carried handle]
      rfl
  | closed hSession index session present named =>
    have noted : record.next (.closeSession hSession) ⟨.ok, .nothing⟩ =
        { record with unclosed := record.unclosed.filter fun handle => handle ≠ hSession } := rfl
    rw [noted]
    refine ⟨issued.next, issued.numbered, issued.nodup, ?_, ?_, ?_, ?_⟩
    · intro handle member
      exact issued.drawn handle (List.mem_filter.mp member).1
    · have removed := count_remove store.sessions index session present
      change store.sessionCount - 1 = count (put store.sessions index none)
      rw [issued.counted]
      omega
    · exact keys_distinct_remove HsmSession.handle store.sessions index issued.distinct
    · intro handle
      rw [carries_remove HsmSession.handle store.sessions index session issued.distinct present,
        List.mem_filter, issued.carried handle, decide_eq_true_eq, named, and_comm]
  | cleared _ _ remaining clears succeeded counted =>
    rw [record_cleared record call response clears succeeded]
    refine ⟨issued.next, issued.numbered, issued.nodup, nofun, ?_, ?_, ?_⟩
    · change remaining = count (empty : Table hsmMaxSessions HsmSession)
      rw [count_empty]
      have same := issued.counted
      omega
    · exact keys_distinct_empty HsmSession.handle
    · intro handle
      simp

/-! ## Runs of one process -/

/-- A lookup succeeds exactly for the handles the table carries. -/
theorem get_session_iff (system : System) (hSession : CkSessionHandle) :
    (∃ found, hsmGetSession system hSession = .ok found) ↔
      Carries HsmSession.handle system.sessions hSession := by
  cases present : system.gHsmContext with
  | none =>
    rw [sessions_absent system present]
    refine iff_of_false ?_ (carries_empty HsmSession.handle hSession)
    rintro ⟨found, located⟩
    simp [hsmGetSession, present] at located
  | some context =>
    rw [sessions_present system context present, ← find_key_iff]
    cases located : find context.slot.sessions
        (fun session => decide (session.handle = hSession)) with
    | none => simp [hsmGetSession, present, located]
    | some pair => simp [hsmGetSession, present, located]

/-- A record only ever gains issued handles. -/
theorem record_grows (record : OpenHandles) (call : Call) (response : Response) :
    record.issued.length ≤ (record.next call response).issued.length := by
  unfold OpenHandles.next
  split
  · exact Nat.le_refl _
  · split
    · exact Nat.le_succ _
    all_goals exact Nat.le_refl _

/-- Within a process the handles given out only grow in number. -/
theorem openings_grow (sha256 : Sha256) (pair : System × OpenHandles) (events : List Event)
    (within : ∀ event ∈ events, event ≠ .newProcess) :
    pair.2.issued.length ≤ (Runs.run (openedStep sha256) pair events).2.issued.length := by
  induction events generalizing pair with
  | nil => exact Nat.le_refl _
  | cons event rest inductionHypothesis =>
    have later := inductionHypothesis (openedStep sha256 pair event).2 fun tested member =>
      within tested (List.mem_cons_of_mem _ member)
    cases event with
    | newProcess => exact absurd rfl (within .newProcess List.mem_cons_self)
    | call call env => exact (record_grows pair.2 call _).trans later

/-- A call within one process, with the openings so far below the given number. -/
def OpensBelow (sha256 : Sha256) (most : Nat) (pair : System × OpenHandles) (event : Event) :
    Prop :=
  event ≠ .newProcess ∧ (openedStep sha256 pair event).2.2.issued.length < most

/-- A bound on the openings of the whole run holds after each of its calls. -/
theorem opens_below_throughout (sha256 : Sha256) (most : Nat) (pair : System × OpenHandles)
    (events : List Event) (within : ∀ event ∈ events, event ≠ .newProcess)
    (few : (Runs.run (openedStep sha256) pair events).2.issued.length < most) :
    Runs.EveryStep (openedStep sha256) (OpensBelow sha256 most) pair events := by
  induction events generalizing pair with
  | nil => trivial
  | cons event rest inductionHypothesis =>
    have withinRest : ∀ tested ∈ rest, tested ≠ .newProcess := fun tested member =>
      within tested (List.mem_cons_of_mem _ member)
    have grows := openings_grow sha256 (openedStep sha256 pair event).2 rest withinRest
    exact ⟨⟨within event List.mem_cons_self, Nat.lt_of_le_of_lt grows few⟩,
      inductionHypothesis _ withinRest few⟩

/-- Handles stay issued through every run of one process with fewer than 2^64
openings. -/
theorem sessions_issued_run (sha256 : Sha256) (system : System) (events : List Event)
    (booted : Booted system) (within : ∀ event ∈ events, event ≠ .newProcess)
    (few : (Runs.run (openedStep sha256) (system, ⟨[], []⟩) events).2.issued.length < 2 ^ 64) :
    SessionsIssued (Runs.run (openedStep sha256) (system, ⟨[], []⟩) events).1.sessionStore
      (Runs.run (openedStep sha256) (system, ⟨[], []⟩) events).2 := by
  apply Runs.invariant_run (openedStep sha256)
    (fun pair => SessionsIssued pair.1.sessionStore pair.2)
    (OpensBelow sha256 (2 ^ 64))
  · intro pair event issued below
    cases event with
    | newProcess => exact absurd rfl below.1
    | call call env =>
      exact sessions_issued_store _ _ call _ pair.2 (sessions_step sha256 env pair.1 call) issued
        below.2
  · rw [booted]
    refine ⟨rfl, nofun, List.nodup_nil, nofun, ?_, keys_distinct_empty HsmSession.handle, ?_⟩
    · change 0 = count (empty : Table hsmMaxSessions HsmSession)
      rw [count_empty]
    · intro handle
      exact iff_of_false List.not_mem_nil (carries_empty HsmSession.handle handle)
  · exact opens_below_throughout sha256 _ _ events within few

/-- The table with its counter, the lookups and the handles answered so far. -/
structure SessionTableSound (pair : System × OpenHandles) : Prop where
  counted : pair.1.sessionCount = count pair.1.sessions ∧ pair.1.sessionCount ≤ hsmMaxSessions
  distinct : KeysDistinct HsmSession.handle pair.1.sessions
  found : ∀ handle, (∃ found, hsmGetSession pair.1 handle = .ok found) ↔ handle ∈ pair.2.unclosed
  issuedOnce : pair.2.issued.Nodup
  opens : ∀ env slotID flags, pair.1.gHsmContext.isSome = true → env.calloc 0 = true →
    slotID < slotCount → flags &&& ckfSerialSession ≠ 0 →
    ((cOpenSession env pair.1 slotID flags true).1 = .ok ↔
      count pair.1.sessions < hsmMaxSessions)

/-- The live handles lie below the generator. -/
def HandlesBelow (system : System) : Prop :=
  ∀ index session, system.sessions index = some session →
    session.handle < system.gNextSessionHandle

/-- While its counter agrees with the table, `C_OpenSession` succeeds exactly when the
table has room. -/
theorem open_session_succeeds_iff (env : Env) (system : System) (slotID : CkSlotId)
    (flags : CkFlags) (counted : system.sessionCount = count system.sessions)
    (initialized : system.gHsmContext.isSome = true) (memory : env.calloc 0 = true)
    (valid : slotID < slotCount) (serial : flags &&& ckfSerialSession ≠ 0) :
    (cOpenSession env system slotID flags true).1 = .ok ↔
      count system.sessions < hsmMaxSessions := by
  obtain ⟨context, present⟩ := Option.isSome_iff_exists.mp initialized
  rw [session_count_present system context present,
    sessions_present system context present] at counted
  rw [sessions_present system context present, ← counted]
  constructor
  · intro succeeded
    rcases open_session_cases env system slotID flags true with
      ⟨rv, failed, same⟩ | ⟨stored, index, -, there, -, -, room, -, same⟩
    · rw [same] at succeeded
      exact absurd succeeded failed
    · obtain rfl := Option.some.inj (present.symm.trans there)
      exact room
  · intro room
    obtain ⟨index, free⟩ := first_free_exists context.slot.sessions (counted ▸ room)
    simp [cOpenSession, present, Nat.not_le_of_lt valid, serial, hsmCreateSession,
      Nat.not_le_of_lt room, free, memory]

/-- In every run of one process with fewer than 2^64 openings the session table is
sound, and before the last of these openings the live handles lie below the generator. -/
theorem session_table_sound (sha256 : Sha256) (system : System) (events : List Event)
    (booted : Booted system) (within : ∀ event ∈ events, event ≠ .newProcess)
    (few : (Runs.run (openedStep sha256) (system, ⟨[], []⟩) events).2.issued.length < 2 ^ 64) :
    SessionTableSound (Runs.run (openedStep sha256) (system, ⟨[], []⟩) events) ∧
      ((Runs.run (openedStep sha256) (system, ⟨[], []⟩) events).2.issued.length < 2 ^ 64 - 1 →
        HandlesBelow (Runs.run (openedStep sha256) (system, ⟨[], []⟩) events).1) := by
  have issued := sessions_issued_run sha256 system events booted within few
  generalize Runs.run (openedStep sha256) (system, ⟨[], []⟩) events = reached at issued
  constructor
  · refine ⟨⟨issued.counted, ?_⟩, issued.distinct, ?_, issued.nodup, ?_⟩
    · exact issued.counted.trans_le (count_le_capacity reached.1.sessions)
    · intro handle
      rw [get_session_iff, issued.carried handle]
      rfl
    · intro env slotID flags
      exact open_session_succeeds_iff env reached.1 slotID flags issued.counted
  · intro below index session present
    have unclosed : session.handle ∈ reached.2.unclosed :=
      (issued.carried _).mpr ⟨index, session, present, rfl⟩
    have bound := (issued.numbered _ (issued.drawn _ unclosed)).2
    have next : reached.1.gNextSessionHandle = (1 + reached.2.issued.length) % 2 ^ 64 := issued.next
    change session.handle < reached.1.gNextSessionHandle
    rw [next, Nat.mod_eq_of_lt (by omega)]
    exact Nat.lt_of_le_of_lt bound (by omega)

/-! ## The run that exhausts the generator -/

/-- Open a session and close it again, the given number of times, when the generator
holds the given number. -/
def reopenings : Nat → Nat → List Event
  | 0, _ => []
  | rounds + 1, number =>
    calmly (.openSession 0 ckfSerialSession true) :: calmly (.closeSession number) ::
      reopenings rounds (number + 1)

/-- Initialize, and open one session more. -/
def exhaustingRun (rounds : Nat) : List Event :=
  calmly .initializeLibrary ::
    (reopenings rounds 1 ++ [calmly (.openSession 0 ckfSerialSession true)])

/-- The same process with another value of the handle generator. -/
def System.atHandle (system : System) (handle : Nat) : System :=
  { system with gNextSessionHandle := handle }

/-- The library is initialized and no session is open. -/
structure Vacant (system : System) (context : HsmContext) : Prop where
  present : system.gHsmContext = some context
  closed : context.slot.sessions = empty
  counted : context.slot.sessionCount = 0

/-- With an empty table `C_OpenSession` succeeds with the next handle. -/
theorem vacant_opens (system : System) (context : HsmContext) (vacant : Vacant system context) :
    ∃ index, cOpenSession (calmEnv 1) system 0 ckfSerialSession true =
      (.ok, some system.gNextSessionHandle,
        system.withOpened context index ckfSerialSession 0) := by
  obtain ⟨present, closed, counted⟩ := vacant
  have room : context.slot.sessionCount < hsmMaxSessions := counted.trans_lt (by decide)
  have space : count context.slot.sessions < hsmMaxSessions := by
    rw [closed, count_empty]
    decide
  obtain ⟨index, free⟩ := first_free_exists context.slot.sessions space
  refine ⟨index, ?_⟩
  have valid : ¬ (0 : CkSlotId) ≥ slotCount := by decide
  have serial : ¬ ckfSerialSession &&& ckfSerialSession = 0 := by decide
  simp only [cOpenSession, present, Bool.not_true, Bool.false_eq_true, if_false, if_neg valid,
    if_neg serial, hsmCreateSession, if_neg (Nat.not_le_of_lt room), free]
  rfl

/-- One round leaves the table vacant and moves the generator on. -/
theorem reopening_round (sha256 : Sha256) (system : System) (context : HsmContext)
    (record : OpenHandles) (vacant : Vacant system context) :
    (Runs.run (openedStep sha256) (system, record)
        [calmly (.openSession 0 ckfSerialSession true),
          calmly (.closeSession system.gNextSessionHandle)]).1 =
        system.atHandle ((system.gNextSessionHandle + 1) % 2 ^ 64) ∧
      (Runs.run (openedStep sha256) (system, record)
        [calmly (.openSession 0 ckfSerialSession true),
          calmly (.closeSession system.gNextSessionHandle)]).2.issued =
        system.gNextSessionHandle :: record.issued := by
  obtain ⟨index, opens⟩ := vacant_opens system context vacant
  obtain ⟨present, closed, -⟩ := vacant
  have free : context.slot.sessions index = none := by rw [closed, empty_entry]
  let session := freshSession system.gNextSessionHandle ckfSerialSession 0
  let filled : HsmSlot := { context.slot with
    sessions := put context.slot.sessions index (some session)
    sessionCount := context.slot.sessionCount + 1 }
  let changed := system.withOpened context index ckfSerialSession 0
  have located : hsmGetSession changed system.gNextSessionHandle =
      .ok ⟨{ context with slot := filled }, index, session⟩ := by
    have only := find_only (put context.slot.sessions index (some session))
      (fun stored => decide (stored.handle = system.gNextSessionHandle)) index session
      (put_self _ _ _) (decide_eq_true rfl) ?_
    · simp only [hsmGetSession, changed, System.withOpened, System.withSlot]
      rw [only]
    · intro tested stored there _
      by_contra elsewhere
      rw [put_other _ _ _ _ elsewhere, closed] at there
      cases there
  have closes : cCloseSession changed system.gNextSessionHandle =
      (.ok, system.atHandle ((system.gNextSessionHandle + 1) % 2 ^ 64)) := by
    have emptied : put filled.sessions index none = context.slot.sessions :=
      put_restored context.slot.sessions index (some session) free
    simp only [cCloseSession, hsmDestroySession, located, FoundSession.slot, emptied]
    cases system
    cases present
    rfl
  have opened : (openedStep sha256 (system, record)
      (calmly (.openSession 0 ckfSerialSession true))).2 =
      (changed, ⟨system.gNextSessionHandle :: record.issued,
        system.gNextSessionHandle :: record.unclosed⟩) := by
    simp only [openedStep, Runs.traced, calmly, step, callStep, opens]
    rfl
  simp only [Runs.run]
  rw [opened]
  simp only [openedStep, Runs.traced, calmly, step, callStep, closes]
  exact ⟨trivial, rfl⟩

/-- Opening and closing so often moves the handle by as many, and nothing else. -/
theorem reopenings_run (sha256 : Sha256) (rounds : Nat) (system : System) (context : HsmContext)
    (record : OpenHandles) (vacant : Vacant system context)
    (number : Nat) (started : system.gNextSessionHandle = number)
    (room : number + rounds < 2 ^ 64) :
    (Runs.run (openedStep sha256) (system, record) (reopenings rounds number)).1 =
        system.atHandle (number + rounds) ∧
      (Runs.run (openedStep sha256) (system, record) (reopenings rounds number)).2.issued.length =
        record.issued.length + rounds := by
  induction rounds generalizing system record number with
  | zero =>
    refine ⟨?_, rfl⟩
    rw [← started]
    rfl
  | succ rounds inductionHypothesis =>
    obtain ⟨state, issued⟩ := reopening_round sha256 system context record vacant
    have next : ((system.gNextSessionHandle + 1) % 2 ^ 64 : Nat) = number + 1 := by
      rw [started]
      exact Nat.mod_eq_of_lt (by omega)
    rw [next, started] at state
    rw [started] at issued
    have split : Runs.run (openedStep sha256) (system, record) (reopenings (rounds + 1) number) =
        Runs.run (openedStep sha256) (Runs.run (openedStep sha256) (system, record)
          [calmly (.openSession 0 ckfSerialSession true), calmly (.closeSession number)])
          (reopenings rounds (number + 1)) := rfl
    rw [split]
    generalize Runs.run (openedStep sha256) (system, record)
      [calmly (.openSession 0 ckfSerialSession true), calmly (.closeSession number)] = reached
      at state issued
    obtain ⟨later, noted⟩ := reached
    obtain rfl : later = system.atHandle (number + 1) := state
    obtain ⟨ends, numbered⟩ := inductionHypothesis (system.atHandle (number + 1)) noted
      ⟨vacant.present, vacant.closed, vacant.counted⟩ (number + 1) rfl (by omega)
    rw [ends, numbered, show noted.issued = _ from issued]
    refine ⟨?_, ?_⟩
    · rw [show number + 1 + rounds = number + (rounds + 1) by omega]
      rfl
    · change record.issued.length + 1 + rounds = _
      omega

/-- The process does not end in between. -/
theorem reopenings_within (rounds number : Nat) :
    ∀ event ∈ reopenings rounds number, event ≠ .newProcess := by
  induction rounds generalizing number with
  | zero => simp [reopenings]
  | succ rounds inductionHypothesis =>
    intro event member
    rcases List.mem_cons.mp member with rfl | member
    · exact Event.noConfusion
    · rcases List.mem_cons.mp member with rfl | member
      · exact Event.noConfusion
      · exact inductionHypothesis (number + 1) event member

/-- Nor does it here. -/
theorem exhausting_run_within (rounds : Nat) :
    ∀ event ∈ exhaustingRun rounds, event ≠ .newProcess := by
  intro event member
  rcases List.mem_cons.mp member with rfl | member
  · exact Event.noConfusion
  · rcases List.mem_append.mp member with earlier | last
    · exact reopenings_within rounds 1 event earlier
    · rw [List.mem_singleton.mp last]
      exact Event.noConfusion

/-- After the last opening the generator holds the next number modulo 2^64, and a
session with the number before it is live. -/
theorem exhausting_run_ends (sha256 : Sha256) (rounds : Nat) (room : 1 + rounds < 2 ^ 64) :
    (Runs.run (openedStep sha256) (bootProcess freshStorage, ⟨[], []⟩)
        (exhaustingRun rounds)).2.issued.length = rounds + 1 ∧
      (Runs.run (openedStep sha256) (bootProcess freshStorage, ⟨[], []⟩)
        (exhaustingRun rounds)).1.gNextSessionHandle = (1 + rounds + 1) % 2 ^ 64 ∧
      ∃ index session,
        (Runs.run (openedStep sha256) (bootProcess freshStorage, ⟨[], []⟩)
          (exhaustingRun rounds)).1.sessions index = some session ∧
        session.handle = 1 + rounds := by
  let opened := (cInitialize (calmEnv 1) (bootProcess freshStorage)).2
  let context := hsmInitContext (hsmInitSlot true opened.storage)
  have vacant : Vacant opened context := ⟨rfl, rfl, rfl⟩
  have started : Runs.run (openedStep sha256) (bootProcess freshStorage, ⟨[], []⟩)
      (exhaustingRun rounds) =
      Runs.run (openedStep sha256) (opened, ⟨[], []⟩)
        (reopenings rounds 1 ++ [calmly (.openSession 0 ckfSerialSession true)]) := rfl
  obtain ⟨ends, numbered⟩ :=
    reopenings_run sha256 rounds opened context ⟨[], []⟩ vacant 1 rfl room
  rw [started, Runs.run_snoc]
  generalize Runs.run (openedStep sha256) (opened, ⟨[], []⟩) (reopenings rounds 1) = reached
    at ends numbered
  obtain ⟨system, record⟩ := reached
  obtain rfl : system = opened.atHandle (1 + rounds) := ends
  obtain ⟨index, opens⟩ := vacant_opens (opened.atHandle (1 + rounds)) context
    ⟨vacant.present, vacant.closed, vacant.counted⟩
  simp only [openedStep, Runs.traced, calmly, step, callStep, opens]
  refine ⟨?_, rfl, index, freshSession (1 + rounds) ckfSerialSession 0, ?_, rfl⟩
  · change record.issued.length + 1 = rounds + 1
    simpa using numbered
  · exact put_self context.slot.sessions index _

/-- After 2^64 - 1 openings the newest session lies above the generator. -/
theorem generator_exhausted :
    Booted (bootProcess freshStorage) ∧
      (∀ event ∈ exhaustingRun (2 ^ 64 - 2), event ≠ .newProcess) ∧
      (Runs.run (openedStep pinSha256) (bootProcess freshStorage, ⟨[], []⟩)
        (exhaustingRun (2 ^ 64 - 2))).2.issued.length < 2 ^ 64 ∧
      ¬ (SessionTableSound (Runs.run (openedStep pinSha256) (bootProcess freshStorage, ⟨[], []⟩)
          (exhaustingRun (2 ^ 64 - 2))) ∧
        HandlesBelow (Runs.run (openedStep pinSha256) (bootProcess freshStorage, ⟨[], []⟩)
          (exhaustingRun (2 ^ 64 - 2))).1) := by
  obtain ⟨length, next, index, session, present, named⟩ :=
    exhausting_run_ends pinSha256 (2 ^ 64 - 2) (by omega)
  refine ⟨rfl, exhausting_run_within _, ?_, ?_⟩
  · rw [length]
    omega
  · rintro ⟨-, below⟩
    have bound : session.handle < _ := below index session present
    rw [next] at bound
    have wrapped : (1 + (2 ^ 64 - 2) + 1) % 2 ^ 64 = 0 := by decide
    rw [wrapped] at bound
    exact absurd bound (Nat.not_lt_zero session.handle)

/-- Open two sessions and close the first. -/
def twoOpenings : List Event :=
  [calmly .initializeLibrary,
    calmly (.openSession 0 ckfSerialSession true),
    calmly (.openSession 0 (ckfSerialSession ||| ckfRwSession) true),
    calmly (.closeSession 1)]

/-- Two sessions opened one after the other. -/
theorem two_openings_sound :
    SessionTableSound (Runs.run (openedStep pinSha256) (bootProcess freshStorage, ⟨[], []⟩)
        twoOpenings) ∧
      ((Runs.run (openedStep pinSha256) (bootProcess freshStorage, ⟨[], []⟩)
          twoOpenings).2.issued.length < 2 ^ 64 - 1 →
        HandlesBelow (Runs.run (openedStep pinSha256) (bootProcess freshStorage, ⟨[], []⟩)
          twoOpenings).1) :=
  session_table_sound pinSha256 (bootProcess freshStorage) twoOpenings rfl
    (by simp [twoOpenings, calmly]) (by decide +kernel)

end PstHsm
