import PstHsm.Api

/-!
# What one call does

Every entry point either leaves the process as it was or makes one of a fixed
list of changes, each under the checks the code made before it. The list is an
inductive relation with one constructor for each change, and `call_effect` says
that every call is on it. Invariants and frame conditions are then proved from
the list, and the bodies of the entry points are not opened again.
-/

namespace PstHsm

open Tables

/-- The session handle a call carries, if it has one. -/
def Call.hSession : Call → Option CkSessionHandle
  | .initPIN hSession _ => some hSession
  | .setPIN hSession _ _ => some hSession
  | .closeSession hSession => some hSession
  | .getSessionInfo hSession _ => some hSession
  | .login hSession _ _ => some hSession
  | .logout hSession => some hSession
  | .createObject hSession _ _ => some hSession
  | .destroyObject hSession _ => some hSession
  | .getAttributeValue hSession _ _ => some hSession
  | .setAttributeValue hSession _ _ => some hSession
  | .findObjectsInit hSession _ => some hSession
  | .findObjects hSession _ _ _ => some hSession
  | .findObjectsFinal hSession => some hSession
  | .signInit hSession _ _ => some hSession
  | .sign hSession _ _ _ => some hSession
  | .verifyInit hSession _ _ => some hSession
  | .verify hSession _ _ => some hSession
  | .generateKeyPair hSession _ _ _ _ _ => some hSession
  | .generateRandom hSession _ _ => some hSession
  | _ => none

/-! ## Slots after a change -/

/-- Every session closed. -/
def HsmSlot.sessionsClosed (slot : HsmSlot) : HsmSlot :=
  { slot with sessions := empty, sessionCount := slot.sessionCount - count slot.sessions }

/-- The token initialized again under a new officer's hash. -/
def HsmSlot.reinitialized (slot : HsmSlot) (hash tokenLabel : Buffer 32) : HsmSlot :=
  { slot.sessionsClosed with soPinHash := hash }.tokenReset tokenLabel

/-- The user's PIN set by the security officer. -/
def HsmSlot.userPinSet (slot : HsmSlot) (hash : Buffer 32) : HsmSlot :=
  { slot with
    userPinHash := hash
    userPinInitialized := true
    userPinLocked := false
    userPinRetryCount := hsmPinRetryCount }

/-- The PIN of one user type replaced after the old one was verified. -/
def HsmSlot.pinReplaced (slot : HsmSlot) (userType : CkUserType) (hash : Buffer 32) : HsmSlot :=
  if userType = ckuSo then { slot with soPinHash := hash, soPinRetryCount := hsmPinRetryCount }
  else { slot with userPinHash := hash, userPinRetryCount := hsmPinRetryCount }

/-- One object entry overwritten and the object count set. -/
def HsmSlot.withObject (slot : HsmSlot) (index : Fin hsmMaxObjects) (entry : Option HsmObject)
    (objectCount : Nat) : HsmSlot :=
  { slot with objects := put slot.objects index entry, objectCount := objectCount }

/-- The object that `C_CreateObject` stores. -/
def createdObject (template : List CkAttribute) (counter : Nat) : HsmObject :=
  { hsmParseTemplate template {} with
    handle := hsmGenerateObjectHandle (hsmParseTemplate template {}).type counter }

/-- The public half as it is stored. -/
def storedPublicKey (pubObj : HsmObject) (counter : Nat) : HsmObject :=
  { pubObj with handle := hsmGenerateObjectHandle objTypePublicKey counter }

/-- The private half as it is stored. -/
def storedPrivateKey (privObj : HsmObject) (counter : Nat) : HsmObject :=
  { privObj with handle := hsmGenerateObjectHandle objTypePrivateKey (advanceCounter counter) }

/-- The storage after a destroyed object's file is removed. -/
def storageWithout (env : Env) (object : HsmObject) (storage : Storage) : Storage :=
  if object.isToken then (hsmStorageDeleteObject object.handle env.unlink storage).2 else storage

/-! ## Changes to one session -/

/-- What a call can do to the record of the session it names when it changes
nothing else. -/
inductive SessionUpdate (slot : HsmSlot) (session : HsmSession) : Call → HsmSession → Prop
  | loggedOut (hSession : CkSessionHandle) :
      SessionUpdate slot session (.logout hSession) session.loggedOut
  | searchStarted (hSession : CkSessionHandle) (template : List CkAttribute)
      (idle : session.findActive = false) :
      SessionUpdate slot session (.findObjectsInit hSession template)
        { hsmFindObjects slot session with findActive := true, findIndex := 0 }
  | searchAdvanced (hSession : CkSessionHandle) (most : CkUlong)
      (searching : session.findActive = true) :
      SessionUpdate slot session (.findObjects hSession true most true)
        { session with
          findIndex := session.findIndex + min most (session.findCount - session.findIndex) }
  | searchEnded (hSession : CkSessionHandle) (searching : session.findActive = true) :
      SessionUpdate slot session (.findObjectsFinal hSession)
        { session with findActive := false, findCount := 0, findIndex := 0 }
  | signStarted (hSession : CkSessionHandle) (mechanism : CkMechanismType)
      (hKey : CkObjectHandle) (index : Fin hsmMaxObjects) (key : HsmObject)
      (idle : session.operation.active = false)
      (found : hsmGetObject slot hKey = .ok (index, key))
      (isPrivateKey : key.type = objTypePrivateKey) (permitted : key.canSign = true)
      (supported : hsmCheckMechanismSupported mechanism = .ok) :
      SessionUpdate slot session (.signInit hSession (some mechanism) hKey)
        { session with operation := ⟨.sign, mechanism, hKey, true⟩ }
  | verifyStarted (hSession : CkSessionHandle) (mechanism : CkMechanismType)
      (hKey : CkObjectHandle) (index : Fin hsmMaxObjects) (key : HsmObject)
      (idle : session.operation.active = false)
      (found : hsmGetObject slot hKey = .ok (index, key))
      (isPublicKey : key.type = objTypePublicKey) :
      SessionUpdate slot session (.verifyInit hSession (some mechanism) hKey)
        { session with operation := ⟨.verify, mechanism, hKey, true⟩ }
  | signDropped (hSession : CkSessionHandle) (data : Bytes) (pSignature : Bool)
      (signatureLen : CkUlong) (active : session.operation.active = true)
      (signing : session.operation.type = .sign)
      (missing : hsmGetObject slot session.operation.keyHandle = .error .objectHandleInvalid) :
      SessionUpdate slot session (.sign hSession (some data) pSignature (some signatureLen))
        session.operationDropped
  | signEnded (hSession : CkSessionHandle) (data : Bytes) (pSignature : Bool)
      (signatureLen : CkUlong) (index : Fin hsmMaxObjects) (key : HsmObject)
      (active : session.operation.active = true) (signing : session.operation.type = .sign)
      (found : hsmGetObject slot session.operation.keyHandle = .ok (index, key)) :
      SessionUpdate slot session (.sign hSession (some data) pSignature (some signatureLen))
        session.operationCleared
  | verifyDropped (hSession : CkSessionHandle) (data signature : Bytes)
      (active : session.operation.active = true) (verifying : session.operation.type = .verify)
      (missing : hsmGetObject slot session.operation.keyHandle = .error .objectHandleInvalid) :
      SessionUpdate slot session (.verify hSession (some data) (some signature))
        session.operationDropped
  | verifyEnded (hSession : CkSessionHandle) (data signature : Bytes)
      (index : Fin hsmMaxObjects) (key : HsmObject)
      (active : session.operation.active = true) (verifying : session.operation.type = .verify)
      (found : hsmGetObject slot session.operation.keyHandle = .ok (index, key)) :
      SessionUpdate slot session (.verify hSession (some data) (some signature))
        session.operationCleared

/-! ## Changes to the process -/

/-- Everything one call can do to the process and its storage. -/
inductive Effect (sha256 : Sha256) (env : Env) (system : System) : Call → System → Prop
  | unchanged (call : Call) : Effect sha256 env system call system
  | directoriesMade (rv : CkRv) (storage : Storage) (absent : system.gHsmContext = none)
      (made : hsmStorageInit env system.storage = (rv, storage)) :
      Effect sha256 env system .initializeLibrary { system with storage := storage }
  | initialized (storage : Storage) (absent : system.gHsmContext = none)
      (made : hsmStorageInit env system.storage = (.ok, storage)) :
      Effect sha256 env system .initializeLibrary
        { system with
          gHsmContext := some (hsmInitContext (hsmInitSlot env.tokenRead storage))
          storage := storage }
  | finalized (context : HsmContext) (present : system.gHsmContext = some context) :
      Effect sha256 env system (.finalizeLibrary false) { system with gHsmContext := none }
  | sessionsClosed (slotID : CkSlotId) (context : HsmContext)
      (present : system.gHsmContext = some context) (valid : slotID < slotCount) :
      Effect sha256 env system (.closeAllSessions slotID)
        (system.withSlot context context.slot.sessionsClosed)
  | tokenReset (slotID : CkSlotId) (pin label : Bytes) (context : HsmContext)
      (present : system.gHsmContext = some context) (valid : slotID < slotCount)
      (longEnough : hsmMinPinLen ≤ pin.length) (shortEnough : pin.length ≤ hsmMaxPinLen) :
      Effect sha256 env system (.initToken slotID (some pin) (some label))
        (system.withSavedSlot env context
          (context.slot.reinitialized (sha256 pin) (initTokenLabel pin.length label)))
  | userPinSet (hSession : CkSessionHandle) (pin : Bytes) (found : FoundSession)
      (session : hsmGetSession system hSession = .ok found)
      (officer : found.session.soLoggedIn = true)
      (longEnough : hsmMinPinLen ≤ pin.length) (shortEnough : pin.length ≤ hsmMaxPinLen) :
      Effect sha256 env system (.initPIN hSession (some pin))
        (system.withSavedSlot env found.context (found.slot.userPinSet (sha256 pin)))
  | pinChangeRefused (hSession : CkSessionHandle) (oldPin newPin : Bytes) (found : FoundSession)
      (session : hsmGetSession system hSession = .ok found)
      (loggedIn : found.session.userLoggedIn = true ∨ found.session.soLoggedIn = true)
      (longEnough : hsmMinPinLen ≤ newPin.length) (shortEnough : newPin.length ≤ hsmMaxPinLen)
      (refused : (hsmVerifyPin sha256 found.slot found.session.pinOwner oldPin).1 ≠ .ok) :
      Effect sha256 env system (.setPIN hSession (some oldPin) (some newPin))
        (system.withSlot found.context
          (hsmVerifyPin sha256 found.slot found.session.pinOwner oldPin).2)
  | pinChanged (hSession : CkSessionHandle) (oldPin newPin : Bytes) (found : FoundSession)
      (session : hsmGetSession system hSession = .ok found)
      (loggedIn : found.session.userLoggedIn = true ∨ found.session.soLoggedIn = true)
      (longEnough : hsmMinPinLen ≤ newPin.length) (shortEnough : newPin.length ≤ hsmMaxPinLen)
      (accepted : (hsmVerifyPin sha256 found.slot found.session.pinOwner oldPin).1 = .ok) :
      Effect sha256 env system (.setPIN hSession (some oldPin) (some newPin))
        (system.withSavedSlot env found.context
          ((hsmVerifyPin sha256 found.slot found.session.pinOwner oldPin).2.pinReplaced
            found.session.pinOwner (sha256 newPin)))
  | loginRefused (hSession : CkSessionHandle) (userType : CkUserType) (pin : Bytes)
      (found : FoundSession) (session : hsmGetSession system hSession = .ok found)
      (known : userType = ckuSo ∨ userType = ckuUser)
      (fresh : found.session.userLoggedIn = false ∧ found.session.soLoggedIn = false)
      (writable : userType = ckuSo → found.session.isReadWrite = true)
      (refused : (hsmVerifyPin sha256 found.slot userType pin).1 ≠ .ok) :
      Effect sha256 env system (.login hSession userType (some pin))
        (system.withSlot found.context (hsmVerifyPin sha256 found.slot userType pin).2)
  | loggedIn (hSession : CkSessionHandle) (userType : CkUserType) (pin : Bytes)
      (found : FoundSession) (session : hsmGetSession system hSession = .ok found)
      (known : userType = ckuSo ∨ userType = ckuUser)
      (fresh : found.session.userLoggedIn = false ∧ found.session.soLoggedIn = false)
      (writable : userType = ckuSo → found.session.isReadWrite = true)
      (accepted : (hsmVerifyPin sha256 found.slot userType pin).1 = .ok) :
      Effect sha256 env system (.login hSession userType (some pin))
        (system.withSlot found.context
          { (hsmVerifyPin sha256 found.slot userType pin).2 with
            sessions := put found.slot.sessions found.index
              (some (found.session.loggedIn userType env.now)) })
  | sessionOpened (slotID : CkSlotId) (flags : CkFlags) (context : HsmContext)
      (index : Fin hsmMaxSessions) (present : system.gHsmContext = some context)
      (valid : slotID < slotCount) (serial : flags &&& ckfSerialSession ≠ 0)
      (room : context.slot.sessionCount < hsmMaxSessions)
      (free : firstFree context.slot.sessions = some index) :
      Effect sha256 env system (.openSession slotID flags true)
        { system.withSlot context { context.slot with
            sessions := put context.slot.sessions index
              (some (freshSession system.gNextSessionHandle flags env.now))
            sessionCount := context.slot.sessionCount + 1 } with
          gNextSessionHandle := (system.gNextSessionHandle + 1) % 2 ^ 64 }
  | sessionClosed (hSession : CkSessionHandle) (found : FoundSession)
      (session : hsmGetSession system hSession = .ok found) :
      Effect sha256 env system (.closeSession hSession)
        (system.withSlot found.context { found.slot with
          sessions := put found.slot.sessions found.index none
          sessionCount := found.slot.sessionCount - 1 })
  | sessionUpdated (call : Call) (hSession : CkSessionHandle) (found : FoundSession)
      (after : HsmSession) (named : call.hSession = some hSession)
      (session : hsmGetSession system hSession = .ok found)
      (update : SessionUpdate found.slot found.session call after) :
      Effect sha256 env system call (system.withSession found after)
  | objectCreated (hSession : CkSessionHandle) (template : List CkAttribute)
      (found : FoundSession) (index : Fin hsmMaxObjects)
      (session : hsmGetSession system hSession = .ok found)
      (room : found.slot.objectCount < hsmMaxObjects)
      (free : firstFree found.slot.objects = some index) :
      Effect sha256 env system (.createObject hSession (some template) true)
        { system.withSlot found.context
            (found.slot.withObject index (some (createdObject template system.handleCounter))
              (found.slot.objectCount + 1)) with
          handleCounter := advanceCounter system.handleCounter
          storage := (hsmStorageSaveObject (createdObject template system.handleCounter)
            (env.objectWrite 0) system.storage).2 }
  | objectDestroyed (hSession : CkSessionHandle) (hObject : CkObjectHandle)
      (found : FoundSession) (index : Fin hsmMaxObjects) (object : HsmObject)
      (session : hsmGetSession system hSession = .ok found)
      (lookup : hsmGetObject found.slot hObject = .ok (index, object)) :
      Effect sha256 env system (.destroyObject hSession hObject)
        { system.withSlot found.context
            (found.slot.withObject index none (found.slot.objectCount - 1)) with
          storage := storageWithout env object system.storage }
  | labelSet (hSession : CkSessionHandle) (hObject : CkObjectHandle)
      (template : List CkAttribute) (found : FoundSession) (index : Fin hsmMaxObjects)
      (object : HsmObject) (session : hsmGetSession system hSession = .ok found)
      (lookup : hsmGetObject found.slot hObject = .ok (index, object)) :
      Effect sha256 env system (.setAttributeValue hSession hObject (some template))
        (system.withSlot found.context
          (found.slot.withObject index (some (hsmSetAttributeValue object template).2)
            found.slot.objectCount))
  | keyPairInserted (hSession : CkSessionHandle) (mechanism : CkMechanismType)
      (publicTemplate privateTemplate : List CkAttribute) (found : FoundSession)
      (pubObj privObj : HsmObject) (pubIdx privIdx : Fin hsmMaxObjects)
      (rest : List (Fin hsmMaxObjects))
      (session : hsmGetSession system hSession = .ok found)
      (user : found.session.userLoggedIn = true)
      (generated : generateHalves env mechanism publicTemplate privateTemplate =
        .ok (pubObj, privObj))
      (free : freeIndices found.slot.objects = pubIdx :: privIdx :: rest) :
      Effect sha256 env system
        (.generateKeyPair hSession (some mechanism) publicTemplate privateTemplate true true)
        { system.withSlot found.context
            ((found.slot.withObject pubIdx (some (storedPublicKey pubObj system.handleCounter))
                (found.slot.objectCount + 1)).withObject privIdx
              (some (storedPrivateKey privObj system.handleCounter))
              (found.slot.objectCount + 2)) with
          handleCounter := advanceCounter (advanceCounter system.handleCounter)
          storage := (hsmStorageSaveObject (storedPrivateKey privObj system.handleCounter)
            (env.objectWrite 1) (hsmStorageSaveObject (storedPublicKey pubObj system.handleCounter)
              (env.objectWrite 0) system.storage).2).2 }

/-! ## Lookups -/

/-- A session is found in the slot of the context, under its own handle. -/
theorem get_session_sound (system : System) (hSession : CkSessionHandle) (found : FoundSession)
    (session : hsmGetSession system hSession = .ok found) :
    system.gHsmContext = some found.context ∧
      found.slot.sessions found.index = some found.session ∧
      found.session.handle = hSession := by
  rw [hsmGetSession] at session
  split at session
  · cases session
  · rename_i context present
    split at session
    · cases session
    · rename_i index stored located
      cases session
      obtain ⟨entry, same⟩ := find_sound _ _ index stored located
      exact ⟨present, entry, of_decide_eq_true same⟩

/-- A session is found again wherever the session table is the same. -/
theorem get_session_kept (system changed : System) (hSession : CkSessionHandle)
    (found : FoundSession) (context : HsmContext)
    (session : hsmGetSession system hSession = .ok found)
    (present : changed.gHsmContext = some context)
    (same : context.slot.sessions = found.slot.sessions) :
    hsmGetSession changed hSession = .ok ⟨context, found.index, found.session⟩ := by
  rw [hsmGetSession] at session
  split at session
  · cases session
  · split at session
    · cases session
    · rename_i index stored located
      cases session
      simp only [FoundSession.slot] at same
      simp only [hsmGetSession, present, same, located]

/-- A session that was written back under its handle is found again. -/
theorem get_session_written (system : System) (hSession : CkSessionHandle) (found : FoundSession)
    (session : HsmSession) (located : hsmGetSession system hSession = .ok found)
    (same : session.handle = hSession) :
    hsmGetSession (system.withSession found session) hSession =
      .ok ⟨{ found.context with slot := found.slotWith session }, found.index, session⟩ := by
  rw [hsmGetSession] at located
  split at located
  · cases located
  · split at located
    · cases located
    · rename_i index stored search
      cases located
      have replaced := find_replaced _ _ index stored session search (decide_eq_true same)
      simp only [hsmGetSession, System.withSession, System.withSlot, FoundSession.slotWith,
        FoundSession.slot, replaced]

/-- A change of the context that leaves the session table alone lets every lookup end
as before. -/
theorem get_session_projected (system projected : System) (project : HsmContext → HsmContext)
    (contexts : projected.gHsmContext = system.gHsmContext.map project)
    (sessions : ∀ context, (project context).slot.sessions = context.slot.sessions)
    (hSession : CkSessionHandle) :
    (∃ rv, hsmGetSession system hSession = .error rv ∧
        hsmGetSession projected hSession = .error rv) ∨
      ∃ found, hsmGetSession system hSession = .ok found ∧
        hsmGetSession projected hSession =
          .ok ⟨project found.context, found.index, found.session⟩ := by
  cases session : hsmGetSession system hSession with
  | ok found =>
    obtain ⟨present, -, -⟩ := get_session_sound system hSession found session
    rw [present] at contexts
    exact Or.inr ⟨found, rfl,
      get_session_kept system projected hSession found _ session contexts (sessions found.context)⟩
  | error rv =>
    refine Or.inl ⟨rv, rfl, ?_⟩
    cases present : system.gHsmContext with
    | none =>
      rw [present] at contexts
      simp only [hsmGetSession, present] at session
      simpa [hsmGetSession, contexts] using session
    | some context =>
      rw [present] at contexts
      simp only [hsmGetSession, present] at session
      simp only [hsmGetSession, contexts, Option.map_some, sessions context]
      cases located : find context.slot.sessions (fun stored =>
          decide (stored.handle = hSession)) with
      | none =>
        rw [located] at session
        exact session
      | some pair =>
        rw [located] at session
        cases session

/-- The two errors of a session lookup. -/
theorem get_session_error (system : System) (hSession : CkSessionHandle) (rv : CkRv)
    (failed : hsmGetSession system hSession = .error rv) :
    rv = .cryptokiNotInitialized ∨ rv = .sessionHandleInvalid := by
  rw [hsmGetSession] at failed
  split at failed
  · cases failed
    exact Or.inl rfl
  · split at failed
    · cases failed
      exact Or.inr rfl
    · cases failed

/-- A lookup that fails never reports success. -/
theorem get_session_refused (system : System) (hSession : CkSessionHandle) (rv : CkRv)
    (failed : hsmGetSession system hSession = .error rv) : rv ≠ .ok := by
  rintro rfl
  rcases get_session_error system hSession .ok failed with impossible | impossible
  · cases impossible
  · cases impossible

/-- An object is found under its own handle. -/
theorem get_object_sound (slot : HsmSlot) (hObject : CkObjectHandle)
    (index : Fin hsmMaxObjects) (object : HsmObject)
    (lookup : hsmGetObject slot hObject = .ok (index, object)) :
    slot.objects index = some object ∧ object.handle = hObject := by
  unfold hsmGetObject at lookup
  split at lookup
  · cases lookup
  · rename_i pair located
    cases lookup
    obtain ⟨entry, same⟩ := find_sound _ _ index object located
    exact ⟨entry, of_decide_eq_true same⟩

/-- Writing a session back leaves the objects where they are. -/
theorem get_object_session_written (found : FoundSession) (session : HsmSession)
    (hObject : CkObjectHandle) :
    hsmGetObject (found.slotWith session) hObject = hsmGetObject found.slot hObject := by
  have objects : (found.slotWith session).objects = found.slot.objects := rfl
  unfold hsmGetObject
  rw [objects]

/-- The only error of an object lookup. -/
theorem get_object_error (slot : HsmSlot) (hObject : CkObjectHandle) (rv : CkRv)
    (lookup : hsmGetObject slot hObject = .error rv) : rv = .objectHandleInvalid := by
  unfold hsmGetObject at lookup
  split at lookup
  · cases lookup
    rfl
  · cases lookup

/-- Putting a slot back into the context it came from changes nothing. -/
theorem with_slot_same (system : System) (context : HsmContext)
    (present : system.gHsmContext = some context) :
    system.withSlot context context.slot = system := by
  cases system
  cases present
  rfl

/-! ## Closing every session -/

/-- The loop over the remaining indices, once every other entry is null. At each
index the search by handle stops at that very index, since nothing lies below. -/
theorem close_sessions_from (indices : List (Fin hsmMaxSessions)) (system : System)
    (context : HsmContext) (present : system.gHsmContext = some context)
    (ascending : indices.Pairwise (· < ·))
    (emptied : ∀ index, index ∉ indices → context.slot.sessions index = none) :
    indices.foldl closeSessionAt system =
      system.withSlot context context.slot.sessionsClosed := by
  induction indices generalizing system context with
  | nil =>
    have vacant : context.slot.sessions = empty := by
      funext index
      exact emptied index List.not_mem_nil
    have same : context.slot.sessionsClosed = context.slot := by
      rw [HsmSlot.sessionsClosed]
      rw [vacant, count_empty, ← vacant, Nat.sub_zero]
    rw [List.foldl_nil, same, with_slot_same system context present]
  | cons index rest inductionHypothesis =>
    obtain ⟨above, later⟩ := List.pairwise_cons.mp ascending
    rw [List.foldl_cons]
    cases entry : context.slot.sessions index with
    | none =>
      have stays : closeSessionAt system index = system := by
        simp [closeSessionAt, present, entry]
      rw [stays]
      apply inductionHypothesis system context present later
      intro tested absent
      by_cases here : tested = index
      · rw [here, entry]
      · exact emptied tested (by simp [here, absent])
    | some session =>
      have below : ∀ earlier, earlier < index → context.slot.sessions earlier = none := by
        intro earlier lower
        apply emptied earlier
        intro member
        rcases List.mem_cons.mp member with same | after
        · exact absurd same (ne_of_lt lower)
        · exact absurd (above earlier after) (lt_asymm lower)
      have located := find_first context.slot.sessions
        (fun stored => decide (stored.handle = session.handle)) index session entry
        (decide_eq_true rfl) below
      let slot : HsmSlot := { context.slot with
        sessions := put context.slot.sessions index none
        sessionCount := context.slot.sessionCount - 1 }
      have closes : closeSessionAt system index = system.withSlot context slot := by
        simp only [closeSessionAt, present, entry, hsmDestroySession, hsmGetSession, located]
        rfl
      have closed : slot.sessionsClosed = context.slot.sessionsClosed := by
        have removed := count_remove context.slot.sessions index session entry
        have counts : context.slot.sessionCount - 1 - count (put context.slot.sessions index none)
            = context.slot.sessionCount - count context.slot.sessions := by omega
        simp only [HsmSlot.sessionsClosed, slot, counts]
      rw [closes, inductionHypothesis (system.withSlot context slot) { context with slot := slot }
        rfl later]
      · simp only [closed]
        rfl
      · intro tested absent
        by_cases here : tested = index
        · rw [here]
          exact put_self _ _ _
        · rw [show ({ context with slot := slot } : HsmContext).slot.sessions tested =
            context.slot.sessions tested from put_other _ _ _ _ here]
          exact emptied tested (by simp [here, absent])

/-- The loop closes every session. -/
theorem close_sessions_all (system : System) (context : HsmContext)
    (present : system.gHsmContext = some context) :
    closeSessions system = system.withSlot context context.slot.sessionsClosed := by
  apply close_sessions_from _ system context present (List.pairwise_lt_finRange hsmMaxSessions)
  intro index absent
  exact absurd (List.mem_finRange index) absent

/-! ## Every call is on the list -/

section Entries

variable (sha256 : Sha256) (env : Env) (system : System)

/-- `C_Initialize` sets up the library, makes directories on the way to a failure, or does nothing.
-/
theorem initialize_effect :
    Effect sha256 env system .initializeLibrary (cInitialize env system).2 := by
  rw [cInitialize]
  split
  · exact .unchanged _
  · rename_i absent
    cases made : hsmStorageInit env system.storage with
    | mk rv storage =>
      simp only
      split
      · exact .directoriesMade rv storage absent made
      · rename_i succeeded
        split
        · exact .directoriesMade rv storage absent made
        · rw [not_not.mp succeeded] at made
          exact .initialized storage absent made

/-- A successful `C_Initialize` leaves a slot just initialized. -/
theorem initialize_context (opened : System) (context : HsmContext)
    (succeeded : cInitialize env system = (.ok, opened))
    (present : opened.gHsmContext = some context) :
    ∃ fopen storage, context.slot = hsmInitSlot fopen storage := by
  rw [cInitialize] at succeeded
  split at succeeded
  · cases succeeded
  · simp only at succeeded
    split at succeeded
    · rename_i failed
      exact absurd (congrArg Prod.fst succeeded) failed
    · split at succeeded
      · cases succeeded
      · cases succeeded
        cases present
        exact ⟨_, _, rfl⟩

/-- `C_Finalize` drops the context, if there is one. -/
theorem finalize_effect (pReserved : Bool) :
    Effect sha256 env system (.finalizeLibrary pReserved) (cFinalize system pReserved).2 := by
  rw [cFinalize]
  split
  · exact .unchanged _
  · rename_i unreserved
    obtain rfl : pReserved = false := by simpa using unreserved
    split
    · exact .unchanged _
    · rename_i context present
      exact .finalized context present

/-- `C_CloseAllSessions` empties the session table, or does nothing. -/
theorem close_all_sessions_effect (slotID : CkSlotId) :
    Effect sha256 env system (.closeAllSessions slotID) (cCloseAllSessions system slotID).2 := by
  rw [cCloseAllSessions]
  split
  · exact .unchanged _
  · rename_i context present
    split
    · exact .unchanged _
    · rename_i valid
      rw [close_sessions_all system context present]
      exact .sessionsClosed slotID context present (Nat.lt_of_not_le valid)

/-- A PIN of admissible length is set. -/
theorem set_pin_admissible (slot : HsmSlot) (userType : CkUserType) (pin : Bytes)
    (longEnough : hsmMinPinLen ≤ pin.length) (shortEnough : pin.length ≤ hsmMaxPinLen) :
    hsmSetPin sha256 slot userType pin =
      (.ok, if userType = ckuSo then { slot with soPinHash := sha256 pin }
        else { slot with userPinHash := sha256 pin }) := by
  have admissible : ¬ (pin.length < hsmMinPinLen || pin.length > hsmMaxPinLen) = true := by
    simp only [Bool.or_eq_true, decide_eq_true_eq]
    omega
  rw [hsmSetPin]
  rw [if_neg admissible]
  split <;> rfl

/-- A well-formed `C_InitToken` resets the token, whoever calls. -/
theorem init_token_resets (slotID : CkSlotId) (pin label : Bytes) (context : HsmContext)
    (present : system.gHsmContext = some context) (valid : slotID < slotCount)
    (longEnough : hsmMinPinLen ≤ pin.length) (shortEnough : pin.length ≤ hsmMaxPinLen) :
    cInitToken sha256 env system slotID (some pin) (some label) =
      (.ok, system.withSavedSlot env context
        (context.slot.reinitialized (sha256 pin) (initTokenLabel pin.length label))) := by
  have admissible : ¬ (pin.length < hsmMinPinLen || pin.length > hsmMaxPinLen) = true := by
    simp only [Bool.or_eq_true, decide_eq_true_eq]
    omega
  simp only [cInitToken, present, if_neg admissible, if_neg (Nat.not_le_of_lt valid)]
  rw [close_sessions_all system context present]
  simp only [resetToken, System.withSlot]
  rw [set_pin_admissible sha256 _ _ pin longEnough shortEnough]
  rfl

/-- `C_InitToken` fails and changes nothing, or resets the token. -/
theorem init_token_cases (slotID : CkSlotId) (pPin pLabel : Option Bytes) :
    (∃ rv, rv ≠ .ok ∧ cInitToken sha256 env system slotID pPin pLabel = (rv, system)) ∨
      ∃ pin label context, pPin = some pin ∧ pLabel = some label ∧
        system.gHsmContext = some context ∧ slotID < slotCount ∧
        hsmMinPinLen ≤ pin.length ∧ pin.length ≤ hsmMaxPinLen ∧
        cInitToken sha256 env system slotID pPin pLabel =
          (.ok, system.withSavedSlot env context
            (context.slot.reinitialized (sha256 pin) (initTokenLabel pin.length label))) := by
  cases pPin with
  | none => exact Or.inl ⟨.argumentsBad, CkRv.noConfusion, rfl⟩
  | some pin =>
    cases pLabel with
    | none => exact Or.inl ⟨.argumentsBad, CkRv.noConfusion, rfl⟩
    | some label =>
      by_cases refused : (pin.length < hsmMinPinLen || pin.length > hsmMaxPinLen) = true
      · exact Or.inl ⟨.pinLenRange, CkRv.noConfusion, by simp only [cInitToken, if_pos refused]⟩
      · have admissible := refused
        simp only [Bool.or_eq_true, decide_eq_true_eq, not_or, not_lt] at admissible
        obtain ⟨longEnough, shortEnough⟩ := admissible
        cases present : system.gHsmContext with
        | none =>
          refine Or.inl ⟨.cryptokiNotInitialized, CkRv.noConfusion, ?_⟩
          simp only [cInitToken, if_neg refused, present]
        | some context =>
          by_cases valid : slotID < slotCount
          · exact Or.inr ⟨pin, label, context, rfl, rfl, rfl, valid, longEnough, shortEnough,
              init_token_resets sha256 env system slotID pin label context present valid longEnough
                shortEnough⟩
          · refine Or.inl ⟨.slotIdInvalid, CkRv.noConfusion, ?_⟩
            simp only [cInitToken, if_neg refused, present, if_pos (Nat.le_of_not_lt valid)]

/-- `C_InitToken` resets the token and closes its sessions, or does nothing. -/
theorem init_token_effect (slotID : CkSlotId) (pPin pLabel : Option Bytes) :
    Effect sha256 env system (.initToken slotID pPin pLabel)
      (cInitToken sha256 env system slotID pPin pLabel).2 := by
  rcases init_token_cases sha256 env system slotID pPin pLabel with
    ⟨rv, -, same⟩ | ⟨pin, label, context, rfl, rfl, present, valid, longEnough, shortEnough, same⟩
  · rw [same]
    exact .unchanged _
  · rw [same]
    exact .tokenReset slotID pin label context present valid longEnough shortEnough

/-- `C_InitPIN` fails and changes nothing, or sets the user's PIN for the security
officer. -/
theorem init_pin_cases (hSession : CkSessionHandle) (pPin : Option Bytes) :
    (∃ rv, rv ≠ .ok ∧ cInitPIN sha256 env system hSession pPin = (rv, system)) ∨
      ∃ pin found, pPin = some pin ∧ hsmGetSession system hSession = .ok found ∧
        found.session.soLoggedIn = true ∧ hsmMinPinLen ≤ pin.length ∧
        pin.length ≤ hsmMaxPinLen ∧
        cInitPIN sha256 env system hSession pPin =
          (.ok, system.withSavedSlot env found.context (found.slot.userPinSet (sha256 pin))) := by
  cases pPin with
  | none => exact Or.inl ⟨.argumentsBad, CkRv.noConfusion, rfl⟩
  | some pin =>
    by_cases refused : (pin.length < hsmMinPinLen || pin.length > hsmMaxPinLen) = true
    · exact Or.inl ⟨.pinLenRange, CkRv.noConfusion, by simp only [cInitPIN, if_pos refused]⟩
    · have admissible := refused
      simp only [Bool.or_eq_true, decide_eq_true_eq, not_or, not_lt] at admissible
      obtain ⟨longEnough, shortEnough⟩ := admissible
      cases session : hsmGetSession system hSession with
      | error rv =>
        refine Or.inl ⟨rv, get_session_refused system hSession rv session, ?_⟩
        simp only [cInitPIN, if_neg refused, session]
      | ok found =>
        cases officer : found.session.soLoggedIn with
        | false =>
          refine Or.inl ⟨.userNotLoggedIn, CkRv.noConfusion, ?_⟩
          simp only [cInitPIN, if_neg refused, session, officer, Bool.not_false, if_true]
        | true =>
          refine Or.inr ⟨pin, found, rfl, rfl, officer, longEnough, shortEnough, ?_⟩
          simp only [cInitPIN, if_neg refused, session, officer, Bool.not_true, Bool.false_eq_true,
            if_false, set_pin_admissible sha256 _ _ pin longEnough shortEnough]
          rfl

/-- `C_InitPIN` sets the user's PIN, or does nothing. -/
theorem init_pin_effect (hSession : CkSessionHandle) (pPin : Option Bytes) :
    Effect sha256 env system (.initPIN hSession pPin)
      (cInitPIN sha256 env system hSession pPin).2 := by
  rcases init_pin_cases sha256 env system hSession pPin with
    ⟨rv, -, same⟩ | ⟨pin, found, rfl, session, officer, longEnough, shortEnough, same⟩
  · rw [same]
    exact .unchanged _
  · rw [same]
    exact .userPinSet hSession pin found session officer longEnough shortEnough

/-- `C_SetPIN` replaces the PIN of the session's own user type once the old one is
verified. -/
theorem set_pin_replaces (hSession : CkSessionHandle) (oldPin newPin : Bytes)
    (found : FoundSession) (session : hsmGetSession system hSession = .ok found)
    (longEnough : hsmMinPinLen ≤ newPin.length) (shortEnough : newPin.length ≤ hsmMaxPinLen)
    (someone : ¬ (!found.session.userLoggedIn && !found.session.soLoggedIn) = true)
    (accepted : (hsmVerifyPin sha256 found.slot found.session.pinOwner oldPin).1 = .ok) :
    cSetPIN sha256 env system hSession (some oldPin) (some newPin) =
      (.ok, system.withSavedSlot env found.context
        ((hsmVerifyPin sha256 found.slot found.session.pinOwner oldPin).2.pinReplaced
          found.session.pinOwner (sha256 newPin))) := by
  have admissible : ¬ (newPin.length < hsmMinPinLen || newPin.length > hsmMaxPinLen) = true := by
    simp only [Bool.or_eq_true, decide_eq_true_eq]
    omega
  have owner : found.session.pinOwner = ckuSo ∨ found.session.pinOwner = ckuUser := by
    rw [HsmSession.pinOwner]
    split
    · exact Or.inr rfl
    · exact Or.inl rfl
  simp only [cSetPIN, if_neg admissible, session, if_neg someone, accepted, ne_eq,
    not_true_eq_false, if_false, set_pin_admissible sha256 _ _ newPin longEnough shortEnough]
  rcases owner with so | user
  · simp [HsmSlot.pinReplaced, so, ckuSo, ckuUser]
  · simp [HsmSlot.pinReplaced, user, ckuSo, ckuUser]

/-- What `C_SetPIN` has established when it comes to the old PIN. -/
structure ChangesPin (system : System) (hSession : CkSessionHandle) (newPin : Bytes)
    (found : FoundSession) : Prop where
  session : hsmGetSession system hSession = .ok found
  loggedIn : found.session.userLoggedIn = true ∨ found.session.soLoggedIn = true
  longEnough : hsmMinPinLen ≤ newPin.length
  shortEnough : newPin.length ≤ hsmMaxPinLen

/-- `C_SetPIN` fails before the old PIN is looked at, is refused by its verification, or
replaces the PIN. -/
theorem set_pin_cases (hSession : CkSessionHandle) (pOldPin pNewPin : Option Bytes) :
    (∃ rv, rv ≠ .ok ∧ cSetPIN sha256 env system hSession pOldPin pNewPin = (rv, system)) ∨
      ∃ oldPin newPin found, pOldPin = some oldPin ∧ pNewPin = some newPin ∧
        ChangesPin system hSession newPin found ∧
        ((∃ rv, rv ≠ .ok ∧ (hsmVerifyPin sha256 found.slot found.session.pinOwner oldPin).1 = rv ∧
            cSetPIN sha256 env system hSession pOldPin pNewPin =
              (rv, system.withSlot found.context
                (hsmVerifyPin sha256 found.slot found.session.pinOwner oldPin).2)) ∨
          ((hsmVerifyPin sha256 found.slot found.session.pinOwner oldPin).1 = .ok ∧
            cSetPIN sha256 env system hSession pOldPin pNewPin =
              (.ok, system.withSavedSlot env found.context
                ((hsmVerifyPin sha256 found.slot found.session.pinOwner oldPin).2.pinReplaced
                  found.session.pinOwner (sha256 newPin))))) := by
  cases pOldPin with
  | none => exact Or.inl ⟨.argumentsBad, CkRv.noConfusion, rfl⟩
  | some oldPin =>
    cases pNewPin with
    | none => exact Or.inl ⟨.argumentsBad, CkRv.noConfusion, rfl⟩
    | some newPin =>
      by_cases refused : (newPin.length < hsmMinPinLen || newPin.length > hsmMaxPinLen) = true
      · exact Or.inl ⟨.pinLenRange, CkRv.noConfusion, by simp only [cSetPIN, if_pos refused]⟩
      · have admissible := refused
        simp only [Bool.or_eq_true, decide_eq_true_eq, not_or, not_lt] at admissible
        obtain ⟨longEnough, shortEnough⟩ := admissible
        cases session : hsmGetSession system hSession with
        | error rv =>
          refine Or.inl ⟨rv, get_session_refused system hSession rv session, ?_⟩
          simp only [cSetPIN, if_neg refused, session]
        | ok found =>
          by_cases nobody : (!found.session.userLoggedIn && !found.session.soLoggedIn) = true
          · refine Or.inl ⟨.userNotLoggedIn, CkRv.noConfusion, ?_⟩
            simp only [cSetPIN, if_neg refused, session, if_pos nobody]
          · have loggedIn :
                found.session.userLoggedIn = true ∨ found.session.soLoggedIn = true := by
              cases user : found.session.userLoggedIn with
              | true => exact Or.inl rfl
              | false => simpa [user] using nobody
            refine Or.inr ⟨oldPin, newPin, found, rfl, rfl,
              ⟨session, loggedIn, longEnough, shortEnough⟩, ?_⟩
            by_cases accepted :
                (hsmVerifyPin sha256 found.slot found.session.pinOwner oldPin).1 = .ok
            · exact Or.inr ⟨accepted, set_pin_replaces sha256 env system hSession oldPin newPin
                found session longEnough shortEnough nobody accepted⟩
            · refine Or.inl ⟨_, accepted, rfl, ?_⟩
              simp only [cSetPIN, if_neg refused, session, if_neg nobody, accepted, ne_eq,
                not_false_eq_true, if_true]

/-- `C_SetPIN` replaces the PIN, spends an attempt, or does nothing. -/
theorem set_pin_effect (hSession : CkSessionHandle) (pOldPin pNewPin : Option Bytes) :
    Effect sha256 env system (.setPIN hSession pOldPin pNewPin)
      (cSetPIN sha256 env system hSession pOldPin pNewPin).2 := by
  rcases set_pin_cases sha256 env system hSession pOldPin pNewPin with
    ⟨rv, -, same⟩ | ⟨oldPin, newPin, found, rfl, rfl, changes, ⟨rv, failed, rfl, same⟩ |
      ⟨accepted, same⟩⟩
  · rw [same]
    exact .unchanged _
  · rw [same]
    exact .pinChangeRefused hSession oldPin newPin found changes.session changes.loggedIn
      changes.longEnough changes.shortEnough failed
  · rw [same]
    exact .pinChanged hSession oldPin newPin found changes.session changes.loggedIn
      changes.longEnough changes.shortEnough accepted

/-- The process after `C_OpenSession` stored a session. -/
def System.withOpened (system : System) (context : HsmContext) (index : Fin hsmMaxSessions)
    (flags : CkFlags) (now : Nat) : System :=
  { system.withSlot context { context.slot with
      sessions := put context.slot.sessions index
        (some (freshSession system.gNextSessionHandle flags now))
      sessionCount := context.slot.sessionCount + 1 } with
    gNextSessionHandle := (system.gNextSessionHandle + 1) % 2 ^ 64 }

/-- `C_OpenSession` fails and changes nothing, or stores a session. -/
theorem open_session_cases (slotID : CkSlotId) (flags : CkFlags) (phSession : Bool) :
    (∃ rv, rv ≠ .ok ∧ cOpenSession env system slotID flags phSession = (rv, none, system)) ∨
      ∃ context index, phSession = true ∧ system.gHsmContext = some context ∧
        slotID < slotCount ∧ flags &&& ckfSerialSession ≠ 0 ∧
        context.slot.sessionCount < hsmMaxSessions ∧
        firstFree context.slot.sessions = some index ∧
        cOpenSession env system slotID flags phSession =
          (.ok, some system.gNextSessionHandle,
            system.withOpened context index flags env.now) := by
  rw [cOpenSession]
  split
  · exact Or.inl ⟨.argumentsBad, CkRv.noConfusion, rfl⟩
  · rename_i pointer
    obtain rfl : phSession = true := by simpa using pointer
    split
    · exact Or.inl ⟨.cryptokiNotInitialized, CkRv.noConfusion, rfl⟩
    · rename_i context present
      split
      · exact Or.inl ⟨.slotIdInvalid, CkRv.noConfusion, rfl⟩
      · rename_i valid
        split
        · exact Or.inl ⟨.sessionParallelNotSupported, CkRv.noConfusion, rfl⟩
        · rename_i serial
          rw [hsmCreateSession]
          simp only
          split
          · exact Or.inl ⟨.sessionCount, CkRv.noConfusion, rfl⟩
          · rename_i room
            split
            · exact Or.inl ⟨.sessionCount, CkRv.noConfusion, rfl⟩
            · rename_i index free
              split
              · exact Or.inl ⟨.hostMemory, CkRv.noConfusion, rfl⟩
              · exact Or.inr ⟨context, index, trivial, present, Nat.lt_of_not_le valid, serial,
                  Nat.lt_of_not_le room, free, rfl⟩

/-- `C_OpenSession` puts a fresh session at a free entry, or does nothing. -/
theorem open_session_effect (slotID : CkSlotId) (flags : CkFlags) (phSession : Bool) :
    Effect sha256 env system (.openSession slotID flags phSession)
      (cOpenSession env system slotID flags phSession).2.2 := by
  rcases open_session_cases env system slotID flags phSession with
    ⟨rv, -, same⟩ | ⟨context, index, rfl, present, valid, serial, room, free, same⟩
  · rw [same]
    exact .unchanged _
  · rw [same]
    exact .sessionOpened slotID flags context index present valid serial room free

/-- `C_CloseSession` clears the entry of the session, or does nothing. -/
theorem close_session_effect (hSession : CkSessionHandle) :
    Effect sha256 env system (.closeSession hSession) (cCloseSession system hSession).2 := by
  rw [cCloseSession, hsmDestroySession]
  split
  · exact .unchanged _
  · rename_i found session
    exact .sessionClosed hSession found session

/-- What `C_Login` has established when it comes to the PIN. -/
structure LogsIn (system : System) (hSession : CkSessionHandle) (userType : CkUserType)
    (found : FoundSession) : Prop where
  session : hsmGetSession system hSession = .ok found
  known : userType = ckuSo ∨ userType = ckuUser
  fresh : found.session.userLoggedIn = false ∧ found.session.soLoggedIn = false
  writable : userType = ckuSo → found.session.isReadWrite = true

/-- `C_Login` fails before the PIN is looked at, is refused by its verification, or logs
the user in. -/
theorem login_cases (hSession : CkSessionHandle) (userType : CkUserType) (pPin : Option Bytes) :
    (∃ rv, rv ≠ .ok ∧ cLogin sha256 env system hSession userType pPin = (rv, system)) ∨
      ∃ pin found, pPin = some pin ∧ LogsIn system hSession userType found ∧
        ((∃ rv, rv ≠ .ok ∧ (hsmVerifyPin sha256 found.slot userType pin).1 = rv ∧
            cLogin sha256 env system hSession userType pPin =
              (rv, system.withSlot found.context
                (hsmVerifyPin sha256 found.slot userType pin).2)) ∨
          ((hsmVerifyPin sha256 found.slot userType pin).1 = .ok ∧
            cLogin sha256 env system hSession userType pPin =
              (.ok, system.withSlot found.context
                { (hsmVerifyPin sha256 found.slot userType pin).2 with
                  sessions := put found.slot.sessions found.index
                    (some (found.session.loggedIn userType env.now)) }))) := by
  cases pPin with
  | none => exact Or.inl ⟨.argumentsBad, CkRv.noConfusion, rfl⟩
  | some pin =>
    by_cases unknown : userType ≠ ckuSo ∧ userType ≠ ckuUser
    · exact Or.inl ⟨.userTypeInvalid, CkRv.noConfusion, by simp only [cLogin, if_pos unknown]⟩
    · have known : userType = ckuSo ∨ userType = ckuUser := by
        by_contra neither
        exact unknown (not_or.mp neither)
      cases session : hsmGetSession system hSession with
      | error rv =>
        refine Or.inl ⟨rv, get_session_refused system hSession rv session, ?_⟩
        simp only [cLogin, if_neg unknown, session]
      | ok found =>
        by_cases someone : (found.session.userLoggedIn || found.session.soLoggedIn) = true
        · refine Or.inl ⟨.userAlreadyLoggedIn, CkRv.noConfusion, ?_⟩
          simp only [cLogin, if_neg unknown, session, if_pos someone]
        · by_cases readOnly : userType = ckuSo ∧ (!found.session.isReadWrite) = true
          · refine Or.inl ⟨.sessionReadOnly, CkRv.noConfusion, ?_⟩
            simp only [cLogin, if_neg unknown, session, if_neg someone, if_pos readOnly]
          · have writable : userType = ckuSo → found.session.isReadWrite = true := by
              intro so
              by_contra closed
              exact readOnly ⟨so, by simpa using closed⟩
            refine Or.inr ⟨pin, found, rfl,
              ⟨session, known, by simpa using someone, writable⟩, ?_⟩
            by_cases accepted : (hsmVerifyPin sha256 found.slot userType pin).1 = .ok
            · refine Or.inr ⟨accepted, ?_⟩
              simp only [cLogin, if_neg unknown, session, if_neg someone, if_neg readOnly, accepted,
                ne_eq, not_true_eq_false, if_false, verify_pin_sessions]
            · refine Or.inl ⟨_, accepted, rfl, ?_⟩
              simp only [cLogin, if_neg unknown, session, if_neg someone, if_neg readOnly, accepted,
                ne_eq, not_false_eq_true, if_true]

/-- `C_Login` logs in, spends an attempt, or does nothing. -/
theorem login_effect (hSession : CkSessionHandle) (userType : CkUserType) (pPin : Option Bytes) :
    Effect sha256 env system (.login hSession userType pPin)
      (cLogin sha256 env system hSession userType pPin).2 := by
  rcases login_cases sha256 env system hSession userType pPin with
    ⟨rv, -, same⟩ | ⟨pin, found, rfl, login, ⟨rv, failed, rfl, same⟩ | ⟨accepted, same⟩⟩
  · rw [same]
    exact .unchanged _
  · rw [same]
    exact .loginRefused hSession userType pin found login.session login.known login.fresh
      login.writable failed
  · rw [same]
    exact .loggedIn hSession userType pin found login.session login.known login.fresh
      login.writable accepted

/-- `C_Logout` fails and changes nothing, or logs the session out. -/
theorem logout_cases (hSession : CkSessionHandle) :
    (∃ rv, rv ≠ .ok ∧ cLogout system hSession = (rv, system)) ∨
      ∃ found, hsmGetSession system hSession = .ok found ∧
        cLogout system hSession = (.ok, system.withSession found found.session.loggedOut) := by
  cases session : hsmGetSession system hSession with
  | error rv =>
    exact Or.inl ⟨rv, get_session_refused system hSession rv session,
      by simp only [cLogout, session]⟩
  | ok found =>
    by_cases nobody : (!found.session.userLoggedIn && !found.session.soLoggedIn) = true
    · refine Or.inl ⟨.userNotLoggedIn, CkRv.noConfusion, ?_⟩
      simp only [cLogout, session, if_pos nobody]
    · refine Or.inr ⟨found, rfl, ?_⟩
      simp only [cLogout, session, if_neg nobody]

/-- `C_Logout` clears the login, or does nothing. -/
theorem logout_effect (hSession : CkSessionHandle) :
    Effect sha256 env system (.logout hSession) (cLogout system hSession).2 := by
  rcases logout_cases system hSession with ⟨rv, -, same⟩ | ⟨found, session, same⟩
  · rw [same]
    exact .unchanged _
  · rw [same]
    exact .sessionUpdated _ hSession found _ rfl session (.loggedOut hSession)

/-- The process after `C_CreateObject` stored an object. -/
def System.withCreated (system : System) (found : FoundSession) (index : Fin hsmMaxObjects)
    (template : List CkAttribute) (outcome : WriteOutcome) : System :=
  { system.withSlot found.context
      (found.slot.withObject index (some (createdObject template system.handleCounter))
        (found.slot.objectCount + 1)) with
    handleCounter := advanceCounter system.handleCounter
    storage := (hsmStorageSaveObject (createdObject template system.handleCounter) outcome
      system.storage).2 }

/-- `C_CreateObject` fails and changes nothing, or stores the object. -/
theorem create_object_cases (hSession : CkSessionHandle)
    (pTemplate : Option (List CkAttribute)) (phObject : Bool) :
    (∃ rv, rv ≠ .ok ∧ cCreateObject env system hSession pTemplate phObject = (rv, none, system)) ∨
      ∃ template found index, pTemplate = some template ∧ phObject = true ∧
        hsmGetSession system hSession = .ok found ∧ found.slot.objectCount < hsmMaxObjects ∧
        firstFree found.slot.objects = some index ∧
        cCreateObject env system hSession pTemplate phObject =
          (.ok, some (createdObject template system.handleCounter).handle,
            system.withCreated found index template (env.objectWrite 0)) := by
  unfold cCreateObject
  split
  · rename_i template
    split
    · rename_i rv failed
      exact Or.inl ⟨rv, get_session_refused system hSession rv failed, rfl⟩
    · rename_i found session
      rw [hsmCreateObject]
      simp only
      split
      · exact Or.inl ⟨.hostMemory, nofun, rfl⟩
      · rename_i room
        split
        · exact Or.inl ⟨.hostMemory, nofun, rfl⟩
        · rename_i index free
          split
          · exact Or.inl ⟨.hostMemory, nofun, rfl⟩
          · exact Or.inr ⟨template, found, index, rfl, trivial, session, Nat.lt_of_not_le room,
              free, rfl⟩
  · exact Or.inl ⟨.argumentsBad, nofun, rfl⟩

/-- `C_CreateObject` succeeds when there is room and memory. -/
theorem create_object_succeeds (hSession : CkSessionHandle) (template : List CkAttribute)
    (found : FoundSession) (index : Fin hsmMaxObjects)
    (session : hsmGetSession system hSession = .ok found)
    (room : found.slot.objectCount < hsmMaxObjects)
    (free : firstFree found.slot.objects = some index) (memory : env.calloc 0 = true) :
    cCreateObject env system hSession (some template) true =
      (.ok, some (createdObject template system.handleCounter).handle,
        system.withCreated found index template (env.objectWrite 0)) := by
  simp only [cCreateObject, session, hsmCreateObject, if_neg (Nat.not_le_of_lt room), free, memory]
  rfl

/-- `C_CreateObject` puts the parsed object at a free entry, or does nothing. -/
theorem create_object_effect (hSession : CkSessionHandle)
    (pTemplate : Option (List CkAttribute)) (phObject : Bool) :
    Effect sha256 env system (.createObject hSession pTemplate phObject)
      (cCreateObject env system hSession pTemplate phObject).2.2 := by
  rcases create_object_cases env system hSession pTemplate phObject with
    ⟨rv, -, same⟩ | ⟨template, found, index, rfl, rfl, session, room, free, same⟩
  · rw [same]
    exact .unchanged _
  · rw [same]
    exact .objectCreated hSession template found index session room free

/-- `C_DestroyObject` on a live object succeeds, whatever session it is made on. -/
theorem destroy_object_succeeds (hSession : CkSessionHandle) (hObject : CkObjectHandle)
    (found : FoundSession) (index : Fin hsmMaxObjects) (object : HsmObject)
    (session : hsmGetSession system hSession = .ok found)
    (lookup : hsmGetObject found.slot hObject = .ok (index, object)) :
    cDestroyObject env system hSession hObject =
      (.ok, { system.withSlot found.context
          (found.slot.withObject index none (found.slot.objectCount - 1)) with
        storage := storageWithout env object system.storage }) := by
  obtain rfl : object.handle = hObject :=
    (get_object_sound found.slot hObject index object lookup).2
  unfold cDestroyObject
  rw [session]
  change hsmDestroyObject env system found object.handle = _
  unfold hsmDestroyObject
  rw [lookup]
  rfl

/-- `C_DestroyObject` on an unknown handle changes nothing. -/
theorem destroy_object_missing (hSession : CkSessionHandle) (hObject : CkObjectHandle)
    (found : FoundSession) (rv : CkRv) (session : hsmGetSession system hSession = .ok found)
    (lookup : hsmGetObject found.slot hObject = .error rv) :
    cDestroyObject env system hSession hObject = (rv, system) := by
  unfold cDestroyObject
  rw [session]
  change hsmDestroyObject env system found hObject = _
  unfold hsmDestroyObject
  rw [lookup]

/-- `C_DestroyObject` fails and changes nothing, or removes the object it finds. -/
theorem destroy_object_cases (hSession : CkSessionHandle) (hObject : CkObjectHandle) :
    (∃ rv, rv ≠ .ok ∧ cDestroyObject env system hSession hObject = (rv, system)) ∨
      ∃ found index object, hsmGetSession system hSession = .ok found ∧
        hsmGetObject found.slot hObject = .ok (index, object) ∧
        cDestroyObject env system hSession hObject =
          (.ok, { system.withSlot found.context
              (found.slot.withObject index none (found.slot.objectCount - 1)) with
            storage := storageWithout env object system.storage }) := by
  cases session : hsmGetSession system hSession with
  | error rv =>
    refine Or.inl ⟨rv, get_session_refused system hSession rv session, ?_⟩
    simp only [cDestroyObject, session]
  | ok found =>
    cases lookup : hsmGetObject found.slot hObject with
    | error rv =>
      obtain rfl := get_object_error found.slot hObject rv lookup
      exact Or.inl ⟨.objectHandleInvalid, CkRv.noConfusion,
        destroy_object_missing env system hSession hObject found _ session lookup⟩
    | ok pair =>
      exact Or.inr ⟨found, pair.1, pair.2, rfl, lookup,
        destroy_object_succeeds env system hSession hObject found pair.1 pair.2 session lookup⟩

/-- `C_DestroyObject` clears the entry of the object, or does nothing. -/
theorem destroy_object_effect (hSession : CkSessionHandle) (hObject : CkObjectHandle) :
    Effect sha256 env system (.destroyObject hSession hObject)
      (cDestroyObject env system hSession hObject).2 := by
  rcases destroy_object_cases env system hSession hObject with
    ⟨rv, -, same⟩ | ⟨found, index, object, session, lookup, same⟩
  · rw [same]
    exact .unchanged _
  · rw [same]
    exact .objectDestroyed hSession hObject found index object session lookup

/-- `C_SetAttributeValue` stores a label, or does nothing. -/
theorem set_attribute_value_effect (hSession : CkSessionHandle) (hObject : CkObjectHandle)
    (pTemplate : Option (List CkAttribute)) :
    Effect sha256 env system (.setAttributeValue hSession hObject pTemplate)
      (cSetAttributeValue system hSession hObject pTemplate).2 := by
  unfold cSetAttributeValue
  split
  · exact .unchanged _
  · rename_i template
    split
    · exact .unchanged _
    · rename_i found session
      split
      · exact .unchanged _
      · rename_i index object lookup
        exact .labelSet hSession hObject template found index object session lookup

/-- `C_FindObjectsInit` starts a search, or does nothing. -/
theorem find_objects_init_effect (hSession : CkSessionHandle) (template : List CkAttribute) :
    Effect sha256 env system (.findObjectsInit hSession template)
      (cFindObjectsInit system hSession).2 := by
  rw [cFindObjectsInit]
  split
  · exact .unchanged _
  · rename_i found session
    split
    · exact .unchanged _
    · rename_i idle
      exact .sessionUpdated _ hSession found _ rfl session
        (.searchStarted hSession template (by simpa using idle))

/-- `C_FindObjects` advances the search, or does nothing. -/
theorem find_objects_effect (hSession : CkSessionHandle) (phObject : Bool) (most : CkUlong)
    (pulObjectCount : Bool) :
    Effect sha256 env system (.findObjects hSession phObject most pulObjectCount)
      (cFindObjects system hSession phObject most pulObjectCount).2.2 := by
  rw [cFindObjects]
  split
  · exact .unchanged _
  · rename_i pointers
    obtain ⟨rfl, rfl⟩ : phObject = true ∧ pulObjectCount = true := by simpa using pointers
    split
    · exact .unchanged _
    · rename_i found session
      simp only
      split
      · exact .unchanged _
      · rename_i searching
        exact .sessionUpdated _ hSession found _ rfl session
          (.searchAdvanced hSession most (by simpa using searching))

/-- `C_FindObjectsFinal` ends the search, or does nothing. -/
theorem find_objects_final_effect (hSession : CkSessionHandle) :
    Effect sha256 env system (.findObjectsFinal hSession)
      (cFindObjectsFinal system hSession).2 := by
  rw [cFindObjectsFinal]
  split
  · exact .unchanged _
  · rename_i found session
    split
    · exact .unchanged _
    · rename_i searching
      exact .sessionUpdated _ hSession found _ rfl session
        (.searchEnded hSession (by simpa using searching))

/-- `C_SignInit` starts a signing operation, or does nothing. -/
theorem sign_init_effect (hSession : CkSessionHandle) (pMechanism : Option CkMechanismType)
    (hKey : CkObjectHandle) :
    Effect sha256 env system (.signInit hSession pMechanism hKey)
      (cSignInit system hSession pMechanism hKey).2 := by
  unfold cSignInit
  split
  · exact .unchanged _
  · rename_i mechanism
    split
    · exact .unchanged _
    · rename_i found session
      split
      · exact .unchanged _
      · rename_i idle
        split
        · exact .unchanged _
        · rename_i index key lookup
          split
          · exact .unchanged _
          · rename_i isPrivateKey
            split
            · exact .unchanged _
            · rename_i permitted
              split
              · exact .unchanged _
              · rename_i supported
                exact .sessionUpdated _ hSession found _ rfl session
                  (.signStarted hSession mechanism hKey index key (by simpa using idle) lookup
                    (not_not.mp isPrivateKey) (by simpa using permitted) (not_not.mp supported))

/-- `C_VerifyInit` starts a verifying operation, or does nothing. -/
theorem verify_init_effect (hSession : CkSessionHandle) (pMechanism : Option CkMechanismType)
    (hKey : CkObjectHandle) :
    Effect sha256 env system (.verifyInit hSession pMechanism hKey)
      (cVerifyInit system hSession pMechanism hKey).2 := by
  unfold cVerifyInit
  split
  · exact .unchanged _
  · rename_i mechanism
    split
    · exact .unchanged _
    · rename_i found session
      split
      · exact .unchanged _
      · rename_i idle
        split
        · exact .unchanged _
        · rename_i index key lookup
          split
          · exact .unchanged _
          · rename_i isPublicKey
            exact .sessionUpdated _ hSession found _ rfl session
              (.verifyStarted hSession mechanism hKey index key (by simpa using idle) lookup
                (not_not.mp isPublicKey))

/-- `C_Sign` ends the operation, or does nothing. -/
theorem sign_effect (hSession : CkSessionHandle) (pData : Option Bytes) (pSignature : Bool)
    (pulSignatureLen : Option CkUlong) :
    Effect sha256 env system (.sign hSession pData pSignature pulSignatureLen)
      (cSign env system hSession pData pSignature pulSignatureLen).2.2 := by
  unfold cSign
  split
  · rename_i data signatureLen
    split
    · exact .unchanged _
    · rename_i found session
      simp only
      split
      · exact .unchanged _
      · rename_i started
        obtain ⟨active, signing⟩ : found.session.operation.active = true ∧
            found.session.operation.type = .sign := by simpa using started
        split
        · rename_i rv lookup
          cases get_object_error _ _ rv lookup
          exact .sessionUpdated _ hSession found _ rfl session
            (.signDropped hSession data pSignature signatureLen active signing lookup)
        · rename_i index key lookup
          exact .sessionUpdated _ hSession found _ rfl session
            (.signEnded hSession data pSignature signatureLen index key active signing lookup)
  · exact .unchanged _

/-- `C_Verify` ends the operation, or does nothing. -/
theorem verify_effect (hSession : CkSessionHandle) (pData pSignature : Option Bytes) :
    Effect sha256 env system (.verify hSession pData pSignature)
      (cVerify system hSession pData pSignature).2 := by
  unfold cVerify
  split
  · rename_i data signature
    split
    · exact .unchanged _
    · rename_i found session
      simp only
      split
      · exact .unchanged _
      · rename_i started
        obtain ⟨active, verifying⟩ : found.session.operation.active = true ∧
            found.session.operation.type = .verify := by simpa using started
        split
        · rename_i rv lookup
          cases get_object_error _ _ rv lookup
          exact .sessionUpdated _ hSession found _ rfl session
            (.verifyDropped hSession data signature active verifying lookup)
        · rename_i pair lookup
          obtain ⟨index, key⟩ := pair
          exact .sessionUpdated _ hSession found _ rfl session
            (.verifyEnded hSession data signature index key active verifying lookup)
  · exact .unchanged _

/-- The process after `C_GenerateKeyPair` stored both halves. -/
def System.withKeyPair (system : System) (env : Env) (found : FoundSession)
    (pubIdx privIdx : Fin hsmMaxObjects) (pubObj privObj : HsmObject) : System :=
  { system.withSlot found.context
      ((found.slot.withObject pubIdx (some (storedPublicKey pubObj system.handleCounter))
          (found.slot.objectCount + 1)).withObject privIdx
        (some (storedPrivateKey privObj system.handleCounter)) (found.slot.objectCount + 2)) with
    handleCounter := advanceCounter (advanceCounter system.handleCounter)
    storage := (hsmStorageSaveObject (storedPrivateKey privObj system.handleCounter)
      (env.objectWrite 1) (hsmStorageSaveObject (storedPublicKey pubObj system.handleCounter)
        (env.objectWrite 0) system.storage).2).2 }

/-- An object with its key. -/
def HsmObject.withKey (object : HsmObject) (keyType : Nat) (keyData : HsmKeyData) : HsmObject :=
  { object with keyType := keyType, keyData := keyData }

/-- What the generator of a mechanism makes of the parsed halves: it sets the key of each and
leaves what the template gave it. -/
inductive HalvesMade (env : Env) (mechanism : CkMechanismType)
    (publicTemplate : List CkAttribute) (pubKey privKey : HsmObject) :
    HsmObject → HsmObject → Prop
  | rsa (key : RsaComponents) (isRsa : mechanism = ckmRsaPkcsKeyPairGen)
      (keygen : env.keygenRsa (requestedModulusBits publicTemplate) = some key) :
      HalvesMade env mechanism publicTemplate pubKey privKey
        (pubKey.withKey keyTypeRsa { pubKey.keyData with
          rsa := { pubKey.keyData.rsa with
            bits := requestedModulusBits publicTemplate
            modulus := key.n
            publicExponent := key.e } })
        (privKey.withKey keyTypeRsa { privKey.keyData with
          rsa := {
            bits := requestedModulusBits publicTemplate
            modulus := key.n
            publicExponent := key.e
            privateExponent := key.d
            prime1 := key.p
            prime2 := key.q
            exponent1 := key.dmp1
            exponent2 := key.dmq1
            coefficient := key.iqmp } })
  | ec (key : EcComponents) (ecParams : Bytes) (isEc : mechanism = ckmEcKeyPairGen)
      (keygen : env.keygenEc (requestedCurveNid publicTemplate) = some key)
      (known : getEcParamsFromNid env.malloc (requestedCurveNid publicTemplate) = .ok ecParams) :
      HalvesMade env mechanism publicTemplate pubKey privKey
        (pubKey.withKey keyTypeEc { pubKey.keyData with
          ec := {
            curveNid := requestedCurveNid publicTemplate
            ecParams := ecParams
            ecPoint := key.point } })
        (privKey.withKey keyTypeEc { privKey.keyData with
          ec := {
            curveNid := requestedCurveNid publicTemplate
            ecParams := ecParams
            ecPoint := key.point
            ecPrivate := key.priv } })

/-- What the generators return are the parsed halves with a key of the mechanism. -/
theorem generate_halves_made (mechanism : CkMechanismType)
    (publicTemplate privateTemplate : List CkAttribute) (pubObj privObj : HsmObject)
    (generated : generateHalves env mechanism publicTemplate privateTemplate =
      .ok (pubObj, privObj)) :
    HalvesMade env mechanism publicTemplate (hsmParseTemplate publicTemplate initialPublicKey)
      (hsmParseTemplate privateTemplate initialPrivateKey) pubObj privObj := by
  unfold generateHalves at generated
  simp only at generated
  split at generated
  · rename_i isRsa
    rw [hsmGenerateKeyPairRsa] at generated
    split at generated
    · cases generated
    · split at generated
      · cases generated
      · rename_i key keygen
        cases generated
        exact .rsa key isRsa keygen
  · split at generated
    · rename_i isEc
      rw [hsmGenerateKeyPairEc] at generated
      split at generated
      · cases generated
      · split at generated
        · cases generated
        · rename_i key keygen
          split at generated
          · cases generated
          · rename_i ecParams known
            cases generated
            exact .ec key ecParams isEc keygen known
    · cases generated

/-- The parameters of a curve are not refused with success. -/
theorem ec_params_error (malloc : Bool) (nid : Nat) :
    getEcParamsFromNid malloc nid ≠ .error .ok := by
  unfold getEcParamsFromNid
  split
  · nofun
  · split
    · nofun
    · nofun

/-- No generator reports success without a key pair. -/
theorem generate_halves_error (mechanism : CkMechanismType)
    (publicTemplate privateTemplate : List CkAttribute) :
    generateHalves env mechanism publicTemplate privateTemplate ≠ .error .ok := by
  unfold generateHalves
  simp only
  split
  · rw [hsmGenerateKeyPairRsa]
    split
    · nofun
    · split
      · nofun
      · nofun
  · split
    · rw [hsmGenerateKeyPairEc]
      split
      · nofun
      · split
        · nofun
        · split
          · rename_i rv refused
            intro failed
            cases failed
            exact ec_params_error env.malloc _ refused
          · nofun
    · nofun

/-- `C_GenerateKeyPair` fails and changes nothing, or stores both halves. -/
theorem generate_key_pair_cases (hSession : CkSessionHandle)
    (pMechanism : Option CkMechanismType) (publicTemplate privateTemplate : List CkAttribute)
    (phPublicKey phPrivateKey : Bool) :
    (∃ rv, rv ≠ .ok ∧
      cGenerateKeyPair env system hSession pMechanism publicTemplate privateTemplate phPublicKey
        phPrivateKey = (rv, none, system)) ∨
      ∃ mechanism found pubObj privObj pubIdx privIdx rest, pMechanism = some mechanism ∧
        phPublicKey = true ∧ phPrivateKey = true ∧
        hsmGetSession system hSession = .ok found ∧ found.session.userLoggedIn = true ∧
        generateHalves env mechanism publicTemplate privateTemplate = .ok (pubObj, privObj) ∧
        freeIndices found.slot.objects = pubIdx :: privIdx :: rest ∧
        cGenerateKeyPair env system hSession pMechanism publicTemplate privateTemplate phPublicKey
          phPrivateKey =
          (.ok, some ((storedPublicKey pubObj system.handleCounter).handle,
            (storedPrivateKey privObj system.handleCounter).handle),
            system.withKeyPair env found pubIdx privIdx pubObj privObj) := by
  unfold cGenerateKeyPair
  split
  · rename_i mechanism
    split
    · rename_i rv failed
      exact Or.inl ⟨rv, get_session_refused system hSession rv failed, rfl⟩
    · rename_i found session
      split
      · exact Or.inl ⟨.userNotLoggedIn, nofun, rfl⟩
      · rename_i user
        split
        · exact Or.inl ⟨.hostMemory, nofun, rfl⟩
        · split
          · rename_i rv failed
            refine Or.inl ⟨rv, ?_, rfl⟩
            rintro rfl
            exact generate_halves_error env mechanism publicTemplate privateTemplate failed
          · rename_i pubObj privObj generated
            unfold insertKeyPair
            simp only
            split
            · rename_i pubIdx privIdx rest free
              exact Or.inr ⟨mechanism, found, pubObj, privObj, pubIdx, privIdx, rest, rfl, trivial,
                trivial, session, by simpa using user, generated, free, rfl⟩
            · exact Or.inl ⟨.hostMemory, nofun, rfl⟩
  · exact Or.inl ⟨.argumentsBad, nofun, rfl⟩

/-- `C_GenerateKeyPair` puts two halves at free entries, or does nothing. -/
theorem generate_key_pair_effect (hSession : CkSessionHandle)
    (pMechanism : Option CkMechanismType) (publicTemplate privateTemplate : List CkAttribute)
    (phPublicKey phPrivateKey : Bool) :
    Effect sha256 env system
      (.generateKeyPair hSession pMechanism publicTemplate privateTemplate phPublicKey phPrivateKey)
      (cGenerateKeyPair env system hSession pMechanism publicTemplate privateTemplate phPublicKey
        phPrivateKey).2.2 := by
  rcases generate_key_pair_cases env system hSession pMechanism publicTemplate privateTemplate
    phPublicKey phPrivateKey with
    ⟨rv, -, same⟩ | ⟨mechanism, found, pubObj, privObj, pubIdx, privIdx, rest, rfl, rfl, rfl,
      session, user, generated, free, same⟩
  · rw [same]
    exact .unchanged _
  · rw [same]
    exact .keyPairInserted hSession mechanism publicTemplate privateTemplate found pubObj privObj
      pubIdx privIdx rest session user generated free

/-- Every call leaves the process as it was or makes one of the listed changes. -/
theorem call_effect (call : Call) :
    Effect sha256 env system call (callStep sha256 env system call).2 := by
  cases call with
  | initializeLibrary => exact initialize_effect sha256 env system
  | finalizeLibrary pReserved => exact finalize_effect sha256 env system pReserved
  | initToken slotID pPin pLabel => exact init_token_effect sha256 env system slotID pPin pLabel
  | initPIN hSession pPin => exact init_pin_effect sha256 env system hSession pPin
  | setPIN hSession pOldPin pNewPin =>
    exact set_pin_effect sha256 env system hSession pOldPin pNewPin
  | openSession slotID flags phSession =>
    exact open_session_effect sha256 env system slotID flags phSession
  | closeSession hSession => exact close_session_effect sha256 env system hSession
  | closeAllSessions slotID => exact close_all_sessions_effect sha256 env system slotID
  | login hSession userType pPin => exact login_effect sha256 env system hSession userType pPin
  | logout hSession => exact logout_effect sha256 env system hSession
  | createObject hSession pTemplate phObject =>
    exact create_object_effect sha256 env system hSession pTemplate phObject
  | destroyObject hSession hObject => exact destroy_object_effect sha256 env system hSession hObject
  | setAttributeValue hSession hObject pTemplate =>
    exact set_attribute_value_effect sha256 env system hSession hObject pTemplate
  | findObjectsInit hSession pTemplate =>
    exact find_objects_init_effect sha256 env system hSession pTemplate
  | findObjects hSession phObject most pulObjectCount =>
    exact find_objects_effect sha256 env system hSession phObject most pulObjectCount
  | findObjectsFinal hSession => exact find_objects_final_effect sha256 env system hSession
  | signInit hSession pMechanism hKey =>
    exact sign_init_effect sha256 env system hSession pMechanism hKey
  | sign hSession pData pSignature pulSignatureLen =>
    exact sign_effect sha256 env system hSession pData pSignature pulSignatureLen
  | verifyInit hSession pMechanism hKey =>
    exact verify_init_effect sha256 env system hSession pMechanism hKey
  | verify hSession pData pSignature =>
    exact verify_effect sha256 env system hSession pData pSignature
  | generateKeyPair hSession pMechanism publicTemplate privateTemplate phPublicKey phPrivateKey =>
    exact generate_key_pair_effect sha256 env system hSession pMechanism publicTemplate
      privateTemplate phPublicKey phPrivateKey
  | _ => exact .unchanged _

end Entries

end PstHsm
