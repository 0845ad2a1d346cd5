import PstHsm.Effects

/-!
# Views of a call's effect

Most invariants speak of one part of the process only. Three projections cut the
list of effects down to such a part: the fate of one entry of the session table,
the step of the object store, which is the object table, the handle counter and
the key files together, and the step of the PIN fields. While the library is not
initialized both tables count as empty.
-/

namespace PstHsm

open Tables

/-- Only `C_Finalize` ends the initialized state. -/
theorem context_stays (sha256 : Sha256) (env : Env) (system : System) (call : Call)
    (before : HsmContext) (present : system.gHsmContext = some before)
    (continues : call ≠ .finalizeLibrary false) :
    ∃ after, (callStep sha256 env system call).2.gHsmContext = some after := by
  have effect := call_effect sha256 env system call
  generalize (callStep sha256 env system call).2 = changed at effect
  cases effect with
  | unchanged => exact ⟨before, present⟩
  | directoriesMade rv storage absent made => exact ⟨before, present⟩
  | finalized context located => exact absurd rfl continues
  | _ => exact ⟨_, rfl⟩

/-- From the uninitialized state only `C_Initialize` leads out, to a slot just
initialized over the key files and the token file as they were. -/
theorem absent_initializes (sha256 : Sha256) (env : Env) (system : System) (call : Call)
    (after : HsmContext) (absent : system.gHsmContext = none)
    (afterwards : (callStep sha256 env system call).2.gHsmContext = some after) :
    ∃ fopen storage, after.slot = hsmInitSlot fopen storage ∧ call = .initializeLibrary := by
  have effect := call_effect sha256 env system call
  generalize (callStep sha256 env system call).2 = changed at effect afterwards
  have nowhere (hSession : CkSessionHandle) (found : FoundSession)
      (session : hsmGetSession system hSession = .ok found) : False := by
    have located := (get_session_sound system hSession found session).1
    rw [absent] at located
    cases located
  cases effect with
  | unchanged => cases absent.symm.trans afterwards
  | directoriesMade rv storage _ made => cases absent.symm.trans afterwards
  | initialized storage _ made =>
    obtain rfl := Option.some.inj afterwards
    exact ⟨_, storage, rfl, rfl⟩
  | finalized context present => cases absent.symm.trans present
  | sessionsClosed slotID context present => cases absent.symm.trans present
  | tokenReset slotID pin label context present => cases absent.symm.trans present
  | sessionOpened slotID flags context index present =>
    cases absent.symm.trans present
  | userPinSet hSession pin found session => exact (nowhere hSession found session).elim
  | pinChangeRefused hSession oldPin newPin found session =>
    exact (nowhere hSession found session).elim
  | pinChanged hSession oldPin newPin found session => exact (nowhere hSession found session).elim
  | loginRefused hSession userType pin found session =>
    exact (nowhere hSession found session).elim
  | loggedIn hSession userType pin found session => exact (nowhere hSession found session).elim
  | sessionClosed hSession found session => exact (nowhere hSession found session).elim
  | sessionUpdated call hSession found updated named session =>
    exact (nowhere hSession found session).elim
  | objectCreated hSession template found index session =>
    exact (nowhere hSession found session).elim
  | objectDestroyed hSession hObject found index object session =>
    exact (nowhere hSession found session).elim
  | labelSet hSession hObject template found index object session =>
    exact (nowhere hSession found session).elim
  | keyPairInserted hSession mechanism publicTemplate privateTemplate found pubObj privObj pubIdx
      privIdx rest session => exact (nowhere hSession found session).elim

/-- A slot just initialized has no session and no object. -/
theorem init_slot_tables (fopen : Bool) (storage : Storage) :
    (hsmInitSlot fopen storage).sessions = empty ∧ (hsmInitSlot fopen storage).objects = empty := by
  rw [hsmInitSlot, hsmStorageLoadTokenInfo]
  split
  · exact ⟨rfl, rfl⟩
  · exact ⟨rfl, rfl⟩

/-- `C_Finalize` without argument leaves the library uninitialized. -/
theorem finalize_ends (sha256 : Sha256) (env : Env) (system : System) :
    (callStep sha256 env system (.finalizeLibrary false)).2.gHsmContext = none := by
  cases present : system.gHsmContext with
  | none => simp [callStep, cFinalize, present]
  | some context => simp [callStep, cFinalize, present]

/-! ## The session table -/

/-- The sessions of the slot. -/
def System.sessions (system : System) : Table hsmMaxSessions HsmSession :=
  match system.gHsmContext with
  | none => empty
  | some context => context.slot.sessions

@[simp]
theorem sessions_present (system : System) (context : HsmContext)
    (present : system.gHsmContext = some context) :
    system.sessions = context.slot.sessions := by
  simp [System.sessions, present]

@[simp]
theorem sessions_absent (system : System) (absent : system.gHsmContext = none) :
    system.sessions = empty := by
  simp [System.sessions, absent]

@[simp]
theorem sessions_with_slot (system : System) (context : HsmContext) (slot : HsmSlot) :
    (system.withSlot context slot).sessions = slot.sessions := rfl

/-- A session that is found is an entry of the table. -/
theorem get_session_entry (system : System) (hSession : CkSessionHandle) (found : FoundSession)
    (session : hsmGetSession system hSession = .ok found) :
    system.sessions found.index = some found.session ∧ found.session.handle = hSession := by
  obtain ⟨present, entry, named⟩ := get_session_sound system hSession found session
  rw [sessions_present system found.context present]
  exact ⟨entry, named⟩

/-- What becomes of one entry of the session table during a call. -/
inductive SessionFate (env : Env) (system : System) (index : Fin hsmMaxSessions) :
    Call → Option HsmSession → Prop
  | kept (call : Call) : SessionFate env system index call (system.sessions index)
  | removed (call : Call)
      (owner : ∀ hSession, call.hSession = some hSession →
        ∃ context session, hsmGetSession system hSession = .ok ⟨context, index, session⟩) :
      SessionFate env system index call none
  | opened (slotID : CkSlotId) (flags : CkFlags) (free : system.sessions index = none) :
      SessionFate env system index (.openSession slotID flags true)
        (some (freshSession system.gNextSessionHandle flags env.now))
  | loggedIn (userType : CkUserType) (pin : Bytes) (context : HsmContext) (session : HsmSession)
      (located : hsmGetSession system session.handle = .ok ⟨context, index, session⟩)
      (fresh : session.userLoggedIn = false ∧ session.soLoggedIn = false) :
      SessionFate env system index (.login session.handle userType (some pin))
        (some (session.loggedIn userType env.now))
  | updated (call : Call) (context : HsmContext) (session after : HsmSession)
      (located : hsmGetSession system session.handle = .ok ⟨context, index, session⟩)
      (named : call.hSession = some session.handle)
      (update : SessionUpdate context.slot session call after) :
      SessionFate env system index call (some after)

/-- The table as it was is one of the fates. -/
theorem session_fate_same {env : Env} {system : System} {index : Fin hsmMaxSessions}
    {call : Call} {entry : Option HsmSession} (same : entry = system.sessions index) :
    SessionFate env system index call entry :=
  same ▸ .kept call

/-- Overwriting the entry of a found session leaves the others alone. -/
theorem session_fate_put {env : Env} {system : System} {call : Call} (found : FoundSession)
    (present : system.gHsmContext = some found.context) (index : Fin hsmMaxSessions)
    (entry : Option HsmSession)
    (here : SessionFate env system found.index call entry) :
    SessionFate env system index call (put found.slot.sessions found.index entry index) := by
  by_cases same : index = found.index
  · subst same
    rw [put_self]
    exact here
  · rw [put_other _ _ _ _ same]
    exact session_fate_same (by rw [sessions_present system found.context present]; rfl)

@[simp]
theorem pin_replaced_sessions (slot : HsmSlot) (userType : CkUserType) (hash : Buffer 32) :
    (slot.pinReplaced userType hash).sessions = slot.sessions := by
  rw [HsmSlot.pinReplaced]
  split <;> rfl

@[simp]
theorem pin_replaced_objects (slot : HsmSlot) (userType : CkUserType) (hash : Buffer 32) :
    (slot.pinReplaced userType hash).objects = slot.objects := by
  rw [HsmSlot.pinReplaced]
  split <;> rfl

/-- Every entry of the session table meets one of the fates. -/
theorem session_fate (sha256 : Sha256) (env : Env) (system : System) (call : Call)
    (index : Fin hsmMaxSessions) :
    SessionFate env system index call ((callStep sha256 env system call).2.sessions index) := by
  have effect := call_effect sha256 env system call
  generalize (callStep sha256 env system call).2 = after at effect
  cases effect with
  | unchanged => exact .kept _
  | directoriesMade rv storage absent made => exact .kept _
  | initialized storage absent made =>
    exact session_fate_same (by
      rw [sessions_absent system absent]
      exact congrFun (init_slot_tables _ storage).1 index)
  | finalized context present => exact .removed _ nofun
  | sessionsClosed slotID context present valid => exact .removed _ nofun
  | tokenReset slotID pin label context present valid longEnough shortEnough =>
    exact .removed _ nofun
  | userPinSet hSession pin found session officer longEnough shortEnough =>
    obtain ⟨present, -, -⟩ := get_session_sound system hSession found session
    exact session_fate_same (by rw [sessions_present system found.context present]; rfl)
  | pinChangeRefused hSession oldPin newPin found session loggedIn longEnough shortEnough refused =>
    obtain ⟨present, -, -⟩ := get_session_sound system hSession found session
    exact session_fate_same (by
      rw [sessions_with_slot, verify_pin_sessions, sessions_present system found.context present]
      rfl)
  | pinChanged hSession oldPin newPin found session loggedIn longEnough shortEnough accepted =>
    obtain ⟨present, -, -⟩ := get_session_sound system hSession found session
    have stays : ((hsmVerifyPin sha256 found.slot found.session.pinOwner oldPin).2.pinReplaced
        found.session.pinOwner (sha256 newPin)).sessions = found.slot.sessions := by
      rw [pin_replaced_sessions, verify_pin_sessions]
    exact session_fate_same (by
      rw [sessions_present system found.context present]
      exact congrFun stays index)
  | loginRefused hSession userType pin found session known fresh writable refused =>
    obtain ⟨present, -, -⟩ := get_session_sound system hSession found session
    exact session_fate_same (by
      rw [sessions_with_slot, verify_pin_sessions, sessions_present system found.context present]
      rfl)
  | loggedIn hSession userType pin found session known fresh writable accepted =>
    obtain ⟨present, -, sameHandle⟩ := get_session_sound system hSession found session
    subst sameHandle
    exact session_fate_put found present index _
      (.loggedIn userType pin found.context found.session session fresh)
  | sessionOpened slotID flags context chosen present valid serial room free =>
    have vacant := first_free_sound context.slot.sessions chosen free
    rw [← sessions_present system context present] at vacant
    change SessionFate env system index _ (put context.slot.sessions chosen _ index)
    by_cases same : index = chosen
    · subst same
      rw [put_self]
      exact .opened slotID flags vacant
    · rw [put_other _ _ _ _ same]
      exact session_fate_same (by rw [sessions_present system context present])
  | sessionClosed hSession found session =>
    obtain ⟨present, -, -⟩ := get_session_sound system hSession found session
    refine session_fate_put found present index none (.removed _ ?_)
    rintro named ⟨⟩
    exact ⟨found.context, found.session, session⟩
  | sessionUpdated call hSession found updated named session update =>
    obtain ⟨present, -, sameHandle⟩ := get_session_sound system hSession found session
    subst sameHandle
    exact session_fate_put found present index _
      (.updated call found.context found.session updated session named update)
  | objectCreated hSession template found chosen session room free =>
    obtain ⟨present, -, -⟩ := get_session_sound system hSession found session
    exact session_fate_same (by rw [sessions_present system found.context present]; rfl)
  | objectDestroyed hSession hObject found chosen object session lookup =>
    obtain ⟨present, -, -⟩ := get_session_sound system hSession found session
    exact session_fate_same (by rw [sessions_present system found.context present]; rfl)
  | labelSet hSession hObject template found chosen object session lookup =>
    obtain ⟨present, -, -⟩ := get_session_sound system hSession found session
    exact session_fate_same (by rw [sessions_present system found.context present]; rfl)
  | keyPairInserted hSession mechanism publicTemplate privateTemplate found pubObj privObj pubIdx
      privIdx rest session user generated free =>
    obtain ⟨present, -, -⟩ := get_session_sound system hSession found session
    exact session_fate_same (by rw [sessions_present system found.context present]; rfl)

/-- A login changes the flags, the state and the time of a session and nothing else. -/
theorem logged_in_frame (session : HsmSession) (userType : CkUserType) (now : Nat) :
    (session.loggedIn userType now).handle = session.handle ∧
      (session.loggedIn userType now).operation = session.operation ∧
      (session.loggedIn userType now).findActive = session.findActive ∧
      (session.loggedIn userType now).findResults = session.findResults ∧
      (session.loggedIn userType now).findCount = session.findCount ∧
      (session.loggedIn userType now).findIndex = session.findIndex := by
  rw [HsmSession.loggedIn]
  split
  · exact ⟨rfl, rfl, rfl, rfl, rfl, rfl⟩
  · exact ⟨rfl, rfl, rfl, rfl, rfl, rfl⟩

/-- What becomes of a session that is still there after a call. -/
inductive SessionChange (env : Env) (system : System) (index : Fin hsmMaxSessions)
    (session : HsmSession) : Call → HsmSession → Prop
  | kept (call : Call) : SessionChange env system index session call session
  | loggedIn (userType : CkUserType) (pin : Bytes) (context : HsmContext)
      (located : hsmGetSession system session.handle = .ok ⟨context, index, session⟩)
      (fresh : session.userLoggedIn = false ∧ session.soLoggedIn = false) :
      SessionChange env system index session (.login session.handle userType (some pin))
        (session.loggedIn userType env.now)
  | updated (call : Call) (context : HsmContext) (after : HsmSession)
      (located : hsmGetSession system session.handle = .ok ⟨context, index, session⟩)
      (named : call.hSession = some session.handle)
      (update : SessionUpdate context.slot session call after) :
      SessionChange env system index session call after

theorem session_change (sha256 : Sha256) (env : Env) (system : System) (call : Call)
    (index : Fin hsmMaxSessions) (session after : HsmSession)
    (before : system.sessions index = some session)
    (later : (callStep sha256 env system call).2.sessions index = some after) :
    SessionChange env system index session call after := by
  have fate := session_fate sha256 env system call index
  rw [later] at fate
  have same (context : HsmContext) (other : HsmSession)
      (located : hsmGetSession system other.handle = .ok ⟨context, index, other⟩) :
      session = other := by
    obtain ⟨entry, -⟩ := get_session_entry system other.handle _ located
    exact Option.some.inj (before.symm.trans entry)
  generalize becomes : some after = entry at fate
  cases fate with
  | kept =>
    obtain rfl := Option.some.inj (before.symm.trans becomes.symm)
    exact .kept call
  | removed => cases becomes
  | opened slotID flags free => cases before.symm.trans free
  | loggedIn userType pin context other located fresh =>
    obtain rfl := same context other located
    obtain rfl := Option.some.inj becomes
    exact .loggedIn userType pin context located fresh
  | updated call context other updated located named update =>
    obtain rfl := same context other located
    obtain rfl := Option.some.inj becomes
    exact .updated call context after located named update

/-- The entry of the session that a call is made on. -/
def System.actsOn (system : System) (call : Call) : Option (Fin hsmMaxSessions) :=
  match call.hSession with
  | none => none
  | some hSession =>
    match hsmGetSession system hSession with
    | .error _ => none
    | .ok found => some found.index

theorem acts_on_found (system : System) (call : Call) (hSession : CkSessionHandle)
    (found : FoundSession) (named : call.hSession = some hSession)
    (session : hsmGetSession system hSession = .ok found) :
    system.actsOn call = some found.index := by
  simp [System.actsOn, named, session]

/-- A call on another entry, or on none, leaves a session as it is or closes it; a call
that names a session closes no other. -/
theorem session_untouched (sha256 : Sha256) (env : Env) (system : System) (call : Call)
    (place : Fin hsmMaxSessions) (session : HsmSession)
    (entry : system.sessions place = some session) (elsewhere : system.actsOn call ≠ some place) :
    (callStep sha256 env system call).2.sessions place = some session ∨
      (call.hSession = none ∧ (callStep sha256 env system call).2.sessions place = none) := by
  have fate := session_fate sha256 env system call place
  generalize (callStep sha256 env system call).2.sessions place = after at fate
  cases fate with
  | kept => exact Or.inl entry
  | removed _ owner =>
    right
    cases named : call.hSession with
    | none => exact ⟨rfl, rfl⟩
    | some hSession =>
      obtain ⟨context, stored, located⟩ := owner hSession named
      exact absurd (acts_on_found system call hSession _ named located) elsewhere
  | opened slotID flags free => cases free.symm.trans entry
  | loggedIn userType pin context stored located fresh =>
    exact absurd (acts_on_found system _ _ _ rfl located) elsewhere
  | updated call context stored updated located named update =>
    exact absurd (acts_on_found system call _ _ named located) elsewhere

/-! ## The object store -/

/-- The object table, the handle counter and the key files. -/
structure ObjectStore where
  objects : Table hsmMaxObjects HsmObject
  counter : Nat
  keyFiles : AList (fun _ : FileName => Bytes)

/-- The objects of the slot. -/
def System.objects (system : System) : Table hsmMaxObjects HsmObject :=
  match system.gHsmContext with
  | none => empty
  | some context => context.slot.objects

@[simp]
theorem objects_present (system : System) (context : HsmContext)
    (present : system.gHsmContext = some context) : system.objects = context.slot.objects := by
  simp [System.objects, present]

@[simp]
theorem objects_absent (system : System) (absent : system.gHsmContext = none) :
    system.objects = empty := by
  simp [System.objects, absent]

/-- The objects of the slot in which a session was found. -/
theorem found_objects (system : System) (hSession : CkSessionHandle) (found : FoundSession)
    (session : hsmGetSession system hSession = .ok found) :
    system.objects = found.slot.objects := by
  obtain ⟨present, -, -⟩ := get_session_sound system hSession found session
  exact objects_present system found.context present

/-- The object that a session and a handle lead to is one of the process. -/
theorem object_found (system : System) (hSession : CkSessionHandle) (hObject : CkObjectHandle)
    (found : FoundSession) (index : Fin hsmMaxObjects) (object : HsmObject)
    (session : hsmGetSession system hSession = .ok found)
    (located : hsmGetObject found.slot hObject = .ok (index, object)) :
    system.objects index = some object := by
  obtain ⟨entry, -⟩ := get_object_sound found.slot hObject index object located
  rw [found_objects system hSession found session]
  exact entry

/-- A created object fills an entry that was free. -/
theorem created_entry (system : System) (hSession : CkSessionHandle) (found : FoundSession)
    (index : Fin hsmMaxObjects) (template : List CkAttribute) (outcome : WriteOutcome)
    (session : hsmGetSession system hSession = .ok found)
    (free : firstFree found.slot.objects = some index) :
    system.objects index = none ∧
      (system.withCreated found index template outcome).objects =
        put system.objects index (some (createdObject template system.handleCounter)) := by
  rw [found_objects system hSession found session]
  exact ⟨first_free_sound found.slot.objects index free, rfl⟩

/-- The halves of a pair fill two entries that were free. -/
theorem key_pair_entries (env : Env) (system : System) (hSession : CkSessionHandle)
    (found : FoundSession) (pubIdx privIdx : Fin hsmMaxObjects)
    (rest : List (Fin hsmMaxObjects)) (pubObj privObj : HsmObject)
    (session : hsmGetSession system hSession = .ok found)
    (free : freeIndices found.slot.objects = pubIdx :: privIdx :: rest) :
    system.objects pubIdx = none ∧ system.objects privIdx = none ∧ pubIdx ≠ privIdx ∧
      (system.withKeyPair env found pubIdx privIdx pubObj privObj).objects =
        put (put system.objects pubIdx (some (storedPublicKey pubObj system.handleCounter)))
          privIdx (some (storedPrivateKey privObj system.handleCounter)) := by
  obtain ⟨pubFree, privFree, different⟩ := free_indices_sound _ pubIdx privIdx rest free
  rw [found_objects system hSession found session]
  exact ⟨pubFree, privFree, different, rfl⟩

/-- The object store of a process over its storage. -/
def System.objectStore (system : System) : ObjectStore :=
  ⟨system.objects, system.handleCounter, system.storage.keyFiles⟩

/-- The key files after an object is saved. -/
def ObjectStore.filesWith (store : ObjectStore) (object : HsmObject) (outcome : WriteOutcome) :
    AList (fun _ : FileName => Bytes) :=
  if object.isToken = true ∧ outcome.fopen = true then
    store.keyFiles.insert (objectFileName object.handle)
      (writtenBytes outcome (objectItems object))
  else store.keyFiles

/-- The key files after an object's file is deleted. -/
def ObjectStore.filesWithout (store : ObjectStore) (object : HsmObject) (unlink : Bool) :
    AList (fun _ : FileName => Bytes) :=
  if object.isToken = true ∧ unlink = true then
    store.keyFiles.erase (objectFileName object.handle)
  else store.keyFiles

/-- An object put into an entry under the next handle, and saved. -/
def ObjectStore.added (store : ObjectStore) (index : Fin hsmMaxObjects) (object : HsmObject)
    (outcome : WriteOutcome) : ObjectStore :=
  { objects := put store.objects index (some object)
    counter := advanceCounter store.counter
    keyFiles := store.filesWith object outcome }

/-- What one call does to the object store. -/
inductive StoreStep (env : Env) (store : ObjectStore) : Call → ObjectStore → Prop
  | kept (call : Call) : StoreStep env store call store
  | dropped (call : Call) (sessionless : call.hSession = none) :
      StoreStep env store call { store with objects := empty }
  | created (hSession : CkSessionHandle) (template : List CkAttribute)
      (index : Fin hsmMaxObjects) (free : store.objects index = none) :
      StoreStep env store (.createObject hSession (some template) true)
        (store.added index (createdObject template store.counter) (env.objectWrite 0))
  | destroyed (hSession : CkSessionHandle) (index : Fin hsmMaxObjects) (object : HsmObject)
      (present : store.objects index = some object) :
      StoreStep env store (.destroyObject hSession object.handle)
        { store with
          objects := put store.objects index none
          keyFiles := store.filesWithout object env.unlink }
  | relabelled (hSession : CkSessionHandle) (template : List CkAttribute)
      (index : Fin hsmMaxObjects) (object : HsmObject)
      (present : store.objects index = some object) :
      StoreStep env store (.setAttributeValue hSession object.handle (some template))
        { store with
          objects := put store.objects index (some (hsmSetAttributeValue object template).2) }
  | paired (hSession : CkSessionHandle) (mechanism : CkMechanismType)
      (publicTemplate privateTemplate : List CkAttribute) (pubObj privObj : HsmObject)
      (pubIdx privIdx : Fin hsmMaxObjects)
      (generated : generateHalves env mechanism publicTemplate privateTemplate =
        .ok (pubObj, privObj))
      (pubFree : store.objects pubIdx = none) (privFree : store.objects privIdx = none)
      (different : pubIdx ≠ privIdx) :
      StoreStep env store
        (.generateKeyPair hSession (some mechanism) publicTemplate privateTemplate true true)
        ((store.added pubIdx (storedPublicKey pubObj store.counter) (env.objectWrite 0)).added
          privIdx (storedPrivateKey privObj store.counter) (env.objectWrite 1))

/-- Saving changes the key files only. -/
theorem save_object_storage (store : ObjectStore) (object : HsmObject) (outcome : WriteOutcome)
    (storage : Storage) (same : storage.keyFiles = store.keyFiles) :
    (hsmStorageSaveObject object outcome storage).2 =
      { storage with keyFiles := store.filesWith object outcome } := by
  rw [hsmStorageSaveObject, ObjectStore.filesWith]
  cases token : object.isToken with
  | false => simp [← same]
  | true =>
    cases opened : outcome.fopen with
    | false => simp [← same]
    | true => simp [same]

/-- Deleting changes the key files only; deleting an absent file is no change. -/
theorem delete_object_storage (store : ObjectStore) (object : HsmObject) (env : Env)
    (storage : Storage) (same : storage.keyFiles = store.keyFiles) :
    storageWithout env object storage =
      { storage with keyFiles := store.filesWithout object env.unlink } := by
  rw [storageWithout, hsmStorageDeleteObject, ObjectStore.filesWithout]
  rw [← same]
  cases token : object.isToken with
  | false => simp
  | true =>
    cases stored : storage.keyFiles.lookup (objectFileName object.handle) with
    | none =>
      have absent : objectFileName object.handle ∉ storage.keyFiles :=
        AList.lookup_eq_none.mp stored
      have stays : storage.keyFiles.erase (objectFileName object.handle) = storage.keyFiles :=
        AList.ext (List.kerase_of_notMem_keys absent)
      simp [stays]
    | some record =>
      cases unlinked : env.unlink with
      | false => simp
      | true => simp

section StoreSteps

variable (env : Env) (system : System)

/-- With the same objects, counter and files the store is kept. -/
theorem store_kept (call : Call) (context : HsmContext)
    (present : system.gHsmContext = some context) (changed : System)
    (counter : changed.handleCounter = system.handleCounter)
    (files : changed.storage.keyFiles = system.storage.keyFiles)
    (objects : changed.objects = context.slot.objects) :
    StoreStep env system.objectStore call changed.objectStore := by
  have same : changed.objectStore = system.objectStore := by
    unfold System.objectStore
    rw [objects, counter, files, objects_present system context present]
  rw [same]
  exact .kept call

/-- Making directories leaves the key files. -/
theorem made_key_files (rv : CkRv) (storage : Storage)
    (made : hsmStorageInit env system.storage = (rv, storage)) :
    storage.keyFiles = system.storage.keyFiles := by
  have files := (storage_init_files env system.storage).2
  rwa [made] at files

/-- A failed initialization keeps the store. -/
theorem directories_made_store (rv : CkRv) (storage : Storage) (absent : system.gHsmContext = none)
    (made : hsmStorageInit env system.storage = (rv, storage)) :
    StoreStep env system.objectStore .initializeLibrary
      ({ system with storage := storage } : System).objectStore := by
  have same : ({ system with storage := storage } : System).objectStore = system.objectStore := by
    unfold System.objectStore
    rw [objects_absent system absent, ← made_key_files env system rv storage made]
    exact congrArg (ObjectStore.mk · system.handleCounter storage.keyFiles)
      (objects_absent _ absent)
  rw [same]
  exact .kept _

/-- An initialization starts without objects. -/
theorem initialized_store (storage : Storage)
    (made : hsmStorageInit env system.storage = (.ok, storage)) :
    StoreStep env system.objectStore .initializeLibrary
      ({ system with
        gHsmContext := some (hsmInitContext (hsmInitSlot env.tokenRead storage))
        storage := storage } : System).objectStore := by
  have blank := (init_slot_tables env.tokenRead storage).2
  have same : ({ system with
      gHsmContext := some (hsmInitContext (hsmInitSlot env.tokenRead storage))
      storage := storage } : System).objectStore =
      { system.objectStore with objects := empty } := by
    rw [System.objectStore]
    rw [made_key_files env system .ok storage made]
    exact congrArg (ObjectStore.mk · system.handleCounter system.storage.keyFiles) blank
  rw [same]
  exact .dropped _ rfl

section Found

variable (hSession : CkSessionHandle) (found : FoundSession)
variable (session : hsmGetSession system hSession = .ok found)

include session

/-- A new object joins the store. -/
theorem object_created_store (template : List CkAttribute) (index : Fin hsmMaxObjects)
    (free : firstFree found.slot.objects = some index) :
    StoreStep env system.objectStore (.createObject hSession (some template) true)
      ({ system.withSlot found.context
          (found.slot.withObject index (some (createdObject template system.handleCounter))
            (found.slot.objectCount + 1)) with
        handleCounter := advanceCounter system.handleCounter
        storage := (hsmStorageSaveObject (createdObject template system.handleCounter)
          (env.objectWrite 0) system.storage).2 } : System).objectStore := by
  obtain ⟨present, -, -⟩ := get_session_sound system hSession found session
  have objects := found_objects system hSession found session
  have created : StoreStep env system.objectStore _ _ := .created hSession template
    index ((congrFun objects index).trans (first_free_sound found.slot.objects index free))
  rw [save_object_storage system.objectStore _ _ system.storage rfl]
  simpa [ObjectStore.added, System.objectStore, objects, System.objects, System.withSlot,
    HsmSlot.withObject, FoundSession.slot, present] using created

/-- A destroyed object leaves the store. -/
theorem object_destroyed_store (hObject : CkObjectHandle) (index : Fin hsmMaxObjects)
    (object : HsmObject) (lookup : hsmGetObject found.slot hObject = .ok (index, object)) :
    StoreStep env system.objectStore (.destroyObject hSession hObject)
      ({ system.withSlot found.context
          (found.slot.withObject index none (found.slot.objectCount - 1)) with
        storage := storageWithout env object system.storage } : System).objectStore := by
  obtain ⟨present, -, -⟩ := get_session_sound system hSession found session
  obtain ⟨entry, rfl⟩ := get_object_sound found.slot hObject index object lookup
  have objects := found_objects system hSession found session
  have destroyed : StoreStep env system.objectStore _ _ := .destroyed hSession
    index object ((congrFun objects index).trans entry)
  rw [delete_object_storage system.objectStore object env system.storage rfl]
  simpa [System.objectStore, objects, System.objects, System.withSlot, HsmSlot.withObject,
    FoundSession.slot, present] using destroyed

/-- An object gets its label in the store. -/
theorem label_set_store (hObject : CkObjectHandle) (template : List CkAttribute)
    (index : Fin hsmMaxObjects) (object : HsmObject)
    (lookup : hsmGetObject found.slot hObject = .ok (index, object)) :
    StoreStep env system.objectStore (.setAttributeValue hSession hObject (some template))
      (system.withSlot found.context
        (found.slot.withObject index (some (hsmSetAttributeValue object template).2)
          found.slot.objectCount)).objectStore := by
  obtain ⟨present, -, -⟩ := get_session_sound system hSession found session
  obtain ⟨entry, rfl⟩ := get_object_sound found.slot hObject index object lookup
  have objects := found_objects system hSession found session
  have relabelled : StoreStep env system.objectStore _ _ := .relabelled hSession
    template index object ((congrFun objects index).trans entry)
  simpa [System.objectStore, objects, System.objects, System.withSlot, HsmSlot.withObject,
    FoundSession.slot, present] using relabelled

/-- Both halves of a key pair join the store. -/
theorem key_pair_store (mechanism : CkMechanismType)
    (publicTemplate privateTemplate : List CkAttribute) (pubObj privObj : HsmObject)
    (pubIdx privIdx : Fin hsmMaxObjects) (rest : List (Fin hsmMaxObjects))
    (generated : generateHalves env mechanism publicTemplate privateTemplate =
      .ok (pubObj, privObj))
    (free : freeIndices found.slot.objects = pubIdx :: privIdx :: rest) :
    StoreStep env system.objectStore
      (.generateKeyPair hSession (some mechanism) publicTemplate privateTemplate true true)
      ({ system.withSlot found.context
          ((found.slot.withObject pubIdx (some (storedPublicKey pubObj system.handleCounter))
              (found.slot.objectCount + 1)).withObject privIdx
            (some (storedPrivateKey privObj system.handleCounter))
            (found.slot.objectCount + 2)) with
        handleCounter := advanceCounter (advanceCounter system.handleCounter)
        storage := (hsmStorageSaveObject (storedPrivateKey privObj system.handleCounter)
          (env.objectWrite 1) (hsmStorageSaveObject (storedPublicKey pubObj system.handleCounter)
            (env.objectWrite 0) system.storage).2).2 } : System).objectStore := by
  obtain ⟨present, -, -⟩ := get_session_sound system hSession found session
  have objects := found_objects system hSession found session
  obtain ⟨pubFree, privFree, different, -⟩ := key_pair_entries env system hSession found pubIdx
    privIdx rest pubObj privObj session free
  have paired : StoreStep env system.objectStore _ _ := .paired hSession mechanism
    publicTemplate privateTemplate pubObj privObj pubIdx privIdx generated pubFree privFree
    different
  rw [save_object_storage system.objectStore _ _ system.storage rfl,
    save_object_storage (system.objectStore.added pubIdx
      (storedPublicKey pubObj system.handleCounter) (env.objectWrite 0)) _ _ _ rfl]
  simpa [ObjectStore.added, System.objectStore, objects, System.objects, System.withSlot,
    HsmSlot.withObject, FoundSession.slot, present] using paired

end Found

end StoreSteps

/-- The object store makes one of the steps at every call. -/
theorem store_step (sha256 : Sha256) (env : Env) (system : System) (call : Call) :
    StoreStep env system.objectStore call (callStep sha256 env system call).2.objectStore := by
  have effect := call_effect sha256 env system call
  generalize (callStep sha256 env system call).2 = after at effect
  have savedFiles (context : HsmContext) (slot : HsmSlot) :
      (system.withSavedSlot env context slot).storage.keyFiles = system.storage.keyFiles :=
    save_token_info_key_files slot env.tokenWrite system.storage
  have located (hSession : CkSessionHandle) (found : FoundSession)
      (session : hsmGetSession system hSession = .ok found) :
      system.gHsmContext = some found.context :=
    (get_session_sound system hSession found session).1
  cases effect with
  | unchanged => exact .kept _
  | directoriesMade rv storage absent made =>
    exact directories_made_store env system rv storage absent made
  | initialized storage absent made => exact initialized_store env system storage made
  | finalized context present => exact .dropped _ rfl
  | sessionsClosed slotID context present valid =>
    exact store_kept env system _ context present _ rfl rfl rfl
  | tokenReset slotID pin label context present valid longEnough shortEnough =>
    exact store_kept env system _ context present _ rfl (savedFiles context _) rfl
  | userPinSet hSession pin found session officer longEnough shortEnough =>
    exact store_kept env system _ found.context (located hSession found session) _ rfl
      (savedFiles found.context _) rfl
  | pinChangeRefused hSession oldPin newPin found session loggedIn longEnough shortEnough refused =>
    exact store_kept env system _ found.context (located hSession found session) _ rfl rfl
      (verify_pin_objects sha256 found.slot _ _)
  | pinChanged hSession oldPin newPin found session loggedIn longEnough shortEnough accepted =>
    refine store_kept env system _ found.context (located hSession found session) _ rfl
      (savedFiles found.context _) ?_
    exact (pin_replaced_objects _ _ _).trans (verify_pin_objects sha256 found.slot _ _)
  | loginRefused hSession userType pin found session known fresh writable refused =>
    exact store_kept env system _ found.context (located hSession found session) _ rfl rfl
      (verify_pin_objects sha256 found.slot _ _)
  | loggedIn hSession userType pin found session known fresh writable accepted =>
    exact store_kept env system _ found.context (located hSession found session) _ rfl rfl
      (verify_pin_objects sha256 found.slot _ _)
  | sessionOpened slotID flags context chosen present valid serial room free =>
    exact store_kept env system _ context present _ rfl rfl rfl
  | sessionClosed hSession found session =>
    exact store_kept env system _ found.context (located hSession found session) _ rfl rfl rfl
  | sessionUpdated call hSession found updated named session update =>
    exact store_kept env system _ found.context (located hSession found session) _ rfl rfl rfl
  | objectCreated hSession template found chosen session room free =>
    exact object_created_store env system hSession found session template chosen free
  | objectDestroyed hSession hObject found chosen object session lookup =>
    exact object_destroyed_store env system hSession found session hObject chosen object lookup
  | labelSet hSession hObject template found chosen object session lookup =>
    exact label_set_store env system hSession found session hObject template chosen object lookup
  | keyPairInserted hSession mechanism publicTemplate privateTemplate found pubObj privObj pubIdx
      privIdx rest session user generated free =>
    exact key_pair_store env system hSession found session mechanism publicTemplate privateTemplate
      pubObj privObj pubIdx privIdx rest generated free

/-! ## The PIN fields -/

/-- The two slots agree on the PIN fields of both user types. -/
def SamePins (before after : HsmSlot) : Prop :=
  ∀ userType, after.pinFields userType = before.pinFields userType

/-- What one call does to the PIN fields of the slot. -/
inductive PinStep (sha256 : Sha256) (system : System) (slot : HsmSlot) : Call → HsmSlot → Prop
  | kept (call : Call) (after : HsmSlot) (same : SamePins slot after) :
      PinStep sha256 system slot call after
  | reinitialized (slotID : CkSlotId) (pin label : Bytes) (tokenLabel : Buffer 32)
      (valid : slotID < slotCount) (longEnough : hsmMinPinLen ≤ pin.length)
      (shortEnough : pin.length ≤ hsmMaxPinLen) :
      PinStep sha256 system slot (.initToken slotID (some pin) (some label))
        (slot.reinitialized (sha256 pin) tokenLabel)
  | userPinSet (hSession : CkSessionHandle) (pin : Bytes) (found : FoundSession)
      (session : hsmGetSession system hSession = .ok found)
      (officer : found.session.soLoggedIn = true) :
      PinStep sha256 system slot (.initPIN hSession (some pin)) (slot.userPinSet (sha256 pin))
  | loginGuessed (hSession : CkSessionHandle) (userType : CkUserType) (pin : Bytes)
      (after : HsmSlot) (same : SamePins (hsmVerifyPin sha256 slot userType pin).2 after) :
      PinStep sha256 system slot (.login hSession userType (some pin)) after
  | changeRefused (hSession : CkSessionHandle) (userType : CkUserType) (oldPin newPin : Bytes) :
      PinStep sha256 system slot (.setPIN hSession (some oldPin) (some newPin))
        (hsmVerifyPin sha256 slot userType oldPin).2
  | replaced (hSession : CkSessionHandle) (oldPin newPin : Bytes) (found : FoundSession)
      (session : hsmGetSession system hSession = .ok found)
      (accepted : (hsmVerifyPin sha256 slot found.session.pinOwner oldPin).1 = .ok) :
      PinStep sha256 system slot (.setPIN hSession (some oldPin) (some newPin))
        ((hsmVerifyPin sha256 slot found.session.pinOwner oldPin).2.pinReplaced
          found.session.pinOwner (sha256 newPin))

/-- While the library stays initialized, the PIN fields make one of the steps at
every call. -/
theorem pin_step (sha256 : Sha256) (env : Env) (system : System) (call : Call)
    (before after : HsmContext) (present : system.gHsmContext = some before)
    (afterwards : (callStep sha256 env system call).2.gHsmContext = some after) :
    PinStep sha256 system before.slot call after.slot := by
  have effect := call_effect sha256 env system call
  generalize (callStep sha256 env system call).2 = changed at effect afterwards
  have same (hSession : CkSessionHandle) (found : FoundSession)
      (session : hsmGetSession system hSession = .ok found) : before = found.context := by
    have located := (get_session_sound system hSession found session).1
    exact Option.some.inj (present.symm.trans located)
  cases effect with
  | unchanged =>
    obtain rfl := Option.some.inj (present.symm.trans afterwards)
    exact .kept _ _ fun _ => rfl
  | directoriesMade rv storage absent made => cases absent.symm.trans present
  | initialized storage absent made => cases absent.symm.trans present
  | finalized context located => cases afterwards
  | sessionsClosed slotID context located valid =>
    obtain rfl := Option.some.inj (present.symm.trans located)
    obtain rfl := Option.some.inj afterwards
    exact .kept _ _ fun _ => rfl
  | tokenReset slotID pin label context located valid longEnough shortEnough =>
    obtain rfl := Option.some.inj (present.symm.trans located)
    obtain rfl := Option.some.inj afterwards
    exact .reinitialized slotID pin label _ valid longEnough shortEnough
  | userPinSet hSession pin found session officer longEnough shortEnough =>
    obtain rfl := same hSession found session
    obtain rfl := Option.some.inj afterwards
    exact .userPinSet hSession pin found session officer
  | pinChangeRefused hSession oldPin newPin found session loggedIn longEnough shortEnough refused =>
    obtain rfl := same hSession found session
    obtain rfl := Option.some.inj afterwards
    exact .changeRefused hSession found.session.pinOwner oldPin newPin
  | pinChanged hSession oldPin newPin found session loggedIn longEnough shortEnough accepted =>
    obtain rfl := same hSession found session
    obtain rfl := Option.some.inj afterwards
    exact .replaced hSession oldPin newPin found session accepted
  | loginRefused hSession userType pin found session known fresh writable refused =>
    obtain rfl := same hSession found session
    obtain rfl := Option.some.inj afterwards
    exact .loginGuessed hSession userType pin _ fun _ => rfl
  | loggedIn hSession userType pin found session known fresh writable accepted =>
    obtain rfl := same hSession found session
    obtain rfl := Option.some.inj afterwards
    exact .loginGuessed hSession userType pin _ fun _ => rfl
  | sessionOpened slotID flags context chosen located valid serial room free =>
    obtain rfl := Option.some.inj (present.symm.trans located)
    obtain rfl := Option.some.inj afterwards
    exact .kept _ _ fun _ => rfl
  | sessionClosed hSession found session =>
    obtain rfl := same hSession found session
    obtain rfl := Option.some.inj afterwards
    exact .kept _ _ fun _ => rfl
  | sessionUpdated call hSession found updated named session update =>
    obtain rfl := same hSession found session
    obtain rfl := Option.some.inj afterwards
    exact .kept _ _ fun _ => rfl
  | objectCreated hSession template found chosen session room free =>
    obtain rfl := same hSession found session
    obtain rfl := Option.some.inj afterwards
    exact .kept _ _ fun _ => rfl
  | objectDestroyed hSession hObject found chosen object session lookup =>
    obtain rfl := same hSession found session
    obtain rfl := Option.some.inj afterwards
    exact .kept _ _ fun _ => rfl
  | labelSet hSession hObject template found chosen object session lookup =>
    obtain rfl := same hSession found session
    obtain rfl := Option.some.inj afterwards
    exact .kept _ _ fun _ => rfl
  | keyPairInserted hSession mechanism publicTemplate privateTemplate found pubObj privObj pubIdx
      privIdx rest session user generated free =>
    obtain rfl := same hSession found session
    obtain rfl := Option.some.inj afterwards
    exact .kept _ _ fun _ => rfl

end PstHsm
