import PstHsm.Admission
import PstHsm.SessionTable

/-!
# The object table

The slot counts its objects and keeps them in a sparse array. `C_CreateObject`
trusts the counter and scans without a bound; `C_GenerateKeyPair` scans with a
bound and ignores the counter. Both are exact because the counter is the number of
live objects in every reachable state.
-/

namespace PstHsm

open Tables

/-- The counter of the slot. -/
def System.objectCount (system : System) : Nat :=
  match system.gHsmContext with
  | none => 0
  | some context => context.slot.objectCount

theorem object_count_present (system : System) (context : HsmContext)
    (present : system.gHsmContext = some context) :
    system.objectCount = context.slot.objectCount := by
  simp [System.objectCount, present]

/-- The counter is the number of live objects. -/
def ObjectsCounted (system : System) : Prop := system.objectCount = count system.objects

/-! ## The counter during one call -/

@[simp]
theorem verify_pin_object_count (sha256 : Sha256) (slot : HsmSlot) (userType : CkUserType)
    (pPin : Bytes) :
    (hsmVerifyPin sha256 slot userType pPin).2.objectCount = slot.objectCount := by
  obtain ⟨retryCount, locked, stored⟩ := verify_pin_stores sha256 slot userType pPin
  rw [stored]
  exact (store_attempts_tables slot userType retryCount locked).2.2.2

@[simp]
theorem pin_replaced_object_count (slot : HsmSlot) (userType : CkUserType) (hash : Buffer 32) :
    (slot.pinReplaced userType hash).objectCount = slot.objectCount := by
  rw [HsmSlot.pinReplaced]
  split <;> rfl

theorem init_slot_object_count (fopen : Bool) (storage : Storage) :
    (hsmInitSlot fopen storage).objectCount = 0 := by
  rw [hsmInitSlot, hsmStorageLoadTokenInfo]
  split <;> rfl

/-- Every call keeps the objects counted. -/
theorem objects_counted_call (sha256 : Sha256) (env : Env) (system : System) (call : Call)
    (counted : ObjectsCounted system) : ObjectsCounted (callStep sha256 env system call).2 := by
  have effect := call_effect sha256 env system call
  generalize (callStep sha256 env system call).2 = changed at effect
  have before (context : HsmContext) (present : system.gHsmContext = some context) :
      context.slot.objectCount = count context.slot.objects := by
    rw [← object_count_present system context present, ← objects_present system context present]
    exact counted
  have kept (context : HsmContext) (slot : HsmSlot)
      (present : system.gHsmContext = some context) (later : System)
      (afterwards : later.gHsmContext = some { context with slot := slot })
      (objects : slot.objects = context.slot.objects)
      (objectCount : slot.objectCount = context.slot.objectCount) : ObjectsCounted later := by
    rw [ObjectsCounted, object_count_present later _ afterwards,
      objects_present later _ afterwards]
    change slot.objectCount = count slot.objects
    rw [objects, objectCount, before context present]
  cases effect with
  | unchanged => exact counted
  | directoriesMade rv storage absent made => exact counted
  | initialized storage absent made =>
    change (hsmInitSlot env.tokenRead storage).objectCount =
      count (hsmInitSlot env.tokenRead storage).objects
    rw [init_slot_object_count, (init_slot_tables _ storage).2, count_empty]
  | finalized context present =>
    change 0 = count (empty : Table hsmMaxObjects HsmObject)
    rw [count_empty]
  | sessionsClosed slotID context present valid => exact kept context _ present _ rfl rfl rfl
  | tokenReset slotID pin label context present valid longEnough shortEnough =>
    exact kept context _ present _ rfl rfl rfl
  | sessionOpened slotID flags context chosen present valid serial room free =>
    exact kept context _ present _ rfl rfl rfl
  | userPinSet hSession pin found session officer longEnough shortEnough =>
    obtain ⟨present, -, -⟩ := get_session_sound system hSession found session
    exact kept found.context _ present _ rfl rfl rfl
  | pinChangeRefused hSession oldPin newPin found session loggedIn longEnough shortEnough refused =>
    obtain ⟨present, -, -⟩ := get_session_sound system hSession found session
    exact kept found.context _ present _ rfl (verify_pin_objects _ _ _ _)
      (verify_pin_object_count _ _ _ _)
  | pinChanged hSession oldPin newPin found session loggedIn longEnough shortEnough accepted =>
    obtain ⟨present, -, -⟩ := get_session_sound system hSession found session
    refine kept found.context _ present _ rfl ?_ ?_
    · rw [pin_replaced_objects, verify_pin_objects]
      rfl
    · rw [pin_replaced_object_count, verify_pin_object_count]
      rfl
  | loginRefused hSession userType pin found session known fresh writable refused =>
    obtain ⟨present, -, -⟩ := get_session_sound system hSession found session
    exact kept found.context _ present _ rfl (verify_pin_objects _ _ _ _)
      (verify_pin_object_count _ _ _ _)
  | loggedIn hSession userType pin found session known fresh writable accepted =>
    obtain ⟨present, -, -⟩ := get_session_sound system hSession found session
    exact kept found.context _ present _ rfl (verify_pin_objects _ _ _ _)
      (verify_pin_object_count _ _ _ _)
  | sessionClosed hSession found session =>
    obtain ⟨present, -, -⟩ := get_session_sound system hSession found session
    exact kept found.context _ present _ rfl rfl rfl
  | sessionUpdated call hSession found updated named session update =>
    obtain ⟨present, -, -⟩ := get_session_sound system hSession found session
    exact kept found.context _ present _ rfl rfl rfl
  | labelSet hSession hObject template found index object session lookup =>
    obtain ⟨present, -, -⟩ := get_session_sound system hSession found session
    obtain ⟨entry, -⟩ := get_object_sound found.slot hObject index object lookup
    change found.slot.objectCount = count (put found.slot.objects index _)
    rw [count_replace _ index object _ entry]
    exact before found.context present
  | objectCreated hSession template found index session room free =>
    obtain ⟨present, -, -⟩ := get_session_sound system hSession found session
    change found.slot.objectCount + 1 = count (put found.slot.objects index _)
    rw [count_fill _ index _ (first_free_sound found.slot.objects index free)]
    exact congrArg (· + 1) (before found.context present)
  | objectDestroyed hSession hObject found index object session lookup =>
    obtain ⟨present, -, -⟩ := get_session_sound system hSession found session
    obtain ⟨entry, -⟩ := get_object_sound found.slot hObject index object lookup
    have removed := count_remove found.slot.objects index object entry
    have same : found.slot.objectCount = count found.slot.objects := before found.context present
    change found.slot.objectCount - 1 = count (put found.slot.objects index none)
    omega
  | keyPairInserted hSession mechanism publicTemplate privateTemplate found pubObj privObj pubIdx
      privIdx rest session user generated free =>
    obtain ⟨present, -, -⟩ := get_session_sound system hSession found session
    obtain ⟨pubFree, privFree, different⟩ := free_indices_sound _ pubIdx privIdx rest free
    have stillFree : put found.slot.objects pubIdx
        (some (storedPublicKey pubObj system.handleCounter)) privIdx = none := by
      rw [put_other _ _ _ _ (Ne.symm different)]
      exact privFree
    change found.slot.objectCount + 2 = count (put (put found.slot.objects pubIdx _) privIdx _)
    rw [count_fill _ privIdx _ stillFree, count_fill _ pubIdx _ pubFree]
    exact congrArg (· + 2) (before found.context present)

/-- A process that has just started has no objects. -/
theorem objects_counted_booted (storage : Storage) : ObjectsCounted (bootProcess storage) := by
  change 0 = count (empty : Table hsmMaxObjects HsmObject)
  rw [count_empty]

/-- Every event keeps the objects counted. -/
theorem objects_counted_step (sha256 : Sha256) (system : System) (event : Event)
    (counted : ObjectsCounted system) : ObjectsCounted (step sha256 system event).2 := by
  cases event with
  | newProcess => exact objects_counted_booted system.storage
  | call call env => exact objects_counted_call sha256 env system call counted

/-- The objects are counted in every reachable state. -/
theorem objects_counted_reachable (sha256 : Sha256) (system : System)
    (reached : Reachable sha256 system) : ObjectsCounted system := by
  apply Runs.invariant_reachable (step sha256) Booted ObjectsCounted
  · intro start booted
    rw [booted]
    exact objects_counted_booted start.storage
  · exact objects_counted_step sha256
  · exact reached

/-! ## Exact capacity -/

section Capacity

variable (env : Env) (system : System) (counted : ObjectsCounted system)

include counted

/-- Below capacity the scan of `hsm_create_object` stops inside the array. -/
theorem create_scan_stops (context : HsmContext) (present : system.gHsmContext = some context)
    (room : context.slot.objectCount < hsmMaxObjects) :
    ∃ index, firstFree context.slot.objects = some index := by
  apply first_free_exists
  rw [ObjectsCounted, object_count_present system context present,
    objects_present system context present] at counted
  omega

/-- A creation succeeds exactly when it passes its checks. -/
theorem create_object_ok_iff (hSession : CkSessionHandle) (template : List CkAttribute) :
    (cCreateObject env system hSession (some template) true).1 = .ok ↔
      ∃ found, Creates env system hSession found := by
  constructor
  · exact create_object_checked env system hSession template
  · rintro ⟨found, session, room, memory⟩
    obtain ⟨present, -, -⟩ := get_session_sound system hSession found session
    obtain ⟨index, free⟩ := create_scan_stops system counted found.context present room
    rw [create_object_succeeds env system hSession template found index session room free memory]

/-- With a session and memory `C_CreateObject` stores the object or finds the table full. -/
theorem create_object_outcome (hSession : CkSessionHandle) (template : List CkAttribute)
    (found : FoundSession) (session : hsmGetSession system hSession = .ok found)
    (memory : env.calloc 0 = true) :
    (count system.objects < hsmMaxObjects ∧ ∃ index,
        firstFree found.slot.objects = some index ∧
        cCreateObject env system hSession (some template) true =
          (.ok, some (createdObject template system.handleCounter).handle,
            system.withCreated found index template (env.objectWrite 0))) ∨
      (count system.objects = hsmMaxObjects ∧
        cCreateObject env system hSession (some template) true = (.hostMemory, none, system)) := by
  obtain ⟨present, -, -⟩ := get_session_sound system hSession found session
  have same : found.slot.objectCount = count system.objects :=
    (object_count_present system found.context present).symm.trans counted
  have most := count_le_capacity system.objects
  by_cases room : found.slot.objectCount < hsmMaxObjects
  · obtain ⟨index, free⟩ := create_scan_stops system counted found.context present room
    exact Or.inl ⟨same ▸ room, index, free,
      create_object_succeeds env system hSession template found index session room free memory⟩
  · refine Or.inr ⟨by omega, ?_⟩
    simp only [cCreateObject, session, hsmCreateObject, if_pos (Nat.le_of_not_lt room)]

end Capacity

/-- With a user, memory and both halves `C_GenerateKeyPair` lacks room exactly when fewer
than two entries are free. -/
theorem generate_key_pair_room_iff (env : Env) (system : System) (hSession : CkSessionHandle)
    (mechanism : CkMechanismType) (publicTemplate privateTemplate : List CkAttribute)
    (found : FoundSession) (halves : HsmObject × HsmObject)
    (session : hsmGetSession system hSession = .ok found)
    (user : found.session.userLoggedIn = true)
    (memory : env.calloc 0 = true ∧ env.calloc 1 = true)
    (generated : generateHalves env mechanism publicTemplate privateTemplate = .ok halves) :
    (cGenerateKeyPair env system hSession (some mechanism) publicTemplate privateTemplate true
        true).1 = .hostMemory ↔ (freeIndices system.objects).length < 2 := by
  obtain ⟨present, -, -⟩ := get_session_sound system hSession found session
  have inserted : cGenerateKeyPair env system hSession (some mechanism) publicTemplate
      privateTemplate true true = insertKeyPair env system found.context halves.1 halves.2 := by
    simp [cGenerateKeyPair, session, user, memory.1, memory.2, generated]
  rw [objects_present system found.context present, inserted]
  unfold insertKeyPair
  simp only
  split
  · rename_i pubIdx privIdx rest free
    refine iff_of_false CkRv.noConfusion ?_
    rw [free]
    exact Nat.not_lt_of_le (Nat.le_add_left 2 rest.length)
  · rename_i short
    refine iff_of_true rfl ?_
    cases free : freeIndices found.context.slot.objects with
    | nil => exact Nat.two_pos
    | cons pubIdx others =>
      cases others with
      | nil => exact Nat.one_lt_two
      | cons privIdx rest => exact absurd free (short pubIdx privIdx rest)

/-- The entries at which a key pair is stored. -/
structure StoredAt (before after : Table hsmMaxObjects HsmObject)
    (handles : CkObjectHandle × CkObjectHandle) (pubIdx privIdx : Fin hsmMaxObjects) : Prop where
  distinct : pubIdx ≠ privIdx
  free : before pubIdx = none ∧ before privIdx = none
  publicKey : ∃ object, after pubIdx = some object ∧ object.handle = handles.1
  privateKey : ∃ object, after privIdx = some object ∧ object.handle = handles.2
  others : ∀ index, index ≠ pubIdx → index ≠ privIdx → after index = before index

/-- A key pair is stored at two distinct entries that were free, and nowhere else. -/
theorem generate_key_pair_places (env : Env) (system after : System) (hSession : CkSessionHandle)
    (pMechanism : Option CkMechanismType) (publicTemplate privateTemplate : List CkAttribute)
    (phPublicKey phPrivateKey : Bool) (handles : CkObjectHandle × CkObjectHandle)
    (stored : cGenerateKeyPair env system hSession pMechanism publicTemplate privateTemplate
      phPublicKey phPrivateKey = (.ok, some handles, after)) :
    ∃ pubIdx privIdx, StoredAt system.objects after.objects handles pubIdx privIdx := by
  rcases generate_key_pair_cases env system hSession pMechanism publicTemplate privateTemplate
      phPublicKey phPrivateKey with
    ⟨rv, failed, same⟩ | ⟨mechanism, found, pubObj, privObj, pubIdx, privIdx, rest, -, -, -,
      session, -, -, free, same⟩
  · rw [same] at stored
    exact absurd (congrArg Prod.fst stored) failed
  · rw [same] at stored
    obtain ⟨-, rest⟩ := Prod.mk.inj stored
    obtain ⟨named, rfl⟩ := Prod.mk.inj rest
    obtain rfl := Option.some.inj named
    obtain ⟨pubFree, privFree, different, afterwards⟩ := key_pair_entries env system hSession found
      pubIdx privIdx _ pubObj privObj session free
    obtain ⟨pubEntry, privEntry, others⟩ := put_pair system.objects pubIdx privIdx
      (some (storedPublicKey pubObj system.handleCounter))
      (some (storedPrivateKey privObj system.handleCounter)) different
    refine ⟨pubIdx, privIdx, different, ⟨pubFree, privFree⟩, ?_, ?_, ?_⟩
    · exact ⟨_, (congrFun afterwards pubIdx).trans pubEntry, rfl⟩
    · exact ⟨_, (congrFun afterwards privIdx).trans privEntry, rfl⟩
    · intro index notPub notPriv
      rw [afterwards]
      exact others index (List.not_mem_cons_of_ne_of_not_mem notPub
        (List.not_mem_cons_of_ne_of_not_mem notPriv List.not_mem_nil))

/-- Creations on one session, one after the other. -/
def creationsOn (hSession : CkSessionHandle) (creations : List (List CkAttribute × Env)) :
    List Event :=
  creations.map fun creation => .call (.createObject hSession (some creation.1) true) creation.2

/-- The call succeeds. -/
def Succeeds (sha256 : Sha256) (system : System) (event : Event) : Prop :=
  (step sha256 system event).1.rv = .ok

/-- With room one creation succeeds. It counts one object more and takes one handle, and the
session is found again as it was. -/
theorem creation_succeeds (sha256 : Sha256) (env : Env) (system : System)
    (counted : ObjectsCounted system) (hSession : CkSessionHandle) (template : List CkAttribute)
    (found : FoundSession) (session : hsmGetSession system hSession = .ok found)
    (memory : env.calloc 0 = true) (room : count system.objects < hsmMaxObjects) :
    ∃ handle created later, step sha256 system
          (.call (.createObject hSession (some template) true) env) =
        (⟨.ok, .handle (some handle)⟩, created) ∧
      ObjectsCounted created ∧ count created.objects = count system.objects + 1 ∧
      created.handleCounter = advanceCounter system.handleCounter ∧
      hsmGetSession created hSession = .ok later ∧ later.session = found.session := by
  rcases create_object_outcome env system counted hSession template found session memory
    with ⟨-, index, free, stored⟩ | ⟨full, -⟩
  · have taken : (step sha256 system (.call (.createObject hSession (some template) true) env)) =
        (⟨.ok, .handle (some (createdObject template system.handleCounter).handle)⟩,
          system.withCreated found index template (env.objectWrite 0)) := by
      simp only [step, callStep, stored]
    have countedNext := objects_counted_call sha256 env system
      (.createObject hSession (some template) true) counted
    rw [show callStep sha256 env system (.createObject hSession (some template) true) = _
      from taken] at countedNext
    obtain ⟨vacant, filled⟩ := created_entry system hSession found index template
      (env.objectWrite 0) session free
    refine ⟨_, _, _, taken, countedNext, ?_, rfl,
      get_session_kept system _ hSession found _ session rfl rfl, rfl⟩
    rw [filled]
    exact count_fill system.objects index _ vacant
  · omega

/-- Creations succeed one after the other exactly as long as the table has room for
them. -/
theorem creations_succeed_iff (sha256 : Sha256) (hSession : CkSessionHandle)
    (creations : List (List CkAttribute × Env)) (system : System) (counted : ObjectsCounted system)
    (found : FoundSession) (session : hsmGetSession system hSession = .ok found)
    (memory : ∀ creation ∈ creations, creation.2.calloc 0 = true) :
    Runs.EveryStep (step sha256) (Succeeds sha256) system (creationsOn hSession creations) ↔
      creations.length + count system.objects ≤ hsmMaxObjects := by
  induction creations generalizing system found with
  | nil => exact iff_of_true trivial (by simpa using count_le_capacity system.objects)
  | cons creation rest inductionHypothesis =>
    have enough := memory creation List.mem_cons_self
    rcases Nat.lt_or_ge (count system.objects) hsmMaxObjects with room | full
    · obtain ⟨handle, created, later, taken, countedNext, next, -, stays, -⟩ :=
        creation_succeeds sha256 creation.2 system counted hSession creation.1 found session enough
          room
      have rest_iff := inductionHypothesis created countedNext later stays fun other member =>
        memory other (List.mem_cons_of_mem _ member)
      change Succeeds sha256 system _ ∧ Runs.EveryStep _ _ (step sha256 system _).2 _ ↔ _
      rw [taken]
      change Succeeds sha256 system _ ∧
        Runs.EveryStep (step sha256) (Succeeds sha256) created (creationsOn hSession rest) ↔ _
      rw [rest_iff, next, List.length_cons]
      constructor
      · rintro ⟨-, fits⟩
        omega
      · intro fits
        refine ⟨?_, by omega⟩
        change (step sha256 system _).1.rv = .ok
        rw [taken]
    · refine iff_of_false ?_ (by simp only [List.length_cons]; omega)
      rintro ⟨first, -⟩
      rcases create_object_outcome creation.2 system counted hSession creation.1 found session
        enough with ⟨room, -⟩ | ⟨-, refused⟩
      · omega
      · have answered : (step sha256 system
            (.call (.createObject hSession (some creation.1) true) creation.2)).1.rv =
            .hostMemory := by
          simp only [step, callStep, refused]
        cases answered.symm.trans first

/-! ## Every reachable state -/

/-- The table is counted, both searches for free entries are exact, and the room for
further objects is what the live ones leave. -/
structure ObjectTableSound (sha256 : Sha256) (system : System) : Prop where
  counted : system.objectCount = count system.objects ∧ system.objectCount ≤ hsmMaxObjects
  scanStops : ∀ context, system.gHsmContext = some context →
    context.slot.objectCount < hsmMaxObjects → ∃ index, firstFree context.slot.objects = some index
  creates : ∀ env hSession template found, hsmGetSession system hSession = .ok found →
    env.calloc 0 = true →
    ((cCreateObject env system hSession (some template) true).1 = .hostMemory ↔
      count system.objects = hsmMaxObjects)
  generates : ∀ env hSession mechanism publicTemplate privateTemplate found halves,
    hsmGetSession system hSession = .ok found → found.session.userLoggedIn = true →
    env.calloc 0 = true ∧ env.calloc 1 = true →
    generateHalves env mechanism publicTemplate privateTemplate = .ok halves →
    ((cGenerateKeyPair env system hSession (some mechanism) publicTemplate privateTemplate true
        true).1 = .hostMemory ↔ (freeIndices system.objects).length < 2)
  places : ∀ env hSession pMechanism publicTemplate privateTemplate phPublicKey phPrivateKey
    handles after,
    cGenerateKeyPair env system hSession pMechanism publicTemplate privateTemplate phPublicKey
      phPrivateKey = (.ok, some handles, after) →
    ∃ pubIdx privIdx, StoredAt system.objects after.objects handles pubIdx privIdx
  capacity : ∀ hSession found creations, hsmGetSession system hSession = .ok found →
    (∀ creation ∈ creations, creation.2.calloc 0 = true) →
    (Runs.EveryStep (step sha256) (Succeeds sha256) system (creationsOn hSession creations) ↔
      creations.length ≤ hsmMaxObjects - count system.objects)

/-- The object table is sound in every reachable state. -/
theorem object_table_sound (sha256 : Sha256) (system : System)
    (reached : Reachable sha256 system) : ObjectTableSound sha256 system := by
  have counted := objects_counted_reachable sha256 system reached
  have most := count_le_capacity system.objects
  constructor
  · exact ⟨counted, counted.trans_le most⟩
  · exact create_scan_stops system counted
  · intro env hSession template found session memory
    rcases create_object_outcome env system counted hSession template found session memory with
      ⟨room, index, -, stored⟩ | ⟨full, refused⟩
    · rw [stored]
      exact iff_of_false CkRv.noConfusion (Nat.ne_of_lt room)
    · rw [refused]
      exact iff_of_true rfl full
  · intro env hSession mechanism publicTemplate privateTemplate found halves
    exact generate_key_pair_room_iff env system hSession mechanism publicTemplate privateTemplate
      found halves
  · intro env hSession pMechanism publicTemplate privateTemplate phPublicKey phPrivateKey handles
      after
    exact generate_key_pair_places env system after hSession pMechanism publicTemplate
      privateTemplate phPublicKey phPrivateKey handles
  · intro hSession found creations session memory
    rw [creations_succeed_iff sha256 hSession creations system counted found session memory]
    omega

/-- One object created and destroyed again, one created and kept. -/
def twoCreations : List Event :=
  [calmly .initializeLibrary,
    calmly (.openSession 0 ckfSerialSession true),
    calmly (.createObject 1 (some []) true),
    calmly (.destroyObject 1 0x40000001),
    calmly (.createObject 1 (some []) true)]

theorem two_creations_sound :
    ObjectTableSound pinSha256
      (Runs.run (step pinSha256) (bootProcess freshStorage) twoCreations) :=
  object_table_sound pinSha256 _ ⟨bootProcess freshStorage, twoCreations, rfl, rfl⟩

end PstHsm
