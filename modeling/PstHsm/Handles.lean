import PstHsm.Admission
import PstHsm.Views

/-!
# Object handles

A handle is the base of a class plus the next value of one counter. The bases
are 2^28 apart and the counter starts at 1, so handles of one process are
distinct as long as the counter has not passed 2^28, whatever is destroyed in
between. One value later the public range runs into the private one: the two
objects that then share a handle are exhibited by a run that keeps the first
object and creates and destroys another one 2^28 - 1 times.
-/

namespace PstHsm

open Tables

/-- The distance between two bases. -/
def handleRange : Nat := 2 ^ 28

/-- Every base is a multiple of the range. -/
theorem handle_base_multiple (type : Nat) : ∃ factor, handleBase type = handleRange * factor := by
  rw [handleBase]
  split
  · exact ⟨1, rfl⟩
  · split
    · exact ⟨2, rfl⟩
    · split
      · exact ⟨3, rfl⟩
      · split
        · exact ⟨4, rfl⟩
        · exact ⟨0, rfl⟩

/-- Within the range a handle determines its serial number. -/
theorem handle_serial_unique (left right a b : Nat) (aLow : 1 ≤ a) (aHigh : a ≤ handleRange)
    (bLow : 1 ≤ b) (bHigh : b ≤ handleRange)
    (same : handleBase left + a = handleBase right + b) : a = b := by
  obtain ⟨m, leftBase⟩ := handle_base_multiple left
  obtain ⟨n, rightBase⟩ := handle_base_multiple right
  rw [leftBase, rightBase] at same
  rw [handleRange] at aHigh bHigh same
  omega

/-- The handle was generated in this process: a base plus a serial number that the
counter has passed. -/
def IssuedBefore (counter : Nat) (handle : CkObjectHandle) : Prop :=
  ∃ (type serial : Nat), handle = handleBase type + serial ∧ 1 ≤ serial ∧ serial < counter

/-- The counter has not passed its range, and the live objects have different
handles, all generated in this process. -/
structure HandlesIssued (store : ObjectStore) : Prop where
  started : 1 ≤ store.counter
  bounded : store.counter ≤ handleRange + 1
  distinct : KeysDistinct HsmObject.handle store.objects
  issued : ∀ index object, store.objects index = some object →
    IssuedBefore store.counter object.handle

/-- The next handle is not yet in use while the counter is within the range. -/
theorem next_handle_fresh (counter type : Nat) (started : 1 ≤ counter)
    (within : counter ≤ handleRange) (handle : CkObjectHandle)
    (issued : IssuedBefore counter handle) : handle ≠ handleBase type + counter := by
  obtain ⟨owner, serial, rfl, low, passed⟩ := issued
  intro same
  have collision :=
    handle_serial_unique owner type serial counter low (by omega) started within same
  omega

/-- Within the range the counter does not wrap. -/
theorem counter_next (counter : Nat) (within : counter ≤ handleRange + 1) :
    advanceCounter counter = counter + 1 := by
  rw [advanceCounter]
  rw [handleRange] at within
  omega

/-- Two values later it is still in the range only if one value later it is. -/
theorem counter_room (counter : Nat) (bounded : counter ≤ handleRange + 1)
    (last : advanceCounter (advanceCounter counter) ≤ handleRange + 1) :
    advanceCounter counter ≤ handleRange + 1 := by
  rw [counter_next counter bounded] at last ⊢
  rw [advanceCounter] at last
  rw [handleRange] at bounded last ⊢
  omega

/-- Handles stay issued as the counter goes up. -/
theorem issued_later (counter later : Nat) (handle : CkObjectHandle) (upward : counter ≤ later)
    (issued : IssuedBefore counter handle) : IssuedBefore later handle := by
  obtain ⟨owner, serial, same, low, passed⟩ := issued
  exact ⟨owner, serial, same, low, Nat.lt_of_lt_of_le passed upward⟩

/-- Adding an object under the next handle keeps the handles issued. -/
theorem handles_issued_added (store : ObjectStore) (index : Fin hsmMaxObjects)
    (object : HsmObject) (outcome : WriteOutcome) (type : Nat) (issued : HandlesIssued store)
    (within : (store.added index object outcome).counter ≤ handleRange + 1)
    (generated : object.handle = handleBase type + store.counter) :
    HandlesIssued (store.added index object outcome) := by
  have started := issued.started
  have advanced : (store.added index object outcome).counter = store.counter + 1 :=
    counter_next store.counter issued.bounded
  constructor
  · omega
  · exact within
  · apply keys_distinct_fill HsmObject.handle store.objects index object issued.distinct
    intro tested stored present
    rw [generated]
    exact next_handle_fresh store.counter type started (by omega) stored.handle
      (issued.issued tested stored present)
  · apply entries_put
    · intro tested stored present
      exact issued_later store.counter _ stored.handle (by omega)
        (issued.issued tested stored present)
    · rintro stored ⟨⟩
      exact ⟨type, store.counter, generated, started, by omega⟩

/-- One step of the object store keeps the handles issued while its counter stays
in the range. -/
theorem handles_issued_store (env : Env) (call : Call) (store after : ObjectStore)
    (change : StoreStep env store call after) (issued : HandlesIssued store)
    (within : after.counter ≤ handleRange + 1) : HandlesIssued after := by
  cases change with
  | kept => exact issued
  | dropped =>
    exact ⟨issued.started, issued.bounded, keys_distinct_empty HsmObject.handle, nofun⟩
  | created hSession template index free =>
    exact handles_issued_added store index _ _ _ issued within rfl
  | destroyed hSession index object present =>
    refine ⟨issued.started, issued.bounded,
      keys_distinct_remove HsmObject.handle _ index issued.distinct, ?_⟩
    exact entries_put _ store.objects index none issued.issued nofun
  | relabelled hSession template index object present =>
    obtain ⟨label, same⟩ := set_attribute_value_label template object
    rw [same]
    refine ⟨issued.started, issued.bounded,
      keys_distinct_replace HsmObject.handle _ index object _ issued.distinct present rfl, ?_⟩
    apply entries_put _ store.objects index _ issued.issued
    rintro stored ⟨⟩
    exact issued.issued index object present
  | paired hSession mechanism publicTemplate privateTemplate pubObj privObj pubIdx privIdx
      generated pubFree privFree different =>
    have first : HandlesIssued (store.added pubIdx (storedPublicKey pubObj store.counter)
        (env.objectWrite 0)) := by
      apply handles_issued_added store pubIdx _ _ objTypePublicKey issued
      · exact counter_room store.counter issued.bounded within
      · rfl
    exact handles_issued_added _ privIdx _ _ objTypePrivateKey first within rfl

/-- From within the range the counter only goes up. -/
theorem store_counter_upward (env : Env) (call : Call) (store after : ObjectStore)
    (change : StoreStep env store call after) (bounded : store.counter ≤ handleRange + 1) :
    store.counter ≤ after.counter := by
  have next := counter_next store.counter bounded
  cases change with
  | created hSession template index free =>
    change store.counter ≤ advanceCounter store.counter
    omega
  | paired hSession mechanism publicTemplate privateTemplate =>
    change store.counter ≤ advanceCounter (advanceCounter store.counter)
    rw [next]
    rw [advanceCounter]
    rw [handleRange] at bounded
    omega
  | _ => exact Nat.le_refl _

/-- The calls that pass their checks, and so generate handles, are made while the counter allows
it. -/
def generatesWithin (bound : Nat) (system : System) : Event → Bool
  | .call (.createObject hSession (some _) true) env =>
    decide ((∃ found, Creates env system hSession found) → system.handleCounter ≤ bound)
  | .call (.generateKeyPair hSession (some mechanism) publicTemplate _ true true) env =>
    decide ((∃ found, Generates env system hSession mechanism publicTemplate found) →
      system.handleCounter < bound)
  | _ => true

/-- A creation below the bound is admitted whether or not it succeeds. -/
theorem creation_within (bound : Nat) (system : System) (hSession : CkSessionHandle)
    (template : List CkAttribute) (env : Env) (below : system.handleCounter ≤ bound) :
    generatesWithin bound system (.call (.createObject hSession (some template) true) env) =
      true := decide_eq_true fun _ => below

/-- Such a call leaves the counter in its range. -/
theorem generates_within_bounded (sha256 : Sha256) (env : Env) (system : System) (call : Call)
    (bounded : system.handleCounter ≤ handleRange + 1)
    (within : generatesWithin handleRange system (.call call env) = true) :
    (callStep sha256 env system call).2.handleCounter ≤ handleRange + 1 := by
  have next := counter_next system.handleCounter bounded
  have change := store_step sha256 env system call
  change (callStep sha256 env system call).2.objectStore.counter ≤ handleRange + 1
  generalize stored : (callStep sha256 env system call).2.objectStore = after at change
  cases change with
  | created hSession template index free =>
    have admitted : (∃ found, Creates env system hSession found) →
        system.handleCounter ≤ handleRange := of_decide_eq_true within
    rcases create_object_cases env system hSession (some template) true with
      ⟨rv, -, same⟩ | ⟨_, found, _, ⟨⟩, -, -, -, -, same⟩
    · have counter : (callStep sha256 env system
          (.createObject hSession (some template) true)).2.handleCounter =
          system.handleCounter := congrArg (fun result => result.2.2.handleCounter) same
      rw [← stored]
      exact counter.trans_le bounded
    · have room := admitted (create_object_checked env system hSession template (by rw [same]))
      change advanceCounter system.handleCounter ≤ handleRange + 1
      omega
  | paired hSession mechanism publicTemplate privateTemplate =>
    have admitted : (∃ found, Generates env system hSession mechanism publicTemplate found) →
        system.handleCounter < handleRange := of_decide_eq_true within
    rcases generate_key_pair_cases env system hSession (some mechanism) publicTemplate
        privateTemplate true true with
      ⟨rv, -, same⟩ | ⟨_, found, _, _, _, _, _, ⟨⟩, -, -, -, -, -, -, same⟩
    · have counter : (callStep sha256 env system (.generateKeyPair hSession (some mechanism)
          publicTemplate privateTemplate true true)).2.handleCounter = system.handleCounter :=
        congrArg (fun result => result.2.2.handleCounter) same
      rw [← stored]
      exact counter.trans_le bounded
    · have room := admitted ((generate_key_pair_ok_iff env system hSession mechanism publicTemplate
        privateTemplate).mp (by rw [same]))
      change advanceCounter (advanceCounter system.handleCounter) ≤ handleRange + 1
      rw [next, counter_next (system.handleCounter + 1) (by omega)]
      omega
  | _ => exact bounded

/-- One call within the range keeps the handles issued. -/
theorem handles_issued_call (sha256 : Sha256) (env : Env) (system : System) (call : Call)
    (issued : HandlesIssued system.objectStore)
    (within : generatesWithin handleRange system (.call call env) = true) :
    HandlesIssued (callStep sha256 env system call).2.objectStore := by
  exact handles_issued_store env call _ _ (store_step sha256 env system call) issued
    (generates_within_bounded sha256 env system call issued.bounded within)

/-- A process that has just started has issued no handle. -/
theorem handles_issued_booted (storage : Storage) :
    HandlesIssued (bootProcess storage).objectStore := by
  have bounded : 1 ≤ handleRange + 1 := by decide
  exact ⟨Nat.le_refl 1, bounded, keys_distinct_empty HsmObject.handle, nofun⟩

/-- One event within the range keeps the handles issued. -/
theorem handles_issued_step (sha256 : Sha256) (system : System) (event : Event)
    (issued : HandlesIssued system.objectStore)
    (within : generatesWithin handleRange system event = true) :
    HandlesIssued (step sha256 system event).2.objectStore := by
  cases event with
  | call call env => exact handles_issued_call sha256 env system call issued within
  | newProcess => exact handles_issued_booted system.storage

/-- In a run within the range the handles are issued. -/
theorem handles_issued_run (sha256 : Sha256) (system : System) (events : List Event)
    (booted : Booted system)
    (admitted : Runs.EveryStep (step sha256) (fun s e => generatesWithin handleRange s e = true)
      system events) :
    HandlesIssued (Runs.run (step sha256) system events).objectStore := by
  apply Runs.invariant_run (step sha256) (fun s => HandlesIssued s.objectStore)
    (fun s e => generatesWithin handleRange s e = true)
  · exact handles_issued_step sha256
  · rw [booted]
    exact handles_issued_booted system.storage
  · exact admitted

/-- The set-up generates no handle. -/
theorem set_up_issued : HandlesIssued userReady.objectStore := by
  have admitted : Runs.EveryStep (step pinSha256)
      (fun s e => generatesWithin handleRange s e = true) (bootProcess freshStorage)
      tokenSetUp := by decide +kernel
  exact handles_issued_run pinSha256 (bootProcess freshStorage) tokenSetUp rfl admitted

/-- Different live objects have different handles, and a lookup by an object's
handle, as `C_DestroyObject` and the others make it, finds that very object. -/
def HandlesIdentify (system : System) : Prop :=
  KeysDistinct HsmObject.handle system.objects ∧
    ∀ context index object, system.gHsmContext = some context →
      context.slot.objects index = some object →
      hsmGetObject context.slot object.handle = .ok (index, object)

/-- Issued handles identify the live objects. -/
theorem issued_handles_identify (system : System) (issued : HandlesIssued system.objectStore) :
    HandlesIdentify system := by
  refine ⟨issued.distinct, ?_⟩
  intro context index object present entry
  have distinct : KeysDistinct HsmObject.handle context.slot.objects := by
    rw [← objects_present system context present]
    exact issued.distinct
  have located := find_by_key HsmObject.handle context.slot.objects index object distinct entry
  unfold hsmGetObject
  rw [located]

/-- A larger bound admits more calls. -/
theorem generates_within_mono (system : System) (event : Event) (small large : Nat)
    (below : small ≤ large) (within : generatesWithin small system event = true) :
    generatesWithin large system event = true := by
  unfold generatesWithin at within ⊢
  split
  · exact decide_eq_true fun creates => (of_decide_eq_true within creates).trans below
  · exact decide_eq_true fun generates => (of_decide_eq_true within generates).trans_le below
  · rfl

/-! ## The run in which two objects share a handle -/

/-- A template that gives the class only. -/
def classTemplate (type : Nat) : List CkAttribute :=
  [⟨ckaClass, some (Bytes.littleEndian 8 type), 8⟩]

/-- Initialize, open a session, and create an object of the private class. -/
def collisionOpening : List Event :=
  [calmly .initializeLibrary,
    calmly (.openSession 0 (ckfSerialSession ||| ckfRwSession) true),
    calmly (.createObject 1 (some (classTemplate objTypePrivateKey)) true)]

/-- Create a data object and destroy it again, the given number of times. -/
def churn : Nat → Nat → List Event
  | 0, _ => []
  | rounds + 1, counter =>
    calmly (.createObject 1 (some []) true) ::
      calmly (.destroyObject 1 (objectHandleDataBase + counter)) :: churn rounds (counter + 1)

/-- Create an object of the public class last. -/
def collidingRun : List Event :=
  collisionOpening ++ churn (handleRange - 1) 2 ++
    [calmly (.createObject 1 (some (classTemplate objTypePublicKey)) true)]

/-- The process after the opening. -/
def collisionBase : System :=
  (cCreateObject (calmEnv 1)
    (cOpenSession (calmEnv 1) (cInitialize (calmEnv 1) (bootProcess freshStorage)).2 0
      (ckfSerialSession ||| ckfRwSession) true).2.2 1
    (some (classTemplate objTypePrivateKey)) true).2.2

theorem collision_opening_ends (sha256 : Sha256) :
    Runs.run (step sha256) (bootProcess freshStorage) collisionOpening = collisionBase := by
  have initializes (system : System) : (step sha256 system (calmly .initializeLibrary)).2 =
      (cInitialize (calmEnv 1) system).2 := rfl
  have opens (system : System) (flags : CkFlags) :
      (step sha256 system (calmly (.openSession 0 flags true))).2 =
        (cOpenSession (calmEnv 1) system 0 flags true).2.2 := rfl
  have creates (system : System) (template : List CkAttribute) :
      (step sha256 system (calmly (.createObject 1 (some template) true))).2 =
        (cCreateObject (calmEnv 1) system 1 (some template) true).2.2 := rfl
  simp only [collisionOpening, Runs.run, initializes, opens, creates, collisionBase]

/-- The same process with another value of the handle counter. -/
def System.atCounter (system : System) (counter : Nat) : System :=
  { system with handleCounter := counter }

theorem at_counter_same (system : System) (counter : Nat)
    (same : system.handleCounter = counter) : system.atCounter counter = system := by
  rw [← same]
  rfl

/-- What the churn needs of the process it runs in: session 1 is open, the table has
room for one more object, and no data object is left. -/
structure Churns (system : System) (found : FoundSession) (index : Fin hsmMaxObjects) : Prop where
  session : hsmGetSession system 1 = .ok found
  room : found.slot.objectCount < hsmMaxObjects
  free : firstFree found.slot.objects = some index
  below : ∀ tested object, found.slot.objects tested = some object →
    object.handle < objectHandleDataBase

/-- The counter does not matter for it. -/
theorem churns_at_counter (system : System) (found : FoundSession) (index : Fin hsmMaxObjects)
    (counter : Nat) (churns : Churns system found index) :
    Churns (system.atCounter counter) found index :=
  ⟨churns.session, churns.room, churns.free, churns.below⟩

/-- One round of the churn: the object created is found again by its handle, so
only the counter differs afterwards. -/
theorem churn_round (sha256 : Sha256) (system : System) (found : FoundSession)
    (index : Fin hsmMaxObjects) (churns : Churns system found index) :
    Runs.run (step sha256) system
        [calmly (.createObject 1 (some []) true),
          calmly (.destroyObject 1 (objectHandleDataBase + system.handleCounter))] =
      system.atCounter (advanceCounter system.handleCounter) := by
  obtain ⟨session, room, free, below⟩ := churns
  obtain ⟨present, -, -⟩ := get_session_sound system 1 found session
  have vacant := first_free_sound found.slot.objects index free
  let object := createdObject [] system.handleCounter
  let slot := found.slot.withObject index (some object) (found.slot.objectCount + 1)
  let filled : System :=
    { system.withSlot found.context slot with
      handleCounter := advanceCounter system.handleCounter }
  have created : (cCreateObject (calmEnv 1) system 1 (some []) true).2.2 = filled :=
    congrArg (fun result => result.2.2)
      (create_object_succeeds (calmEnv 1) system 1 [] found index session room free rfl)
  have located : hsmGetSession filled 1 =
      .ok ⟨{ found.context with slot := slot }, found.index, found.session⟩ :=
    get_session_kept system filled 1 found _ session rfl rfl
  have named : object.handle = objectHandleDataBase + system.handleCounter := rfl
  have searched : find slot.objects (fun stored =>
      decide (stored.handle = objectHandleDataBase + system.handleCounter)) =
      some (index, object) := by
    apply find_only slot.objects _ index object (put_self _ _ _) (decide_eq_true named)
    intro tested stored there accepted
    by_contra elsewhere
    have lower := below tested stored ((put_other _ _ _ _ elsewhere).symm.trans there)
    rw [of_decide_eq_true accepted] at lower
    exact absurd lower (Nat.not_lt_of_le (Nat.le_add_right _ _))
  have lookup : hsmGetObject slot (objectHandleDataBase + system.handleCounter) =
      .ok (index, object) := by
    unfold hsmGetObject
    rw [searched]
  have restored : slot.withObject index none (slot.objectCount - 1) = found.slot := by
    have objects := put_restored found.slot.objects index (some object) vacant
    simp only [slot, HsmSlot.withObject, objects, Nat.add_sub_cancel]
  have destroyed := destroy_object_succeeds (calmEnv 1) filled 1 _ _ index object located lookup
  change (cDestroyObject (calmEnv 1) (cCreateObject (calmEnv 1) system 1 (some []) true).2.2 1
    (objectHandleDataBase + system.handleCounter)).2 = _
  rw [created, destroyed]
  have back := with_slot_same system found.context present
  calc ({ filled.withSlot { found.context with slot := slot }
        (slot.withObject index none (slot.objectCount - 1)) with
      storage := storageWithout (calmEnv 1) object filled.storage } : System)
      = (system.withSlot found.context
          (slot.withObject index none (slot.objectCount - 1))).atCounter
            (advanceCounter system.handleCounter) := rfl
    _ = system.atCounter (advanceCounter system.handleCounter) := by
      rw [restored, show found.slot = found.context.slot from rfl, back]

/-- The churn only advances the counter, and every creation in it is within a bound
that the last one meets. -/
theorem churn_run (sha256 : Sha256) (system : System) (found : FoundSession)
    (index : Fin hsmMaxObjects) (churns : Churns system found index)
    (bound rounds counter : Nat) (narrow : counter + rounds < 2 ^ 32)
    (within : counter + rounds ≤ bound + 1) :
    Runs.run (step sha256) (system.atCounter counter) (churn rounds counter) =
        system.atCounter (counter + rounds) ∧
      Runs.EveryStep (step sha256) (fun s e => generatesWithin bound s e = true)
        (system.atCounter counter) (churn rounds counter) := by
  induction rounds generalizing counter with
  | zero => exact ⟨rfl, trivial⟩
  | succ rounds inductionHypothesis =>
    have round := churn_round sha256 (system.atCounter counter) found index
      (churns_at_counter system found index counter churns)
    have advanced : advanceCounter counter = counter + 1 := by
      rw [advanceCounter]
      omega
    have next : Runs.run (step sha256) (system.atCounter counter)
        [calmly (.createObject 1 (some []) true),
          calmly (.destroyObject 1 (objectHandleDataBase + counter))] =
        system.atCounter (counter + 1) := by
      rw [← advanced]
      exact round
    obtain ⟨ends, later⟩ := inductionHypothesis (counter + 1) (by omega) (by omega)
    have split : churn (rounds + 1) counter =
        [calmly (.createObject 1 (some []) true),
          calmly (.destroyObject 1 (objectHandleDataBase + counter))] ++
          churn rounds (counter + 1) := rfl
    rw [split, Runs.run_append, Runs.every_step_append, next]
    refine ⟨?_, ⟨?_, rfl, trivial⟩, later⟩
    · rw [ends]
      exact congrArg system.atCounter (by omega)
    · exact creation_within bound _ 1 [] (calmEnv 1) (show counter ≤ bound by omega)

/-- Creating an object whose handle a live object already has leaves the two behind. -/
theorem create_object_collides (sha256 : Sha256) (system : System) (found : FoundSession)
    (index other : Fin hsmMaxObjects) (template : List CkAttribute) (object : HsmObject)
    (churns : Churns system found index) (entry : found.slot.objects other = some object)
    (apart : other ≠ index)
    (same : (createdObject template system.handleCounter).handle = object.handle) :
    ¬ HandlesIdentify
      (step sha256 system (calmly (.createObject 1 (some template) true))).2 := by
  intro identify
  have created := create_object_succeeds (calmEnv 1) system 1 template found index churns.session
    churns.room churns.free rfl
  have objects : (step sha256 system
      (calmly (.createObject 1 (some template) true))).2.objects =
      put found.slot.objects index (some (createdObject template system.handleCounter)) :=
    congrArg (fun result => result.2.2.objects) created
  have distinct := identify.1
  rw [objects] at distinct
  have stays := (put_other found.slot.objects index other
    (some (createdObject template system.handleCounter)) apart).trans entry
  exact apart (distinct other index _ _ stays (put_self _ _ _) same.symm)

/-- The entries that the two objects of the collision occupy. -/
def privateIndex : Fin hsmMaxObjects := ⟨0, by decide⟩
def publicIndex : Fin hsmMaxObjects := ⟨1, by decide⟩

/-- The process can start the churn, and its first object has the first handle of the
private class. -/
def System.collisionReady (system : System) : Bool :=
  match hsmGetSession system 1 with
  | .error _ => false
  | .ok found =>
    match found.slot.objects privateIndex with
    | none => false
    | some object =>
      decide (found.slot.objectCount < hsmMaxObjects) &&
        decide (firstFree found.slot.objects = some publicIndex) &&
        decide (∀ tested, ∀ other ∈ found.slot.objects tested,
          other.handle < objectHandleDataBase) &&
        decide (object.handle = objectHandlePrivateKeyBase + 1)

/-- After the opening the churn can start, and the private object has the first
handle of its class. -/
theorem collision_base_churns :
    ∃ found object, Churns collisionBase found publicIndex ∧
      found.slot.objects privateIndex = some object ∧
      object.handle = objectHandlePrivateKeyBase + 1 := by
  have ready : collisionBase.collisionReady = true := by decide +kernel
  rw [System.collisionReady] at ready
  split at ready
  · cases ready
  · rename_i found session
    split at ready
    · cases ready
    · rename_i object entry
      simp only [Bool.and_eq_true, decide_eq_true_eq] at ready
      obtain ⟨⟨⟨room, free⟩, below⟩, named⟩ := ready
      exact ⟨found, object, ⟨session, room, free, below⟩, entry, named⟩

/-- At the end of the colliding run two live objects share a handle, and no handle
was generated later than at counter value 2^28 + 1. -/
theorem handles_collide (sha256 : Sha256) :
    ¬ HandlesIdentify (Runs.run (step sha256) (bootProcess freshStorage) collidingRun) ∧
      Runs.EveryStep (step sha256) (fun s e => generatesWithin (handleRange + 1) s e = true)
        (bootProcess freshStorage) collidingRun := by
  obtain ⟨found, privateObject, churns, entry, named⟩ := collision_base_churns
  have opened : Runs.run (step sha256) (bootProcess freshStorage) collisionOpening =
      collisionBase.atCounter 2 := by
    rw [at_counter_same collisionBase 2 (by decide +kernel)]
    exact collision_opening_ends sha256
  obtain ⟨ends, churned⟩ := churn_run sha256 collisionBase found publicIndex churns
    (handleRange + 1) (handleRange - 1) 2 (by decide) (by decide)
  have started : Runs.EveryStep (step sha256)
      (fun s e => generatesWithin (handleRange + 1) s e = true) (bootProcess freshStorage)
      collisionOpening := by
    refine ⟨rfl, rfl, ?_, trivial⟩
    exact creation_within _ _ _ _ _ (show 1 ≤ handleRange + 1 by decide)
  have last : (2 : Nat) + (handleRange - 1) = handleRange + 1 := by decide
  rw [last] at ends
  constructor
  · rw [collidingRun]
    rw [Runs.run_snoc, Runs.run_append, opened, ends]
    apply create_object_collides sha256 _ found publicIndex privateIndex
      (classTemplate objTypePublicKey) privateObject
      (churns_at_counter collisionBase found publicIndex (handleRange + 1) churns) entry
    · decide
    · exact named.symm ▸ rfl
  · rw [collidingRun]
    rw [Runs.every_step_append, Runs.every_step_append, Runs.run_append, opened, ends]
    refine ⟨⟨started, churned⟩, ?_, trivial⟩
    exact creation_within _ _ _ _ _ (Nat.le_refl (handleRange + 1))

theorem handles_collide_after_churn :
    Booted (bootProcess freshStorage) ∧
      ¬ HandlesIdentify (Runs.run (step pinSha256) (bootProcess freshStorage) collidingRun) :=
  ⟨rfl, (handles_collide pinSha256).1⟩

/-- A bound on the counter at which handles are generated keeps handles identifying
in all runs exactly when it is at most 2^28. -/
theorem handles_identify_iff (sha256 : Sha256) (bound : Nat) :
    (∀ system events, Booted system →
        Runs.EveryStep (step sha256) (fun s e => generatesWithin bound s e = true) system events →
        HandlesIdentify (Runs.run (step sha256) system events)) ↔
      bound ≤ handleRange := by
  constructor
  · intro identify
    by_contra exceeds
    obtain ⟨collide, admitted⟩ := handles_collide sha256
    apply collide
    apply identify (bootProcess freshStorage) collidingRun rfl
    apply Runs.every_step_mono (step sha256) _ _ _ _ _ admitted
    intro s e
    exact generates_within_mono s e (handleRange + 1) bound (Nat.lt_of_not_le exceeds)
  · intro below system events booted admitted
    apply issued_handles_identify
    apply handles_issued_run sha256 system events booted
    apply Runs.every_step_mono (step sha256) _ _ _ _ _ admitted
    intro s e
    exact generates_within_mono s e bound handleRange below

end PstHsm
