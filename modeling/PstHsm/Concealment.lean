import PstHsm.Projections

/-!
# Private objects are in plain sight

An object carries the flag `is_private`, but no function consults it. Whoever has
a session finds private objects, reads and relabels them, destroys them and may
start to sign with them, logged in or not. Blanking the private objects gives a
second process. A call that reaches no private object answers the same on both
and leaves every private object and its file alone; a single private object is
enough for some calls to give it away.
-/

namespace PstHsm

open Tables

/-! ## Blanking private objects -/

/-- The object may be seen without login. -/
def HsmObject.isPublic (object : HsmObject) : Bool := !object.isPrivate

def HsmSlot.concealed (slot : HsmSlot) : HsmSlot :=
  { slot with objects := restricted HsmObject.isPublic slot.objects, objectCount := 0 }

def HsmContext.concealed (context : HsmContext) : HsmContext :=
  { context with slot := context.slot.concealed }

/-- The process without its private objects. Their number and the key files go with
them. -/
def System.concealed (system : System) : System :=
  { system with
    gHsmContext := system.gHsmContext.map HsmContext.concealed
    storage := { system.storage with keyFiles := ∅ } }

/-- Blanking as a projection: every object that is left is left whole. -/
def concealing : Projection where
  object := id
  objects := restricted HsmObject.isPublic
  objectCount _ := 0
  objects_twice := restricted_twice HsmObject.isPublic
  objects_put table index entry := by simp
  count_twice _ := rfl
  count_less _ := rfl
  sameType _ := rfl
  sameCanSign _ := rfl
  sameAttributes _ _ := rfl
  sameSetting _ _ := rfl

/-! ## Calls without login -/

/-- The calls that reach objects without looking at the login state. -/
def Call.isProbe : Call → Bool
  | .findObjectsInit _ _ | .findObjects _ _ _ _ | .getAttributeValue _ _ _
  | .setAttributeValue _ _ _ | .destroyObject _ _ | .signInit _ _ _ => true
  | _ => false

/-- One of these calls on the given session. -/
def Event.probes (hSession : CkSessionHandle) : Event → Bool
  | .call made _ => made.isProbe && decide (made.hSession = some hSession)
  | .newProcess => false

/-- The session is open and the user is not logged in on it. -/
def System.anonymous (system : System) (hSession : CkSessionHandle) : Bool :=
  match hsmGetSession system hSession with
  | .error _ => false
  | .ok found => !found.session.userLoggedIn

/-- A private object has the handle. -/
def HsmSlot.namesPrivate (slot : HsmSlot) (hObject : CkObjectHandle) : Bool :=
  (live slot.objects).any fun object => object.isPrivate && decide (object.handle = hObject)

/-- The call looks up a handle that a private object has, or its search records a
private object. -/
def System.reachesPrivate (system : System) : Event → Bool
  | .call (.findObjectsInit hSession _) _ =>
    match hsmGetSession system hSession with
    | .error _ => false
    | .ok found => !found.session.findActive &&
        ((live found.slot.objects).take hsmMaxFindObjects).any HsmObject.isPrivate
  | .call (.getAttributeValue hSession hObject (some _)) _ =>
    match hsmGetSession system hSession with
    | .error _ => false
    | .ok found => found.slot.namesPrivate hObject
  | .call (.setAttributeValue hSession hObject (some _)) _ =>
    match hsmGetSession system hSession with
    | .error _ => false
    | .ok found => found.slot.namesPrivate hObject
  | .call (.destroyObject hSession hObject) _ =>
    match hsmGetSession system hSession with
    | .error _ => false
    | .ok found => found.slot.namesPrivate hObject
  | .call (.signInit hSession (some _) hKey) _ =>
    match hsmGetSession system hSession with
    | .error _ => false
    | .ok found => !found.session.operation.active && found.slot.namesPrivate hKey
  | _ => false

/-- Every private object stays in its entry, and the file of a private token object
keeps its contents. -/
def PrivateKept (before after : System) : Prop :=
  ∀ index object, before.objects index = some object → object.isPrivate = true →
    after.objects index = some object ∧
      (object.isToken = true →
        after.storage.keyFiles.lookup (objectFileName object.handle) =
          before.storage.keyFiles.lookup (objectFileName object.handle))

/-- The calls answer the same in both processes, and no private object is touched in
either. -/
structure Undisturbed (sha256 : Sha256) (left right : System) (events : List Event) : Prop where
  answers : Runs.answers (step sha256) left events = Runs.answers (step sha256) right events
  left : Runs.EveryStep (step sha256) (fun s e => PrivateKept s (step sha256 s e).2) left events
  right : Runs.EveryStep (step sha256) (fun s e => PrivateKept s (step sha256 s e).2) right events

/-- Without login nothing shows which private objects there are, and nothing happens
to them. -/
def PrivateInvisible (sha256 : Sha256) (left right : System) : Prop :=
  ∀ hSession events, left.anonymous hSession = true →
    (∀ event ∈ events, event.probes hSession = true) → Undisturbed sha256 left right events

/-! ## One call that reaches no private object -/

/-- Without a private object under the handle both lookups end alike. -/
theorem get_object_concealed (slot : HsmSlot) (hObject : CkObjectHandle)
    (unnamed : slot.namesPrivate hObject = false) : concealing.SameLookup slot hObject := by
  have same : find (restricted HsmObject.isPublic slot.objects)
      (fun object => decide (object.handle = hObject)) =
        find slot.objects (fun object => decide (object.handle = hObject)) := by
    apply find_restricted
    intro index object present named
    have member := (mem_live_iff slot.objects object).mpr ⟨index, present⟩
    have refused := List.any_eq_false.mp unnamed object member
    simpa [HsmObject.isPublic, of_decide_eq_true named] using refused
  unfold Projection.SameLookup hsmGetObject
  rw [show (concealing.slot slot).objects = restricted HsmObject.isPublic slot.objects from rfl,
    same]
  split
  · rfl
  · rfl

/-- A search that records no private object records the same handles. -/
theorem find_objects_concealed (slot : HsmSlot) (session : HsmSession)
    (unseen : ((live slot.objects).take hsmMaxFindObjects).any HsmObject.isPrivate = false) :
    hsmFindObjects slot.concealed session = hsmFindObjects slot session := by
  have same : (live slot.concealed.objects).take hsmMaxFindObjects =
      (live slot.objects).take hsmMaxFindObjects := by
    apply take_live_restricted
    intro object member
    have refused := List.any_eq_false.mp unseen object member
    simpa [HsmObject.isPublic] using refused
  unfold hsmFindObjects
  rw [same]

/-- A probe that reaches no private object answers the same on the concealed process. -/
theorem probe_alike (sha256 : Sha256) (system : System) (event : Event)
    (hSession : CkSessionHandle) (probes : event.probes hSession = true)
    (unreached : system.reachesPrivate event = false) :
    concealing.Alike (step sha256 system event) (step sha256 system.concealed event) := by
  cases event with
  | newProcess => cases probes
  | call call env =>
    change concealing.Alike (callStep sha256 env system call)
      (callStep sha256 env system.concealed call)
    cases call with
    | findObjectsInit named template =>
      apply concealing.find_objects_init sha256 env env system named template
      intro found session idle
      apply find_objects_concealed found.slot found.session
      simpa [System.reachesPrivate, session, idle] using unreached
    | findObjects named phObject ulMaxObjectCount pulObjectCount =>
      exact concealing.find_objects sha256 env env system named phObject ulMaxObjectCount
        pulObjectCount
    | getAttributeValue named hObject pTemplate =>
      apply concealing.get_attribute_value sha256 env env system named hObject pTemplate
      intro found session given
      apply get_object_concealed found.slot hObject
      cases pTemplate with
      | none => exact absurd rfl given
      | some template => simpa [System.reachesPrivate, session] using unreached
    | setAttributeValue named hObject pTemplate =>
      apply concealing.set_attribute_value sha256 env env system named hObject pTemplate
      intro found session given
      apply get_object_concealed found.slot hObject
      cases pTemplate with
      | none => exact absurd rfl given
      | some template => simpa [System.reachesPrivate, session] using unreached
    | destroyObject named hObject =>
      apply concealing.destroy_object sha256 env env system named hObject
      intro found session
      apply get_object_concealed found.slot hObject
      simpa [System.reachesPrivate, session] using unreached
    | signInit named pMechanism hKey =>
      apply concealing.sign_init sha256 env env system named pMechanism hKey
      intro found session given idle
      apply get_object_concealed found.slot hKey
      cases pMechanism with
      | none => exact absurd rfl given
      | some mechanism => simpa [System.reachesPrivate, session, idle] using unreached
    | _ => cases probes

/-- Two processes that agree after blanking answer alike to probes that reach no
private object. -/
theorem probes_answered_alike (sha256 : Sha256) (left right : System) (hSession : CkSessionHandle)
    (events : List Event) (same : left.concealed = right.concealed)
    (probes : ∀ event ∈ events, event.probes hSession = true)
    (leftUnreached :
      Runs.EveryStep (step sha256) (fun s e => s.reachesPrivate e = false) left events)
    (rightUnreached :
      Runs.EveryStep (step sha256) (fun s e => s.reachesPrivate e = false) right events) :
    Runs.answers (step sha256) left events = Runs.answers (step sha256) right events := by
  induction events generalizing left right with
  | nil => rfl
  | cons event rest inductionHypothesis =>
    have probing := probes event List.mem_cons_self
    obtain ⟨leftAnswer, leftState⟩ :=
      probe_alike sha256 left event hSession probing leftUnreached.1
    obtain ⟨rightAnswer, rightState⟩ :=
      probe_alike sha256 right event hSession probing rightUnreached.1
    rw [same] at leftAnswer leftState
    have later := inductionHypothesis _ _ (leftState.symm.trans rightState)
      (fun later member => probes later (List.mem_cons_of_mem event member)) leftUnreached.2
      rightUnreached.2
    simp only [Runs.answers]
    rw [later, leftAnswer.symm.trans rightAnswer]

/-! ## What a probe does to the object table -/

/-- A probe leaves the object table and the key files alone, destroys the object it
names, or relabels it. -/
theorem probe_store (sha256 : Sha256) (system : System) (event : Event)
    (hSession : CkSessionHandle) (probes : event.probes hSession = true) :
    (step sha256 system event).2.objectStore = system.objectStore ∨
      (∃ env index object, event = .call (.destroyObject hSession object.handle) env ∧
        system.objects index = some object ∧
        (step sha256 system event).2.objectStore =
          { system.objectStore with
            objects := put system.objects index none
            keyFiles := system.objectStore.filesWithout object env.unlink }) ∨
      ∃ env template index object label,
        event = .call (.setAttributeValue hSession object.handle (some template)) env ∧
        system.objects index = some object ∧
        (step sha256 system event).2.objectStore =
          { system.objectStore with
            objects := put system.objects index (some { object with label := label }) } := by
  cases event with
  | newProcess => cases probes
  | call call env =>
    obtain ⟨isProbe, named⟩ := (Bool.and_eq_true _ _).mp probes
    have session := of_decide_eq_true named
    have change := store_step sha256 env system call
    change (callStep sha256 env system call).2.objectStore = _ ∨ _
    have here : (step sha256 system (.call call env)).2.objectStore =
        (callStep sha256 env system call).2.objectStore := rfl
    rw [here]
    generalize (callStep sha256 env system call).2.objectStore = after at change
    cases change with
    | kept => exact Or.inl rfl
    | dropped => cases session.symm.trans ‹call.hSession = none›
    | created hSession template index free => cases isProbe
    | destroyed hSession index object present =>
      obtain rfl := Option.some.inj session
      exact Or.inr (Or.inl ⟨env, index, object, rfl, present, rfl⟩)
    | relabelled hSession template index object present =>
      obtain rfl := Option.some.inj session
      obtain ⟨label, same⟩ := set_attribute_value_label template object
      rw [same]
      exact Or.inr (Or.inr ⟨env, template, index, object, label, rfl, present, rfl⟩)
    | paired => cases isProbe

/-- Under a handle that no private object has lies none of them. -/
theorem private_elsewhere (system : System) (hSession : CkSessionHandle) (found : FoundSession)
    (place : Fin hsmMaxObjects) (named : HsmObject)
    (session : hsmGetSession system hSession = .ok found)
    (unnamed : found.slot.namesPrivate named.handle = false)
    (there : system.objects place = some named) (index : Fin hsmMaxObjects) (object : HsmObject)
    (present : system.objects index = some object) (isPrivate : object.isPrivate = true) :
    index ≠ place ∧ object.handle ≠ named.handle := by
  obtain ⟨inUse, -, -⟩ := get_session_sound system hSession found session
  have objects : system.objects = found.slot.objects := objects_present system _ inUse
  have otherHandle : object.handle ≠ named.handle := by
    have member := (mem_live_iff found.slot.objects object).mpr
      ⟨index, (congrFun objects index).symm.trans present⟩
    have refused := List.any_eq_false.mp unnamed object member
    simpa [isPrivate] using refused
  refine ⟨?_, otherHandle⟩
  rintro rfl
  obtain rfl := Option.some.inj (present.symm.trans there)
  exact otherHandle rfl

/-- A probe that reaches no private object leaves all of them alone. -/
theorem private_kept_probe (sha256 : Sha256) (system : System) (event : Event)
    (hSession : CkSessionHandle) (probes : event.probes hSession = true)
    (unreached : system.reachesPrivate event = false) :
    PrivateKept system (step sha256 system event).2 := by
  have kept (same : (step sha256 system event).2.objectStore = system.objectStore) :
      PrivateKept system (step sha256 system event).2 := by
    intro index object present _
    have objects := congrFun (congrArg ObjectStore.objects same) index
    have files := congrArg ObjectStore.keyFiles same
    refine ⟨objects.trans present, fun _ => ?_⟩
    exact congrArg (AList.lookup (objectFileName object.handle)) files
  rcases probe_store sha256 system event hSession probes with
    same | ⟨env, destroyed, gone, rfl, before, after⟩ |
      ⟨env, template, changed, old, label, rfl, before, after⟩
  · exact kept same
  · cases session : hsmGetSession system hSession with
    | error rv =>
      apply kept
      simp only [step, callStep, cDestroyObject, session]
    | ok found =>
      simp only [System.reachesPrivate, session] at unreached
      intro index object present isPrivate
      obtain ⟨elsewhere, otherHandle⟩ := private_elsewhere system hSession found destroyed gone
        session unreached before index object present isPrivate
      constructor
      · have objects := congrFun (congrArg ObjectStore.objects after) index
        exact objects.trans ((put_other _ _ _ _ elsewhere).trans present)
      · intro _
        have otherFile : objectFileName object.handle ≠ objectFileName gone.handle :=
          fun same => otherHandle (object_file_name_injective _ _ same)
        have files : (step sha256 system
            (.call (.destroyObject hSession gone.handle) env)).2.storage.keyFiles =
            system.objectStore.filesWithout gone env.unlink := congrArg ObjectStore.keyFiles after
        rw [files]
        rw [ObjectStore.filesWithout]
        split
        · exact AList.lookup_erase_ne otherFile
        · rfl
  · cases session : hsmGetSession system hSession with
    | error rv =>
      apply kept
      simp only [step, callStep, cSetAttributeValue, session]
    | ok found =>
      simp only [System.reachesPrivate, session] at unreached
      intro index object present isPrivate
      obtain ⟨elsewhere, -⟩ := private_elsewhere system hSession found changed old session unreached
        before index object present isPrivate
      constructor
      · have objects := congrFun (congrArg ObjectStore.objects after) index
        exact objects.trans ((put_other _ _ _ _ elsewhere).trans present)
      · intro _
        exact congrArg (AList.lookup (objectFileName object.handle))
          (congrArg ObjectStore.keyFiles after)

/-- No private object is in the table. -/
def NoPrivate (system : System) : Prop :=
  ∀ index object, system.objects index = some object → object.isPrivate = false

/-- Probes make no private objects. -/
theorem no_private_probe (sha256 : Sha256) (system : System) (event : Event)
    (hSession : CkSessionHandle) (probes : event.probes hSession = true)
    (none : NoPrivate system) : NoPrivate (step sha256 system event).2 := by
  rcases probe_store sha256 system event hSession probes with
    same | ⟨env, destroyed, gone, rfl, before, after⟩ |
      ⟨env, template, changed, object, label, rfl, before, after⟩
  · have objects : (step sha256 system event).2.objects = system.objects :=
      congrArg ObjectStore.objects same
    rw [NoPrivate, objects]
    exact none
  · have objects : (step sha256 system
        (.call (.destroyObject hSession gone.handle) env)).2.objects =
        put system.objects destroyed Option.none := congrArg ObjectStore.objects after
    rw [NoPrivate, objects]
    exact entries_put _ system.objects destroyed Option.none none nofun
  · have objects : (step sha256 system
        (.call (.setAttributeValue hSession object.handle (some template)) env)).2.objects =
        put system.objects changed (some { object with label := label }) :=
      congrArg ObjectStore.objects after
    rw [NoPrivate, objects]
    apply entries_put _ system.objects changed _ none
    rintro stored ⟨⟩
    exact none changed object before

/-- Where there is no private object no call reaches one. -/
theorem no_private_unreached (system : System) (event : Event) (none : NoPrivate system) :
    system.reachesPrivate event = false := by
  have slotPublic (hSession : CkSessionHandle) (found : FoundSession)
      (session : hsmGetSession system hSession = .ok found) (object : HsmObject)
      (member : object ∈ live found.slot.objects) : object.isPrivate = false := by
    obtain ⟨index, present⟩ := (mem_live_iff found.slot.objects object).mp member
    obtain ⟨inUse, -, -⟩ := get_session_sound system hSession found session
    exact none index object ((congrFun (objects_present system _ inUse) index).trans present)
  have unnamed (hSession : CkSessionHandle) (found : FoundSession)
      (session : hsmGetSession system hSession = .ok found) (hObject : CkObjectHandle) :
      found.slot.namesPrivate hObject = false := by
    apply List.any_eq_false.mpr
    intro object member
    simp [slotPublic hSession found session object member]
  unfold System.reachesPrivate
  split
  · split
    · rfl
    · rename_i found session
      have unseen : ((live found.slot.objects).take hsmMaxFindObjects).any HsmObject.isPrivate =
          false := by
        apply List.any_eq_false.mpr
        intro object member
        simp [slotPublic _ found session object (List.mem_of_mem_take member)]
      rw [unseen, Bool.and_false]
  · split
    · rfl
    · exact unnamed _ _ ‹_› _
  · split
    · rfl
    · exact unnamed _ _ ‹_› _
  · split
    · rfl
    · exact unnamed _ _ ‹_› _
  · split
    · rfl
    · rw [unnamed _ _ ‹_› _, Bool.and_false]
  · rfl

/-! ## Runs of probes -/

/-- Probes none of which reaches a private object disturb nothing. -/
theorem probes_undisturbed (sha256 : Sha256) (left right : System) (hSession : CkSessionHandle)
    (events : List Event) (same : left.concealed = right.concealed)
    (probes : ∀ event ∈ events, event.probes hSession = true)
    (leftUnreached :
      Runs.EveryStep (step sha256) (fun s e => s.reachesPrivate e = false) left events)
    (rightUnreached :
      Runs.EveryStep (step sha256) (fun s e => s.reachesPrivate e = false) right events) :
    Undisturbed sha256 left right events := by
  have kept (system : System)
      (unreached :
        Runs.EveryStep (step sha256) (fun s e => s.reachesPrivate e = false) system events) :
      Runs.EveryStep (step sha256) (fun s e => PrivateKept s (step sha256 s e).2) system
        events := by
    apply (Runs.every_step_iff (step sha256) _ system events).mpr
    intro before event rest split
    have member : event ∈ events := split ▸ List.mem_append_right before List.mem_cons_self
    have unreachedHere :=
      (Runs.every_step_iff (step sha256) _ system events).mp unreached before event rest split
    exact private_kept_probe sha256 _ event hSession (probes event member) unreachedHere
  constructor
  · exact probes_answered_alike sha256 left right hSession events same probes leftUnreached
      rightUnreached
  · exact kept left leftUnreached
  · exact kept right rightUnreached

/-- Without private objects no run of probes reaches one. -/
theorem no_private_run (sha256 : Sha256) (system : System) (hSession : CkSessionHandle)
    (events : List Event) (none : NoPrivate system)
    (probes : ∀ event ∈ events, event.probes hSession = true) :
    Runs.EveryStep (step sha256) (fun s e => s.reachesPrivate e = false) system events := by
  induction events generalizing system with
  | nil => trivial
  | cons event rest inductionHypothesis =>
    constructor
    · exact no_private_unreached system event none
    · apply inductionHypothesis
      · exact no_private_probe sha256 system event hSession (probes event List.mem_cons_self) none
      · intro later member
        exact probes later (List.mem_cons_of_mem event member)

/-- Destroying the objects under its handle one after the other reaches a private
object in the end. -/
theorem destruction_reaches (sha256 : Sha256) (env : Env) (system : System)
    (hSession : CkSessionHandle) (found : FoundSession) (index : Fin hsmMaxObjects)
    (object : HsmObject) (session : hsmGetSession system hSession = .ok found)
    (present : system.objects index = some object) (isPrivate : object.isPrivate = true) :
    ∃ rounds, ¬ Runs.EveryStep (step sha256) (fun s e => PrivateKept s (step sha256 s e).2) system
      (List.replicate rounds (.call (.destroyObject hSession object.handle) env)) := by
  -- The objects in the way run out, for each round removes one.
  induction remaining : count system.objects generalizing system found with
  | zero =>
    have fewer := count_remove system.objects index object present
    omega
  | succ fewer inductionHypothesis =>
    obtain ⟨inUse, -, -⟩ := get_session_sound system hSession found session
    have objects : system.objects = found.slot.objects := objects_present system _ inUse
    have here : found.slot.objects index = some object :=
      (congrFun objects index).symm.trans present
    cases lookup : hsmGetObject found.slot object.handle with
    | error rv =>
      unfold hsmGetObject at lookup
      split at lookup
      · rename_i missing
        have refused := (find_none_iff _ _).mp missing index object here
        simp at refused
      · cases lookup
    | ok pair =>
      obtain ⟨first, stored⟩ := pair
      obtain ⟨there, -⟩ := get_object_sound found.slot object.handle first stored lookup
      have state := congrArg Prod.snd
        (destroy_object_succeeds env system hSession object.handle found first stored session
          lookup)
      have emptied : (step sha256 system
          (.call (.destroyObject hSession object.handle) env)).2.objects =
          put found.slot.objects first none := congrArg System.objects state
      by_cases reached : first = index
      · refine ⟨1, ?_⟩
        rintro ⟨kept, -⟩
        obtain ⟨still, -⟩ := kept index object present isPrivate
        rw [emptied, reached, put_self] at still
        cases still
      · have stays : (step sha256 system
            (.call (.destroyObject hSession object.handle) env)).2.objects index = some object := by
          rw [emptied, put_other _ _ _ _ (Ne.symm reached)]
          exact here
        have lower : count (step sha256 system
            (.call (.destroyObject hSession object.handle) env)).2.objects = fewer := by
          have removed := count_remove found.slot.objects first stored there
          rw [emptied]
          rw [objects] at remaining
          omega
        have open' := get_session_kept system
          (step sha256 system (.call (.destroyObject hSession object.handle) env)).2 hSession found
          { found.context with
            slot := found.slot.withObject first none (found.slot.objectCount - 1) } session
          (congrArg System.gHsmContext state) rfl
        obtain ⟨rounds, disturbed⟩ := inductionHypothesis _ _ open' stays lower
        refine ⟨rounds + 1, ?_⟩
        rintro ⟨-, later⟩
        exact disturbed later

/-- A session that is open in one process is open in the other. -/
theorem session_open_alike (left right : System) (hSession : CkSessionHandle)
    (same : left.concealed = right.concealed) (found : FoundSession)
    (session : hsmGetSession left hSession = .ok found) :
    ∃ found', hsmGetSession right hSession = .ok found' := by
  have agree : concealing.system left = concealing.system right := same
  rcases concealing.get_session left hSession with ⟨rv, failed, -⟩ | ⟨_, -, concealedLeft⟩
  · cases session.symm.trans failed
  · rcases concealing.get_session right hSession with
      ⟨rv, -, concealedRight⟩ | ⟨found', opened, -⟩
    · rw [← agree] at concealedRight
      cases concealedLeft.symm.trans concealedRight
    · exact ⟨found', opened⟩

/-- For two processes that differ only in private objects, reachable or not: probes
that reach none of these disturb nothing, and no run of probes disturbs anything
exactly when there is no private object to reach or no session to probe from. -/
theorem private_objects_invisible_iff (sha256 : Sha256) (left right : System)
    (same : left.concealed = right.concealed) :
    (∀ hSession events, (∀ event ∈ events, event.probes hSession = true) →
        Runs.EveryStep (step sha256) (fun s e => s.reachesPrivate e = false) left events →
        Runs.EveryStep (step sha256) (fun s e => s.reachesPrivate e = false) right events →
        Undisturbed sha256 left right events) ∧
      (PrivateInvisible sha256 left right ↔
        ((∃ hSession, left.anonymous hSession = true) → NoPrivate left ∧ NoPrivate right)) := by
  constructor
  · intro hSession events probes leftUnreached rightUnreached
    exact probes_undisturbed sha256 left right hSession events same probes leftUnreached
      rightUnreached
  · constructor
    · rintro invisible ⟨hSession, anonymous⟩
      obtain ⟨found, session⟩ : ∃ found, hsmGetSession left hSession = .ok found := by
        rw [System.anonymous] at anonymous
        split at anonymous
        · cases anonymous
        · rename_i found session
          exact ⟨found, session⟩
      obtain ⟨found', session'⟩ := session_open_alike left right hSession same found session
      have destroying (rounds : Nat) (hObject : CkObjectHandle) :
          Undisturbed sha256 left right
            (List.replicate rounds (.call (.destroyObject hSession hObject) (calmEnv 1))) := by
        apply invisible hSession _ anonymous
        intro event member
        obtain rfl := List.eq_of_mem_replicate member
        exact decide_eq_true rfl
      constructor
      · intro index object present
        by_contra isPrivate
        obtain ⟨rounds, disturbed⟩ := destruction_reaches sha256 (calmEnv 1) left hSession found
          index object session present (Bool.eq_true_of_not_eq_false isPrivate)
        exact disturbed (destroying rounds object.handle).left
      · intro index object present
        by_contra isPrivate
        obtain ⟨rounds, disturbed⟩ := destruction_reaches sha256 (calmEnv 1) right hSession found'
          index object session' present (Bool.eq_true_of_not_eq_false isPrivate)
        exact disturbed (destroying rounds object.handle).right
    · intro vacant hSession events anonymous probes
      obtain ⟨leftNone, rightNone⟩ := vacant ⟨hSession, anonymous⟩
      exact probes_undisturbed sha256 left right hSession events same probes
        (no_private_run sha256 left hSession events leftNone probes)
        (no_private_run sha256 right hSession events rightNone probes)

/-! ## A private object that is seen -/

/-- The handle leads to a private object. -/
def System.leadsPrivate (system : System) (hSession : CkSessionHandle)
    (hObject : CkObjectHandle) : Bool :=
  match hsmGetSession system hSession with
  | .error _ => false
  | .ok found =>
    match hsmGetObject found.slot hObject with
    | .error _ => false
    | .ok (_, object) => object.isPrivate

/-- Destroying a private object is no change after blanking. -/
theorem destroy_private_agrees (sha256 : Sha256) (env : Env) (system : System)
    (hSession : CkSessionHandle) (hObject : CkObjectHandle)
    (leads : system.leadsPrivate hSession hObject = true) :
    (step sha256 system (.call (.destroyObject hSession hObject) env)).2.concealed =
      system.concealed := by
  rw [System.leadsPrivate] at leads
  split at leads
  · cases leads
  · rename_i found session
    split at leads
    · cases leads
    · rename_i index object lookup
      obtain ⟨inUse, -, -⟩ := get_session_sound system hSession found session
      obtain ⟨present, -⟩ := get_object_sound found.slot hObject index object lookup
      have state := congrArg Prod.snd
        (destroy_object_succeeds env system hSession hObject found index object session lookup)
      have blanked : restricted HsmObject.isPublic (put found.slot.objects index none) =
          restricted HsmObject.isPublic found.slot.objects := by
        apply restricted_put_blanked HsmObject.isPublic found.slot.objects index object present
        simp [HsmObject.isPublic, leads]
      refine (congrArg System.concealed state).trans ?_
      rw [delete_object_storage system.objectStore object env system.storage rfl]
      simp only [System.concealed, System.withSlot, HsmContext.concealed, HsmSlot.concealed,
        HsmSlot.withObject, Option.map_some, blanked, inUse]
      rfl

/-- An object that is private by default and a public one, both made without login. -/
def secretStored : List Event :=
  [calmly .initializeLibrary,
    calmly (.openSession 0 (ckfSerialSession ||| ckfRwSession) true),
    calmly (.createObject 1 (some []) true),
    calmly (.createObject 1 (some [⟨ckaPrivate, some [ckFalse], 1⟩]) true)]

/-- The process with both objects. -/
def withSecret : System := Runs.run (step pinSha256) (bootProcess freshStorage) secretStored

/-- The process after the private one is destroyed. -/
def withoutSecret : System :=
  Runs.run (step pinSha256) (bootProcess freshStorage)
    (secretStored ++ [calmly (.destroyObject 1 (objectHandleDataBase + 1))])

theorem secret_agrees : withSecret.concealed = withoutSecret.concealed := by
  rw [withoutSecret, Runs.run_snoc]
  exact (destroy_private_agrees pinSha256 (calmEnv 1) withSecret 1 (objectHandleDataBase + 1)
    (by decide +kernel)).symm

/-- Reading the public object shows nothing of the private one. -/
theorem public_object_read :
    Undisturbed pinSha256 withSecret withoutSecret
      [calmly (.getAttributeValue 1 (objectHandleDataBase + 2)
        (some [⟨ckaPrivate, some [0], 1⟩]))] :=
  (private_objects_invisible_iff pinSha256 withSecret withoutSecret secret_agrees).1 1 _
    (by decide) (by decide +kernel) (by decide +kernel)

/-- Reading the private object tells whether it is there. -/
theorem private_object_seen :
    Reachable pinSha256 withSecret ∧ Reachable pinSha256 withoutSecret ∧
      withSecret.concealed = withoutSecret.concealed ∧
      ¬ PrivateInvisible pinSha256 withSecret withoutSecret := by
  refine ⟨⟨bootProcess freshStorage, secretStored, rfl, rfl⟩,
    ⟨bootProcess freshStorage, _, rfl, rfl⟩, secret_agrees, ?_⟩
  intro invisible
  have read := invisible 1
    [calmly (.getAttributeValue 1 (objectHandleDataBase + 1) (some [⟨ckaPrivate, some [0], 1⟩]))]
    (by decide +kernel) (by decide)
  exact absurd read.answers (by decide +kernel)

end PstHsm
