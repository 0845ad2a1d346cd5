import PstHsm.Durability
import PstHsm.Searches

/-!
# What a reset of the token leaves behind

`C_InitToken` closes the sessions and replaces the PINs. It does not touch the object
table or the key files, so whatever lay there stays: an entry of the table that stays
occupied holds the same object, and a file that is not written again holds the same
record. The earlier objects are gone after a reset exactly when there were none.
-/

namespace PstHsm

open Tables Chunks

section Runs

variable (sha256 : Sha256) (start : System) (events : List Event)

/-- An object of the start that still lies at its entry. -/
def EarlierObject (index : Fin hsmMaxObjects) : Prop :=
  Runs.Throughout (step sha256) (fun system => (system.objects index).isSome = true) start events

/-- A file of the start that is still there and was never opened for writing. -/
def EarlierFile (name : FileName) : Prop :=
  Runs.Throughout (step sha256)
      (fun system => (system.storage.keyFiles.lookup name).isSome = true) start events ∧
    Runs.EveryStep (step sha256)
      (fun system event => ∀ save ∈ system.saves event, save.path = name →
        save.outcome.fopen = false) start events

/-- The handle of an object created since the start. -/
def CreatedSince (hObject : CkObjectHandle) : Prop :=
  ∃ before event after, events = before ++ event :: after ∧
    ∃ save ∈ (Runs.run (step sha256) start before).creations event,
      save.object.handle = hObject

/-- After the events no object of the start can be found, listed or used, and none has a
file. -/
structure Disposed : Prop where
  found : ∀ context, (Runs.run (step sha256) start events).gHsmContext = some context →
    ∀ hObject index object, hsmGetObject context.slot hObject = .ok (index, object) →
      ¬ EarlierObject sha256 start events index
  listed : ∀ hSession phObject most pulObjectCount,
    ∀ hObject ∈ (cFindObjects (Runs.run (step sha256) start events) hSession phObject most
      pulObjectCount).2.1, CreatedSince sha256 start events hObject
  keyed : ∀ hSession pMechanism hKey,
    (cSignInit (Runs.run (step sha256) start events) hSession pMechanism hKey).1 = .ok →
      ∃ found index key,
        hsmGetSession (Runs.run (step sha256) start events) hSession = .ok found ∧
        hsmGetObject found.slot hKey = .ok (index, key) ∧
        ¬ EarlierObject sha256 start events index
  files : ∀ hObject, ¬ EarlierFile sha256 start events (objectFileName hObject)

end Runs

/-- There is no object in the table and no object file in the storage. -/
structure NothingKept (system : System) : Prop where
  objects : ∀ index, system.objects index = none
  files : ∀ hObject, system.storage.keyFiles.lookup (objectFileName hObject) = none

/-! ## Objects keep their entries -/

/-- An entry that is occupied before and after a call holds the same object, up to its
label. -/
theorem entry_keeps_object (sha256 : Sha256) (env : Env) (system : System) (call : Call)
    (index : Fin hsmMaxObjects) (before after : HsmObject)
    (earlier : system.objects index = some before)
    (later : (callStep sha256 env system call).2.objects index = some after) :
    ∃ label, after = { before with label := label } := by
  have change := store_step sha256 env system call
  change (callStep sha256 env system call).2.objectStore.objects index = some after at later
  change system.objectStore.objects index = some before at earlier
  generalize system.objectStore = store at change earlier
  generalize (callStep sha256 env system call).2.objectStore = changed at change later
  have untouched (place : Fin hsmMaxObjects) (entry : Option HsmObject)
      (other : index ≠ place) (present : put store.objects place entry index = some after) :
      after = { before with label := before.label } := by
    rw [put_other _ _ _ _ other] at present
    exact Option.some.inj (present.symm.trans earlier)
  have elsewhere (place : Fin hsmMaxObjects) (free : store.objects place = none) :
      index ≠ place := by
    rintro rfl
    cases earlier.symm.trans free
  cases change with
  | kept => exact ⟨before.label, Option.some.inj (later.symm.trans earlier)⟩
  | dropped => cases later
  | created hSession template place free =>
    exact ⟨before.label, untouched place _ (elsewhere place free) later⟩
  | destroyed hSession place object present =>
    by_cases here : index = place
    · subst here
      have removed : put store.objects index none index = some after := later
      rw [put_self] at removed
      cases removed
    · exact ⟨before.label, untouched place _ here later⟩
  | relabelled hSession template place object present =>
    by_cases here : index = place
    · subst here
      obtain ⟨label, same⟩ := set_attribute_value_label template object
      have replaced : put store.objects index (some (hsmSetAttributeValue object template).2)
          index = some after := later
      rw [put_self, same] at replaced
      obtain rfl := Option.some.inj (earlier.symm.trans present)
      exact ⟨label, (Option.some.inj replaced).symm⟩
    · exact ⟨before.label, untouched place _ here later⟩
  | paired hSession mechanism publicTemplate privateTemplate pubObj privObj pubIdx privIdx
      generated pubFree privFree different =>
    have present : put (put store.objects pubIdx _) privIdx _ index = some after := later
    rw [put_other _ _ _ _ (elsewhere privIdx privFree)] at present
    exact ⟨before.label, untouched pubIdx _ (elsewhere pubIdx pubFree) present⟩

/-- A call that creates no objects fills no entry. -/
theorem entry_stays_free (sha256 : Sha256) (env : Env) (system : System) (call : Call)
    (index : Fin hsmMaxObjects) (uncreated : call.createsObjects = false)
    (free : system.objects index = none) :
    (callStep sha256 env system call).2.objects index = none := by
  have change := store_step sha256 env system call
  change system.objectStore.objects index = none at free
  change (callStep sha256 env system call).2.objectStore.objects index = none
  generalize system.objectStore = store at change free
  generalize (callStep sha256 env system call).2.objectStore = changed at change
  cases change with
  | kept => exact free
  | dropped => rfl
  | created hSession template place => cases uncreated
  | destroyed hSession place object present =>
    by_cases here : index = place
    · subst here
      exact put_self store.objects index none
    · exact (put_other store.objects place index none here).trans free
  | relabelled hSession template place object present =>
    have other : index ≠ place := by
      rintro rfl
      cases free.symm.trans present
    exact (put_other store.objects place index _ other).trans free
  | paired hSession mechanism publicTemplate privateTemplate => cases uncreated

/-- Only a success fills an entry. -/
theorem filled_by_success (sha256 : Sha256) (env : Env) (system : System) (call : Call)
    (index : Fin hsmMaxObjects) (object : HsmObject) (free : system.objects index = none)
    (present : (callStep sha256 env system call).2.objects index = some object) :
    persisted sha256 system (.call call env) = true := by
  cases call with
  | createObject hSession pTemplate phObject =>
    rcases create_object_cases env system hSession pTemplate phObject with
      ⟨rv, failed, same⟩ | ⟨template, found, place, rfl, rfl, -, -, -, same⟩
    · simp only [callStep, same] at present
      cases free.symm.trans present
    · simp [persisted, Call.persists, callStep, same]
  | generateKeyPair hSession pMechanism publicTemplate privateTemplate phPublicKey phPrivateKey =>
    rcases generate_key_pair_cases env system hSession pMechanism publicTemplate privateTemplate
      phPublicKey phPrivateKey with
      ⟨rv, failed, same⟩ | ⟨mechanism, found, pubObj, privObj, pubIdx, privIdx, rest, rfl, rfl,
        rfl, -, -, generated, -, same⟩
    · simp only [callStep, same] at present
      cases free.symm.trans present
    · simp [persisted, Call.persists, callStep, same]
  | _ => cases (entry_stays_free sha256 env system _ index rfl free).symm.trans present

/-- An object in the table after a call lay there before, or the call created it. -/
theorem object_source (sha256 : Sha256) (env : Env) (system : System) (call : Call)
    (index : Fin hsmMaxObjects) (object : HsmObject)
    (present : (callStep sha256 env system call).2.objects index = some object) :
    (∃ before, system.objects index = some before ∧ object.handle = before.handle) ∨
      ∃ save ∈ system.creations (.call call env), save.object.handle = object.handle := by
  cases earlier : system.objects index with
  | some before =>
    obtain ⟨label, rfl⟩ := entry_keeps_object sha256 env system call index before object earlier
      present
    exact Or.inl ⟨before, rfl, rfl⟩
  | none =>
    have success := filled_by_success sha256 env system call index object earlier present
    have added := (objects_changed sha256 env system call success).added object
    obtain ⟨save, created, rfl⟩ := List.mem_map.mp (added.mp ⟨index, present, by simp [earlier]⟩)
    exact Or.inr ⟨save, created, rfl⟩

/-! ## Handles issued since the start -/

section Since

variable (sha256 : Sha256) (start : System)

/-- Handles issued earlier in the run were issued in the run. -/
theorem created_since_snoc (events : List Event) (event : Event) (hObject : CkObjectHandle)
    (created : CreatedSince sha256 start events hObject) :
    CreatedSince sha256 start (events ++ [event]) hObject := by
  obtain ⟨before, creating, after, rfl, save, saved, named⟩ := created
  exact ⟨before, creating, after ++ [event], by simp, save, saved, named⟩

/-- So were the handles the last event issues. -/
theorem created_since_last (events : List Event) (event : Event) (save : SaveCall)
    (saved : save ∈ (Runs.run (step sha256) start events).creations event) :
    CreatedSince sha256 start (events ++ [event]) save.object.handle :=
  ⟨events, event, [], rfl, save, saved, rfl⟩

/-- All that can be found or is being listed was created since the start. -/
structure AllSince (events : List Event) : Prop where
  live : ∀ index object, (Runs.run (step sha256) start events).objects index = some object →
    CreatedSince sha256 start events object.handle
  recorded : ∀ place search,
    (Runs.run (searchStep sha256) (start, noSearches) events).2 place = some search →
    ∀ hObject ∈ search.recorded, CreatedSince sha256 start events hObject

/-- The process beside which the searches are kept. -/
theorem search_run_process (events : List Event) :
    (Runs.run (searchStep sha256) (start, noSearches) events).1 =
      Runs.run (step sha256) start events := by
  rw [searchStep, recordStep]
  exact Runs.traced_run (step sha256) _ start noSearches events

/-- What a noted search records is what it recorded before, or the live objects. -/
theorem noted_search_source (system : System) (place : Fin hsmMaxSessions) (call : Call)
    (response : Response) (search : Option (Delivery CkObjectHandle))
    (noted : Delivery CkObjectHandle)
    (notes : noteSearch system place call response search = some noted) :
    (∃ before, search = some before ∧ noted.recorded = before.recorded) ∨
      noted.recorded = system.snapshot := by
  have unchanged (same : search = some noted) :
      (∃ before, search = some before ∧ noted.recorded = before.recorded) ∨
        noted.recorded = system.snapshot := Or.inl ⟨noted, same, rfl⟩
  unfold noteSearch at notes
  split at notes
  · exact unchanged notes
  · split at notes
    · split at notes
      · cases notes
      · exact unchanged notes
    · split at notes
      · unfold System.searchNoted at notes
        split at notes
        · right
          rw [← Option.some.inj notes, Delivery.start]
        · obtain ⟨before, searching, rfl⟩ := Option.map_eq_some_iff.mp notes
          exact Or.inl ⟨before, searching, rfl⟩
        · cases notes
        · exact unchanged notes
      · exact unchanged notes

/-- From an empty table everything is created since. -/
theorem all_since (events : List Event) (vacant : ∀ index, start.objects index = none) :
    AllSince sha256 start events := by
  induction events using List.reverseRecOn with
  | nil =>
    constructor
    · intro index object present
      cases (vacant index).symm.trans present
    · intro place search started
      cases started
  | append_singleton events event inductionHypothesis =>
    obtain ⟨live, recorded⟩ := inductionHypothesis
    constructor
    · intro index object present
      rw [Runs.run_snoc] at present
      cases event with
      | newProcess => cases present
      | call call env =>
        rcases object_source sha256 env _ call index object present with
          ⟨before, lay, same⟩ | ⟨save, saved, same⟩
        · rw [same]
          exact created_since_snoc sha256 start events _ _ (live index before lay)
        · rw [← same]
          exact created_since_last sha256 start events _ save saved
    · intro place search started hObject member
      rw [Runs.run_snoc] at started
      apply created_since_snoc
      cases event with
      | newProcess => exact recorded place search started hObject member
      | call call env =>
        rcases noted_search_source _ place call _ _ search started with
          ⟨before, searching, same⟩ | same
        · rw [same] at member
          exact recorded place before searching hObject member
        · rw [same, System.snapshot, search_run_process] at member
          obtain ⟨object, listed, rfl⟩ := List.mem_map.mp member
          obtain ⟨index, present⟩ := (mem_live_iff _ _).mp (List.mem_of_mem_take listed)
          exact live index object present

/-- Without earlier objects and sessions everything listed was created since. -/
theorem listed_since (events : List Event) (vacant : ∀ index, start.objects index = none)
    (closed : ∀ place, start.sessions place = none) (hSession : CkSessionHandle)
    (phObject : Bool) (most : CkUlong) (pulObjectCount : Bool) (hObject : CkObjectHandle)
    (listed : hObject ∈ (cFindObjects (Runs.run (step sha256) start events) hSession phObject most
      pulObjectCount).2.1) : CreatedSince sha256 start events hObject := by
  obtain ⟨-, recorded⟩ := all_since sha256 start events vacant
  have reflected := records_run_from sha256 noteSearch SearchReflected
    (search_record_rule sha256) (start, noSearches) events (by
      intro place session present
      cases (closed place).symm.trans present)
  change AllSessions SearchReflected (Runs.run (searchStep sha256) (start, noSearches) events).1
    (Runs.run (searchStep sha256) (start, noSearches) events).2 at reflected
  rw [search_run_process] at reflected
  generalize Runs.run (step sha256) start events = reached at listed reflected
  by_cases given : phObject = true ∧ pulObjectCount = true
  · obtain ⟨rfl, rfl⟩ := given
    cases located : hsmGetSession reached hSession with
    | error rv => simp [cFindObjects, located] at listed
    | ok found =>
      have holds := reflected found.index found.session
        (get_session_entry reached hSession found located).1
      rcases find_objects_cases reached hSession found located most with
        ⟨-, same⟩ | ⟨active, same⟩
      · simp [same] at listed
      · cases searching :
          (Runs.run (searchStep sha256) (start, noSearches) events).2 found.index with
        | none =>
          rw [searching] at holds
          cases (search_active_iff found.session none holds).symm.trans active
        | some search =>
          rw [searching] at holds
          rw [same, copied_due found.session search most holds] at listed
          exact recorded found.index search searching hObject
            (List.mem_of_mem_drop (List.mem_of_mem_take listed))
  · have refused : (!phObject || !pulObjectCount) = true := by
      cases phObject <;> cases pulObjectCount <;> simp_all
    simp [cFindObjects, refused] at listed

/-- A successful `C_SignInit` looked its key up. -/
theorem sign_init_looks (system : System) (hSession : CkSessionHandle)
    (pMechanism : Option CkMechanismType) (hKey : CkObjectHandle)
    (succeeded : (cSignInit system hSession pMechanism hKey).1 = .ok) :
    ∃ found index key, hsmGetSession system hSession = .ok found ∧
      hsmGetObject found.slot hKey = .ok (index, key) := by
  cases pMechanism with
  | none => cases succeeded
  | some mechanism =>
    cases session : hsmGetSession system hSession with
    | error rv =>
      simp only [cSignInit, session] at succeeded
      exact absurd succeeded (get_session_refused system hSession rv session)
    | ok found =>
      cases lookup : hsmGetObject found.slot hKey with
      | error rv =>
        obtain rfl := get_object_error found.slot hKey rv lookup
        simp only [cSignInit, session, lookup] at succeeded
        split at succeeded <;> cases succeeded
      | ok located => exact ⟨found, located.1, located.2, rfl, lookup⟩

/-- A live object's handle finds an object. -/
theorem live_object_found (slot : HsmSlot) (index : Fin hsmMaxObjects) (object : HsmObject)
    (live : slot.objects index = some object) :
    ∃ located, hsmGetObject slot object.handle = .ok located := by
  unfold hsmGetObject
  split
  · rename_i missing
    have refused := (find_none_iff _ _).mp missing index object live
    simp at refused
  · exact ⟨_, rfl⟩

/-- Where nothing was kept, nothing of the start remains. -/
theorem disposed_of_nothing (events : List Event) (closed : ∀ place, start.sessions place = none)
    (nothing : NothingKept start) : Disposed sha256 start events := by
  have first (index : Fin hsmMaxObjects) : ¬ EarlierObject sha256 start events index := by
    intro earlier
    have lay := Runs.throughout_prefix (step sha256) _ start [] events earlier
    have occupied : (start.objects index).isSome = true := lay
    rw [nothing.objects index] at occupied
    cases occupied
  constructor
  · intro context present hObject index object located
    exact first index
  · intro hSession phObject most pulObjectCount hObject listed
    exact listed_since sha256 start events nothing.objects closed hSession phObject most
      pulObjectCount hObject listed
  · intro hSession pMechanism hKey succeeded
    obtain ⟨found, index, key, session, lookup⟩ :=
      sign_init_looks _ hSession pMechanism hKey succeeded
    exact ⟨found, index, key, session, lookup, first index⟩
  · rintro hObject ⟨there, -⟩
    have lay := Runs.throughout_prefix (step sha256) _ start [] events there
    have stored : (start.storage.keyFiles.lookup (objectFileName hObject)).isSome = true := lay
    rw [nothing.files hObject] at stored
    cases stored

/-- What is there at the start is there before anything else happens. -/
theorem nothing_of_disposed (context : HsmContext) (present : start.gHsmContext = some context)
    (disposed : Disposed sha256 start []) : NothingKept start := by
  constructor
  · intro index
    cases occupied : start.objects index with
    | none => rfl
    | some object =>
      rw [objects_present start context present] at occupied
      obtain ⟨⟨place, first⟩, lookup⟩ := live_object_found context.slot index object occupied
      refine absurd ?_ (disposed.found context present object.handle place first lookup)
      change (start.objects place).isSome = true
      rw [objects_present start context present, (get_object_sound context.slot _ _ _ lookup).1]
      rfl
  · intro hObject
    cases stored : start.storage.keyFiles.lookup (objectFileName hObject) with
    | none => rfl
    | some bytes =>
      refine absurd ⟨?_, trivial⟩ (disposed.files hObject)
      change (start.storage.keyFiles.lookup (objectFileName hObject)).isSome = true
      rw [stored]
      rfl

end Since

/-- After a successful `C_InitToken` the earlier objects are gone for good exactly when
there was no object and no object file. -/
theorem earlier_objects_disposed_iff (sha256 : Sha256) (env : Env) (system : System)
    (slotID : CkSlotId) (pPin pLabel : Option Bytes)
    (succeeded : (cInitToken sha256 env system slotID pPin pLabel).1 = .ok) :
    (∀ events, Disposed sha256 (cInitToken sha256 env system slotID pPin pLabel).2 events) ↔
      NothingKept system := by
  rcases init_token_cases sha256 env system slotID pPin pLabel with
    ⟨rv, failed, same⟩ | ⟨pin, label, context, rfl, rfl, present, -, -, -, same⟩
  · rw [same] at succeeded
    exact absurd succeeded failed
  · rw [same]
    have kept : NothingKept (system.withSavedSlot env context
        (context.slot.reinitialized (sha256 pin) (initTokenLabel pin.length label))) ↔
        NothingKept system := by
      have objects : (system.withSavedSlot env context
          (context.slot.reinitialized (sha256 pin) (initTokenLabel pin.length label))).objects =
          system.objects := (objects_present system context present).symm
      have files := save_token_info_key_files
        (context.slot.reinitialized (sha256 pin) (initTokenLabel pin.length label)) env.tokenWrite
        system.storage
      constructor
      · rintro ⟨noObjects, noFiles⟩
        exact ⟨fun index => objects ▸ noObjects index, fun hObject => files ▸ noFiles hObject⟩
      · rintro ⟨noObjects, noFiles⟩
        exact ⟨fun index => objects ▸ noObjects index, fun hObject => files ▸ noFiles hObject⟩
    rw [← kept]
    constructor
    · intro disposed
      exact nothing_of_disposed sha256 _ _ rfl (disposed [])
    · intro nothing events
      exact disposed_of_nothing sha256 _ events (fun _ => rfl) nothing

/-- Nothing is left behind by the first initialization. -/
theorem blank_token_disposed :
    Disposed pinSha256
      (cInitToken pinSha256 (calmEnv 1) blankToken 0 (some soPin) (some [])).2
      (tokenSetUp.drop 2) :=
  (earlier_objects_disposed_iff pinSha256 (calmEnv 1) blankToken 0 (some soPin) (some [])
    (by decide +kernel)).mpr ⟨fun _ => rfl, fun _ => AList.lookup_empty _⟩ (tokenSetUp.drop 2)

/-- A token with a key pair, after the session that made it was closed. -/
def tokenWithKeys : System :=
  Runs.run (step pinSha256) (bootProcess freshStorage)
    (tokenSetUp ++ [calmly (.generateKeyPair 1 (some ckmEcKeyPairGen) [] [] true true),
      calmly (.closeSession 1)])

/-- The key pair outlives a reset of the token with another PIN. -/
theorem keys_outlive_reset :
    Reachable pinSha256 tokenWithKeys ∧
      (cInitToken pinSha256 (calmEnv 1) tokenWithKeys 0 (some otherUserPin) (some [])).1 = .ok ∧
      ¬ Disposed pinSha256
        (cInitToken pinSha256 (calmEnv 1) tokenWithKeys 0 (some otherUserPin) (some [])).2 [] := by
  refine ⟨⟨bootProcess freshStorage, _, rfl, rfl⟩, by decide +kernel, fun disposed => ?_⟩
  obtain ⟨context, present⟩ : ∃ context, (cInitToken pinSha256 (calmEnv 1) tokenWithKeys 0
      (some otherUserPin) (some [])).2.gHsmContext = some context := by
    apply Option.isSome_iff_exists.mp
    decide +kernel
  have empty := (nothing_of_disposed pinSha256 _ context present disposed).objects
    ⟨0, by decide⟩
  have occupied : ((cInitToken pinSha256 (calmEnv 1) tokenWithKeys 0 (some otherUserPin)
      (some [])).2.objects ⟨0, by decide⟩).isSome = true := by decide +kernel
  rw [empty] at occupied
  cases occupied

end PstHsm
