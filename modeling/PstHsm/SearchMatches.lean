import PstHsm.AttributeReads
import PstHsm.Handles
import PstHsm.Loops
import PstHsm.Searches

/-!
# What a search finds

`hsm_find_objects` scans the object table until the table or the result array ends. Its inner
loop over the template has an empty body, so every live object it passes is recorded. A search
therefore finds the first live objects of the table, up to the size of the array: no matching
object among these is missed, and none that does not match is left out.
-/

namespace PstHsm

open Tables

/-! ## Matching -/

/-- A read of the entry's type into memory of the stated length succeeds and shows exactly the
entry's value. -/
def HsmObject.Reports (object : HsmObject) (entry : CkAttribute) : Prop :=
  ∀ memory : Bytes, memory.length = entry.ulValueLen →
    hsmGetAttributeValue object [⟨entry.type, some memory, entry.ulValueLen⟩] =
      (.ok, [⟨entry.type, some entry.stated, entry.ulValueLen⟩])

/-- The attributes that can be read have the values of the template. -/
def HsmObject.Matches (object : HsmObject) (template : List CkAttribute) : Prop :=
  ∀ entry ∈ template, object.Reports entry

/-- A read of one attribute succeeds with an answer exactly when its entry does. -/
theorem read_one_iff (object : HsmObject) (query answer : CkAttribute) :
    hsmGetAttributeValue object [query] = (.ok, [answer]) ↔
      getAttribute object query = (none, answer) := by
  constructor
  · intro read
    have accepted : (hsmGetAttributeValue object [query]).1 = .ok := congrArg Prod.fst read
    have quiet := (get_attribute_value_ok_iff object _).mp accepted query List.mem_cons_self
    exact Prod.ext quiet (List.cons.inj (congrArg Prod.snd read)).1
  · intro answered
    rw [hsmGetAttributeValue, List.foldl_cons, List.foldl_nil, List.map_cons, List.map_nil,
      answered]
    rfl

/-- An object reports the value exactly when it is what the object shows; other types are
never reported. -/
theorem reports_iff (object : HsmObject) (entry : CkAttribute) :
    object.Reports entry ↔ object.shownBytes entry.type = some entry.stated := by
  constructor
  · intro reports
    let query : CkAttribute :=
      ⟨entry.type, some (List.replicate entry.ulValueLen 0), entry.ulValueLen⟩
    have answered : getAttribute object query = (none, ⟨entry.type, some entry.stated, _⟩) :=
      (read_one_iff _ _ _).mp (reports _ List.length_replicate)
    cases shown : object.shownBytes entry.type with
    | none =>
      rw [get_attribute_unknown object query shown] at answered
      cases answered
    | some value =>
      have fixed : getAttribute object query = reportFixed query value := by
        rcases (shown_bytes_iff object entry.type).mp ⟨value, shown⟩ with assigned | copied
        · exact get_attribute_assigned object query value assigned shown
        · have sized := get_attribute_copied object query value copied shown
          rcases Nat.lt_or_ge entry.ulValueLen value.length with short | room
          · rw [sized, report_sized_short query value _ rfl short] at answered
            cases answered
          · rw [sized, report_sized_room query value _ rfl room]
      rw [fixed] at answered
      obtain ⟨-, memory, length⟩ :
          True ∧ value ++ (List.replicate entry.ulValueLen 0).drop value.length = entry.stated ∧
            value.length = entry.ulValueLen := by
        simpa [reportFixed, CkAttribute.write, query] using answered
      rw [length, List.drop_eq_nil_of_le List.length_replicate.le, List.append_nil] at memory
      rw [memory]
  · intro shown memory size
    have length := stated_length entry
    exact (read_one_iff _ _ _).mpr (get_attribute_filled object
      ⟨entry.type, some memory, entry.ulValueLen⟩ entry.stated memory rfl (size.trans length.symm)
      length.symm shown)

/-- An entry of a type that cannot be read matches no object. -/
theorem unreadable_unmatched (object : HsmObject) (template : List CkAttribute)
    (entry : CkAttribute) (member : entry ∈ template)
    (unreadable : entry.type ∉ assignedTypes ∧ entry.type ∉ copiedTypes) :
    ¬ object.Matches template := by
  intro matching
  have shown := (reports_iff object entry).mp (matching entry member)
  rcases (shown_bytes_iff object entry.type).mp ⟨_, shown⟩ with assigned | copied
  · exact unreadable.1 assigned
  · exact unreadable.2 copied

/-! ## The scan -/

/-- The body of the inner loop of `hsm_find_objects` is empty. -/
def matchesTemplate (pTemplate : List CkAttribute) (_object : HsmObject) : Bool :=
  pTemplate.foldl (fun matching _ => matching) true

/-- The outer loop of `hsm_find_objects` over the indices that are left. -/
def scanObjects (pTemplate : List CkAttribute) (objects : Table hsmMaxObjects HsmObject) :
    List (Fin hsmMaxObjects) → List CkObjectHandle → List CkObjectHandle
  | [], results => results
  | index :: rest, results =>
    if results.length < hsmMaxFindObjects then
      match objects index with
      | none => scanObjects pTemplate objects rest results
      | some object =>
        if matchesTemplate pTemplate object then
          scanObjects pTemplate objects rest (results ++ [object.handle])
        else scanObjects pTemplate objects rest results
    else results

theorem matches_template_true (pTemplate : List CkAttribute) (object : HsmObject) :
    matchesTemplate pTemplate object = true := by
  unfold matchesTemplate
  induction pTemplate with
  | nil => rfl
  | cons entry rest inductionHypothesis => exact inductionHypothesis

theorem scan_objects_fill (pTemplate : List CkAttribute)
    (objects : Table hsmMaxObjects HsmObject) (indices : List (Fin hsmMaxObjects))
    (results : List CkObjectHandle) :
    scanObjects pTemplate objects indices results =
      Loops.fill hsmMaxFindObjects (fun index => (objects index).map HsmObject.handle) indices
        results := by
  induction indices generalizing results with
  | nil => rfl
  | cons index rest inductionHypothesis =>
    rw [scanObjects, Loops.fill]
    cases objects index with
    | none => simp only [inductionHypothesis, Option.map_none]
    | some object =>
      simp only [matches_template_true, if_true, inductionHypothesis, Option.map_some]

/-- The scan collects the handles of the live objects as long as the array has room. -/
theorem scan_objects_live (pTemplate : List CkAttribute)
    (objects : Table hsmMaxObjects HsmObject) :
    scanObjects pTemplate objects (List.finRange hsmMaxObjects) [] =
      ((live objects).map HsmObject.handle).take hsmMaxFindObjects := by
  rw [scan_objects_fill, Loops.fill_take _ _ _ _ (Nat.zero_le _), List.nil_append, live,
    List.map_filterMap]

/-- So a search records what the scan of the whole table leaves, whatever the template. -/
theorem find_objects_scan (slot : HsmSlot) (session : HsmSession)
    (pTemplate : List CkAttribute) :
    (hsmFindObjects slot session).findResults =
      scanObjects pTemplate slot.objects (List.finRange hsmMaxObjects) [] := by
  rw [scan_objects_live, ← List.map_take]
  simp only [hsmFindObjects, live]

/-! ## What C_FindObjectsInit records -/

/-- The handles recorded in a session. -/
def System.recorded (system : System) (hSession : CkSessionHandle) : List CkObjectHandle :=
  match hsmGetSession system hSession with
  | .error _ => []
  | .ok found => found.session.findResults.take found.session.findCount

/-- The live objects that a search records. -/
def System.firstLive (system : System) : List HsmObject :=
  (live system.objects).take hsmMaxFindObjects

/-- A handle leads to the object at which the search by handle ends. -/
theorem object_read_found (system : System) (hSession : CkSessionHandle) (found : FoundSession)
    (session : hsmGetSession system hSession = .ok found) (handle : CkObjectHandle)
    (index : Fin hsmMaxObjects) (object : HsmObject)
    (located : find system.objects (fun stored => decide (stored.handle = handle)) =
      some (index, object)) : system.objectRead hSession handle = some object := by
  rw [found_objects system hSession found session] at located
  have lookup : hsmGetObject found.slot handle = .ok (index, object) := by
    unfold hsmGetObject
    rw [located]
  simp only [System.objectRead, session, lookup]

/-- The handle of one of the first live objects leads to one of them. -/
theorem first_handle_leads (system : System) (hSession : CkSessionHandle) (found : FoundSession)
    (session : hsmGetSession system hSession = .ok found) (object : HsmObject)
    (first : object ∈ system.firstLive) :
    ∃ shown ∈ system.firstLive, shown.handle = object.handle ∧
      system.objectRead hSession object.handle = some shown := by
  obtain ⟨place, present⟩ := (mem_live_iff _ _).mp (List.mem_of_mem_take first)
  obtain ⟨⟨index, shown⟩, located⟩ :=
    (find_key_iff HsmObject.handle system.objects object.handle).mpr ⟨place, object, present, rfl⟩
  refine ⟨shown, ?_, ?_, object_read_found system hSession found session _ index shown located⟩
  · exact find_within_first _ _ index shown object _ located first (decide_eq_true rfl)
  · exact of_decide_eq_true (find_sound _ _ index shown located).2

section Search

variable (sha256 : Sha256) (env : Env) (system : System) (hSession : CkSessionHandle)
  (template : List CkAttribute)

/-- The process after `C_FindObjectsInit`. -/
def System.searched : System := (callStep sha256 env system (.findObjectsInit hSession template)).2

/-- Every live object that matches is recorded. -/
def SearchComplete : Prop :=
  ∀ object ∈ live system.objects, object.Matches template →
    object.handle ∈ (system.searched sha256 env hSession template).recorded hSession

/-- Every recorded handle leads `C_GetAttributeValue` to an object that matches. -/
def SearchSound : Prop :=
  ∀ handle ∈ (system.searched sha256 env hSession template).recorded hSession,
    ∃ object, (system.searched sha256 env hSession template).objectRead hSession handle =
      some object ∧ object.Matches template

/-- The call succeeds. -/
def SearchStarts : Prop :=
  (callStep sha256 env system (.findObjectsInit hSession template)).1.rv = .ok

/-- On a session without a search it does. -/
theorem idle_search_starts (found : FoundSession)
    (session : hsmGetSession system hSession = .ok found)
    (idle : found.session.findActive = false) :
    SearchStarts sha256 env system hSession template := by
  rcases find_objects_init_cases system hSession found session with ⟨active, -⟩ | ⟨-, same⟩
  · rw [idle] at active
    cases active
  · simp only [SearchStarts, callStep, same]

variable (starts : SearchStarts sha256 env system hSession template)

include starts

/-- A search that starts has a session. -/
theorem search_session : ∃ found, hsmGetSession system hSession = .ok found := by
  cases located : hsmGetSession system hSession with
  | ok found => exact ⟨found, rfl⟩
  | error rv =>
    simp only [SearchStarts, callStep, cFindObjectsInit, located] at starts
    exact absurd starts (get_session_refused system hSession rv located)

/-- A search that starts records the handles of the first live objects, and objects are read
as before. -/
theorem search_starts :
    (system.searched sha256 env hSession template).recorded hSession =
        system.firstLive.map HsmObject.handle ∧
      ∀ handle, (system.searched sha256 env hSession template).objectRead hSession handle =
        system.objectRead hSession handle := by
  obtain ⟨found, located⟩ := search_session sha256 env system hSession template starts
  rcases find_objects_init_cases system hSession found located with ⟨-, same⟩ | ⟨-, same⟩
  · simp only [SearchStarts, callStep, same] at starts
    cases starts
  · obtain ⟨-, -, named⟩ := get_session_sound system hSession found located
    have state : system.searched sha256 env hSession template = system.withSession found
        { hsmFindObjects found.slot found.session with findActive := true, findIndex := 0 } := by
      simp only [System.searched, callStep, same]
    have handle := (find_objects_frame found.slot found.session).1.trans named
    have results : (hsmFindObjects found.slot found.session).findResults.take
        (hsmFindObjects found.slot found.session).findCount =
          system.firstLive.map HsmObject.handle := by
      rw [System.firstLive, found_objects system hSession found located]
      simp only [hsmFindObjects, List.take_length]
    generalize hsmFindObjects found.slot found.session = searching at state handle results
    have again := get_session_written system hSession found
      { searching with findActive := true, findIndex := 0 } located handle
    rw [state]
    refine ⟨?_, fun hObject => ?_⟩
    · rw [← results]
      simp only [System.recorded, again]
    · have lookup := get_object_session_written found
        { searching with findActive := true, findIndex := 0 } hObject
      simp only [FoundSession.slot] at lookup
      simp only [System.objectRead, again, located, FoundSession.slot, lookup]

/-- What is recorded, in the terms of the state before. -/
theorem recorded_iff (handle : CkObjectHandle) :
    handle ∈ (system.searched sha256 env hSession template).recorded hSession ↔
      ∃ object ∈ system.firstLive, object.handle = handle := by
  rw [(search_starts sha256 env system hSession template starts).1]
  exact List.mem_map

theorem recorded_length :
    ((system.searched sha256 env hSession template).recorded hSession).length =
      min hsmMaxFindObjects (count system.objects) := by
  rw [(search_starts sha256 env system hSession template starts).1, List.length_map,
    System.firstLive, List.length_take, live_length]

/-- A search is complete exactly when no matching object behind the first live ones is left
out. -/
theorem search_complete_beyond_iff :
    SearchComplete sha256 env system hSession template ↔
      ∀ object ∈ (live system.objects).drop hsmMaxFindObjects, object.Matches template →
        ∃ first ∈ system.firstLive, first.handle = object.handle := by
  have recorded := recorded_iff sha256 env system hSession template starts
  constructor
  · intro complete object member matching
    exact (recorded _).mp (complete object (List.mem_of_mem_drop member) matching)
  · intro beyond object member matching
    rw [← List.take_append_drop hsmMaxFindObjects (live system.objects)] at member
    rcases List.mem_append.mp member with first | later
    · exact (recorded _).mpr ⟨object, first, rfl⟩
    · exact (recorded _).mpr (beyond object later matching)

/-- A matching live object is recorded, or the array is full and the object comes after the
first live objects that it has room for. -/
theorem search_complete_within_array :
    (∀ object ∈ live system.objects, object.Matches template →
      object.handle ∈ (system.searched sha256 env hSession template).recorded hSession ∨
        ((system.searched sha256 env hSession template).recorded hSession).length =
            hsmMaxFindObjects ∧
          object ∈ (live system.objects).drop hsmMaxFindObjects) ∧
      (count system.objects ≤ hsmMaxFindObjects →
        SearchComplete sha256 env system hSession template) := by
  have recorded := recorded_iff sha256 env system hSession template starts
  have length := recorded_length sha256 env system hSession template starts
  constructor
  · intro object member matching
    rw [← List.take_append_drop hsmMaxFindObjects (live system.objects)] at member
    rcases List.mem_append.mp member with first | later
    · exact Or.inl ((recorded _).mpr ⟨object, first, rfl⟩)
    · have more := List.length_pos_of_mem later
      rw [List.length_drop, live_length] at more
      exact Or.inr ⟨by omega, later⟩
  · intro fits
    rw [search_complete_beyond_iff sha256 env system hSession template starts,
      List.drop_eq_nil_of_le (by rwa [live_length])]
    exact List.forall_mem_nil _

/-- With distinct handles, a search with an empty template is complete exactly when the array
has room for every live object. -/
theorem search_all_complete_iff (distinct : KeysDistinct HsmObject.handle system.objects)
    (all : template = []) :
    SearchComplete sha256 env system hSession template ↔
      count system.objects ≤ hsmMaxFindObjects := by
  constructor
  · intro complete
    have within : (live system.objects).map HsmObject.handle ⊆
        (system.searched sha256 env hSession template).recorded hSession := by
      intro handle member
      obtain ⟨object, there, rfl⟩ := List.mem_map.mp member
      exact complete object there (all ▸ List.forall_mem_nil _)
    have fits := ((live_keys_nodup HsmObject.handle _ distinct).subperm within).length_le
    rw [List.length_map, live_length,
      recorded_length sha256 env system hSession template starts] at fits
    exact fits.trans (Nat.min_le_left _ _)
  · exact (search_complete_within_array sha256 env system hSession template starts).2

/-- A search is sound exactly when each of the first live objects that its own handle leads to
shows the values of the template. -/
theorem search_sound_iff :
    SearchSound sha256 env system hSession template ↔
      ∀ object ∈ system.firstLive, system.objectRead hSession object.handle = some object →
        ∀ entry ∈ template, object.shownBytes entry.type = some entry.stated := by
  have recorded := recorded_iff sha256 env system hSession template starts
  obtain ⟨-, read⟩ := search_starts sha256 env system hSession template starts
  constructor
  · intro sound object first itself entry member
    obtain ⟨shown, found, matching⟩ := sound _ ((recorded _).mpr ⟨object, first, rfl⟩)
    rw [read, itself] at found
    obtain rfl := Option.some.inj found
    exact (reports_iff object entry).mp (matching entry member)
  · intro shows handle member
    obtain ⟨object, first, named⟩ := (recorded handle).mp member
    obtain ⟨found, session⟩ := search_session sha256 env system hSession template starts
    obtain ⟨shown, there, same, leads⟩ :=
      first_handle_leads system hSession found session object first
    refine ⟨shown, (read handle).trans (named ▸ leads), ?_⟩
    intro entry asked
    exact (reports_iff shown entry).mpr (shows shown there (same.symm ▸ leads) entry asked)

end Search

/-! ## A crowded table -/

/-- Creations with room for them all fill as many entries, with distinct handles while the
counter stays in its range, and leave the session. -/
theorem creations_fill (sha256 : Sha256) (env : Env) (hSession : CkSessionHandle)
    (template : List CkAttribute) (memory : env.calloc 0 = true) (amount : Nat) (system : System)
    (counted : ObjectsCounted system) (issued : HandlesIssued system.objectStore)
    (found : FoundSession) (session : hsmGetSession system hSession = .ok found)
    (room : amount + count system.objects ≤ hsmMaxObjects)
    (within : system.handleCounter + amount ≤ handleRange) :
    ∃ filled later, Runs.run (step sha256) system
          (creationsOn hSession (List.replicate amount (template, env))) = filled ∧
      HandlesIssued filled.objectStore ∧ count filled.objects = amount + count system.objects ∧
      hsmGetSession filled hSession = .ok later ∧ later.session = found.session := by
  induction amount generalizing system found with
  | zero => exact ⟨system, found, rfl, issued, (Nat.zero_add _).symm, session, rfl⟩
  | succ amount inductionHypothesis =>
    obtain ⟨handle, created, later, taken, countedNext, next, counter, stays, same⟩ :=
      creation_succeeds sha256 env system counted hSession template found session memory
        (by omega)
    have issuedNext := handles_issued_step sha256 system
      (.call (.createObject hSession (some template) true) env) issued
      (decide_eq_true (by omega))
    rw [taken] at issuedNext
    rw [counter_next system.handleCounter (by omega)] at counter
    obtain ⟨filled, last, ran, issuedLast, size, there, kept⟩ :=
      inductionHypothesis created countedNext issuedNext later stays (by omega) (by omega)
    refine ⟨filled, last, ?_, issuedLast, by omega, there, kept.trans same⟩
    rw [List.replicate_succ, creationsOn, List.map_cons, Runs.run, taken]
    exact ran

/-- One object more than a search records, each created with an empty template. -/
def crowding : List Event :=
  creationsOn 1 (List.replicate (hsmMaxFindObjects + 1) ([], calmEnv 1))

/-- The user is logged in among more objects than a search records. -/
def crowded : System := Runs.run (step pinSha256) userReady crowding

/-- All the creations took place, and no search is in progress. -/
theorem crowded_filled :
    KeysDistinct HsmObject.handle crowded.objects ∧
      count crowded.objects = hsmMaxFindObjects + 1 ∧
      ∃ found, hsmGetSession crowded 1 = .ok found ∧ found.session.findActive = false := by
  have reached := set_up_reachable []
  rw [Runs.run] at reached
  have counted := objects_counted_reachable pinSha256 userReady reached
  have nothing : count userReady.objects = 0 := by decide +kernel
  have fresh : userReady.handleCounter = 1 := by decide +kernel
  have idle : ∃ found, hsmGetSession userReady 1 = .ok found ∧
      found.session.findActive = false := by
    have shown : (hsmGetSession userReady 1).toOption.map (fun found => found.session.findActive) =
        some false := by decide +kernel
    cases session : hsmGetSession userReady 1 with
    | error rv =>
      rw [session] at shown
      cases shown
    | ok found =>
      rw [session] at shown
      exact ⟨found, rfl, Option.some.inj shown⟩
  obtain ⟨found, session, quiet⟩ := idle
  obtain ⟨filled, later, ran, issuedLast, size, there, kept⟩ :=
    creations_fill pinSha256 (calmEnv 1) 1 [] rfl (hsmMaxFindObjects + 1) userReady counted
      set_up_issued found session (by rw [nothing]; decide) (by rw [fresh]; decide)
  have same : crowded = filled := ran
  rw [same]
  refine ⟨issuedLast.distinct, by rw [size, nothing], later, there, ?_⟩
  rw [kept]
  exact quiet

/-- An object is missing from a search that every object matches. -/
theorem crowded_search_misses :
    Reachable pinSha256 crowded ∧ SearchStarts pinSha256 (calmEnv 1) crowded 1 [] ∧
      ¬ SearchComplete pinSha256 (calmEnv 1) crowded 1 [] := by
  obtain ⟨distinct, size, found, session, quiet⟩ := crowded_filled
  have starts := idle_search_starts pinSha256 (calmEnv 1) crowded 1 [] found session quiet
  refine ⟨set_up_reachable crowding, starts, ?_⟩
  rw [search_all_complete_iff _ _ _ _ _ starts distinct rfl, size]
  decide

/-- A private key is looked for. -/
def privateKeys : List CkAttribute :=
  [entryOf ckaClass (Bytes.littleEndian 8 objTypePrivateKey)]

/-- A data object is found when a private key is looked for. -/
theorem private_key_search_finds_data :
    Reachable pinSha256 dataStored ∧
      SearchStarts pinSha256 (calmEnv 1) dataStored 1 privateKeys ∧
      ¬ SearchSound pinSha256 (calmEnv 1) dataStored 1 privateKeys := by
  refine ⟨set_up_reachable _, ?_, ?_⟩
  · unfold SearchStarts
    decide +kernel
  · intro sound
    have recorded : 0x40000001 ∈
        (dataStored.searched pinSha256 (calmEnv 1) 1 privateKeys).recorded 1 := by decide +kernel
    have kind : ((dataStored.searched pinSha256 (calmEnv 1) 1 privateKeys).objectRead 1
        0x40000001).map HsmObject.type = some objTypeData := by decide +kernel
    obtain ⟨object, read, matching⟩ := sound _ recorded
    rw [read] at kind
    have shown := (reports_iff object _).mp (matching _ List.mem_cons_self)
    have same : Bytes.littleEndian 8 object.type = Bytes.littleEndian 8 objTypePrivateKey :=
      Option.some.inj shown
    rw [Option.some.inj kind] at same
    exact absurd same (by decide)

/-- Data objects are looked for. -/
def dataObjects : List CkAttribute := [entryOf ckaClass (Bytes.littleEndian 8 objTypeData)]

theorem data_search_starts :
    SearchStarts pinSha256 (calmEnv 1) dataStored 1 dataObjects := by
  unfold SearchStarts
  decide +kernel

/-- The one data object is found when data objects are looked for. -/
theorem data_search_complete :
    SearchComplete pinSha256 (calmEnv 1) dataStored 1 dataObjects :=
  (search_complete_within_array pinSha256 (calmEnv 1) dataStored 1 dataObjects
    data_search_starts).2 (by decide +kernel)

/-- Nothing else is found with it. -/
theorem data_search_sound :
    SearchSound pinSha256 (calmEnv 1) dataStored 1 dataObjects := by
  have shown : ∀ object ∈ dataStored.firstLive, ∀ entry ∈ dataObjects,
      object.shownBytes entry.type = some entry.stated := by decide +kernel
  apply (search_sound_iff pinSha256 (calmEnv 1) dataStored 1 dataObjects data_search_starts).mpr
  intro object first _
  exact shown object first

end PstHsm
