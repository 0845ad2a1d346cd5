import PstHsm.Chunks
import PstHsm.SessionRecords

/-!
# Object searches

`C_FindObjectsInit` records handles in the session, `C_FindObjects` hands them out in
chunks behind a cursor, and `C_FindObjectsFinal` ends the search. Beside each session
the search is kept as its caller sees it: the snapshot at its start, the handles
received since and how many were asked for. Other sessions and changes of the object
table play no part after the snapshot.
-/

namespace PstHsm

open Tables Chunks

/-! ## Searches as the caller sees them -/

/-- The handles a search that starts now is about. -/
def System.snapshot (system : System) : List CkObjectHandle :=
  ((live system.objects).take hsmMaxFindObjects).map HsmObject.handle

/-- What a successful call does to the search of the session it is made on. -/
def System.searchNoted (system : System) :
    Call → Output → Option (Delivery CkObjectHandle) → Option (Delivery CkObjectHandle)
  | .findObjectsInit _ _, _, _ => some (.start system.snapshot)
  | .findObjects _ _ most _, .handles chunk, search => search.map (Delivery.next · most chunk)
  | .findObjectsFinal _, _, _ => none
  | _, _, search => search

/-- A session that was just opened has no search. -/
def noteSearch (system : System) (place : Fin hsmMaxSessions) (call : Call)
    (response : Response) (search : Option (Delivery CkObjectHandle)) :
    Option (Delivery CkObjectHandle) :=
  if response.rv ≠ .ok then search
  else
    match call with
    | .openSession _ _ _ => if (system.sessions place).isNone then none else search
    | call =>
      if system.actsOn call = some place then system.searchNoted call response.output search
      else search

/-- The process with the searches of its sessions. -/
def searchStep (sha256 : Sha256) :
    System × (Fin hsmMaxSessions → Option (Delivery CkObjectHandle)) → Event →
    Response × System × (Fin hsmMaxSessions → Option (Delivery CkObjectHandle)) :=
  recordStep sha256 noteSearch

/-- No search has been started anywhere. -/
def noSearches : Fin hsmMaxSessions → Option (Delivery CkObjectHandle) := fun _ => none

/-! ## What the fields of a session say -/

/-- The search fields of a session agree with the search in progress, if any. -/
inductive SearchReflected (session : HsmSession) : Option (Delivery CkObjectHandle) → Prop
  | idle (inactive : session.findActive = false) (count : session.findCount = 0)
      (index : session.findIndex = 0) : SearchReflected session none
  | searching (search : Delivery CkObjectHandle) (active : session.findActive = true)
      (results : session.findResults = search.recorded)
      (count : session.findCount = search.recorded.length)
      (index : session.findIndex = search.delivered.length) (exact : search.Exact)
      (few : search.recorded.length ≤ hsmMaxFindObjects) : SearchReflected session (some search)

/-- Two sessions with the same search fields. -/
theorem search_reflected_congr (session after : HsmSession)
    (search : Option (Delivery CkObjectHandle)) (active : after.findActive = session.findActive)
    (results : after.findResults = session.findResults)
    (count : after.findCount = session.findCount) (index : after.findIndex = session.findIndex)
    (reflected : SearchReflected session search) : SearchReflected after search := by
  cases reflected with
  | idle inactive countBefore indexBefore =>
    exact .idle (active.trans inactive) (count.trans countBefore) (index.trans indexBefore)
  | searching search activeBefore resultsBefore countBefore indexBefore exact few =>
    exact .searching search (active.trans activeBefore) (results.trans resultsBefore)
      (count.trans countBefore) (index.trans indexBefore) exact few

/-- A search runs exactly while the session's flag is set. -/
theorem search_active_iff (session : HsmSession) (search : Option (Delivery CkObjectHandle))
    (reflected : SearchReflected session search) :
    session.findActive = search.isSome := by
  cases reflected with
  | idle inactive count index => exact inactive
  | searching search active results count index exact few => exact active

/-- The cursor lies within the recorded handles, and these within their array. -/
theorem search_bounded (session : HsmSession) (search : Option (Delivery CkObjectHandle))
    (reflected : SearchReflected session search) :
    session.findIndex ≤ session.findCount ∧ session.findCount ≤ hsmMaxFindObjects := by
  cases reflected with
  | idle inactive count index =>
    rw [index, count]
    exact ⟨Nat.le_refl 0, Nat.zero_le _⟩
  | searching search active results count index exact few =>
    rw [index, count]
    exact ⟨(delivered_first search exact).length_le, few⟩

/-- The chunk that `C_FindObjects` copies is the one due. -/
theorem copied_due (session : HsmSession) (search : Delivery CkObjectHandle) (most : Nat)
    (reflected : SearchReflected session (some search)) :
    ((List.range (min most (session.findCount - session.findIndex))).map fun offset =>
      session.findResults.getD (session.findIndex + offset) 0) = search.due most := by
  cases reflected with
  | searching _ active results count index exact few =>
    have inside := (delivered_first search exact).length_le
    have copied := copied_range search.recorded search.delivered.length
      (min most (search.recorded.length - search.delivered.length)) 0 (by omega)
    rw [results, count, index]
    refine copied.trans ?_
    rw [Delivery.due, ← List.length_drop, List.take_eq_take_iff]
    omega

/-! ## Calls on the session -/

section Calls

variable (sha256 : Sha256) (env : Env) (system : System) (hSession : CkSessionHandle)
  (found : FoundSession) (located : hsmGetSession system hSession = .ok found)
  (search : Option (Delivery CkObjectHandle))

include located

/-- `C_FindObjectsInit` starts a search exactly when none is in progress. -/
theorem find_objects_init_cases :
    (found.session.findActive = true ∧
        cFindObjectsInit system hSession = (.operationActive, system)) ∨
      (found.session.findActive = false ∧
        cFindObjectsInit system hSession = (.ok, system.withSession found
          { hsmFindObjects found.slot found.session with
            findActive := true, findIndex := 0 })) := by
  cases active : found.session.findActive with
  | true =>
    refine Or.inl ⟨rfl, ?_⟩
    simp only [cFindObjectsInit, located, if_pos active]
  | false =>
    refine Or.inr ⟨rfl, ?_⟩
    simp only [cFindObjectsInit, located, active, Bool.false_eq_true, if_false]

/-- `C_FindObjects` hands out a chunk exactly while a search is in progress. -/
theorem find_objects_cases (most : CkUlong) :
    (found.session.findActive = false ∧
        cFindObjects system hSession true most true = (.operationNotInitialized, [], system)) ∨
      (found.session.findActive = true ∧
        cFindObjects system hSession true most true =
          (.ok,
            (List.range (min most (found.session.findCount - found.session.findIndex))).map
              fun offset => found.session.findResults.getD (found.session.findIndex + offset) 0,
            system.withSession found { found.session with
              findIndex := found.session.findIndex +
                min most (found.session.findCount - found.session.findIndex) })) := by
  cases active : found.session.findActive with
  | false =>
    refine Or.inl ⟨rfl, ?_⟩
    simp only [cFindObjects, located, active, Bool.not_true, Bool.or_self, Bool.false_eq_true,
      if_false, Bool.not_false, if_true]
  | true =>
    refine Or.inr ⟨rfl, ?_⟩
    simp only [cFindObjects, located, active, Bool.not_true, Bool.or_self, Bool.false_eq_true,
      if_false]

/-- `C_FindObjectsFinal` ends a search exactly while one is in progress. -/
theorem find_objects_final_cases :
    (found.session.findActive = false ∧
        cFindObjectsFinal system hSession = (.operationNotInitialized, system)) ∨
      (found.session.findActive = true ∧
        cFindObjectsFinal system hSession = (.ok, system.withSession found
          { found.session with findActive := false, findCount := 0, findIndex := 0 })) := by
  cases active : found.session.findActive with
  | false =>
    refine Or.inl ⟨rfl, ?_⟩
    simp only [cFindObjectsFinal, located, active, Bool.not_false, if_true]
  | true =>
    refine Or.inr ⟨rfl, ?_⟩
    simp only [cFindObjectsFinal, located, active, Bool.not_true, Bool.false_eq_true, if_false]

omit located

/-- The calls that a search consists of, and the opening of a session. -/
def Call.searches : Call → Bool
  | .openSession _ _ _ | .findObjectsInit _ _ | .findObjects _ _ _ _ | .findObjectsFinal _ => true
  | _ => false

/-- A refused call leaves the search. -/
theorem search_refused (place : Fin hsmMaxSessions) (call : Call) (response : Response)
    (refused : response.rv ≠ .ok) : noteSearch system place call response search = search := by
  rw [noteSearch.eq_def, if_pos refused]

/-- A call on another session leaves it. -/
theorem search_elsewhere (place : Fin hsmMaxSessions) (call : Call) (response : Response)
    (present : system.sessions place ≠ none) (elsewhere : system.actsOn call ≠ some place) :
    noteSearch system place call response search = search := by
  unfold noteSearch
  split
  · rfl
  · split
    · exact if_neg fun free => present (Option.isNone_iff_eq_none.mp free)
    · exact if_neg elsewhere

/-- So does one that is not about searches. -/
theorem search_quiet (place : Fin hsmMaxSessions) (call : Call) (response : Response)
    (quiet : call.searches = false) : noteSearch system place call response search = search := by
  have same : system.searchNoted call response.output search = search := by
    unfold System.searchNoted
    split
    · cases quiet
    · cases quiet
    · cases quiet
    · rfl
  unfold noteSearch
  split
  · rfl
  · split
    · cases quiet
    · rw [same]
      exact ite_self search

variable (session : HsmSession) (reflected : SearchReflected found.session search)

include located reflected

/-- A call that fails and writes no session leaves the fields as they are. -/
theorem search_undisturbed (call : Call) (response : Response) (refused : response.rv ≠ .ok)
    (present : system.sessions found.index = some session) :
    SearchReflected session (noteSearch system found.index call response search) := by
  have entry := (get_session_entry system hSession found located).1
  rw [search_refused system search _ _ _ refused]
  cases entry.symm.trans present
  exact reflected

/-- `C_FindObjectsInit` starts a delivery of what was found. -/
theorem search_started (template : List CkAttribute)
    (present : (callStep sha256 env system (.findObjectsInit hSession template)).2.sessions
      found.index = some session) :
    SearchReflected session (noteSearch system found.index (.findObjectsInit hSession template)
      (callStep sha256 env system (.findObjectsInit hSession template)).1 search) := by
  obtain ⟨there, -, -⟩ := get_session_sound system hSession found located
  have acts := acts_on_found system (.findObjectsInit hSession template) hSession found rfl located
  rcases find_objects_init_cases system hSession found located with
    ⟨-, same⟩ | ⟨-, same⟩
  · simp only [callStep, same] at present ⊢
    exact search_undisturbed system hSession found located search session reflected _ _
      CkRv.noConfusion present
  · simp only [callStep, same] at present ⊢
    rw [written_back system found (found.slotWith _) _ session rfl present]
    have noted : noteSearch system found.index (.findObjectsInit hSession template)
        ⟨.ok, .nothing⟩ search = some (.start system.snapshot) := by
      simp [noteSearch, acts, System.searchNoted]
    have results : system.snapshot =
        ((live found.slot.objects).take hsmMaxFindObjects).map HsmObject.handle := by
      rw [System.snapshot, objects_present system found.context there]
      rfl
    rw [noted, results]
    refine .searching _ rfl ?_ ?_ rfl (exact_start _) ?_
    · simp [hsmFindObjects, Delivery.start]
    · simp [hsmFindObjects, Delivery.start]
    · rw [Delivery.start, List.length_map]
      exact List.length_take_le _ _

/-- `C_FindObjects` delivers the next chunk. -/
theorem search_advanced (phObject : Bool) (most : CkUlong) (pulObjectCount : Bool)
    (present : (callStep sha256 env system
      (.findObjects hSession phObject most pulObjectCount)).2.sessions found.index = some session) :
    SearchReflected session (noteSearch system found.index
      (.findObjects hSession phObject most pulObjectCount)
      (callStep sha256 env system (.findObjects hSession phObject most pulObjectCount)).1
      search) := by
  have acts := acts_on_found system (.findObjects hSession phObject most pulObjectCount) hSession
    found rfl located
  by_cases missing : (!phObject || !pulObjectCount) = true
  · simp only [callStep, cFindObjects, if_pos missing] at present ⊢
    exact search_undisturbed system hSession found located search session reflected _ _
      CkRv.noConfusion present
  · obtain ⟨rfl, rfl⟩ : phObject = true ∧ pulObjectCount = true := by simpa using missing
    rcases find_objects_cases system hSession found located most with
      ⟨-, same⟩ | ⟨searching, same⟩
    · simp only [callStep, same] at present ⊢
      exact search_undisturbed system hSession found located search session reflected _ _
        CkRv.noConfusion present
    · simp only [callStep, same] at present ⊢
      rw [written_back system found (found.slotWith _) _ session rfl present]
      cases search with
      | none => cases searching.symm.trans (search_active_iff found.session none reflected)
      | some search =>
        have chunk := copied_due found.session search most reflected
        rw [chunk]
        have noted : noteSearch system found.index (.findObjects hSession true most true)
            ⟨.ok, .handles (search.due most)⟩ (some search) =
            some (search.next most (search.due most)) := by
          simp [noteSearch, acts, System.searchNoted]
        rw [noted]
        cases reflected with
        | searching _ active results count index exact few =>
          refine .searching _ active results count ?_ (exact_next search most exact) few
          change found.session.findIndex +
              min most (found.session.findCount - found.session.findIndex) =
            (search.delivered ++ search.due most).length
          rw [List.length_append, due_length, count, index]

/-- `C_FindObjectsFinal` ends the delivery. -/
theorem search_ended
    (present : (callStep sha256 env system (.findObjectsFinal hSession)).2.sessions found.index =
      some session) :
    SearchReflected session (noteSearch system found.index (.findObjectsFinal hSession)
      (callStep sha256 env system (.findObjectsFinal hSession)).1 search) := by
  have acts := acts_on_found system (.findObjectsFinal hSession) hSession found rfl located
  rcases find_objects_final_cases system hSession found located with ⟨-, same⟩ | ⟨-, same⟩
  · simp only [callStep, same] at present ⊢
    exact search_undisturbed system hSession found located search session reflected _ _
      CkRv.noConfusion present
  · simp only [callStep, same] at present ⊢
    rw [written_back system found (found.slotWith _) _ session rfl present]
    have noted : noteSearch system found.index (.findObjectsFinal hSession) ⟨.ok, .nothing⟩
        search = none := by
      simp [noteSearch, acts, System.searchNoted]
    rw [noted]
    exact .idle rfl rfl rfl

/-- A call made on a session keeps its fields reflecting its search. -/
theorem acted_search (call : Call) (named : call.hSession = some hSession)
    (present : (callStep sha256 env system call).2.sessions found.index = some session) :
    SearchReflected session
      (noteSearch system found.index call (callStep sha256 env system call).1 search) := by
  have entry := (get_session_entry system hSession found located).1
  cases quiet : call.searches with
  | true =>
    cases call with
    | openSession slotID flags phSession => cases named
    | findObjectsInit hSession template =>
      obtain rfl := Option.some.inj named
      exact search_started sha256 env system _ found located search session reflected template
        present
    | findObjects hSession phObject most pulObjectCount =>
      obtain rfl := Option.some.inj named
      exact search_advanced sha256 env system _ found located search session reflected phObject
        most pulObjectCount present
    | findObjectsFinal hSession =>
      obtain rfl := Option.some.inj named
      exact search_ended sha256 env system _ found located search session reflected present
    | _ => cases quiet
  | false =>
    rw [search_quiet system search _ call _ quiet]
    have change := session_change sha256 env system call found.index found.session session entry
      present
    cases change with
    | kept => exact reflected
    | loggedIn userType pin context again fresh =>
      obtain ⟨-, -, active, results, count, index⟩ :=
        logged_in_frame found.session userType env.now
      exact search_reflected_congr found.session _ search active results count index reflected
    | updated call context after again _ update =>
      cases update with
      | searchStarted => cases quiet
      | searchAdvanced => cases quiet
      | searchEnded => cases quiet
      | _ =>
        apply search_reflected_congr found.session _ search _ _ _ _ reflected
        all_goals rfl

end Calls

/-! ## Runs -/

/-- The rule for searches. -/
theorem search_record_rule (sha256 : Sha256) :
    RecordRule sha256 noteSearch SearchReflected := by
  constructor
  · intro system place slotID flags response now search succeeded vacant
    have started : noteSearch system place (.openSession slotID flags true) response search =
        none := by
      simp [noteSearch, succeeded, vacant]
    rw [started]
    exact .idle rfl rfl rfl
  · intro system place call response search
    exact search_elsewhere system search place call response
  · intro env system call hSession found session search named located present reflected
    exact acted_search sha256 env system hSession found located search session reflected call named
      present

/-- Every search in progress delivers its snapshot, and searches begin and end as their
callers see. -/
structure SearchesDeliver (system : System)
    (searches : Fin hsmMaxSessions → Option (Delivery CkObjectHandle)) : Prop where
  bounded : ∀ place session, system.sessions place = some session →
    session.findIndex ≤ session.findCount ∧ session.findCount ≤ hsmMaxFindObjects
  delivered : ∀ place session search, system.sessions place = some session →
    searches place = some search →
    session.findResults.take session.findCount = search.recorded ∧
      search.delivered <+: search.recorded ∧
      (search.recorded.length ≤ search.requested → search.delivered = search.recorded)
  chunk : ∀ hSession found search most, hsmGetSession system hSession = .ok found →
    searches found.index = some search →
    (cFindObjects system hSession true most true).2.1 =
        (search.recorded.drop search.delivered.length).take most ∧
      (cFindObjects system hSession true most true).2.1.length =
        min most (search.recorded.length - search.delivered.length)
  finds : ∀ hSession found most, hsmGetSession system hSession = .ok found →
    ((cFindObjects system hSession true most true).1 = .ok ↔
      (searches found.index).isSome = true)
  ends : ∀ hSession found, hsmGetSession system hSession = .ok found →
    ((cFindObjectsFinal system hSession).1 = .ok ↔ (searches found.index).isSome = true)

/-- In every run each search delivers the handles recorded at its start, in order and
each once, whatever else is called meanwhile. -/
theorem searches_deliver (sha256 : Sha256) (system : System) (events : List Event)
    (booted : Booted system) :
    SearchesDeliver (Runs.run (searchStep sha256) (system, noSearches) events).1
      (Runs.run (searchStep sha256) (system, noSearches) events).2 := by
  have reflected := records_run sha256 noteSearch SearchReflected (search_record_rule sha256) system
    events booted noSearches
  change AllSessions SearchReflected (Runs.run (searchStep sha256) (system, noSearches) events).1
    (Runs.run (searchStep sha256) (system, noSearches) events).2 at reflected
  generalize Runs.run (searchStep sha256) (system, noSearches) events = pair at reflected
  obtain ⟨reached, searches⟩ := pair
  have ofFound (hSession : CkSessionHandle) (found : FoundSession)
      (located : hsmGetSession reached hSession = .ok found) :
      SearchReflected found.session (searches found.index) :=
    reflected found.index found.session (get_session_entry reached hSession found located).1
  constructor
  · intro place session present
    exact search_bounded session _ (reflected place session present)
  · intro place session search present inProgress
    have holds := reflected place session present
    rw [inProgress] at holds
    cases holds with
    | searching _ active results count index exact few =>
      refine ⟨?_, delivered_first search exact, delivered_whole search exact⟩
      rw [results, count, List.take_length]
  · intro hSession found search most located inProgress
    have holds := ofFound hSession found located
    rw [show searches found.index = some search from inProgress] at holds
    have active := search_active_iff found.session _ holds
    rcases find_objects_cases reached hSession found located most with
      ⟨inactive, -⟩ | ⟨-, same⟩
    · cases active.symm.trans inactive
    · have chunk := copied_due found.session search most holds
      simp only [same, chunk]
      exact ⟨rfl, due_length search most⟩
  · intro hSession found most located
    have active := search_active_iff found.session _ (ofFound hSession found located)
    rcases find_objects_cases reached hSession found located most with
      ⟨inactive, same⟩ | ⟨searching, same⟩
    · rw [same]
      exact iff_of_false CkRv.noConfusion (by simp [← active, inactive])
    · rw [same]
      exact iff_of_true rfl (by simp [← active, searching])
  · intro hSession found located
    have active := search_active_iff found.session _ (ofFound hSession found located)
    rcases find_objects_final_cases reached hSession found located with
      ⟨inactive, same⟩ | ⟨searching, same⟩
    · rw [same]
      exact iff_of_false CkRv.noConfusion (by simp [← active, inactive])
    · rw [same]
      exact iff_of_true rfl (by simp [← active, searching])

/-- Two objects, found in chunks of one while a third is created. -/
def chunkedSearch : List Event :=
  [calmly .initializeLibrary,
    calmly (.openSession 0 ckfSerialSession true),
    calmly (.createObject 1 (some []) true),
    calmly (.createObject 1 (some []) true),
    calmly (.findObjectsInit 1 []),
    calmly (.findObjects 1 true 1 true),
    calmly (.createObject 1 (some []) true),
    calmly (.findObjects 1 true 5 true)]

theorem chunked_search_delivers :
    SearchesDeliver
      (Runs.run (searchStep pinSha256) (bootProcess freshStorage, noSearches) chunkedSearch).1
      (Runs.run (searchStep pinSha256) (bootProcess freshStorage, noSearches) chunkedSearch).2 :=
  searches_deliver pinSha256 (bootProcess freshStorage) chunkedSearch rfl

end PstHsm
