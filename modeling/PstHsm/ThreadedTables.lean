import PstHsm.Linearization
import PstHsm.Handles

/-!
# Tables under racing threads

What the calls keep when they are made one after the other holds for racing threads as well: no
update of a count is lost, and no handle is handed out twice.
-/

namespace PstHsm

open Tables CriticalSections

variable (sha256 : Sha256)

/-! ## What one call does -/

/-- The call is about a PIN. -/
def SlotCall.onPins : SlotCall → Bool
  | .login _ _ _ => true
  | .changePin _ _ _ _ => true
  | .initPin _ _ _ => true
  | _ => false

/-- What a call changes, under what it found. Files are not looked at. -/
inductive SlotEffect (system : System) : SlotCall → SlotAnswer → System → Prop where
  | nothing (call : SlotCall) (rv : CkRv)
      (quiet : system.gHsmContext = none ∨ call.onPins = false) :
      SlotEffect system call (rv, []) system
  | sessionCreated (flags : CkFlags) (env : Env) (context : HsmContext)
      (index : Fin hsmMaxSessions) (session : HsmSession)
      (present : system.gHsmContext = some context)
      (free : context.slot.sessions index = none) :
      SlotEffect system (.createSession flags env) (.ok, [system.gNextSessionHandle])
        { system.withSlot context { context.slot with
            sessions := put context.slot.sessions index (some session)
            sessionCount := context.slot.sessionCount + 1 } with
          gNextSessionHandle := (system.gNextSessionHandle + 1) % 2 ^ 64 }
  | sessionDestroyed (hSession : CkSessionHandle) (context : HsmContext)
      (index : Fin hsmMaxSessions) (session : HsmSession)
      (present : system.gHsmContext = some context)
      (entry : context.slot.sessions index = some session) :
      SlotEffect system (.destroySession hSession) (.ok, [])
        (system.withSlot context { context.slot with
          sessions := put context.slot.sessions index none
          sessionCount := context.slot.sessionCount - 1 })
  | objectCreated (cameBy : CameBy) (template : List CkAttribute) (env : Env)
      (context : HsmContext) (place : Fin hsmMaxObjects) (object : HsmObject) (type : Nat)
      (storage : Storage) (present : system.gHsmContext = some context)
      (free : context.slot.objects place = none) :
      SlotEffect system (.createObject cameBy template env)
        (.ok, [hsmGenerateObjectHandle type system.handleCounter])
        { system.withSlot context
            (context.slot.withObject place (some object) (context.slot.objectCount + 1)) with
          handleCounter := advanceCounter system.handleCounter
          storage := storage }
  | objectDestroyed (cameBy : CameBy) (hObject : CkObjectHandle) (env : Env)
      (context : HsmContext) (place : Fin hsmMaxObjects) (object : HsmObject) (storage : Storage)
      (present : system.gHsmContext = some context)
      (entry : context.slot.objects place = some object) :
      SlotEffect system (.destroyObject cameBy hObject env) (.ok, [])
        { system.withSlot context
            (context.slot.withObject place none (context.slot.objectCount - 1)) with
          storage := storage }
  | pairInserted (cameBy : CameBy) (pubObj privObj : HsmObject) (env : Env) (context : HsmContext)
      (pubIdx privIdx : Fin hsmMaxObjects) (pub priv : HsmObject) (storage : Storage)
      (present : system.gHsmContext = some context)
      (pubFree : context.slot.objects pubIdx = none)
      (privFree : context.slot.objects privIdx = none) (different : pubIdx ≠ privIdx) :
      SlotEffect system (.insertKeyPair cameBy pubObj privObj env)
        (.ok, [hsmGenerateObjectHandle objTypePublicKey system.handleCounter,
          hsmGenerateObjectHandle objTypePrivateKey (advanceCounter system.handleCounter)])
        { system.withSlot context { context.slot with
            objects := put (put context.slot.objects pubIdx (some pub)) privIdx (some priv)
            objectCount := context.slot.objectCount + 2 } with
          handleCounter := advanceCounter (advanceCounter system.handleCounter)
          storage := storage }
  | guessed (cameBy : CameBy) (userType : CkUserType) (pPin : Bytes) (context : HsmContext)
      (present : system.gHsmContext = some context) :
      SlotEffect system (.login cameBy userType pPin)
        ((hsmVerifyPin sha256 context.slot userType pPin).1, [])
        (system.withSlot context (hsmVerifyPin sha256 context.slot userType pPin).2)
  | changeRefused (cameBy : CameBy) (pOldPin : Bytes) (pNewPin : NewPin) (env : Env)
      (context : HsmContext) (present : system.gHsmContext = some context)
      (refused : (hsmVerifyPin sha256 context.slot cameBy.2.pinOwner pOldPin).1 ≠ .ok) :
      SlotEffect system (.changePin cameBy pOldPin pNewPin env)
        ((hsmVerifyPin sha256 context.slot cameBy.2.pinOwner pOldPin).1, [])
        (system.withSlot context (hsmVerifyPin sha256 context.slot cameBy.2.pinOwner pOldPin).2)
  | pinChanged (cameBy : CameBy) (pOldPin : Bytes) (pNewPin : NewPin) (env : Env)
      (context : HsmContext) (storage : Storage) (present : system.gHsmContext = some context)
      (accepted : (hsmVerifyPin sha256 context.slot cameBy.2.pinOwner pOldPin).1 = .ok) :
      SlotEffect system (.changePin cameBy pOldPin pNewPin env) (.ok, [])
        { system.withSlot context
            ((hsmVerifyPin sha256 context.slot cameBy.2.pinOwner pOldPin).2.pinReplaced
              cameBy.2.pinOwner (sha256 pNewPin)) with
          storage := storage }
  | userPinSet (cameBy : CameBy) (pPin : NewPin) (env : Env) (context : HsmContext)
      (storage : Storage) (present : system.gHsmContext = some context) :
      SlotEffect system (.initPin cameBy pPin env) (.ok, [])
        { system.withSlot context (context.slot.userPinSet (sha256 pPin)) with
          storage := storage }

/-- Every call does one of these. -/
theorem step_effect (call : SlotCall) (system : System) :
    SlotEffect sha256 system call (call.inOneStep sha256 system).1
      (call.inOneStep sha256 system).2 := by
  unfold SlotCall.inOneStep
  cases present : system.gHsmContext with
  | none => exact .nothing call _ (.inl present)
  | some context =>
    cases call with
    | createSession flags env =>
      dsimp only
      unfold hsmCreateSession
      dsimp only
      split
      · exact .nothing _ _ (.inr rfl)
      · split
        · exact .nothing _ _ (.inr rfl)
        · rename_i index free
          split
          · exact .nothing _ _ (.inr rfl)
          · exact .sessionCreated flags env context index _ present
              (first_free_sound _ index free)
    | destroySession hSession =>
      dsimp only
      unfold hsmDestroySession
      cases located : hsmGetSession system hSession with
      | error rv => exact .nothing _ _ (.inr rfl)
      | ok found =>
        obtain ⟨there, entry, -⟩ := get_session_sound system hSession found located
        exact .sessionDestroyed hSession found.context found.index found.session there entry
    | createObject cameBy template env =>
      obtain ⟨index, session⟩ := cameBy
      dsimp only
      unfold hsmCreateObject
      dsimp only [FoundSession.slot]
      split
      · exact .nothing _ _ (.inr rfl)
      · split
        · exact .nothing _ _ (.inr rfl)
        · rename_i place free
          split
          · exact .nothing _ _ (.inr rfl)
          · exact .objectCreated (index, session) template env context place _ _ _ present
              (first_free_sound _ place free)
    | destroyObject cameBy hObject env =>
      obtain ⟨index, session⟩ := cameBy
      dsimp only
      unfold hsmDestroyObject
      dsimp only [FoundSession.slot]
      cases lookup : hsmGetObject context.slot hObject with
      | error rv => exact .nothing _ _ (.inr rfl)
      | ok pair =>
        obtain ⟨place, object⟩ := pair
        obtain ⟨entry, -⟩ := get_object_sound context.slot hObject place object lookup
        exact .objectDestroyed (index, session) hObject env context place object _ present entry
    | insertKeyPair cameBy pubObj privObj env =>
      dsimp only
      unfold insertKeyPair
      dsimp only
      split
      · rename_i pubIdx privIdx rest free
        obtain ⟨pubFree, privFree, different⟩ := free_indices_sound _ pubIdx privIdx rest free
        exact .pairInserted cameBy pubObj privObj env context pubIdx privIdx _ _ _ present pubFree
          privFree different
      · exact .nothing _ _ (.inr rfl)
    | login cameBy userType pPin => exact .guessed cameBy userType pPin context present
    | changePin cameBy pOldPin pNewPin env =>
      obtain ⟨index, session⟩ := cameBy
      dsimp only
      split
      · rename_i refused
        exact .changeRefused (index, session) pOldPin pNewPin env context present refused
      · rename_i accepted
        exact .pinChanged (index, session) pOldPin pNewPin env context _ present
          (not_not.mp accepted)
    | initPin cameBy pPin env => exact .userPinSet cameBy pPin env context _ present

/-! ## Counts -/

/-- The counts of the slot are those of its tables. -/
def SlotCounted (system : System) : Prop :=
  ∀ context, system.gHsmContext = some context →
    context.slot.sessionCount = count context.slot.sessions ∧
      context.slot.objectCount = count context.slot.objects

/-- The tables and their counts are the same. -/
def SameTables (before after : HsmSlot) : Prop :=
  after.sessions = before.sessions ∧ after.sessionCount = before.sessionCount ∧
    after.objects = before.objects ∧ after.objectCount = before.objectCount

/-- Verifying a PIN leaves the tables. -/
theorem verify_pin_tables (sha256 : Sha256) (slot : HsmSlot) (userType : CkUserType)
    (pPin : Bytes) : SameTables slot (hsmVerifyPin sha256 slot userType pPin).2 := by
  obtain ⟨retryCount, locked, stored⟩ := verify_pin_stores sha256 slot userType pPin
  rw [stored]
  exact store_attempts_tables slot userType retryCount locked

/-- So does replacing one. -/
theorem pin_replaced_tables (slot : HsmSlot) (userType : CkUserType) (hash : Buffer 32) :
    SameTables slot (slot.pinReplaced userType hash) := by
  unfold HsmSlot.pinReplaced
  split
  · exact ⟨rfl, rfl, rfl, rfl⟩
  · exact ⟨rfl, rfl, rfl, rfl⟩

/-- Tables that are the same have the same counts. -/
theorem same_tables_counted (before after : HsmSlot) (same : SameTables before after)
    (sessions : before.sessionCount = count before.sessions)
    (objects : before.objectCount = count before.objects) :
    after.sessionCount = count after.sessions ∧ after.objectCount = count after.objects := by
  obtain ⟨sessionsSame, sessionCountSame, objectsSame, objectCountSame⟩ := same
  rw [sessionCountSame, sessionsSame, objectCountSame, objectsSame]
  exact ⟨sessions, objects⟩

/-- What a call does keeps the counts. -/
theorem effect_counts (system after : System) (call : SlotCall) (answer : SlotAnswer)
    (effect : SlotEffect sha256 system call answer after) (counted : SlotCounted system) :
    SlotCounted after := by
  cases effect with
  | nothing _ rv quiet => exact counted
  | sessionCreated flags env context index session present free =>
    obtain ⟨sessions, objects⟩ := counted context present
    intro now there
    cases there
    refine ⟨?_, objects⟩
    rw [count_fill _ index _ free, ← sessions]
  | sessionDestroyed hSession context index session present entry =>
    obtain ⟨sessions, objects⟩ := counted context present
    intro now there
    cases there
    refine ⟨?_, objects⟩
    have removed := count_remove context.slot.sessions index session entry
    change context.slot.sessionCount - 1 = count (put context.slot.sessions index none)
    omega
  | objectCreated cameBy template env context place object type storage present free =>
    obtain ⟨sessions, objects⟩ := counted context present
    intro now there
    cases there
    refine ⟨sessions, ?_⟩
    change context.slot.objectCount + 1 = count (put context.slot.objects place (some object))
    rw [count_fill _ place _ free, ← objects]
  | objectDestroyed cameBy hObject env context place object storage present entry =>
    obtain ⟨sessions, objects⟩ := counted context present
    intro now there
    cases there
    refine ⟨sessions, ?_⟩
    have removed := count_remove context.slot.objects place object entry
    change context.slot.objectCount - 1 = count (put context.slot.objects place none)
    omega
  | pairInserted cameBy pubObj privObj env context pubIdx privIdx pub priv storage present pubFree
      privFree different =>
    obtain ⟨sessions, objects⟩ := counted context present
    intro now there
    cases there
    refine ⟨sessions, ?_⟩
    change context.slot.objectCount + 2 =
      count (put (put context.slot.objects pubIdx (some pub)) privIdx (some priv))
    rw [count_fill _ privIdx _ ((put_other _ _ _ _ different.symm).trans privFree),
      count_fill _ pubIdx _ pubFree, ← objects]
  | guessed cameBy userType pPin context present =>
    obtain ⟨sessions, objects⟩ := counted context present
    intro now there
    cases there
    exact same_tables_counted context.slot _ (verify_pin_tables sha256 _ userType pPin)
      sessions objects
  | changeRefused cameBy pOldPin pNewPin env context present refused =>
    obtain ⟨sessions, objects⟩ := counted context present
    intro now there
    cases there
    exact same_tables_counted context.slot _
      (verify_pin_tables sha256 _ cameBy.2.pinOwner pOldPin) sessions objects
  | pinChanged cameBy pOldPin pNewPin env context storage present accepted =>
    obtain ⟨sessions, objects⟩ := counted context present
    obtain ⟨sessionsNow, objectsNow⟩ := same_tables_counted context.slot _
      (verify_pin_tables sha256 _ cameBy.2.pinOwner pOldPin) sessions objects
    intro now there
    cases there
    exact same_tables_counted _ _ (pin_replaced_tables _ cameBy.2.pinOwner (sha256 pNewPin))
      sessionsNow objectsNow
  | userPinSet cameBy pPin env context storage present =>
    obtain ⟨sessions, objects⟩ := counted context present
    intro now there
    cases there
    exact ⟨sessions, objects⟩

/-! ## Handles -/

section Handles

variable {κ : Type}

/-- The object handles that a call answered with. -/
def objectHandles (entry : κ × SlotCall × SlotAnswer) : List CkObjectHandle :=
  match entry.2.1 with
  | .createObject _ _ _ => entry.2.2.2
  | .insertKeyPair _ _ _ _ => entry.2.2.2
  | _ => []

/-- The session handle that a call answered with. -/
def sessionHandles (entry : κ × SlotCall × SlotAnswer) : List CkSessionHandle :=
  match entry.2.1 with
  | .createSession _ _ => entry.2.2.2
  | _ => []

/-- The generator draws at most two handles in a call. -/
inductive Draws (counter : Nat) : List CkObjectHandle → Nat → Prop where
  | none : Draws counter [] counter
  | one (type : Nat) : Draws counter [hsmGenerateObjectHandle type counter] (advanceCounter counter)
  | two (first second : Nat) :
      Draws counter
        [hsmGenerateObjectHandle first counter,
          hsmGenerateObjectHandle second (advanceCounter counter)]
        (advanceCounter (advanceCounter counter))

/-- The object handles of a call are drawn from the counter. -/
theorem effect_draws (system after : System) (thread : κ) (call : SlotCall)
    (answer : SlotAnswer) (effect : SlotEffect sha256 system call answer after) :
    Draws system.handleCounter (objectHandles (thread, call, answer)) after.handleCounter := by
  cases effect with
  | nothing _ rv quiet =>
    cases call with
    | _ => exact .none
  | objectCreated cameBy template env context place object type storage present free =>
    exact .one type
  | pairInserted cameBy pubObj privObj env context pubIdx privIdx pub priv storage present pubFree
      privFree different => exact .two objTypePublicKey objTypePrivateKey
  | _ => exact .none

/-- So is the session handle. -/
theorem effect_session_handles (system after : System) (thread : κ) (call : SlotCall)
    (answer : SlotAnswer) (effect : SlotEffect sha256 system call answer after) :
    (sessionHandles (thread, call, answer) = [] ∧
        after.gNextSessionHandle = system.gNextSessionHandle) ∨
      (sessionHandles (thread, call, answer) = [system.gNextSessionHandle] ∧
        after.gNextSessionHandle = (system.gNextSessionHandle + 1) % 2 ^ 64) := by
  cases effect with
  | nothing _ rv quiet =>
    cases call with
    | _ => exact .inl ⟨rfl, rfl⟩
  | sessionCreated flags env context index session present free => exact .inr ⟨rfl, rfl⟩
  | _ => exact .inl ⟨rfl, rfl⟩

/-- The handles of a serial run are all different, and the generators have moved past just them. -/
structure HandlesApart (start : System) (state : System × List (κ × SlotCall × SlotAnswer)) :
    Prop where
  started : 1 ≤ state.1.handleCounter
  objectsDrawn : state.1.handleCounter =
    start.handleCounter + (state.2.flatMap objectHandles).length
  objects : ∀ handle ∈ state.2.flatMap objectHandles, IssuedBefore state.1.handleCounter handle
  objectsApart : (state.2.flatMap objectHandles).Nodup
  sessionsDrawn : (state.1.gNextSessionHandle : Nat) =
    start.gNextSessionHandle + (state.2.flatMap sessionHandles).length
  sessions : ∀ handle ∈ state.2.flatMap sessionHandles,
    (handle : Nat) < state.1.gNextSessionHandle
  sessionsApart : (state.2.flatMap sessionHandles).Nodup

/-- What the generator draws within its range is new, and different. -/
theorem draws_apart (counter after : Nat) (drawn : List CkObjectHandle)
    (draws : Draws counter drawn after) (started : 1 ≤ counter)
    (within : counter + drawn.length ≤ handleRange + 1) :
    after = counter + drawn.length ∧ drawn.Nodup ∧
      (∀ handle ∈ drawn, IssuedBefore after handle ∧ ¬ IssuedBefore counter handle) := by
  have drawnAt (type serial : Nat) (low : 1 ≤ serial) :
      IssuedBefore (serial + 1) (hsmGenerateObjectHandle type serial) :=
    ⟨type, serial, rfl, low, Nat.lt_succ_self serial⟩
  cases draws with
  | none =>
    refine ⟨rfl, List.nodup_nil, ?_⟩
    intro handle member
    cases member
  | one type =>
    simp only [List.length_cons, List.length_nil] at within ⊢
    rw [counter_next counter (by omega)]
    refine ⟨rfl, List.nodup_singleton _, ?_⟩
    intro handle member
    rw [List.mem_singleton.mp member]
    exact ⟨drawnAt type counter started,
      fun issued => next_handle_fresh counter type started (by omega) _ issued rfl⟩
  | two pubType privType =>
    simp only [List.length_cons, List.length_nil] at within ⊢
    rw [counter_next counter (by omega), counter_next (counter + 1) (by omega)]
    have different := next_handle_fresh (counter + 1) privType (by omega) (by omega) _
      (drawnAt pubType counter started)
    refine ⟨rfl, ?_, ?_⟩
    · exact List.nodup_cons.mpr ⟨fun member => different (List.mem_singleton.mp member),
        List.nodup_singleton _⟩
    · intro handle member
      rcases List.mem_cons.mp member with rfl | member
      · exact ⟨issued_later _ _ _ (by omega) (drawnAt pubType counter started),
          fun issued => next_handle_fresh counter pubType started (by omega) _ issued rfl⟩
      · rw [List.mem_singleton.mp member]
        exact ⟨drawnAt privType (counter + 1) (by omega),
          fun issued => next_handle_fresh (counter + 1) privType (by omega) (by omega) _
            (issued_later counter (counter + 1) _ (by omega) issued) rfl⟩

/-- What the session counter draws before it wraps is new, and different. -/
theorem session_draw_apart (counter after : Nat) (drawn : List CkSessionHandle)
    (draws : drawn = [] ∧ after = counter ∨ drawn = [counter] ∧ after = (counter + 1) % 2 ^ 64)
    (within : counter + drawn.length < 2 ^ 64) :
    after = counter + drawn.length ∧ drawn.Nodup ∧
      (∀ handle ∈ drawn, counter ≤ handle ∧ handle < after) := by
  rcases draws with ⟨rfl, rfl⟩ | ⟨rfl, rfl⟩
  · refine ⟨rfl, List.nodup_nil, ?_⟩
    intro handle member
    cases member
  · have next : (counter + 1) % 2 ^ 64 = counter + 1 := Nat.mod_eq_of_lt within
    refine ⟨next, List.nodup_singleton _, ?_⟩
    intro handle member
    rw [List.mem_singleton.mp member, next]
    exact ⟨Nat.le_refl counter, Nat.lt_succ_self counter⟩

/-- One more call, while there is room for what it draws. -/
theorem serve_apart (start : System) (state : System × List (κ × SlotCall × SlotAnswer))
    (entry : κ × SlotCall) (apart : HandlesApart start state)
    (objectRoom : start.handleCounter +
      ((serve (SlotCall.inOneStep sha256) state entry).2.flatMap objectHandles).length ≤
        handleRange + 1)
    (sessionRoom : (start.gNextSessionHandle : Nat) +
      ((serve (SlotCall.inOneStep sha256) state entry).2.flatMap sessionHandles).length < 2 ^ 64) :
    HandlesApart start (serve (SlotCall.inOneStep sha256) state entry) := by
  have objectsDrawn := apart.objectsDrawn
  have sessionsDrawn := apart.sessionsDrawn
  have effect := step_effect sha256 entry.2 state.1
  have objectHandlesNow : (serve (SlotCall.inOneStep sha256) state entry).2.flatMap objectHandles =
      state.2.flatMap objectHandles ++
        objectHandles (entry.1, entry.2, (entry.2.inOneStep sha256 state.1).1) := by
    rw [serve, List.flatMap_append, List.flatMap_singleton]
  have sessionHandlesNow :
      (serve (SlotCall.inOneStep sha256) state entry).2.flatMap sessionHandles =
      state.2.flatMap sessionHandles ++
        sessionHandles (entry.1, entry.2, (entry.2.inOneStep sha256 state.1).1) := by
    rw [serve, List.flatMap_append, List.flatMap_singleton]
  rw [objectHandlesNow, List.length_append, ← Nat.add_assoc, ← objectsDrawn] at objectRoom
  rw [sessionHandlesNow, List.length_append, ← Nat.add_assoc, ← sessionsDrawn] at sessionRoom
  obtain ⟨moved, drawnApart, drawn⟩ := draws_apart _ _ _
    (effect_draws sha256 state.1 _ entry.1 entry.2 _ effect) apart.started objectRoom
  obtain ⟨movedOn, newApart, new⟩ := session_draw_apart _ _ _
    (effect_session_handles sha256 state.1 _ entry.1 entry.2 _ effect) sessionRoom
  have upward : state.1.handleCounter ≤ (entry.2.inOneStep sha256 state.1).2.handleCounter :=
    Nat.le.intro moved.symm
  constructor
  · exact Nat.le_trans apart.started upward
  · rw [objectHandlesNow, List.length_append, ← Nat.add_assoc, ← objectsDrawn]
    exact moved
  · intro handle member
    rw [objectHandlesNow] at member
    rcases List.mem_append.mp member with before | now
    · exact issued_later _ _ _ upward (apart.objects handle before)
    · exact (drawn handle now).1
  · rw [objectHandlesNow]
    apply List.Nodup.append apart.objectsApart drawnApart
    intro handle before now
    exact (drawn handle now).2 (apart.objects handle before)
  · rw [sessionHandlesNow, List.length_append, ← Nat.add_assoc, ← sessionsDrawn]
    exact movedOn
  · intro handle member
    rw [sessionHandlesNow] at member
    rcases List.mem_append.mp member with before | now
    · exact Nat.lt_of_lt_of_le (apart.sessions handle before) (Nat.le.intro movedOn.symm)
    · exact (new handle now).2
  · rw [sessionHandlesNow]
    apply List.Nodup.append apart.sessionsApart newApart
    intro handle before now
    exact Nat.not_lt.mpr (new handle now).1 (apart.sessions handle before)

/-- Answers only get more. -/
theorem serve_handles (state : System × List (κ × SlotCall × SlotAnswer)) (entry : κ × SlotCall)
    (handles : κ × SlotCall × SlotAnswer → List Nat) :
    (state.2.flatMap handles).length ≤
      ((serve (SlotCall.inOneStep sha256) state entry).2.flatMap handles).length := by
  rw [serve, List.flatMap_append, List.length_append]
  exact Nat.le_add_right _ _

/-- A serial run, while there is room for all that it draws. -/
theorem serially_apart (start : System) (entries : List (κ × SlotCall))
    (started : 1 ≤ start.handleCounter)
    (objectRoom : start.handleCounter +
      ((serially (SlotCall.inOneStep sha256) start entries).2.flatMap objectHandles).length ≤
        handleRange + 1)
    (sessionRoom : (start.gNextSessionHandle : Nat) +
      ((serially (SlotCall.inOneStep sha256) start entries).2.flatMap sessionHandles).length <
        2 ^ 64) :
    HandlesApart start (serially (SlotCall.inOneStep sha256) start entries) := by
  induction entries using List.reverseRecOn with
  | nil =>
    refine ⟨started, rfl, ?_, List.nodup_nil, rfl, ?_, List.nodup_nil⟩
    · intro handle member
      cases member
    · intro handle member
      cases member
  | append_singleton before entry inductionHypothesis =>
    rw [serially_snoc] at objectRoom sessionRoom ⊢
    apply serve_apart sha256 start _ entry _ objectRoom sessionRoom
    apply inductionHypothesis
    · exact Nat.le_trans (Nat.add_le_add_left (serve_handles sha256 _ entry objectHandles) _)
        objectRoom
    · exact Nat.lt_of_le_of_lt
        (Nat.add_le_add_left (serve_handles sha256 _ entry sessionHandles) _) sessionRoom

end Handles

/-! ## Racing threads -/

/-- Nothing is in the tables of a fresh machine. -/
theorem blank_counted : SlotCounted blankMemory.system := by
  obtain ⟨sessions, objects⟩ := init_slot_tables true freshStorage
  intro context present
  cases present
  change (hsmInitSlot true freshStorage).sessionCount =
      count (hsmInitSlot true freshStorage).sessions ∧
    (hsmInitSlot true freshStorage).objectCount = count (hsmInitSlot true freshStorage).objects
  rw [sessions, objects, count_empty, count_empty]
  exact ⟨rfl, rfl⟩

/-- A serial run keeps the counts. -/
theorem serial_counts {κ : Type} (start : System) (entries : List (κ × SlotCall))
    (counted : SlotCounted start) :
    SlotCounted (serially (SlotCall.inOneStep sha256) start entries).1 := by
  induction entries using List.reverseRecOn with
  | nil => exact counted
  | append_singleton before entry inductionHypothesis =>
    rw [serially_snoc]
    exact effect_counts sha256 _ _ _ _ (step_effect sha256 entry.2 _) inductionHypothesis

section Racing

variable {κ : Type} [DecidableEq κ] (astray : SlotProgram SlotAnswer)

/-- No update of a count is lost: however threads take turns, whenever the lock of the slot is
free its counts are those of its tables. No session is closed that another call came in by before
that call has the lock. -/
theorem racing_counts_exact (start : SlotMemory) (happenings : List (Happening κ SlotCall))
    (counted : SlotCounted start.system) (stay : SessionsStay sha256 astray start happenings)
    (free : (interleaved sha256 astray start happenings).owner .slotLock = none) :
    SlotCounted (interleaved sha256 astray start happenings).memory.system := by
  have orderly := interleaved_orderly sha256 astray start happenings stay
  have serial :=
    serial_counts sha256 start.system (interleaved sha256 astray start happenings).served counted
  rw [serial_in_one_step] at serial
  rw [(orderly.free free).2]
  exact serial

theorem racing_counts_exact_creations :
    (interleaved pinSha256 lostSession blankMemory racingCreations).owner .slotLock = none ∧
      SlotCounted (interleaved pinSha256 lostSession blankMemory racingCreations).memory.system :=
  ⟨racing_creations_free, racing_counts_exact pinSha256 lostSession blankMemory racingCreations
    blank_counted racing_creations_stay racing_creations_free⟩

/-- The answers of the calls that threads have made, in the order in which they had the lock. -/
def servedAnswers (start : SlotMemory) (happenings : List (Happening κ SlotCall)) :
    List (κ × SlotCall × SlotAnswer) :=
  (serially (SlotCall.inOneStep sha256) start.system
    (interleaved sha256 astray start happenings).served).2

/-- What holds of any part of the answers of the serial run holds of what was returned. -/
theorem returned_of_served (start : SlotMemory) (happenings : List (Happening κ SlotCall))
    (stay : SessionsStay sha256 astray start happenings) :
    (interleaved sha256 astray start happenings).returned.Subperm
      (servedAnswers sha256 astray start happenings) := by
  rw [servedAnswers, serial_in_one_step]
  exact returned_subperm start _ (interleaved_orderly sha256 astray start happenings stay)

/-- No handle is handed out twice: however threads take turns, the object handles that their calls
returned are all different while the generator is within its range, and so are the session handles
as long as the counter has not wrapped. No session is closed that another call came in by before
that call has the lock. -/
theorem racing_handles_apart (start : SlotMemory) (happenings : List (Happening κ SlotCall))
    (started : 1 ≤ start.handleCounter) (stay : SessionsStay sha256 astray start happenings)
    (objectRoom : start.handleCounter +
      ((servedAnswers sha256 astray start happenings).flatMap objectHandles).length ≤
        handleRange + 1)
    (sessionRoom : (start.gNextSessionHandle : Nat) +
      ((servedAnswers sha256 astray start happenings).flatMap sessionHandles).length < 2 ^ 64) :
    ((interleaved sha256 astray start happenings).returned.flatMap objectHandles).Nodup ∧
      ((interleaved sha256 astray start happenings).returned.flatMap sessionHandles).Nodup := by
  have apart := serially_apart sha256 start.system _ started objectRoom sessionRoom
  obtain ⟨answered, perm, sublist⟩ := returned_of_served sha256 astray start happenings stay
  have returnedApart (handles : κ × SlotCall × SlotAnswer → List Nat)
      (distinct : ((servedAnswers sha256 astray start happenings).flatMap handles).Nodup) :
      ((interleaved sha256 astray start happenings).returned.flatMap handles).Nodup :=
    (perm.flatMap_right handles).nodup_iff.mp (distinct.sublist (sublist.flatMap handles))
  exact ⟨returnedApart objectHandles apart.objectsApart,
    returnedApart sessionHandles apart.sessionsApart⟩

theorem racing_handles_apart_creations :
    (interleaved pinSha256 lostSession blankMemory racingCreations).returned.flatMap
        sessionHandles = [1, 2] ∧
      ((interleaved pinSha256 lostSession blankMemory racingCreations).returned.flatMap
        objectHandles).Nodup ∧
      ((interleaved pinSha256 lostSession blankMemory racingCreations).returned.flatMap
        sessionHandles).Nodup :=
  ⟨by decide +kernel, racing_handles_apart pinSha256 lostSession blankMemory racingCreations
    (by decide) racing_creations_stay (by decide +kernel) (by decide +kernel)⟩

end Racing

end PstHsm
