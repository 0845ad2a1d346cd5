import PstHsm.Allocations
import PstHsm.LockDiscipline
import PstHsm.TokenFiles

/-!
# The books of the heap

In every run each live block of the heap has one owner: the array of slots, a session, an object,
the key of an object, or nobody. Nothing is freed twice, and nothing that was not allocated. The
blocks that nobody owns are the buffers of keys whose objects are gone and the encodings of
signatures that had no buffer to go to.
-/

namespace PstHsm

open Tables Heaps

/-- The blocks of an object with its key. -/
def ObjectBlocks.blocks (object : ObjectBlocks) : List Block := object.object :: object.key

/-- All blocks on the books. -/
def Memory.blocks (memory : Memory) : List Block :=
  memory.slots.toList ++ (live memory.sessions ++
    ((live memory.objects).flatMap ObjectBlocks.blocks ++ (memory.lost ++ memory.encodings)))

/-- The books are in order, and pointers stand where the process has something. -/
structure Accounted (pair : System × Memory) : Prop where
  slots : pair.2.slots.isSome = pair.1.gHsmContext.isSome
  sessions : ∀ index, (pair.2.sessions index).isSome = (pair.1.sessions index).isSome
  objects : ∀ index, (pair.2.objects index).isSome = (pair.1.objects index).isSome
  holds : pair.2.heap.Holds pair.2.blocks

/-! ## Changes of the books -/

section Books

variable (memory : Memory)

/-- A session put in a free entry adds its block. -/
theorem session_added (index : Fin hsmMaxSessions) (session : Block)
    (free : memory.sessions index = none) :
    Memory.blocks { memory with sessions := put memory.sessions index (some session) } |>.Perm
      (session :: memory.blocks) := by
  have added := live_fill memory.sessions index session free
  apply List.perm_iff_count.mpr
  intro block
  have counted := added.count_eq block
  simp only [Memory.blocks, List.count_append, List.count_cons] at counted ⊢
  omega

/-- A session taken out removes its block. -/
theorem session_removed (index : Fin hsmMaxSessions) (session : Block)
    (present : memory.sessions index = some session) :
    memory.blocks.Perm (session ::
      Memory.blocks { memory with sessions := put memory.sessions index none }) := by
  have removed := live_remove memory.sessions index session present
  apply List.perm_iff_count.mpr
  intro block
  have counted := removed.count_eq block
  simp only [Memory.blocks, List.count_append, List.count_cons] at counted ⊢
  omega

/-- An object put in a free entry adds its blocks. -/
theorem object_added (index : Fin hsmMaxObjects) (object : ObjectBlocks)
    (free : memory.objects index = none) :
    Memory.blocks { memory with objects := put memory.objects index (some object) } |>.Perm
      (object.blocks ++ memory.blocks) := by
  have added := (live_fill memory.objects index object free).flatMap_right ObjectBlocks.blocks
  apply List.perm_iff_count.mpr
  intro block
  have counted := added.count_eq block
  simp only [Memory.blocks, List.count_append, List.flatMap_cons] at counted ⊢
  omega

/-- The block of a removed object is owned by nobody else, and its key by nobody any more. -/
theorem object_removed (index : Fin hsmMaxObjects) (object : ObjectBlocks)
    (present : memory.objects index = some object) :
    memory.blocks.Perm (object.object :: Memory.blocks { memory with
      objects := put memory.objects index none
      lost := object.key ++ memory.lost }) := by
  have removed := (live_remove memory.objects index object present).flatMap_right
    ObjectBlocks.blocks
  apply List.perm_iff_count.mpr
  intro block
  have counted := removed.count_eq block
  simp only [Memory.blocks, List.count_append, List.count_cons, List.flatMap_cons,
    ObjectBlocks.blocks] at counted ⊢
  omega

end Books

/-- The books depend on where the process has something, not on what. -/
theorem accounted_congr (system after : System) (memory : Memory)
    (accounted : Accounted (system, memory))
    (initialized : after.gHsmContext.isSome = system.gHsmContext.isSome)
    (sessions : ∀ index, (after.sessions index).isSome = (system.sessions index).isSome)
    (objects : ∀ index, (after.objects index).isSome = (system.objects index).isSome) :
    Accounted (after, memory) where
  slots := accounted.slots.trans initialized.symm
  sessions := fun index => (accounted.sessions index).trans (sessions index).symm
  objects := fun index => (accounted.objects index).trans (objects index).symm
  holds := accounted.holds

/-- An entry emptied on both sides. -/
theorem occupied_put_none {capacity : Nat} {α β : Type} (pointers : Table capacity α)
    (table : Table capacity β) (index : Fin capacity)
    (same : ∀ tested, (pointers tested).isSome = (table tested).isSome) (tested : Fin capacity) :
    (put pointers index none tested).isSome = (put table index none tested).isSome := by
  by_cases here : tested = index
  · rw [here, put_self, put_self]
    rfl
  · rw [put_other _ _ _ _ here, put_other _ _ _ _ here]
    exact same tested

/-- An entry filled on both sides. -/
theorem occupied_put_some {capacity : Nat} {α β : Type} (pointers : Table capacity α)
    (table : Table capacity β) (index : Fin capacity) (pointer : α) (value : β)
    (same : ∀ tested, (pointers tested).isSome = (table tested).isSome) (tested : Fin capacity) :
    (put pointers index (some pointer) tested).isSome =
      (put table index (some value) tested).isSome := by
  by_cases here : tested = index
  · rw [here, put_self, put_self]
    rfl
  · rw [put_other _ _ _ _ here, put_other _ _ _ _ here]
    exact same tested

/-! ## Sessions -/

/-- Setting a PIN leaves the tables. -/
theorem set_pin_tables (sha256 : Sha256) (slot : HsmSlot) (userType : CkUserType) (pin : Bytes) :
    (hsmSetPin sha256 slot userType pin).2.sessions = slot.sessions ∧
      (hsmSetPin sha256 slot userType pin).2.objects = slot.objects := by
  unfold hsmSetPin
  split
  · exact ⟨rfl, rfl⟩
  · split
    · exact ⟨rfl, rfl⟩
    · exact ⟨rfl, rfl⟩

section Sessions

variable (system : System) (memory : Memory) (accounted : Accounted (system, memory))

include accounted

/-- `hsm_destroy_session` frees the block of the session. -/
theorem destroy_session_accounted (hSession : CkSessionHandle) :
    Accounted ((hsmDestroySession system hSession).2,
      memory.hsmDestroySession system hSession) := by
  unfold hsmDestroySession Memory.hsmDestroySession
  cases located : hsmGetSession system hSession with
  | error rv => exact accounted
  | ok found =>
    obtain ⟨present, entry, -⟩ := get_session_sound system hSession found located
    have sessions : system.sessions = found.slot.sessions := sessions_present system _ present
    have objects : system.objects = found.slot.objects := objects_present system _ present
    have occupied : (memory.sessions found.index).isSome = true := by
      rw [accounted.sessions found.index, sessions, entry]
      rfl
    obtain ⟨session, owned⟩ := Option.isSome_iff_exists.mp occupied
    have removed := session_removed memory found.index session owned
    have holds := Heap.holds_free _ session _ (Heap.holds_perm _ _ accounted.holds _ removed)
    constructor
    · exact accounted.slots.trans (by rw [present]; rfl)
    · apply occupied_put_none memory.sessions found.slot.sessions found.index
      rw [← sessions]
      exact accounted.sessions
    · intro index
      have same := accounted.objects index
      rwa [objects] at same
    · simp only [owned, Heap.freePointer]
      exact holds

/-- The closing loop keeps the books, and does to the process what it always does. -/
theorem close_sessions_accounted :
    Accounted (closeSessions system, memory.closeSessions system) := by
  have turn (pair : System × Memory) (index : Fin hsmMaxSessions) (before : Accounted pair) :
      Accounted (Memory.closeSessionAt pair index) ∧
        (Memory.closeSessionAt pair index).1 = closeSessionAt pair.1 index := by
    unfold Memory.closeSessionAt closeSessionAt
    cases pair.1.gHsmContext with
    | none => exact ⟨before, rfl⟩
    | some context =>
      dsimp only
      cases context.slot.sessions index with
      | none => exact ⟨before, rfl⟩
      | some session => exact ⟨destroy_session_accounted pair.1 pair.2 before _, rfl⟩
  have loop (indices : List (Fin hsmMaxSessions)) (pair : System × Memory)
      (before : Accounted pair) :
      Accounted (indices.foldl Memory.closeSessionAt pair) ∧
        (indices.foldl Memory.closeSessionAt pair).1 = indices.foldl closeSessionAt pair.1 := by
    induction indices generalizing pair with
    | nil => exact ⟨before, rfl⟩
    | cons index rest inductionHypothesis =>
      obtain ⟨kept, same⟩ := turn pair index before
      rw [List.foldl_cons, List.foldl_cons, ← same]
      exact inductionHypothesis _ kept
  obtain ⟨kept, same⟩ := loop (List.finRange hsmMaxSessions) (system, memory) accounted
  unfold closeSessions Memory.closeSessions
  rw [← same]
  generalize (List.finRange hsmMaxSessions).foldl Memory.closeSessionAt (system, memory) = pair
    at kept
  exact kept

/-- `hsm_create_session` allocates a block where it takes an entry. -/
theorem create_session_accounted (env : Env) (context : HsmContext) (flags : CkFlags)
    (present : system.gHsmContext = some context) :
    Accounted ((hsmCreateSession env system context flags).2.2,
      memory.hsmCreateSession env context) := by
  unfold hsmCreateSession Memory.hsmCreateSession
  by_cases full : context.slot.sessionCount ≥ hsmMaxSessions
  · rw [if_pos full, if_pos full]
    exact accounted
  · rw [if_neg full, if_neg full]
    cases free : firstFree context.slot.sessions with
    | none => exact accounted
    | some index =>
      cases allocated : env.calloc 0 with
      | false => exact accounted
      | true =>
        have sessions : system.sessions = context.slot.sessions :=
          sessions_present system context present
        have objects : system.objects = context.slot.objects :=
          objects_present system context present
        have vacant : memory.sessions index = none := by
          have same := accounted.sessions index
          rw [sessions, first_free_sound _ index free] at same
          exact Option.isNone_iff_eq_none.mp (by simpa using same)
        have added := session_added memory index memory.heap.alloc.1 vacant
        have holds := Heap.holds_perm _ _ (Heap.holds_alloc _ _ accounted.holds) _ added.symm
        constructor
        · exact accounted.slots.trans (by rw [present]; rfl)
        · apply occupied_put_some memory.sessions context.slot.sessions index
          rw [← sessions]
          exact accounted.sessions
        · intro tested
          have same := accounted.objects tested
          rwa [objects] at same
        · exact holds

/-- `C_OpenSession` keeps the books. -/
theorem open_session_accounted (env : Env) (slotID : CkSlotId) (flags : CkFlags)
    (phSession : Bool) :
    Accounted ((cOpenSession env system slotID flags phSession).2.2,
      memory.cOpenSession env system slotID flags phSession) := by
  unfold cOpenSession Memory.cOpenSession
  cases phSession with
  | false => exact accounted
  | true =>
    cases present : system.gHsmContext with
    | none => exact accounted
    | some context =>
      by_cases invalid : slotID ≥ slotCount
      · simp only [if_pos invalid]
        exact accounted
      · by_cases parallel : flags &&& ckfSerialSession = 0
        · simp only [if_neg invalid, if_pos parallel]
          exact accounted
        · simp only [if_neg invalid, if_neg parallel]
          exact create_session_accounted system memory accounted env context flags present

/-- `C_CloseAllSessions` keeps the books. -/
theorem close_all_sessions_accounted (slotID : CkSlotId) :
    Accounted ((cCloseAllSessions system slotID).2, memory.cCloseAllSessions system slotID) := by
  unfold cCloseAllSessions Memory.cCloseAllSessions
  cases present : system.gHsmContext with
  | none => exact accounted
  | some context =>
    by_cases invalid : slotID ≥ slotCount
    · simp only [if_pos invalid]
      exact accounted
    · simp only [if_neg invalid]
      exact close_sessions_accounted system memory accounted

/-- What `C_InitToken` sets after it closed the sessions is not on the books. -/
theorem reset_token_accounted (sha256 : Sha256) (env : Env) (pin label : Bytes) :
    Accounted ((resetToken sha256 env system pin label).2, memory) := by
  unfold resetToken
  cases present : system.gHsmContext with
  | none => exact accounted
  | some context =>
    dsimp only
    have tables := set_pin_tables sha256 context.slot ckuSo pin
    generalize hsmSetPin sha256 context.slot ckuSo pin = result at tables
    split
    · exact accounted
    · apply accounted_congr system _ memory accounted
      · rw [present]
        rfl
      · intro index
        rw [sessions_present system context present, ← tables.1]
        rfl
      · intro index
        rw [objects_present system context present, ← tables.2]
        rfl

/-- `C_InitToken` keeps the books. -/
theorem init_token_accounted (sha256 : Sha256) (env : Env) (slotID : CkSlotId)
    (pPin pLabel : Option Bytes) :
    Accounted ((cInitToken sha256 env system slotID pPin pLabel).2,
      memory.cInitToken system slotID pPin pLabel) := by
  unfold cInitToken Memory.cInitToken
  cases pPin with
  | none => exact accounted
  | some pin =>
    cases pLabel with
    | none => exact accounted
    | some label =>
      dsimp only
      by_cases length : (pin.length < hsmMinPinLen || pin.length > hsmMaxPinLen) = true
      · rw [if_pos length, if_pos length]
        exact accounted
      · rw [if_neg length, if_neg length]
        cases present : system.gHsmContext with
        | none => exact accounted
        | some context =>
          by_cases invalid : slotID ≥ slotCount
          · simp only [if_pos invalid]
            exact accounted
          · simp only [if_neg invalid]
            exact reset_token_accounted _ _ (close_sessions_accounted system memory accounted)
              sha256 env pin label

end Sessions

/-! ## Objects -/

/-- Freeing an object frees its block and keeps the buffers of its key. -/
theorem free_object_holds (memory : Memory) (holds : memory.heap.Holds memory.blocks)
    (index : Fin hsmMaxObjects) :
    (memory.freeObjectAt index).heap.Holds (memory.freeObjectAt index).blocks := by
  unfold Memory.freeObjectAt
  cases owned : memory.objects index with
  | none => exact holds
  | some object =>
    have removed := object_removed memory index object owned
    exact Heap.holds_free _ object.object _ (Heap.holds_perm _ _ holds _ removed)

/-- Whichever way the entry was, it is empty afterwards. -/
theorem free_object_entries (memory : Memory) (index : Fin hsmMaxObjects) :
    (memory.freeObjectAt index).objects = put memory.objects index none := by
  unfold Memory.freeObjectAt
  cases owned : memory.objects index with
  | none =>
    have kept := put_kept memory.objects index
    rw [owned] at kept
    exact kept.symm
  | some object => rfl

/-- It leaves the slots and the sessions. -/
theorem free_object_others (memory : Memory) (index : Fin hsmMaxObjects) :
    (memory.freeObjectAt index).slots = memory.slots ∧
      (memory.freeObjectAt index).sessions = memory.sessions := by
  unfold Memory.freeObjectAt
  cases memory.objects index with
  | none => exact ⟨rfl, rfl⟩
  | some object => exact ⟨rfl, rfl⟩

section Objects

variable (system : System) (memory : Memory) (accounted : Accounted (system, memory))

include accounted

/-- A null entry of the slot is one of the pointers. -/
theorem vacant_object (context : HsmContext) (present : system.gHsmContext = some context)
    (index : Fin hsmMaxObjects) (free : context.slot.objects index = none) :
    memory.objects index = none := by
  have same := accounted.objects index
  rw [objects_present system context present, free] at same
  exact Option.isNone_iff_eq_none.mp (by simpa using same)

/-- `C_CreateObject` keeps the books. -/
theorem create_object_accounted (env : Env) (hSession : CkSessionHandle)
    (pTemplate : Option (List CkAttribute)) (phObject : Bool) :
    Accounted ((cCreateObject env system hSession pTemplate phObject).2.2,
      memory.cCreateObject env system hSession pTemplate phObject) := by
  unfold cCreateObject Memory.cCreateObject
  cases pTemplate with
  | none => exact accounted
  | some template =>
    cases phObject with
    | false => exact accounted
    | true =>
      cases located : hsmGetSession system hSession with
      | error rv => exact accounted
      | ok found =>
        obtain ⟨present, -, -⟩ := get_session_sound system hSession found located
        dsimp only
        unfold hsmCreateObject Memory.hsmCreateObject
        by_cases full : found.slot.objectCount ≥ hsmMaxObjects
        · simp only [if_pos full]
          exact accounted
        · simp only [if_neg full]
          cases free : firstFree found.slot.objects with
          | none => exact accounted
          | some index =>
            cases allocated : env.calloc 0 with
            | false => exact accounted
            | true =>
              have vacant := vacant_object system memory accounted _ present index
                (first_free_sound _ index free)
              have added := object_added memory index ⟨memory.heap.alloc.1, []⟩ vacant
              have holds := Heap.holds_perm _ _ (Heap.holds_alloc _ _ accounted.holds) _ added.symm
              constructor
              · exact accounted.slots.trans (by rw [present]; rfl)
              · intro tested
                have same := accounted.sessions tested
                rwa [sessions_present system _ present] at same
              · apply occupied_put_some memory.objects found.slot.objects index
                rw [FoundSession.slot, ← objects_present system _ present]
                exact accounted.objects
              · exact holds

/-- `C_DestroyObject` keeps the books. -/
theorem destroy_object_accounted (env : Env) (hSession : CkSessionHandle)
    (hObject : CkObjectHandle) :
    Accounted ((cDestroyObject env system hSession hObject).2,
      memory.cDestroyObject system hSession hObject) := by
  unfold cDestroyObject Memory.cDestroyObject
  cases located : hsmGetSession system hSession with
  | error rv => exact accounted
  | ok found =>
    obtain ⟨present, -, -⟩ := get_session_sound system hSession found located
    dsimp only
    unfold hsmDestroyObject Memory.hsmDestroyObject
    cases lookup : hsmGetObject found.slot hObject with
    | error rv => exact accounted
    | ok pair =>
      obtain ⟨index, object⟩ := pair
      obtain ⟨slots, sessions⟩ := free_object_others memory index
      constructor
      · rw [slots]
        exact accounted.slots.trans (by rw [present]; rfl)
      · intro tested
        have same := accounted.sessions tested
        rw [sessions_present system _ present] at same
        rw [sessions]
        exact same
      · rw [free_object_entries memory index]
        apply occupied_put_none memory.objects found.slot.objects index
        rw [FoundSession.slot, ← objects_present system _ present]
        exact accounted.objects
      · exact free_object_holds memory accounted.holds index

/-- The two objects are freed again. -/
theorem pair_freed (pubObj privObj : Block) (heap : Heap)
    (holds : heap.Holds (privObj :: pubObj :: memory.blocks)) :
    Accounted (system, { memory with heap := (heap.free pubObj).free privObj }) where
  slots := accounted.slots
  sessions := accounted.sessions
  objects := accounted.objects
  holds := Heap.holds_free _ privObj _
    (Heap.holds_free _ pubObj _ (Heap.holds_perm _ _ holds _ (List.Perm.swap _ _ _)))

/-- Both halves come into free entries, or are freed and nothing points to their keys. -/
theorem insert_key_pair_accounted (env : Env) (context : HsmContext)
    (present : system.gHsmContext = some context) (pubObj privObj : HsmObject)
    (pub priv : ObjectBlocks) (heap : Heap)
    (holds : heap.Holds (priv.blocks ++ (pub.blocks ++ memory.blocks))) :
    Accounted ((insertKeyPair env system context pubObj privObj).2.2,
      Memory.insertKeyPair context pub priv { memory with heap := heap }) := by
  have lost : Accounted (system, { memory with
      heap := (heap.free pub.object).free priv.object
      lost := priv.key ++ (pub.key ++ memory.lost) }) := by
    refine ⟨accounted.slots, accounted.sessions, accounted.objects, ?_⟩
    apply Heap.holds_free _ priv.object
    apply Heap.holds_free _ pub.object
    apply Heap.holds_perm _ _ holds
    apply List.perm_iff_count.mpr
    intro block
    simp only [Memory.blocks, ObjectBlocks.blocks, List.count_append, List.count_cons]
    omega
  unfold insertKeyPair Memory.insertKeyPair
  dsimp only
  cases free : freeIndices context.slot.objects with
  | nil => exact lost
  | cons pubIdx rest =>
    cases rest with
    | nil => exact lost
    | cons privIdx rest =>
      obtain ⟨pubFree, privFree, different⟩ := free_indices_sound _ pubIdx privIdx rest free
      have pubVacant := vacant_object system memory accounted context present pubIdx pubFree
      have privVacant : put memory.objects pubIdx (some pub) privIdx = none :=
        (put_other _ _ _ _ different.symm).trans
          (vacant_object system memory accounted context present privIdx privFree)
      have first := object_added memory pubIdx pub pubVacant
      have second := object_added { memory with
        objects := put memory.objects pubIdx (some pub) } privIdx priv privVacant
      constructor
      · exact accounted.slots.trans (by rw [present]; rfl)
      · intro index
        have same := accounted.sessions index
        rwa [sessions_present system context present] at same
      · apply occupied_put_some
        apply occupied_put_some
        rw [← objects_present system context present]
        exact accounted.objects
      · exact Heap.holds_perm _ _ holds _ ((second.trans (first.append_left _)).symm)

/-- `C_GenerateKeyPair` keeps the books, on every one of its paths. -/
theorem generate_key_pair_accounted (env : Env) (hSession : CkSessionHandle)
    (pMechanism : Option CkMechanismType) (publicTemplate privateTemplate : List CkAttribute)
    (phPublicKey phPrivateKey : Bool) :
    Accounted ((cGenerateKeyPair env system hSession pMechanism publicTemplate privateTemplate
        phPublicKey phPrivateKey).2.2,
      memory.cGenerateKeyPair env system hSession pMechanism publicTemplate privateTemplate
        phPublicKey phPrivateKey) := by
  unfold cGenerateKeyPair Memory.cGenerateKeyPair
  cases pMechanism with
  | none => exact accounted
  | some mechanism =>
    cases phPublicKey with
    | false => exact accounted
    | true =>
      cases phPrivateKey with
      | false => exact accounted
      | true =>
        cases located : hsmGetSession system hSession with
        | error rv => exact accounted
        | ok found =>
          obtain ⟨present, -, -⟩ := get_session_sound system hSession found located
          cases user : found.session.userLoggedIn with
          | false =>
            simp only [user, Bool.not_false, if_true]
            exact accounted
          | true =>
            simp only [user, Bool.not_true, Bool.false_eq_true, if_false]
            have first := Heap.holds_alloc memory.heap _ accounted.holds
            have second := Heap.holds_alloc _ _ first
            have freed : Accounted (system,
                { memory with heap := memory.heap.alloc.2.free memory.heap.alloc.1 }) :=
              ⟨accounted.slots, accounted.sessions, accounted.objects, Heap.holds_free _ _ _ first⟩
            cases pubAllocated : env.calloc 0 with
            | false =>
              cases privAllocated : env.calloc 1 with
              | false => exact accounted
              | true => exact freed
            | true =>
              cases privAllocated : env.calloc 1 with
              | false => exact freed
              | true =>
                dsimp only [Heap.tryAlloc]
                simp only [Bool.not_true, Bool.or_self, Bool.false_eq_true, if_false, if_true]
                cases halves : generateHalves env mechanism publicTemplate privateTemplate with
                | error rv => exact pair_freed system memory accounted _ _ _ second
                | ok pair =>
                  obtain ⟨pubObj, privObj⟩ := pair
                  have third := Heap.holds_allocs _ _ second Memory.publicBuffers
                  generalize Heap.allocs _ Memory.publicBuffers = made at third ⊢
                  have fourth := Heap.holds_allocs _ _ third (Memory.privateBuffers mechanism)
                  generalize Heap.allocs _ (Memory.privateBuffers mechanism) = rest at fourth ⊢
                  dsimp only
                  apply insert_key_pair_accounted system memory accounted env found.context
                    present pubObj privObj ⟨memory.heap.alloc.1, made.1⟩
                    ⟨memory.heap.alloc.2.alloc.1, rest.1⟩ rest.2
                  refine Heap.holds_perm _ _ fourth _ ?_
                  apply List.perm_iff_count.mpr
                  intro block
                  simp only [ObjectBlocks.blocks, List.count_append, List.count_cons]
                  omega

end Objects

/-! ## Initialization and finalization -/

/-- The loop over the objects empties every entry that it comes to. -/
theorem free_objects_holds (indices : List (Fin hsmMaxObjects)) (memory : Memory)
    (holds : memory.heap.Holds memory.blocks) :
    (indices.foldl Memory.freeObjectAt memory).heap.Holds
      (indices.foldl Memory.freeObjectAt memory).blocks := by
  induction indices generalizing memory with
  | nil => exact holds
  | cons index rest inductionHypothesis =>
    exact inductionHypothesis _ (free_object_holds memory holds index)

/-- The loop of `hsm_cleanup_slot` empties every entry it comes to. -/
theorem free_objects_entries (indices : List (Fin hsmMaxObjects)) (memory : Memory)
    (index : Fin hsmMaxObjects) (emptied : index ∈ indices ∨ memory.objects index = none) :
    (indices.foldl Memory.freeObjectAt memory).objects index = none := by
  induction indices generalizing memory with
  | nil =>
    rcases emptied with member | vacant
    · cases member
    · exact vacant
  | cons first rest inductionHypothesis =>
    apply inductionHypothesis (memory.freeObjectAt first)
    rw [free_object_entries]
    by_cases here : index = first
    · right
      rw [here]
      exact put_self _ _ _
    · rw [put_other _ _ _ _ here]
      rcases emptied with member | vacant
      · rcases List.mem_cons.mp member with same | later
        · exact absurd same here
        · exact .inl later
      · exact .inr vacant

/-- It leaves the sessions. -/
theorem free_objects_others (indices : List (Fin hsmMaxObjects)) (memory : Memory) :
    (indices.foldl Memory.freeObjectAt memory).sessions = memory.sessions := by
  induction indices generalizing memory with
  | nil => rfl
  | cons index rest inductionHypothesis =>
    exact (inductionHypothesis _).trans (free_object_others memory index).2

/-- Pointers to nothing where the process has nothing. -/
theorem pointers_empty {capacity : Nat} {α β : Type} (pointers : Table capacity α)
    (table : Table capacity β) (vacant : table = empty)
    (same : ∀ index, (pointers index).isSome = (table index).isSome) : pointers = empty := by
  funext index
  have nothing := same index
  rw [vacant] at nothing
  exact Option.isNone_iff_eq_none.mp (by simpa [empty] using nothing)

section Lifetime

variable (system : System) (memory : Memory) (accounted : Accounted (system, memory))

include accounted

/-- Before `C_Initialize` the books show what is lost and nothing else. -/
theorem absent_books (absent : system.gHsmContext = none) :
    memory.slots = none ∧ memory.sessions = empty ∧ memory.objects = empty := by
  have slots := accounted.slots
  rw [absent] at slots
  exact ⟨Option.isNone_iff_eq_none.mp (by simpa using slots),
    pointers_empty memory.sessions system.sessions (sessions_absent system absent)
      accounted.sessions,
    pointers_empty memory.objects system.objects (objects_absent system absent)
      accounted.objects⟩

/-- As long as there is no slot, what else the process holds does not matter. -/
theorem absent_accounted (absent : system.gHsmContext = none) (after : System)
    (later : after.gHsmContext = none) : Accounted (after, memory) := by
  apply accounted_congr system after memory accounted
  · rw [absent, later]
  · intro index
    rw [sessions_absent system absent, sessions_absent after later]
  · intro index
    rw [objects_absent system absent, objects_absent after later]

/-- `C_Initialize` allocates the array of slots. -/
theorem initialize_accounted (env : Env) :
    Accounted ((cInitialize env system).2, memory.cInitialize env system) := by
  unfold cInitialize Memory.cInitialize
  cases present : system.gHsmContext with
  | some context => exact accounted
  | none =>
    obtain ⟨slots, sessions, objects⟩ := absent_books system memory accounted present
    obtain ⟨heap, _, _, _, lost, encodings⟩ := memory
    dsimp only at slots sessions objects
    subst slots sessions objects
    dsimp only
    generalize hsmStorageInit env system.storage = made
    by_cases failed : made.1 ≠ .ok
    · rw [if_pos failed, if_pos failed]
      exact absent_accounted system _ accounted present _ rfl
    · rw [if_neg failed, if_neg failed]
      cases allocated : env.calloc 0 with
      | false => exact absent_accounted system _ accounted present _ rfl
      | true =>
        have tables := init_slot_tables env.tokenRead made.2
        constructor
        · rfl
        · intro index
          change ((empty : Table hsmMaxSessions Block) index).isSome =
            ((hsmInitSlot env.tokenRead made.2).sessions index).isSome
          rw [tables.1]
          rfl
        · intro index
          change ((empty : Table hsmMaxObjects ObjectBlocks) index).isSome =
            ((hsmInitSlot env.tokenRead made.2).objects index).isSome
          rw [tables.2]
          rfl
        · exact Heap.holds_alloc _ _ accounted.holds

/-- After the cleanup of the slot only its array and what is lost are on the books. -/
theorem cleanup_books (context : HsmContext) (present : system.gHsmContext = some context) :
    (memory.hsmCleanupSlot system).sessions = empty ∧
      (memory.hsmCleanupSlot system).objects = empty ∧
      (memory.hsmCleanupSlot system).heap.Holds (memory.hsmCleanupSlot system).blocks := by
  have closed := close_sessions_accounted system memory accounted
  have emptied : (closeSessions system).sessions = empty := by
    rw [close_sessions_all system context present]
    rfl
  unfold Memory.hsmCleanupSlot
  generalize closeSessions system = after at closed emptied
  generalize memory.closeSessions system = left at closed
  have sessions := pointers_empty left.sessions after.sessions emptied closed.sessions
  refine ⟨(free_objects_others _ _).trans sessions, ?_, free_objects_holds _ _ closed.holds⟩
  funext index
  exact free_objects_entries _ _ index (.inl (List.mem_finRange index))

/-- `C_Finalize` frees the array of slots and all that it points to. -/
theorem finalize_accounted (pReserved : Bool) :
    Accounted ((cFinalize system pReserved).2, memory.cFinalize system pReserved) := by
  unfold cFinalize Memory.cFinalize
  cases pReserved with
  | true => exact accounted
  | false =>
    cases present : system.gHsmContext with
    | none => exact accounted
    | some context =>
      obtain ⟨sessions, objects, holds⟩ := cleanup_books system memory accounted context present
      generalize memory.hsmCleanupSlot system = cleaned at sessions objects holds
      constructor
      · rfl
      · intro index
        change (cleaned.sessions index).isSome = _
        rw [sessions]
        rfl
      · intro index
        change (cleaned.objects index).isSome = _
        rw [objects]
        rfl
      · exact Heap.holds_free_pointer _ cleaned.slots _ holds

end Lifetime

/-! ## Every call -/

/-- The calls that can add or remove objects while the library stays initialized. -/
def Call.managesObjects : Call → Bool
  | .createObject _ _ _ | .destroyObject _ _ | .generateKeyPair _ _ _ _ _ _ => true
  | _ => false

/-- Any other call leaves the entries of objects occupied or not. -/
theorem objects_stay (sha256 : Sha256) (env : Env) (system : System) (call : Call)
    (stays : call ≠ .finalizeLibrary false) (quiet : call.managesObjects = false)
    (index : Fin hsmMaxObjects) :
    ((callStep sha256 env system call).2.objects index).isSome =
      (system.objects index).isSome := by
  change ((callStep sha256 env system call).2.objectStore.objects index).isSome =
    (system.objectStore.objects index).isSome
  have change := store_step sha256 env system call
  cases named : call.hSession with
  | none => rw [sessionless_store sha256 env system call named stays]
  | some hSession =>
    generalize system.objectStore = store at change
    generalize (callStep sha256 env system call).2.objectStore = after at change
    cases change with
    | kept => rfl
    | dropped _ sessionless =>
      rw [sessionless] at named
      cases named
    | created => cases quiet
    | destroyed => cases quiet
    | paired => cases quiet
    | relabelled _ template place object present =>
      change (put store.objects place _ index).isSome = (store.objects index).isSome
      by_cases here : index = place
      · rw [here, put_self, present]
        rfl
      · rw [put_other _ _ _ _ here]

section Calls

variable (system : System) (memory : Memory) (accounted : Accounted (system, memory))

include accounted

/-- Most calls leave the heap and what the tables hold. -/
theorem quiet_call_accounted (sha256 : Sha256) (env : Env) (call : Call)
    (starts : call ≠ .initializeLibrary) (sessions : call.managesSessions = false)
    (objects : call.managesObjects = false) :
    Accounted ((callStep sha256 env system call).2, memory) := by
  have ends : call ≠ .finalizeLibrary false := by
    rintro rfl
    cases sessions
  exact accounted_congr system _ memory accounted
    (initialized_stays sha256 env system call starts ends)
    (occupied_stays sha256 env system call sessions)
    (objects_stay sha256 env system call ends objects)

/-- The encoding that `sign_ec` loses is on the books. -/
theorem sign_data_holds (signer : Signer) (privKey : HsmObject) (mechanism : CkMechanismType)
    (data : Bytes) (pSignature : Bool) (signatureLen : CkUlong) :
    Accounted (system,
      memory.hsmSignData signer privKey mechanism data pSignature signatureLen) := by
  have encoded : Accounted (system, { memory with
      heap := memory.heap.alloc.2
      encodings := memory.heap.alloc.1 :: memory.encodings }) := by
    refine ⟨accounted.slots, accounted.sessions, accounted.objects, ?_⟩
    apply Heap.holds_perm _ _ (Heap.holds_alloc _ _ accounted.holds)
    apply List.perm_iff_count.mpr
    intro block
    simp only [Memory.blocks, List.count_append, List.count_cons]
    omega
  unfold Memory.hsmSignData
  split
  · exact accounted
  · split
    · exact accounted
    · split
      · unfold Memory.signEc
        repeat' split
        all_goals first | exact accounted | exact encoded
      · exact accounted

/-- `C_Sign` keeps the books, also where it loses an encoding. -/
theorem sign_accounted (sha256 : Sha256) (env : Env) (hSession : CkSessionHandle)
    (pData : Option Bytes) (pSignature : Bool) (pulSignatureLen : Option CkUlong) :
    Accounted ((callStep sha256 env system (.sign hSession pData pSignature pulSignatureLen)).2,
      memory.cSign env system hSession pData pSignature pulSignatureLen) := by
  have kept : Accounted (system, memory.cSign env system hSession pData pSignature
      pulSignatureLen) := by
    unfold Memory.cSign
    split
    · split
      · exact accounted
      · dsimp only
        split
        · exact accounted
        · split
          · exact accounted
          · exact sign_data_holds system memory accounted _ _ _ _ _ _
    · exact accounted
  exact quiet_call_accounted system _ kept sha256 env _ Call.noConfusion rfl rfl

/-- Every call keeps the books. -/
theorem call_accounted (sha256 : Sha256) (env : Env) (call : Call) :
    Accounted ((callStep sha256 env system call).2, memory.callStep env system call) := by
  cases call with
  | initializeLibrary => exact initialize_accounted system memory accounted env
  | finalizeLibrary pReserved => exact finalize_accounted system memory accounted pReserved
  | initToken slotID pPin pLabel =>
    exact init_token_accounted system memory accounted sha256 env slotID pPin pLabel
  | openSession slotID flags phSession =>
    exact open_session_accounted system memory accounted env slotID flags phSession
  | closeSession hSession => exact destroy_session_accounted system memory accounted hSession
  | closeAllSessions slotID => exact close_all_sessions_accounted system memory accounted slotID
  | createObject hSession pTemplate phObject =>
    exact create_object_accounted system memory accounted env hSession pTemplate phObject
  | destroyObject hSession hObject =>
    exact destroy_object_accounted system memory accounted env hSession hObject
  | generateKeyPair hSession pMechanism publicTemplate privateTemplate phPublicKey phPrivateKey =>
    exact generate_key_pair_accounted system memory accounted env hSession pMechanism
      publicTemplate privateTemplate phPublicKey phPrivateKey
  | sign hSession pData pSignature pulSignatureLen =>
    exact sign_accounted system memory accounted sha256 env hSession pData pSignature
      pulSignatureLen
  | _ =>
    refine quiet_call_accounted system memory accounted sha256 env _ ?_ rfl rfl
    intro same
    cases same

end Calls

/-- The books of a process that has just started are empty. -/
theorem blank_accounted (storage : Storage) : Accounted (bootProcess storage, Memory.blank) where
  slots := rfl
  sessions := fun _ => rfl
  objects := fun _ => rfl
  holds := by
    have nothing : Memory.blank.blocks = [] := by
      simp [Memory.blocks, Memory.blank, live_empty]
    rw [nothing]
    exact Heap.holds_blank

/-- Every event keeps the books. -/
theorem memory_step_accounted (sha256 : Sha256) (pair : System × Memory) (event : Event)
    (accounted : Accounted pair) : Accounted (memoryStep sha256 pair event).2 := by
  cases event with
  | call made env => exact call_accounted pair.1 pair.2 accounted sha256 env made
  | newProcess => exact blank_accounted pair.1.storage

/-- And every run. -/
theorem accounted_run (sha256 : Sha256) (storage : Storage) (events : List Event) :
    Accounted (Runs.run (memoryStep sha256) (bootProcess storage, Memory.blank) events) := by
  apply Runs.invariant_reachable (memoryStep sha256)
    (fun pair => pair = (bootProcess storage, Memory.blank)) Accounted
  · rintro pair rfl
    exact blank_accounted storage
  · intro pair event accounted
    exact memory_step_accounted sha256 pair event accounted
  · exact ⟨_, events, rfl, rfl⟩

/-- In every run the heap has no fault, its live blocks are those on the books, each once, and
the library holds pointers to its slots, sessions and objects exactly where it has these. -/
theorem heap_books_balance (sha256 : Sha256) (storage : Storage) (events : List Event) :
    let system := Runs.run (step sha256) (bootProcess storage) events
    let memory := (Runs.run (memoryStep sha256) (bootProcess storage, Memory.blank) events).2
    memory.heap.faults = 0 ∧ memory.heap.live.Perm memory.blocks ∧ memory.blocks.Nodup ∧
      memory.slots.isSome = system.gHsmContext.isSome ∧
      (∀ index, (memory.sessions index).isSome = (system.sessions index).isSome) ∧
      ∀ index, (memory.objects index).isSome = (system.objects index).isSome := by
  have accounted := accounted_run sha256 storage events
  have undisturbed := Runs.traced_run (step sha256) Memory.after (bootProcess storage)
    Memory.blank events
  intro system memory
  have same : (Runs.run (memoryStep sha256) (bootProcess storage, Memory.blank) events).1 =
      system := undisturbed
  refine ⟨accounted.holds.sound, accounted.holds.exactly, accounted.holds.distinct, ?_⟩
  rw [← same]
  exact ⟨accounted.slots, accounted.sessions, accounted.objects⟩

end PstHsm
