import PstHsm.PinMachine
import PstHsm.SlotSections

/-!
# One order for all threads

The sections under the lock of the slot, interleaved at every access, come to what they come to
one after the other.
-/

namespace PstHsm

open Tables CriticalSections

/-! ## Loops -/

section Scans

variable {capacity : Nat} {α : Type}

/-- The loop over a table comes to the first entry that passes, and changes nothing. -/
theorem alone_scan (table : SlotMemory → Table capacity α) (test : Option α → Bool)
    (indices : List (Fin capacity)) (memory : SlotMemory) :
    (Threaded.scan table test indices).alone memory =
      ((indices.find? fun idx => test (table memory idx)).map
        fun idx => (idx, table memory idx), memory) := by
  induction indices with
  | nil => rfl
  | cons idx rest inductionHypothesis =>
    rw [Threaded.scan, alone_bind, alone_read]
    dsimp only
    cases passes : test (table memory idx) with
    | true => simp [passes]
    | false =>
      simp only [Bool.false_eq_true, if_false]
      rw [inductionHypothesis, List.find?_cons_of_neg (by simp [passes])]

/-- The loop that looks for a null entry. -/
theorem alone_scan_free (table : SlotMemory → Table capacity α) (memory : SlotMemory) :
    (Threaded.scan table Option.isNone (List.finRange capacity)).alone memory =
      ((firstFree (table memory)).map fun idx => (idx, table memory idx), memory) :=
  alone_scan table Option.isNone _ memory

/-- The loop that looks for a value. -/
theorem alone_scan_value (table : SlotMemory → Table capacity α) (accepts : α → Bool)
    (memory : SlotMemory) :
    (Threaded.scan table (fun entry => entry.any accepts) (List.finRange capacity)).alone memory =
      ((find (table memory) accepts).map fun found => (found.1, some found.2), memory) := by
  rw [alone_scan, find]
  congr 1
  generalize table memory = entries
  generalize List.finRange capacity = indices
  induction indices with
  | nil => rfl
  | cons idx rest inductionHypothesis =>
    cases entry : entries idx with
    | none => simpa [List.find?_cons, entry] using inductionHypothesis
    | some value =>
      cases passes : accepts value with
      | true => simp [entry, passes]
      | false => simpa [List.find?_cons, entry, passes] using inductionHypothesis

/-- The first two of some indices. -/
def firstTwo : List (Fin capacity) → Option (Fin capacity × Fin capacity)
  | first :: second :: _ => some (first, second)
  | _ => none

/-- The loop over the objects comes to the first two null entries. -/
theorem alone_scan_pair (table : SlotMemory → Table capacity α) (pubIdx : Option (Fin capacity))
    (indices : List (Fin capacity)) (memory : SlotMemory) :
    (Threaded.scanPair table pubIdx indices).alone memory =
      (firstTwo (pubIdx.toList ++ indices.filter fun idx => (table memory idx).isNone),
        memory) := by
  induction indices generalizing pubIdx with
  | nil =>
    cases pubIdx with
    | none => rfl
    | some first => rfl
  | cons idx rest inductionHypothesis =>
    unfold Threaded.scanPair
    rw [alone_bind, alone_read]
    dsimp only
    cases entry : table memory idx with
    | some value =>
      rw [Option.isSome_some, if_pos rfl, inductionHypothesis]
      simp [entry]
    | none =>
      rw [Option.isSome_none, if_neg Bool.false_ne_true]
      cases pubIdx with
      | none =>
        dsimp only
        rw [inductionHypothesis]
        simp [entry]
      | some first => simp [entry, firstTwo]

end Scans

/-! ## PINs -/

section Attempts

variable (slot : HsmSlot) (userType : CkUserType) (retryCount : Nat) (locked : Bool)

/-- Storing what is there changes nothing. -/
theorem store_attempts_same :
    slot.storeAttempts userType (slot.pinFields userType).retryCount
      (slot.pinFields userType).locked = slot := by
  by_cases so : userType = ckuSo
  · simp [HsmSlot.storeAttempts, HsmSlot.pinFields, so]
  · simp [HsmSlot.storeAttempts, HsmSlot.pinFields, so]

/-- The second store counts. -/
theorem store_attempts_again (retryCount' : Nat) (locked' : Bool) :
    (slot.storeAttempts userType retryCount locked).storeAttempts userType retryCount' locked' =
      slot.storeAttempts userType retryCount' locked' := by
  by_cases so : userType = ckuSo
  · simp [HsmSlot.storeAttempts, so]
  · simp [HsmSlot.storeAttempts, so]

/-- What was stored is read. -/
theorem store_attempts_selected :
    (slot.storeAttempts userType retryCount locked).pinFields userType =
      { slot.pinFields userType with retryCount := retryCount, locked := locked } := by
  rw [store_attempts_fields, if_pos Iff.rfl]

end Attempts

/-- An attempt less, if there was one. -/
theorem alone_spend_attempt (userType : CkUserType) (memory : SlotMemory) :
    (Threaded.spendAttempt userType).alone memory =
      ((), memory.onSlot fun slot => slot.storeAttempts userType
        ((memory.slot.pinFields userType).retryCount - 1)
        (slot.pinFields userType).locked) := by
  unfold Threaded.spendAttempt Threaded.readRetryCount Threaded.storeRetryCount
  rw [alone_bind, alone_read]
  dsimp only
  by_cases left : (memory.slot.pinFields userType).retryCount > 0
  · simp only [left, if_true, alone_bind, alone_read, alone_write]
  · have same := store_attempts_same memory.context.slot userType
    have nothing : (memory.slot.pinFields userType).retryCount - 1 =
        (memory.context.slot.pinFields userType).retryCount := by
      change _ - 1 = (memory.slot.pinFields userType).retryCount
      omega
    simp only [left, if_false, alone_pure, SlotMemory.onSlot]
    rw [nothing, same]

/-- The lock is set when no attempt is left. -/
theorem alone_lock_exhausted (userType : CkUserType) (memory : SlotMemory) (left : Nat)
    (unlocked : (memory.slot.pinFields userType).locked = false)
    (counted : (memory.slot.pinFields userType).retryCount = left) :
    (Threaded.lockExhausted userType).alone memory =
      (if left = 0 then .pinLocked else .pinIncorrect,
        memory.onSlot fun slot => slot.storeAttempts userType left (decide (left = 0))) := by
  unfold Threaded.lockExhausted Threaded.readRetryCount Threaded.storeLocked
  rw [alone_bind, alone_read]
  dsimp only
  have same := store_attempts_same memory.context.slot userType
  have slotHere : memory.context.slot = memory.slot := rfl
  by_cases exhausted : left = 0
  · simp only [counted, exhausted, if_true, alone_bind, alone_write, alone_pure,
      SlotMemory.onSlot, slotHere, decide_true]
  · simp only [counted, exhausted, if_false, alone_pure, SlotMemory.onSlot, decide_false]
    rw [slotHere, unlocked, counted] at same
    rw [slotHere, same]
    rfl

/-- The hashes compared, and the attempt counted. -/
theorem alone_verify_pin (sha256 : Sha256) (userType : CkUserType) (pPin : Bytes)
    (memory : SlotMemory) :
    (Threaded.hsmVerifyPin sha256 userType pPin).alone memory =
      ((hsmVerifyPin sha256 memory.slot userType pPin).1,
        memory.onSlot fun slot => (hsmVerifyPin sha256 slot userType pPin).2) := by
  unfold Threaded.hsmVerifyPin
  have slotHere : memory.context.slot = memory.slot := rfl
  rw [alone_bind, alone_read]
  dsimp only
  rcases Bool.eq_false_or_eq_true (memory.slot.pinFields userType).initialized with
    initialized | initialized
  · simp only [initialized, Bool.not_true, Bool.false_eq_true, if_false, alone_bind, alone_read]
    rcases Bool.eq_false_or_eq_true (memory.slot.pinFields userType).locked with locked | locked
    · simp only [locked, if_true, alone_pure, SlotMemory.onSlot, slotHere,
        verify_pin_locked sha256 memory.slot userType pPin initialized locked]
      rfl
    · simp only [locked, Bool.false_eq_true, if_false, alone_bind, alone_read]
      by_cases same : sha256 pPin = (memory.slot.pinFields userType).storedHash
      · simp only [same, ne_eq, not_true_eq_false, if_false, alone_bind, Threaded.storeRetryCount,
          alone_write, alone_pure, SlotMemory.onSlot, slotHere, locked,
          verify_pin_right sha256 memory.slot userType pPin initialized locked same]
      · simp only [same, ne_eq, not_false_eq_true, if_true, alone_bind, alone_spend_attempt]
        rw [alone_lock_exhausted userType _ ((memory.slot.pinFields userType).retryCount - 1)]
        · simp only [SlotMemory.onSlot, slotHere, store_attempts_again,
            verify_pin_wrong sha256 memory.slot userType pPin initialized locked same]
        · simp only [SlotMemory.slot, SlotMemory.onSlot, store_attempts_selected]
          exact locked
        · simp only [SlotMemory.slot, SlotMemory.onSlot, store_attempts_selected]
  · simp only [initialized, Bool.not_false, if_true, alone_pure, SlotMemory.onSlot, slotHere,
      verify_pin_unset sha256 memory.slot userType pPin initialized]
    rfl

/-- A PIN of a length that was checked is set. -/
theorem alone_set_pin (sha256 : Sha256) (userType : CkUserType) (pPin : NewPin)
    (memory : SlotMemory) :
    (Threaded.hsmSetPin sha256 userType pPin).alone memory =
      (.ok, memory.onSlot fun slot =>
        if userType = ckuSo then { slot with soPinHash := sha256 pPin }
        else { slot with userPinHash := sha256 pPin }) := by
  have inRange : (decide (pPin.val.length < hsmMinPinLen) ||
      decide (pPin.val.length > hsmMaxPinLen)) = false := by
    have long := pPin.property.1
    have short := pPin.property.2
    simp only [Bool.or_eq_false_iff, decide_eq_false_iff_not]
    omega
  unfold Threaded.hsmSetPin
  simp only [inRange, Bool.false_eq_true, if_false, alone_bind, alone_write, alone_pure]

/-! ## A section alone -/

/-- The program does in the memory what the step does in the process. -/
def Performs (program : SlotProgram SlotAnswer) (memory : SlotMemory)
    (outcome : SlotAnswer × System) : Prop :=
  outcome = ((program.alone memory).1, (program.alone memory).2.system)

/-- `hsm_create_session` does the same step by step. -/
theorem create_session_performs (sha256 : Sha256) (env : Env) (flags : CkFlags)
    (memory : SlotMemory) :
    Performs (Threaded.hsmCreateSession env flags) memory
      ((SlotCall.createSession flags env).inOneStep sha256 memory.system) := by
  unfold Performs SlotCall.inOneStep hsmCreateSession Threaded.hsmCreateSession
  simp only [alone_bind, alone_lock, alone_read, SlotMemory.system, SlotMemory.slot]
  by_cases full : memory.context.slot.sessionCount ≥ hsmMaxSessions
  · simp only [full, if_true, alone_bind, alone_unlock, alone_pure, Option.toList_none]
  · simp only [full, if_false, alone_bind, alone_scan_free]
    cases free : firstFree memory.context.slot.sessions with
    | none => simp only [Option.map_none, alone_bind, alone_unlock, alone_pure, Option.toList_none]
    | some idx =>
      cases allocated : env.calloc 0 with
      | false =>
        simp only [Option.map_some, Bool.not_false, if_true, alone_bind, alone_unlock, alone_pure,
          Option.toList_none]
      | true =>
        simp only [Option.map_some, Bool.not_true, Bool.false_eq_true, if_false, alone_bind,
          alone_unlock, alone_pure, Threaded.nextSessionHandle, Threaded.putSession, alone_lock,
          alone_read, alone_write]
        rfl

/-- `hsm_destroy_session` does the same step by step. -/
theorem destroy_session_performs (sha256 : Sha256) (hSession : CkSessionHandle)
    (memory : SlotMemory) :
    Performs (Threaded.hsmDestroySession hSession) memory
      ((SlotCall.destroySession hSession).inOneStep sha256 memory.system) := by
  unfold Performs SlotCall.inOneStep hsmDestroySession hsmGetSession Threaded.hsmDestroySession
  simp only [alone_bind, alone_lock, alone_scan_value, SlotMemory.system, SlotMemory.slot]
  cases find memory.context.slot.sessions fun session => decide (session.handle = hSession) with
  | none => simp only [Option.map_none, alone_bind, alone_unlock, alone_pure]
  | some found =>
    obtain ⟨idx, session⟩ := found
    simp only [Option.map_some, alone_bind, alone_unlock, alone_pure, Threaded.putSession,
      alone_read, alone_write]
    rfl

/-- Saving is for token objects only, also where it is called for any. -/
theorem alone_save_token (object : HsmObject) (outcome : WriteOutcome) (memory : SlotMemory) :
    (Threaded.saveToken object outcome).alone memory = ((), { memory with
      storage := (hsmStorageSaveObject object outcome memory.storage).2 }) := by
  unfold Threaded.saveToken
  cases token : object.isToken with
  | true => rfl
  | false => simp [hsmStorageSaveObject, token]

/-- A handle is drawn from the counter, which moves on. -/
theorem alone_object_handle (type : Nat) (memory : SlotMemory) :
    (Threaded.hsmGenerateObjectHandle type).alone memory =
      (hsmGenerateObjectHandle type memory.handleCounter,
        { memory with handleCounter := advanceCounter memory.handleCounter }) := by
  simp only [Threaded.hsmGenerateObjectHandle, alone_bind, alone_lock, alone_read, alone_write,
    alone_unlock, alone_pure]

/-- `hsm_create_object` does the same step by step. -/
theorem create_object_performs (sha256 : Sha256) (cameBy : CameBy) (pTemplate : List CkAttribute)
    (env : Env) (memory : SlotMemory) :
    Performs (Threaded.hsmCreateObject env pTemplate) memory
      ((SlotCall.createObject cameBy pTemplate env).inOneStep sha256 memory.system) := by
  unfold Performs SlotCall.inOneStep hsmCreateObject Threaded.hsmCreateObject
  simp only [alone_bind, alone_lock, alone_read, SlotMemory.system, SlotMemory.slot,
    FoundSession.slot]
  by_cases full : memory.context.slot.objectCount ≥ hsmMaxObjects
  · simp only [full, if_true, alone_bind, alone_unlock, alone_pure, Option.toList_none]
  · simp only [full, if_false, alone_bind, alone_scan_free]
    cases firstFree memory.context.slot.objects with
    | none => simp only [Option.map_none, alone_bind, alone_unlock, alone_pure, Option.toList_none]
    | some idx =>
      cases env.calloc 0 with
      | false =>
        simp only [Option.map_some, Bool.not_false, if_true, alone_bind, alone_unlock, alone_pure,
          Option.toList_none]
      | true =>
        simp only [Option.map_some, Bool.not_true, Bool.false_eq_true, if_false, alone_bind,
          alone_unlock, alone_pure, alone_object_handle, Threaded.putObject, alone_read,
          alone_write, alone_save_token]
        rfl

/-- `hsm_destroy_object` does the same step by step. -/
theorem destroy_object_performs (sha256 : Sha256) (cameBy : CameBy) (hObject : CkObjectHandle)
    (env : Env) (memory : SlotMemory) :
    Performs (Threaded.hsmDestroyObject env hObject) memory
      ((SlotCall.destroyObject cameBy hObject env).inOneStep sha256 memory.system) := by
  unfold Performs SlotCall.inOneStep hsmDestroyObject hsmGetObject Threaded.hsmDestroyObject
  simp only [alone_bind, alone_lock, alone_scan_value, SlotMemory.system, SlotMemory.slot,
    FoundSession.slot]
  cases find memory.context.slot.objects fun object => decide (object.handle = hObject) with
  | none => simp only [Option.map_none, alone_bind, alone_unlock, alone_pure]
  | some found =>
    obtain ⟨idx, object⟩ := found
    cases token : object.isToken with
    | false =>
      simp only [Option.map_some, token, Bool.false_eq_true, if_false, alone_bind, alone_unlock,
        alone_pure, Threaded.putObject, alone_read, alone_write]
      rfl
    | true =>
      simp only [Option.map_some, token, if_true, alone_bind, alone_unlock, alone_pure,
        Threaded.putObject, alone_read, alone_write]
      rfl

/-- So does the insertion of a key pair. -/
theorem insert_key_pair_performs (sha256 : Sha256) (cameBy : CameBy) (pubObj privObj : HsmObject)
    (env : Env) (memory : SlotMemory) :
    Performs (Threaded.insertKeyPair env pubObj privObj) memory
      ((SlotCall.insertKeyPair cameBy pubObj privObj env).inOneStep sha256 memory.system) := by
  unfold Performs SlotCall.inOneStep insertKeyPair Threaded.insertKeyPair
  simp only [alone_bind, alone_lock, alone_scan_pair, SlotMemory.system, SlotMemory.slot]
  have free : freeIndices memory.context.slot.objects =
      (none : Option (Fin hsmMaxObjects)).toList ++ (List.finRange hsmMaxObjects).filter
        fun idx => (memory.context.slot.objects idx).isNone := by
    rw [Option.toList_none, List.nil_append, freeIndices]
  rw [← free]
  cases freeIndices memory.context.slot.objects with
  | nil =>
    simp only [firstTwo, alone_bind, alone_unlock, alone_pure]
    rfl
  | cons pubIdx rest =>
    cases rest with
    | nil =>
      simp only [firstTwo, alone_bind, alone_unlock, alone_pure]
      rfl
    | cons privIdx others =>
      simp only [firstTwo, alone_bind, alone_unlock, alone_pure, alone_object_handle,
        Threaded.putObject, alone_read, alone_write, alone_save_token]
      rfl

/-- `C_Login` counts the attempt in several accesses. -/
theorem login_performs (sha256 : Sha256) (cameBy : CameBy) (userType : CkUserType) (pPin : Bytes)
    (memory : SlotMemory) :
    Performs (Threaded.login sha256 userType pPin) memory
      ((SlotCall.login cameBy userType pPin).inOneStep sha256 memory.system) := by
  unfold Performs SlotCall.inOneStep Threaded.login
  simp only [alone_bind, alone_lock, alone_verify_pin, alone_unlock, alone_pure, SlotMemory.system]
  rfl

/-- `C_SetPIN` counts the attempt and then sets the PIN. -/
theorem change_pin_performs (sha256 : Sha256) (cameBy : CameBy) (pOldPin : Bytes)
    (pNewPin : NewPin) (env : Env) (memory : SlotMemory) :
    Performs (Threaded.changePin sha256 env cameBy.2 pOldPin pNewPin) memory
      ((SlotCall.changePin cameBy pOldPin pNewPin env).inOneStep sha256 memory.system) := by
  obtain ⟨index, session⟩ := cameBy
  unfold Performs SlotCall.inOneStep Threaded.changePin
  simp only [alone_bind, alone_lock, alone_verify_pin, SlotMemory.system]
  by_cases accepted : (hsmVerifyPin sha256 memory.slot session.pinOwner pOldPin).1 = .ok
  · have owner : session.pinOwner = ckuUser ∨ session.pinOwner = ckuSo := by
      unfold HsmSession.pinOwner
      split
      · exact .inl rfl
      · exact .inr rfl
    have here : (hsmVerifyPin sha256 memory.context.slot session.pinOwner pOldPin).1 = .ok :=
      accepted
    simp only [accepted, here, ne_eq, not_true_eq_false, if_false, alone_bind, alone_set_pin,
      alone_write, alone_unlock, alone_pure, Threaded.saveTokenInfo]
    rcases owner with user | so
    · simp only [user]
      rfl
    · simp only [so]
      rfl
  · have here : (hsmVerifyPin sha256 memory.context.slot session.pinOwner pOldPin).1 ≠ .ok :=
      accepted
    simp only [accepted, here, ne_eq, not_false_eq_true, if_true, alone_bind, alone_unlock,
      alone_pure]
    rfl

/-- `C_InitPIN` sets the PIN and its attempts one by one. -/
theorem init_pin_performs (sha256 : Sha256) (cameBy : CameBy) (pPin : NewPin) (env : Env)
    (memory : SlotMemory) :
    Performs (Threaded.initPin sha256 env pPin) memory
      ((SlotCall.initPin cameBy pPin env).inOneStep sha256 memory.system) := by
  unfold Performs SlotCall.inOneStep Threaded.initPin
  simp only [alone_bind, alone_lock, alone_set_pin, ne_eq, not_true_eq_false, if_false, alone_write,
    alone_unlock, alone_pure, Threaded.saveTokenInfo, SlotMemory.system]
  rfl

/-- Every call, from the lock on and alone, does what it does in one step. -/
theorem under_lock_performs (sha256 : Sha256) (call : SlotCall) (memory : SlotMemory) :
    Performs (call.underLock sha256) memory (call.inOneStep sha256 memory.system) := by
  cases call with
  | createSession flags env => exact create_session_performs sha256 env flags memory
  | destroySession hSession => exact destroy_session_performs sha256 hSession memory
  | createObject cameBy pTemplate env =>
    exact create_object_performs sha256 cameBy pTemplate env memory
  | destroyObject cameBy hObject env =>
    exact destroy_object_performs sha256 cameBy hObject env memory
  | insertKeyPair cameBy pubObj privObj env =>
    exact insert_key_pair_performs sha256 cameBy pubObj privObj env memory
  | login cameBy userType pPin => exact login_performs sha256 cameBy userType pPin memory
  | changePin cameBy pOldPin pNewPin env =>
    exact change_pin_performs sha256 cameBy pOldPin pNewPin env memory
  | initPin cameBy pPin env => exact init_pin_performs sha256 cameBy pPin env memory

/-! ## Each call is one section -/

section Shapes

variable {capacity : Nat} {α : Type}

/-- A loop over a table locks nothing. -/
theorem part_scan (table : SlotMemory → Table capacity α) (test : Option α → Bool)
    (indices : List (Fin capacity)) :
    Part .slotLock ∅ (Threaded.scan table test indices) ∅ := by
  induction indices with
  | nil => exact part_pure _ _ _
  | cons idx rest inductionHypothesis =>
    unfold Threaded.scan
    apply part_bind _ _ _ _ _ _ (part_read _ _ _)
    intro entry
    split
    · exact part_pure _ _ _
    · exact inductionHypothesis

/-- Nor does the loop that looks for two entries. -/
theorem part_scan_pair (table : SlotMemory → Table capacity α)
    (pubIdx : Option (Fin capacity)) (indices : List (Fin capacity)) :
    Part .slotLock ∅ (Threaded.scanPair table pubIdx indices) ∅ := by
  induction indices generalizing pubIdx with
  | nil => exact part_pure _ _ _
  | cons idx rest inductionHypothesis =>
    unfold Threaded.scanPair
    apply part_bind _ _ _ _ _ _ (part_read _ _ _)
    intro entry
    split
    · exact inductionHypothesis pubIdx
    · cases pubIdx with
      | none => exact inductionHypothesis (some idx)
      | some first => exact part_pure _ _ _

end Shapes

/-- A counter is read and advanced under its own lock. -/
theorem part_counted {τ ρ : Type} (mutex : LockName) (different : mutex ≠ .slotLock)
    (look : SlotMemory → τ) (change : τ → SlotMemory → SlotMemory) (result : τ → ρ) :
    Part .slotLock ∅ (do
      lock mutex
      let found ← CriticalSections.read look
      write (change found)
      unlock mutex
      return result found) ∅ := by
  refine ⟨different, Finset.notMem_empty mutex, fun memory memory' => ?_⟩
  exact ⟨different, Finset.mem_insert_self mutex ∅, Finset.erase_insert (Finset.notMem_empty mutex)⟩

/-- The counter of the object handles has its own lock. -/
theorem part_object_handle (type : Nat) :
    Part .slotLock ∅ (Threaded.hsmGenerateObjectHandle type) ∅ :=
  part_counted .objectHandleLock (by decide) _ _ _

/-- So has the counter of the session handles. -/
theorem part_session_handle : Part .slotLock ∅ Threaded.nextSessionHandle ∅ :=
  part_counted .sessionHandleLock (by decide) _ _ _

/-- Saving an object locks nothing. -/
theorem part_save_token (object : HsmObject) (outcome : WriteOutcome) :
    Part .slotLock ∅ (Threaded.saveToken object outcome) ∅ := by
  unfold Threaded.saveToken
  split
  · exact part_write _ _ _
  · exact part_pure _ _ _

/-- A count is written anew before the lock is given up. -/
theorem within_counted (look : SlotMemory → Nat) (change : Nat → SlotMemory → SlotMemory)
    (rest : SlotProgram SlotAnswer) (within : Within .slotLock ∅ rest) :
    Within .slotLock ∅ (do
      let count ← CriticalSections.read look
      write (change count)
      rest) :=
  fun _ _ => within

/-- `hsm_create_session` is one section. -/
theorem create_session_section (env : Env) (flags : CkFlags) :
    IsSection .slotLock (Threaded.hsmCreateSession env flags) := by
  apply is_section_lock
  apply within_bind _ _ _ _ _ (part_read _ _ _)
  intro sessionCount
  split
  · exact within_unlock _ _
  · apply within_bind _ _ _ _ _ (part_scan _ _ _)
    intro free
    split
    · exact within_unlock _ _
    · split
      · exact within_unlock _ _
      · apply within_bind _ _ _ _ _ part_session_handle
        intro handle
        apply within_bind _ _ _ _ _ (part_write _ _ _)
        intro _
        exact within_counted _ _ _ (within_unlock _ _)

/-- `hsm_destroy_session` is one section. -/
theorem destroy_session_section (hSession : CkSessionHandle) :
    IsSection .slotLock (Threaded.hsmDestroySession hSession) := by
  apply is_section_lock
  apply within_bind _ _ _ _ _ (part_scan _ _ _)
  intro found
  split
  · exact within_unlock _ _
  · apply within_bind _ _ _ _ _ (part_write _ _ _)
    intro _
    exact within_counted _ _ _ (within_unlock _ _)

/-- `hsm_create_object` is one section, from its lock on. -/
theorem create_object_section (env : Env) (pTemplate : List CkAttribute) :
    IsSection .slotLock (Threaded.hsmCreateObject env pTemplate) := by
  unfold Threaded.hsmCreateObject
  generalize List.finRange hsmMaxObjects = indices
  apply is_section_lock
  apply within_bind _ _ _ _ _ (part_read _ _ _)
  intro objectCount
  split
  · exact within_unlock _ _
  · apply within_bind _ _ _ _ _ (part_scan _ _ _)
    intro free
    split
    · exact within_unlock _ _
    · split
      · exact within_unlock _ _
      · apply within_bind _ _ _ _ _ (part_object_handle _)
        intro handle
        apply within_bind _ _ _ _ _ (part_write _ _ _)
        intro _
        apply within_counted
        apply within_bind _ _ _ _ _ (part_save_token _ _)
        intro _
        exact within_unlock _ _

/-- `hsm_destroy_object` is one section, from its lock on. -/
theorem destroy_object_section (env : Env) (hObject : CkObjectHandle) :
    IsSection .slotLock (Threaded.hsmDestroyObject env hObject) := by
  unfold Threaded.hsmDestroyObject
  generalize List.finRange hsmMaxObjects = indices
  apply is_section_lock
  apply within_bind _ _ _ _ _ (part_scan _ _ _)
  intro found
  split
  · rename_i idx object
    have removed : Within .slotLock ∅ (do
        Threaded.putObject idx none
        let objectCount ← CriticalSections.read fun memory => memory.slot.objectCount
        write (SlotMemory.onSlot fun slot => { slot with objectCount := objectCount - 1 })
        unlock .slotLock
        return ((.ok, []) : SlotAnswer)) := by
      apply within_bind _ _ _ _ _ (part_write _ _ _)
      intro _
      exact within_counted _ _ _ (within_unlock _ _)
    split
    · exact within_bind _ _ _ _ _ (part_write _ _ _) fun _ => removed
    · exact removed
  · exact within_unlock _ _

/-- The insertion of a key pair is one section. -/
theorem insert_key_pair_section (env : Env) (pubObj privObj : HsmObject) :
    IsSection .slotLock (Threaded.insertKeyPair env pubObj privObj) := by
  unfold Threaded.insertKeyPair
  generalize List.finRange hsmMaxObjects = indices
  apply is_section_lock
  apply within_bind _ _ _ _ _ (part_scan_pair _ _ _)
  intro free
  split
  · exact within_unlock _ _
  · apply within_bind _ _ _ _ _ (part_object_handle _)
    intro pubHandle
    apply within_bind _ _ _ _ _ (part_object_handle _)
    intro privHandle
    apply within_bind _ _ _ _ _ (part_write _ _ _)
    intro _
    apply within_bind _ _ _ _ _ (part_write _ _ _)
    intro _
    apply within_counted
    apply within_bind _ _ _ _ _ (part_save_token _ _)
    intro _
    apply within_bind _ _ _ _ _ (part_save_token _ _)
    intro _
    exact within_unlock _ _

/-- Verifying a PIN locks nothing. -/
theorem part_verify_pin (sha256 : Sha256) (userType : CkUserType) (pPin : Bytes) :
    Part .slotLock ∅ (Threaded.hsmVerifyPin sha256 userType pPin) ∅ := by
  unfold Threaded.hsmVerifyPin
  apply part_bind _ _ _ _ _ _ (part_read _ _ _)
  intro initialized
  split
  · exact part_pure _ _ _
  · apply part_bind _ _ _ _ _ _ (part_read _ _ _)
    intro locked
    split
    · exact part_pure _ _ _
    · apply part_bind _ _ _ _ _ _ (part_read _ _ _)
      intro storedHash
      split
      · have spent : Part .slotLock ∅ (Threaded.spendAttempt userType) ∅ := by
          apply part_bind _ _ _ _ _ _ (part_read _ _ _)
          intro retryCount
          split
          · exact part_bind _ _ _ _ _ _ (part_read _ _ _) fun _ => part_write _ _ _
          · exact part_pure _ _ _
        apply part_bind _ _ _ _ _ _ spent
        intro _
        apply part_bind _ _ _ _ _ _ (part_read _ _ _)
        intro retryCount
        split
        · exact part_bind _ _ _ _ _ _ (part_write _ _ _) fun _ => part_pure _ _ _
        · exact part_pure _ _ _
      · exact part_bind _ _ _ _ _ _ (part_write _ _ _) fun _ => part_pure _ _ _

/-- Nor does setting one. -/
theorem part_set_pin (sha256 : Sha256) (userType : CkUserType) (pPin : Bytes) :
    Part .slotLock ∅ (Threaded.hsmSetPin sha256 userType pPin) ∅ := by
  unfold Threaded.hsmSetPin
  split
  · exact part_pure _ _ _
  · exact part_bind _ _ _ _ _ _ (part_write _ _ _) fun _ => part_pure _ _ _

/-- What `C_Login` does with the PINs is one section. -/
theorem login_section (sha256 : Sha256) (userType : CkUserType) (pPin : Bytes) :
    IsSection .slotLock (Threaded.login sha256 userType pPin) := by
  apply is_section_lock
  apply within_bind _ _ _ _ _ (part_verify_pin _ _ _)
  intro rv
  exact within_unlock _ _

/-- So is what `C_SetPIN` does with them. -/
theorem change_pin_section (sha256 : Sha256) (env : Env) (session : HsmSession)
    (pOldPin pNewPin : Bytes) :
    IsSection .slotLock (Threaded.changePin sha256 env session pOldPin pNewPin) := by
  apply is_section_lock
  apply within_bind _ _ _ _ _ (part_verify_pin _ _ _)
  intro verified
  split
  · exact within_unlock _ _
  · apply within_bind _ _ _ _ _ (part_set_pin _ _ _)
    intro rv
    split
    · exact within_unlock _ _
    · apply within_bind _ _ _ _ _ (part_write _ _ _)
      intro _
      apply within_bind _ _ _ _ _ (part_write _ _ _)
      intro _
      exact within_unlock _ _

/-- And so is what `C_InitPIN` does. -/
theorem init_pin_section (sha256 : Sha256) (env : Env) (pPin : Bytes) :
    IsSection .slotLock (Threaded.initPin sha256 env pPin) := by
  apply is_section_lock
  apply within_bind _ _ _ _ _ (part_set_pin _ _ _)
  intro rv
  split
  · exact within_unlock _ _
  · apply within_bind _ _ _ _ _ (part_write _ _ _)
    intro _
    apply within_bind _ _ _ _ _ (part_write _ _ _)
    intro _
    apply within_bind _ _ _ _ _ (part_write _ _ _)
    intro _
    apply within_bind _ _ _ _ _ (part_write _ _ _)
    intro _
    exact within_unlock _ _

/-- Every call is one section, from its lock on. -/
theorem under_lock_section (sha256 : Sha256) (call : SlotCall) :
    IsSection .slotLock (call.underLock sha256) := by
  cases call with
  | createSession flags env => exact create_session_section env flags
  | destroySession hSession => exact destroy_session_section hSession
  | createObject cameBy pTemplate env => exact create_object_section env pTemplate
  | destroyObject cameBy hObject env => exact destroy_object_section env hObject
  | insertKeyPair cameBy pubObj privObj env => exact insert_key_pair_section env pubObj privObj
  | login cameBy userType pPin => exact login_section sha256 userType pPin
  | changePin cameBy pOldPin pNewPin env =>
    exact change_pin_section sha256 env cameBy.2 pOldPin pNewPin
  | initPin cameBy pPin env => exact init_pin_section sha256 env pPin

/-- A call that came in by a session looks for it first. -/
theorem program_sections (sha256 : Sha256) (astray : SlotProgram SlotAnswer) :
    Sections (SlotCall.program sha256 astray) (SlotCall.underLock sha256) .slotLock
      SlotCall.sessionOpen where
  one := under_lock_section sha256
  enters := by
    intro call
    unfold SlotCall.program
    split
    · exact .inl rfl
    · exact .inr ⟨astray, rfl⟩

/-! ## Every interleaving -/

section Interleavings

variable {κ : Type} [DecidableEq κ]

/-- The threads after some happenings, from a state in which none was in a call. -/
def interleaved (sha256 : Sha256) (astray : SlotProgram SlotAnswer) (start : SlotMemory)
    (happenings : List (Happening κ SlotCall)) :
    Machine κ LockName SlotMemory SlotCall SlotAnswer :=
  (Machine.idle start).after (SlotCall.program sha256 astray) .slotLock happenings

/-- Whenever a thread has a turn in a call that does not have the lock yet, the session that the
call came in by is open. -/
def SessionsStay (sha256 : Sha256) (astray : SlotProgram SlotAnswer) (start : SlotMemory)
    (happenings : List (Happening κ SlotCall)) : Prop :=
  (Machine.idle start).allFind (SlotCall.program sha256 astray) .slotLock SlotCall.sessionOpen
    happenings = true

instance (sha256 : Sha256) (astray : SlotProgram SlotAnswer) (start : SlotMemory)
    (happenings : List (Happening κ SlotCall)) :
    Decidable (SessionsStay sha256 astray start happenings) :=
  inferInstanceAs (Decidable (_ = true))

/-- Threads whose sessions stay open are orderly. -/
theorem interleaved_orderly (sha256 : Sha256) (astray : SlotProgram SlotAnswer) (start : SlotMemory)
    (happenings : List (Happening κ SlotCall))
    (stay : SessionsStay sha256 astray start happenings) :
    (interleaved sha256 astray start happenings).Orderly (SlotCall.program sha256 astray)
      (SlotCall.underLock sha256) .slotLock start :=
  after_orderly (program_sections sha256 astray) start _ (idle_orderly start) happenings stay

omit [DecidableEq κ] in
/-- The serial run in the memory is the one in the process. -/
theorem serial_in_one_step (sha256 : Sha256) (start : SlotMemory) (entries : List (κ × SlotCall)) :
    serially (SlotCall.inOneStep sha256) start.system entries =
      ((serially (fun call => (call.underLock sha256).alone) start entries).1.system,
        (serially (fun call => (call.underLock sha256).alone) start entries).2) := by
  apply serially_view SlotMemory.system
  intro call memory
  exact under_lock_performs sha256 call memory

/-- However any number of threads take turns at single accesses, their calls come to what they
come to in one step each, one after the other in the order in which they gave up the lock of the
slot, as long as no session is closed that another call came in by before that call has the lock.
Every answer is that of the serial run, and so is what is in the tables, the counters and the
storage whenever the lock is free. The order only grows, and a thread that waits waits for one
that does not. -/
theorem slot_sections_linearizable (sha256 : Sha256) (astray : SlotProgram SlotAnswer)
    (start : SlotMemory) (happenings later : List (Happening κ SlotCall))
    (stay : SessionsStay sha256 astray start happenings) :
    let threads := interleaved sha256 astray start happenings
    let serial := serially (SlotCall.inOneStep sha256) start.system threads.served
    (∀ thread, serial.2.filter (·.1 = thread) =
      threads.returned.filter (·.1 = thread) ++ threads.inFlight thread) ∧
    (threads.owner .slotLock = none → threads.memory.system = serial.1) ∧
    threads.served <+: (interleaved sha256 astray start (happenings ++ later)).served ∧
    ∀ thread, threads.Blocked thread →
      ∃ holder, threads.owner .slotLock = some holder ∧ holder ≠ thread ∧
        ¬ threads.Blocked holder := by
  intro threads serial
  have orderly := interleaved_orderly sha256 astray start happenings stay
  have same : serial = ((threads.serial (SlotCall.underLock sha256) start).1.system,
      (threads.serial (SlotCall.underLock sha256) start).2) :=
    serial_in_one_step sha256 start threads.served
  refine ⟨?_, ?_, ?_, ?_⟩
  · intro thread
    rw [same]
    exact orderly.answers thread
  · intro free
    rw [same]
    exact congrArg SlotMemory.system (orderly.free free).2
  · have grown : interleaved sha256 astray start (happenings ++ later) =
        threads.after (SlotCall.program sha256 astray) .slotLock later := List.foldl_append
    rw [grown]
    exact served_stays threads later
  · intro thread blocked
    exact blocked_by_holder start threads orderly thread blocked

end Interleavings

/-- The memory of a process just initialized on a fresh machine. -/
def blankMemory : SlotMemory :=
  ⟨hsmInitContext (hsmInitSlot true freshStorage), 1, 1, freshStorage⟩

/-- A session just opened. -/
def openedAs (handle : CkSessionHandle) (index : Fin hsmMaxSessions) : CameBy :=
  (index, freshSession handle ckfSerialSession 0)

/-- Two threads have so many turns each, one after the other. -/
def alternately (turns : Nat) : List (Happening Bool SlotCall) :=
  (List.replicate turns [.turn false, .turn true]).flatten

/-- Two threads open a session each, and then create an object each, at the same time. -/
def racingCreations : List (Happening Bool SlotCall) :=
  [.call false (.createSession ckfSerialSession (calmEnv 1)),
    .call true (.createSession ckfSerialSession (calmEnv 1))] ++ alternately 27 ++
  [.call false (.createObject (openedAs 1 firstEntry) [] (calmEnv 1)),
    .call true (.createObject (openedAs 2 secondEntry) [] (calmEnv 1))] ++ alternately 29

/-- Something for a call to do that lost its session. -/
def lostSession : SlotProgram SlotAnswer := return (.functionFailed, [])

/-- Nobody closes a session. -/
theorem racing_creations_stay : SessionsStay pinSha256 lostSession blankMemory racingCreations := by
  decide +kernel

/-- In the end nobody holds the lock. -/
theorem racing_creations_free :
    (interleaved pinSha256 lostSession blankMemory racingCreations).owner .slotLock = none := by
  decide +kernel

theorem slot_sections_linearizable_creations :
    let threads := interleaved pinSha256 lostSession blankMemory racingCreations
    threads.memory.system =
      (serially (SlotCall.inOneStep pinSha256) blankMemory.system threads.served).1 :=
  (slot_sections_linearizable pinSha256 lostSession blankMemory racingCreations []
    racing_creations_stay).2.1 racing_creations_free

end PstHsm
