import PstHsm.Types

/-!
# PIN verification

The slot keeps four fields for the security officer and four for the user. The
C code selects them by pointer and then runs one comparison for both; the model
selects them as a record and writes the attempt counter and the lock back.
-/

namespace PstHsm

/-- The four fields of one user type. -/
structure PinFields where
  initialized : Bool
  storedHash : Buffer 32
  retryCount : Nat
  locked : Bool

/-- The fields a user type selects; every type other than the security officer
selects the user's. -/
def HsmSlot.pinFields (slot : HsmSlot) (userType : CkUserType) : PinFields :=
  if userType = ckuSo then
    ⟨slot.soPinInitialized, slot.soPinHash, slot.soPinRetryCount, slot.soPinLocked⟩
  else
    ⟨slot.userPinInitialized, slot.userPinHash, slot.userPinRetryCount, slot.userPinLocked⟩

/-- Write through the pointers to the counter and the lock. -/
def HsmSlot.storeAttempts (slot : HsmSlot) (userType : CkUserType) (retryCount : Nat)
    (locked : Bool) : HsmSlot :=
  if userType = ckuSo then { slot with soPinRetryCount := retryCount, soPinLocked := locked }
  else { slot with userPinRetryCount := retryCount, userPinLocked := locked }

/-- `hsm_set_pin`. -/
def hsmSetPin (sha256 : Sha256) (slot : HsmSlot) (userType : CkUserType) (pPin : Bytes) :
    CkRv × HsmSlot :=
  if pPin.length < hsmMinPinLen || pPin.length > hsmMaxPinLen then (.pinLenRange, slot)
  else if userType = ckuSo then (.ok, { slot with soPinHash := sha256 pPin })
  else (.ok, { slot with userPinHash := sha256 pPin })

/-- `hsm_verify_pin`. -/
def hsmVerifyPin (sha256 : Sha256) (slot : HsmSlot) (userType : CkUserType) (pPin : Bytes) :
    CkRv × HsmSlot :=
  let fields := slot.pinFields userType
  if !fields.initialized then (.userPinNotInitialized, slot)
  else if fields.locked then (.pinLocked, slot)
  else if sha256 pPin ≠ fields.storedHash then
    let retryCount := if fields.retryCount > 0 then fields.retryCount - 1 else fields.retryCount
    if retryCount = 0 then (.pinLocked, slot.storeAttempts userType retryCount true)
    else (.pinIncorrect, slot.storeAttempts userType retryCount fields.locked)
  else (.ok, slot.storeAttempts userType hsmPinRetryCount fields.locked)

/-! ## What verification leaves alone -/

section Frames

variable (slot : HsmSlot) (userType : CkUserType) (retryCount : Nat) (locked : Bool)

/-- Neither table changes. -/
theorem store_attempts_tables :
    (slot.storeAttempts userType retryCount locked).sessions = slot.sessions ∧
      (slot.storeAttempts userType retryCount locked).sessionCount = slot.sessionCount ∧
      (slot.storeAttempts userType retryCount locked).objects = slot.objects ∧
      (slot.storeAttempts userType retryCount locked).objectCount = slot.objectCount := by
  rw [HsmSlot.storeAttempts]
  split
  · exact ⟨rfl, rfl, rfl, rfl⟩
  · exact ⟨rfl, rfl, rfl, rfl⟩

/-- Neither the hashes nor the flags that say whether a PIN is set change. -/
theorem store_attempts_secrets :
    (slot.storeAttempts userType retryCount locked).soPinHash = slot.soPinHash ∧
      (slot.storeAttempts userType retryCount locked).userPinHash = slot.userPinHash ∧
      (slot.storeAttempts userType retryCount locked).soPinInitialized = slot.soPinInitialized ∧
      (slot.storeAttempts userType retryCount locked).userPinInitialized =
        slot.userPinInitialized := by
  rw [HsmSlot.storeAttempts]
  split
  · exact ⟨rfl, rfl, rfl, rfl⟩
  · exact ⟨rfl, rfl, rfl, rfl⟩

end Frames

/-- Verification changes nothing but the attempt counter and the lock of the
selected user type. -/
theorem verify_pin_stores (sha256 : Sha256) (slot : HsmSlot) (userType : CkUserType)
    (pPin : Bytes) :
    ∃ retryCount locked,
      (hsmVerifyPin sha256 slot userType pPin).2 =
        slot.storeAttempts userType retryCount locked := by
  have unchanged : slot = slot.storeAttempts userType (slot.pinFields userType).retryCount
      (slot.pinFields userType).locked := by
    by_cases so : userType = ckuSo <;> simp [HsmSlot.storeAttempts, HsmSlot.pinFields, so]
  rw [hsmVerifyPin]
  simp only
  split
  · exact ⟨_, _, unchanged⟩
  · split
    · exact ⟨_, _, unchanged⟩
    · repeat' split
      all_goals exact ⟨_, _, rfl⟩

/-- Verification leaves the sessions alone. -/
@[simp]
theorem verify_pin_sessions (sha256 : Sha256) (slot : HsmSlot) (userType : CkUserType)
    (pPin : Bytes) : (hsmVerifyPin sha256 slot userType pPin).2.sessions = slot.sessions := by
  obtain ⟨retryCount, locked, stored⟩ := verify_pin_stores sha256 slot userType pPin
  rw [stored]
  exact (store_attempts_tables slot userType retryCount locked).1

/-- Verification leaves the objects alone. -/
@[simp]
theorem verify_pin_objects (sha256 : Sha256) (slot : HsmSlot) (userType : CkUserType)
    (pPin : Bytes) : (hsmVerifyPin sha256 slot userType pPin).2.objects = slot.objects := by
  obtain ⟨retryCount, locked, stored⟩ := verify_pin_stores sha256 slot userType pPin
  rw [stored]
  exact (store_attempts_tables slot userType retryCount locked).2.2.1

/-- Verification changes neither the hashes nor the flags that say whether a PIN
is set. -/
theorem verify_pin_secrets (sha256 : Sha256) (slot : HsmSlot) (userType : CkUserType)
    (pPin : Bytes) :
    (hsmVerifyPin sha256 slot userType pPin).2.soPinHash = slot.soPinHash ∧
      (hsmVerifyPin sha256 slot userType pPin).2.userPinHash = slot.userPinHash ∧
      (hsmVerifyPin sha256 slot userType pPin).2.soPinInitialized = slot.soPinInitialized ∧
      (hsmVerifyPin sha256 slot userType pPin).2.userPinInitialized =
        slot.userPinInitialized := by
  obtain ⟨retryCount, locked, stored⟩ := verify_pin_stores sha256 slot userType pPin
  rw [stored]
  exact store_attempts_secrets slot userType retryCount locked

/-! ## The four outcomes of verification -/

section Outcomes

variable (sha256 : Sha256) (slot : HsmSlot) (userType : CkUserType) (pPin : Bytes)

theorem verify_pin_unset (unset : (slot.pinFields userType).initialized = false) :
    hsmVerifyPin sha256 slot userType pPin = (.userPinNotInitialized, slot) := by
  simp [hsmVerifyPin, unset]

theorem verify_pin_locked (initialized : (slot.pinFields userType).initialized = true)
    (locked : (slot.pinFields userType).locked = true) :
    hsmVerifyPin sha256 slot userType pPin = (.pinLocked, slot) := by
  simp [hsmVerifyPin, initialized, locked]

theorem verify_pin_right (initialized : (slot.pinFields userType).initialized = true)
    (unlocked : (slot.pinFields userType).locked = false)
    (same : sha256 pPin = (slot.pinFields userType).storedHash) :
    hsmVerifyPin sha256 slot userType pPin =
      (.ok, slot.storeAttempts userType hsmPinRetryCount false) := by
  simp [hsmVerifyPin, initialized, unlocked, same]

/-- The counter loses one, and the PIN is locked when nothing is left. -/
theorem verify_pin_wrong (initialized : (slot.pinFields userType).initialized = true)
    (unlocked : (slot.pinFields userType).locked = false)
    (different : sha256 pPin ≠ (slot.pinFields userType).storedHash) :
    hsmVerifyPin sha256 slot userType pPin =
      (if (slot.pinFields userType).retryCount - 1 = 0 then .pinLocked else .pinIncorrect,
        slot.storeAttempts userType ((slot.pinFields userType).retryCount - 1)
          (decide ((slot.pinFields userType).retryCount - 1 = 0))) := by
  have spent : (if (slot.pinFields userType).retryCount > 0 then
      (slot.pinFields userType).retryCount - 1 else (slot.pinFields userType).retryCount) =
      (slot.pinFields userType).retryCount - 1 := by
    split
    · rfl
    · omega
  simp only [hsmVerifyPin, initialized, unlocked, different, ne_eq, not_false_eq_true, if_true,
    Bool.not_true, Bool.false_eq_true, if_false, spent]
  by_cases exhausted : (slot.pinFields userType).retryCount - 1 = 0
  · simp [exhausted]
  · simp [exhausted]

/-- An accepted PIN hashes to the stored hash. -/
theorem verify_pin_accepts (accepted : (hsmVerifyPin sha256 slot userType pPin).1 = .ok) :
    (slot.pinFields userType).initialized = true ∧ (slot.pinFields userType).locked = false ∧
      sha256 pPin = (slot.pinFields userType).storedHash := by
  cases initialized : (slot.pinFields userType).initialized with
  | false =>
    rw [verify_pin_unset sha256 slot userType pPin initialized] at accepted
    cases accepted
  | true =>
    cases locked : (slot.pinFields userType).locked with
    | true =>
      rw [verify_pin_locked sha256 slot userType pPin initialized locked] at accepted
      cases accepted
    | false =>
      refine ⟨rfl, rfl, ?_⟩
      by_contra different
      rw [verify_pin_wrong sha256 slot userType pPin initialized locked different] at accepted
      simp only at accepted
      split at accepted
      · cases accepted
      · cases accepted

end Outcomes

end PstHsm
