import PstHsm.AttemptLimit
import PstHsm.PinAuthority

/-!
# PIN authentication as an abstract machine

For each user type the abstract machine holds a secret behind three attempts,
and nothing else: no retry counter, no lock, no flag. The four fields that the
slot keeps for a user type represent such a record when the counter is what is
left of the three attempts and the lock says that nothing is left. Every call
within a period from `C_Initialize` to `C_Finalize` makes one move of the
machine, and the fields represent the machine after it.
-/

namespace PstHsm

open AttemptLimit

/-! ## The machine -/

abbrev PinRecord := Record (Buffer 32) hsmPinRetryCount

/-- One record for the security officer and one for the user. -/
structure PinMachine where
  so : PinRecord
  user : PinRecord

/-- The record a user type selects. -/
def PinMachine.holder (machine : PinMachine) (userType : CkUserType) : PinRecord :=
  if userType = ckuSo then machine.so else machine.user

/-- Replace the record a user type selects. -/
def PinMachine.withHolder (machine : PinMachine) (userType : CkUserType) (record : PinRecord) :
    PinMachine :=
  if userType = ckuSo then { machine with so := record } else { machine with user := record }

/-- What a call asks of the machine. -/
inductive PinAction where
  | idle
  | guess (userType : CkUserType) (digest : Buffer 32)
  | change (userType : CkUserType) (old new : Buffer 32)
  | resetToken (digest : Buffer 32)
  | setUser (digest : Buffer 32)

/-- One move, with the verdict on a guess. A change is a guess, and sets the new
secret when the guess is accepted. -/
def PinMachine.act (machine : PinMachine) : PinAction → Option Verdict × PinMachine
  | .idle => (none, machine)
  | .guess userType digest =>
    let (verdict, record) := (machine.holder userType).guess digest
    (some verdict, machine.withHolder userType record)
  | .change userType old new =>
    let (verdict, record) := (machine.holder userType).guess old
    (some verdict, machine.withHolder userType
      (if verdict = .accepted then record.set new else record))
  | .resetToken digest => (none, ⟨machine.so.set digest, .vacant⟩)
  | .setUser digest => (none, { machine with user := machine.user.set digest })

@[simp]
theorem act_guess (machine : PinMachine) (userType : CkUserType) (digest : Buffer 32) :
    machine.act (.guess userType digest) =
      (some ((machine.holder userType).guess digest).1,
        machine.withHolder userType ((machine.holder userType).guess digest).2) := rfl

@[simp]
theorem act_change (machine : PinMachine) (userType : CkUserType) (old new : Buffer 32) :
    machine.act (.change userType old new) =
      (some ((machine.holder userType).guess old).1,
        machine.withHolder userType
          (if ((machine.holder userType).guess old).1 = .accepted then
            ((machine.holder userType).guess old).2.set new
          else ((machine.holder userType).guess old).2)) := rfl

/-- The return value for a verdict. -/
def verdictRv : Verdict → CkRv
  | .unset => .userPinNotInitialized
  | .locked => .pinLocked
  | .accepted => .ok
  | .wrong => .pinIncorrect
  | .exhausted => .pinLocked

/-- What a call asks: `C_Login` and `C_SetPIN` once they reach the verification,
`C_InitToken` and `C_InitPIN` once their checks pass, and nothing otherwise. -/
def pinAction (sha256 : Sha256) (system : System) : Event → PinAction
  | .call (.login hSession userType (some pin)) _ =>
    if userType ≠ ckuSo ∧ userType ≠ ckuUser then .idle
    else
      match hsmGetSession system hSession with
      | .error _ => .idle
      | .ok found =>
        if found.session.userLoggedIn || found.session.soLoggedIn then .idle
        else if userType = ckuSo ∧ !found.session.isReadWrite then .idle
        else .guess userType (sha256 pin)
  | .call (.setPIN hSession (some oldPin) (some newPin)) _ =>
    if newPin.length < hsmMinPinLen || newPin.length > hsmMaxPinLen then .idle
    else
      match hsmGetSession system hSession with
      | .error _ => .idle
      | .ok found =>
        if !found.session.userLoggedIn && !found.session.soLoggedIn then .idle
        else .change found.session.pinOwner (sha256 oldPin) (sha256 newPin)
  | .call (.initToken slotID (some pin) (some _)) _ =>
    if pin.length < hsmMinPinLen || pin.length > hsmMaxPinLen then .idle
    else if system.gHsmContext.isNone then .idle
    else if slotID ≥ slotCount then .idle
    else .resetToken (sha256 pin)
  | .call (.initPIN hSession (some pin)) _ =>
    if pin.length < hsmMinPinLen || pin.length > hsmMaxPinLen then .idle
    else
      match hsmGetSession system hSession with
      | .error _ => .idle
      | .ok found => if !found.session.soLoggedIn then .idle else .setUser (sha256 pin)
  | _ => .idle

/-! ## Representation -/

/-- The four fields of a user type represent a record. -/
structure PinFields.Represents (fields : PinFields) (record : PinRecord) : Prop where
  secret : record.secret = if fields.initialized then some fields.storedHash else none
  attempts : fields.retryCount + record.wrong = hsmPinRetryCount
  exhausted : fields.locked = true ↔ fields.retryCount = 0

/-- The slot represents the machine. -/
def PinsRepresent (slot : HsmSlot) (machine : PinMachine) : Prop :=
  ∀ userType, (slot.pinFields userType).Represents (machine.holder userType)

/-- The machine that a slot just initialized represents: whatever PINs the token
file gave, and no wrong guesses. -/
def PinMachine.loaded (slot : HsmSlot) : PinMachine :=
  ⟨⟨if slot.soPinInitialized then some slot.soPinHash else none, 0, Nat.zero_le _⟩,
    ⟨if slot.userPinInitialized then some slot.userPinHash else none, 0, Nat.zero_le _⟩⟩

theorem store_attempts_fields (slot : HsmSlot) (userType tested : CkUserType) (retryCount : Nat)
    (locked : Bool) :
    (slot.storeAttempts userType retryCount locked).pinFields tested =
      if (userType = ckuSo ↔ tested = ckuSo) then
        { slot.pinFields tested with retryCount := retryCount, locked := locked }
      else slot.pinFields tested := by
  by_cases so : userType = ckuSo
  · by_cases testedSo : tested = ckuSo
    · simp [HsmSlot.storeAttempts, HsmSlot.pinFields, so, testedSo]
    · simp [HsmSlot.storeAttempts, HsmSlot.pinFields, so, testedSo]
  · by_cases testedSo : tested = ckuSo
    · simp [HsmSlot.storeAttempts, HsmSlot.pinFields, so, testedSo]
    · simp [HsmSlot.storeAttempts, HsmSlot.pinFields, so, testedSo]

theorem with_holder_holder (machine : PinMachine) (userType tested : CkUserType)
    (record : PinRecord) :
    (machine.withHolder userType record).holder tested =
      if (userType = ckuSo ↔ tested = ckuSo) then record else machine.holder tested := by
  by_cases so : userType = ckuSo
  · by_cases testedSo : tested = ckuSo
    · simp [PinMachine.withHolder, PinMachine.holder, so, testedSo]
    · simp [PinMachine.withHolder, PinMachine.holder, so, testedSo]
  · by_cases testedSo : tested = ckuSo
    · simp [PinMachine.withHolder, PinMachine.holder, so, testedSo]
    · simp [PinMachine.withHolder, PinMachine.holder, so, testedSo]

/-- Two user types that select the same fields select the same record. -/
theorem pin_fields_congr (slot : HsmSlot) (machine : PinMachine) (left right : CkUserType)
    (same : left = ckuSo ↔ right = ckuSo) :
    slot.pinFields left = slot.pinFields right ∧ machine.holder left = machine.holder right := by
  unfold HsmSlot.pinFields PinMachine.holder
  simp [same]

/-- Storing attempts for one user type represents the machine with that type's
record replaced, when the new counter and lock represent the new record. -/
theorem store_attempts_represents (slot : HsmSlot) (machine : PinMachine)
    (userType : CkUserType) (retryCount : Nat) (locked : Bool) (record : PinRecord)
    (represented : PinsRepresent slot machine)
    (secret : record.secret = (machine.holder userType).secret)
    (attempts : retryCount + record.wrong = hsmPinRetryCount)
    (exhausted : locked = true ↔ retryCount = 0) :
    PinsRepresent (slot.storeAttempts userType retryCount locked)
      (machine.withHolder userType record) := by
  intro tested
  rw [store_attempts_fields, with_holder_holder]
  by_cases same : userType = ckuSo ↔ tested = ckuSo
  · rw [if_pos same, if_pos same]
    obtain ⟨-, holders⟩ := pin_fields_congr slot machine userType tested same
    constructor
    · rw [secret, holders]
      exact (represented tested).secret
    · exact attempts
    · exact exhausted
  · rw [if_neg same, if_neg same]
    exact represented tested

/-- Verification is a guess: it returns the verdict, the slot represents the
machine after the guess, and a guess that is not evaluated changes nothing. -/
theorem verify_pin_represents (sha256 : Sha256) (slot : HsmSlot) (machine : PinMachine)
    (userType : CkUserType) (pPin : Bytes) (represented : PinsRepresent slot machine) :
    (hsmVerifyPin sha256 slot userType pPin).1 =
        verdictRv ((machine.holder userType).guess (sha256 pPin)).1 ∧
      PinsRepresent (hsmVerifyPin sha256 slot userType pPin).2
        (machine.withHolder userType ((machine.holder userType).guess (sha256 pPin)).2) ∧
      (((machine.holder userType).guess (sha256 pPin)).1 = .unset ∨
          ((machine.holder userType).guess (sha256 pPin)).1 = .locked →
        (hsmVerifyPin sha256 slot userType pPin).2 = slot) := by
  obtain ⟨secret, attempts, exhausted⟩ := represented userType
  have unmoved : PinsRepresent slot (machine.withHolder userType (machine.holder userType)) := by
    intro tested
    rw [with_holder_holder]
    by_cases same : userType = ckuSo ↔ tested = ckuSo
    · rw [if_pos same, (pin_fields_congr slot machine userType tested same).2]
      exact represented tested
    · rw [if_neg same]
      exact represented tested
  cases initialized : (slot.pinFields userType).initialized with
  | false =>
    have unset : (machine.holder userType).secret = none := by simp [secret, initialized]
    rw [verify_pin_unset sha256 slot userType pPin initialized, guess_unset _ _ unset]
    exact ⟨rfl, unmoved, fun _ => rfl⟩
  | true =>
    have stored : (machine.holder userType).secret =
        some (slot.pinFields userType).storedHash := by simp [secret, initialized]
    cases locked : (slot.pinFields userType).locked with
    | true =>
      have none_left := exhausted.mp locked
      have full : (machine.holder userType).wrong = hsmPinRetryCount := by omega
      rw [verify_pin_locked sha256 slot userType pPin initialized locked,
        guess_locked _ _ _ stored full]
      exact ⟨rfl, unmoved, fun _ => rfl⟩
    | false =>
      have some_left : (slot.pinFields userType).retryCount ≠ 0 := by
        intro none_left
        rw [exhausted.mpr none_left] at locked
        cases locked
      have room : (machine.holder userType).wrong ≠ hsmPinRetryCount := by omega
      by_cases same : sha256 pPin = (slot.pinFields userType).storedHash
      · rw [verify_pin_right sha256 slot userType pPin initialized locked same, same,
          guess_right _ _ stored room]
        refine ⟨rfl, ?_, ?_⟩
        · apply store_attempts_represents slot machine userType hsmPinRetryCount false _ represented
          · rfl
          · rfl
          · decide
        · rintro (verdict | verdict)
          · cases verdict
          · cases verdict
      · obtain ⟨verdict, counted⟩ := guess_wrong _ _ _ stored room same
        have kept := guess_secret (machine.holder userType) (sha256 pPin)
        rw [verify_pin_wrong sha256 slot userType pPin initialized locked same, verdict]
        refine ⟨?_, ?_, ?_⟩
        · by_cases last : (slot.pinFields userType).retryCount - 1 = 0
          · have reached : ¬ (machine.holder userType).wrong + 1 < hsmPinRetryCount := by omega
            simp [last, reached, verdictRv]
          · have below : (machine.holder userType).wrong + 1 < hsmPinRetryCount := by omega
            simp [last, below, verdictRv]
        · apply store_attempts_represents slot machine userType _ _ _ represented
          · exact kept
          · rw [counted]
            omega
          · exact decide_eq_true_iff
        · split
          · rintro (impossible | impossible)
            · cases impossible
            · cases impossible
          · rintro (impossible | impossible)
            · cases impossible
            · cases impossible

/-- It is enough to look at the officer and the user. -/
theorem pins_represent_iff (slot : HsmSlot) (machine : PinMachine) :
    PinsRepresent slot machine ↔
      (slot.pinFields ckuSo).Represents machine.so ∧
        (slot.pinFields ckuUser).Represents machine.user := by
  constructor
  · intro represented
    exact ⟨represented ckuSo, represented ckuUser⟩
  · rintro ⟨so, user⟩ userType
    by_cases officer : userType = ckuSo
    · obtain ⟨fields, holders⟩ :=
        pin_fields_congr slot machine userType ckuSo (by simp [officer])
      rw [fields, holders]
      exact so
    · obtain ⟨fields, holders⟩ :=
        pin_fields_congr slot machine userType ckuUser
          ⟨fun so => absurd so officer, fun impossible => absurd impossible (by decide)⟩
      rw [fields, holders]
      exact user

/-- A slot with the same PIN fields represents the same machine. -/
theorem same_pins_represent (before after : HsmSlot) (machine : PinMachine)
    (same : SamePins before after) (represented : PinsRepresent before machine) :
    PinsRepresent after machine := by
  intro userType
  rw [same userType]
  exact represented userType

/-- With all attempts left nothing is locked. -/
theorem all_attempts_unlocked : false = true ↔ hsmPinRetryCount = 0 := by decide

/-- The token initialized again represents a new officer's secret and no user. -/
theorem reinitialized_represents (slot : HsmSlot) (machine : PinMachine)
    (hash tokenLabel : Buffer 32) :
    PinsRepresent (slot.reinitialized hash tokenLabel) ⟨machine.so.set hash, .vacant⟩ := by
  apply (pins_represent_iff _ _).mpr
  constructor
  · exact ⟨rfl, rfl, all_attempts_unlocked⟩
  · exact ⟨rfl, rfl, all_attempts_unlocked⟩

/-- The user's PIN set by the officer represents a new user's secret. -/
theorem user_pin_set_represents (slot : HsmSlot) (machine : PinMachine) (hash : Buffer 32)
    (represented : PinsRepresent slot machine) :
    PinsRepresent (slot.userPinSet hash) { machine with user := machine.user.set hash } := by
  apply (pins_represent_iff _ _).mpr
  constructor
  · exact represented ckuSo
  · exact ⟨rfl, rfl, all_attempts_unlocked⟩

/-- A PIN replaced on an initialized, unlocked type represents the new secret. -/
theorem pin_replaced_represents (slot : HsmSlot) (machine : PinMachine) (userType : CkUserType)
    (hash : Buffer 32) (represented : PinsRepresent slot machine)
    (initialized : (slot.pinFields userType).initialized = true)
    (unlocked : (slot.pinFields userType).locked = false) :
    PinsRepresent (slot.pinReplaced userType hash)
      (machine.withHolder userType ((machine.holder userType).set hash)) := by
  obtain ⟨so, user⟩ := (pins_represent_iff slot machine).mp represented
  by_cases officer : userType = ckuSo
  · subst officer
    have set : slot.soPinInitialized = true := initialized
    have free : slot.soPinLocked = false := unlocked
    apply (pins_represent_iff _ _).mpr
    constructor
    · simp only [HsmSlot.pinReplaced, HsmSlot.pinFields, PinMachine.withHolder, if_true, set, free]
      exact ⟨rfl, rfl, all_attempts_unlocked⟩
    · exact user
  · have set : slot.userPinInitialized = true := by
      simpa [HsmSlot.pinFields, officer] using initialized
    have free : slot.userPinLocked = false := by
      simpa [HsmSlot.pinFields, officer] using unlocked
    simp only [HsmSlot.pinReplaced, PinMachine.withHolder, if_neg officer]
    apply (pins_represent_iff _ _).mpr
    constructor
    · exact so
    · simp only [HsmSlot.pinFields, ckuUser, ckuSo, Nat.one_ne_zero, if_false, set, free]
      exact ⟨rfl, rfl, all_attempts_unlocked⟩

/-- Only acceptance returns `CKR_OK`. -/
theorem verdict_accepted (verdict : Verdict) (succeeded : verdictRv verdict = .ok) :
    verdict = .accepted := by
  cases verdict with
  | accepted => rfl
  | _ => cases succeeded

/-- The PIN that `C_SetPIN` replaces after an accepted guess represents the
accepted record with the new secret. -/
theorem verified_pin_replaced_represents (sha256 : Sha256) (slot : HsmSlot)
    (machine : PinMachine) (userType : CkUserType) (oldPin : Bytes) (hash : Buffer 32)
    (represented : PinsRepresent slot machine)
    (accepted : (hsmVerifyPin sha256 slot userType oldPin).1 = .ok) :
    PinsRepresent ((hsmVerifyPin sha256 slot userType oldPin).2.pinReplaced userType hash)
      (machine.withHolder userType
        (((machine.holder userType).guess (sha256 oldPin)).2.set hash)) := by
  obtain ⟨initialized, unlocked, same⟩ := verify_pin_accepts sha256 slot userType oldPin accepted
  obtain ⟨-, after, -⟩ := verify_pin_represents sha256 slot machine userType oldPin represented
  have fields : ((hsmVerifyPin sha256 slot userType oldPin).2.pinFields userType).initialized =
      true ∧ ((hsmVerifyPin sha256 slot userType oldPin).2.pinFields userType).locked = false := by
    rw [verify_pin_right sha256 slot userType oldPin initialized unlocked same,
      store_attempts_fields, if_pos Iff.rfl]
    exact ⟨initialized, rfl⟩
  have replaced := pin_replaced_represents _ _ userType hash after fields.1 fields.2
  rw [with_holder_holder, if_pos Iff.rfl] at replaced
  intro tested
  have shown := replaced tested
  rw [with_holder_holder] at shown ⊢
  by_cases selected : userType = ckuSo ↔ tested = ckuSo
  · rw [if_pos selected] at shown ⊢
    exact shown
  · rw [if_neg selected, with_holder_holder, if_neg selected] at shown
    rw [if_neg selected]
    exact shown

/-- A slot just initialized represents the machine loaded from it. -/
theorem init_slot_represents (fopen : Bool) (storage : Storage) :
    PinsRepresent (hsmInitSlot fopen storage) (.loaded (hsmInitSlot fopen storage)) := by
  have fresh : (hsmInitSlot fopen storage).soPinRetryCount = hsmPinRetryCount ∧
      (hsmInitSlot fopen storage).userPinRetryCount = hsmPinRetryCount ∧
      (hsmInitSlot fopen storage).soPinLocked = false ∧
      (hsmInitSlot fopen storage).userPinLocked = false := by
    rw [hsmInitSlot, hsmStorageLoadTokenInfo]
    split
    · exact ⟨rfl, rfl, rfl, rfl⟩
    · exact ⟨rfl, rfl, rfl, rfl⟩
  obtain ⟨soLeft, userLeft, soFree, userFree⟩ := fresh
  apply (pins_represent_iff _ _).mpr
  constructor
  · refine ⟨rfl, ?_, ?_⟩
    · exact soLeft
    · simp [HsmSlot.pinFields, soLeft, soFree, hsmPinRetryCount]
  · refine ⟨rfl, ?_, ?_⟩
    · exact userLeft
    · simp [HsmSlot.pinFields, ckuUser, ckuSo, userLeft, userFree, hsmPinRetryCount]

/-! ## One step -/

/-- The step and the move agree: the library stays initialized, the slot
represents the machine after its move, the return value is the verdict, and a
guess without evaluation leaves the whole process as it was. -/
def StepAgrees (sha256 : Sha256) (system : System) (machine : PinMachine) (event : Event) :
    Prop :=
  (∃ after, (step sha256 system event).2.gHsmContext = some after ∧
      PinsRepresent after.slot (machine.act (pinAction sha256 system event)).2) ∧
    ∀ verdict, (machine.act (pinAction sha256 system event)).1 = some verdict →
      (step sha256 system event).1.rv = verdictRv verdict ∧
        (verdict = .unset ∨ verdict = .locked → (step sha256 system event).2 = system)

/-- A call that asks nothing and leaves the process as it was agrees. -/
theorem idle_unchanged_agrees (sha256 : Sha256) (system : System) (machine : PinMachine)
    (event : Event) (before : HsmContext) (present : system.gHsmContext = some before)
    (represented : PinsRepresent before.slot machine)
    (idle : pinAction sha256 system event = .idle)
    (same : (step sha256 system event).2 = system) :
    StepAgrees sha256 system machine event := by
  constructor
  · rw [same, idle]
    exact ⟨before, present, represented⟩
  · intro verdict asked
    rw [idle] at asked
    cases asked

theorem login_agrees (sha256 : Sha256) (env : Env) (system : System) (machine : PinMachine)
    (hSession : CkSessionHandle) (userType : CkUserType) (pPin : Option Bytes)
    (before : HsmContext) (present : system.gHsmContext = some before)
    (represented : PinsRepresent before.slot machine) :
    StepAgrees sha256 system machine (.call (.login hSession userType pPin) env) := by
  have unchanged := idle_unchanged_agrees sha256 system machine
    (.call (.login hSession userType pPin) env) before present represented
  cases pPin with
  | none => exact unchanged rfl rfl
  | some pin =>
    by_cases unknown : userType ≠ ckuSo ∧ userType ≠ ckuUser
    · apply unchanged
      · simp only [pinAction, if_pos unknown]
      · simp only [step, callStep, cLogin, if_pos unknown]
    · cases located : hsmGetSession system hSession with
      | error rv =>
        apply unchanged
        · simp only [pinAction, if_neg unknown, located]
        · simp only [step, callStep, cLogin, if_neg unknown, located]
      | ok found =>
        by_cases someone : (found.session.userLoggedIn || found.session.soLoggedIn) = true
        · apply unchanged
          · simp only [pinAction, if_neg unknown, located, if_pos someone]
          · simp only [step, callStep, cLogin, if_neg unknown, located, if_pos someone]
        · by_cases readOnly : userType = ckuSo ∧ (!found.session.isReadWrite) = true
          · apply unchanged
            · simp only [pinAction, if_neg unknown, located, if_neg someone, if_pos readOnly]
            · simp only [step, callStep, cLogin, if_neg unknown, located, if_neg someone,
                if_pos readOnly]
          · have action : pinAction sha256 system
                (.call (.login hSession userType (some pin)) env) =
                .guess userType (sha256 pin) := by
              simp only [pinAction, if_neg unknown, located, if_neg someone, if_neg readOnly]
            obtain rfl : before = found.context := Option.some.inj
              (present.symm.trans (get_session_sound system hSession found located).1)
            obtain ⟨rv, after, unevaluated⟩ :=
              verify_pin_represents sha256 found.slot machine userType pin represented
            by_cases accepted : (hsmVerifyPin sha256 found.slot userType pin).1 = .ok
            · have done : step sha256 system (.call (.login hSession userType (some pin)) env) =
                  (⟨.ok, .nothing⟩, system.withSlot found.context
                    { (hsmVerifyPin sha256 found.slot userType pin).2 with
                      sessions := Tables.put
                        (hsmVerifyPin sha256 found.slot userType pin).2.sessions found.index
                        (some (found.session.loggedIn userType env.now)) }) := by
                simp only [step, callStep, cLogin, if_neg unknown, located, if_neg someone,
                  if_neg readOnly, accepted, ne_eq, not_true_eq_false, if_false]
              rw [StepAgrees]
              rw [done, action, act_guess]
              refine ⟨⟨_, rfl, ?_⟩, ?_⟩
              · exact same_pins_represent _ _ _ (fun _ => rfl) after
              · intro verdict asked
                obtain rfl := Option.some.inj asked
                rw [← rv, accepted]
                refine ⟨rfl, ?_⟩
                rintro (unset | locked)
                · rw [unset, accepted] at rv
                  cases rv
                · rw [locked, accepted] at rv
                  cases rv
            · have done : step sha256 system (.call (.login hSession userType (some pin)) env) =
                  (⟨(hsmVerifyPin sha256 found.slot userType pin).1, .nothing⟩,
                    system.withSlot found.context
                      (hsmVerifyPin sha256 found.slot userType pin).2) := by
                simp only [step, callStep, cLogin, if_neg unknown, located, if_neg someone,
                  if_neg readOnly, accepted, ne_eq, not_false_eq_true, if_true]
              rw [StepAgrees]
              rw [done, action, act_guess]
              refine ⟨⟨_, rfl, after⟩, ?_⟩
              intro verdict asked
              obtain rfl := Option.some.inj asked
              refine ⟨rv, ?_⟩
              intro skipped
              rw [unevaluated skipped]
              exact with_slot_same system found.context present

theorem set_pin_agrees (sha256 : Sha256) (env : Env) (system : System) (machine : PinMachine)
    (hSession : CkSessionHandle) (pOldPin pNewPin : Option Bytes)
    (before : HsmContext) (present : system.gHsmContext = some before)
    (represented : PinsRepresent before.slot machine) :
    StepAgrees sha256 system machine (.call (.setPIN hSession pOldPin pNewPin) env) := by
  have unchanged := idle_unchanged_agrees sha256 system machine
    (.call (.setPIN hSession pOldPin pNewPin) env) before present represented
  cases pOldPin with
  | none => exact unchanged rfl rfl
  | some oldPin =>
    cases pNewPin with
    | none => exact unchanged rfl rfl
    | some newPin =>
      by_cases refused : (newPin.length < hsmMinPinLen || newPin.length > hsmMaxPinLen) = true
      · apply unchanged
        · simp only [pinAction, if_pos refused]
        · simp only [step, callStep, cSetPIN, if_pos refused]
      · have admissible := refused
        simp only [Bool.or_eq_true, decide_eq_true_eq, not_or, not_lt] at admissible
        obtain ⟨longEnough, shortEnough⟩ := admissible
        cases located : hsmGetSession system hSession with
        | error rv =>
          apply unchanged
          · simp only [pinAction, if_neg refused, located]
          · simp only [step, callStep, cSetPIN, if_neg refused, located]
        | ok found =>
          by_cases nobody : (!found.session.userLoggedIn && !found.session.soLoggedIn) = true
          · apply unchanged
            · simp only [pinAction, if_neg refused, located, if_pos nobody]
            · simp only [step, callStep, cSetPIN, if_neg refused, located, if_pos nobody]
          · have action : pinAction sha256 system
                (.call (.setPIN hSession (some oldPin) (some newPin)) env) =
                .change found.session.pinOwner (sha256 oldPin) (sha256 newPin) := by
              simp only [pinAction, if_neg refused, located, if_neg nobody]
            obtain rfl : before = found.context := Option.some.inj
              (present.symm.trans (get_session_sound system hSession found located).1)
            obtain ⟨rv, after, unevaluated⟩ :=
              verify_pin_represents sha256 found.slot machine found.session.pinOwner oldPin
                represented
            by_cases accepted :
                (hsmVerifyPin sha256 found.slot found.session.pinOwner oldPin).1 = .ok
            · have verdict : ((machine.holder found.session.pinOwner).guess (sha256 oldPin)).1 =
                  .accepted := by
                rw [accepted] at rv
                exact verdict_accepted _ rv.symm
              have done : step sha256 system
                  (.call (.setPIN hSession (some oldPin) (some newPin)) env) =
                  (⟨.ok, .nothing⟩, system.withSavedSlot env found.context
                    ((hsmVerifyPin sha256 found.slot found.session.pinOwner oldPin).2.pinReplaced
                      found.session.pinOwner (sha256 newPin))) := by
                simp only [step, callStep, set_pin_replaces sha256 env system hSession oldPin newPin
                  found located longEnough shortEnough nobody accepted]
              rw [StepAgrees]
              rw [done, action, act_change, verdict, if_pos rfl]
              refine ⟨⟨_, rfl, ?_⟩, ?_⟩
              · exact verified_pin_replaced_represents sha256 found.slot machine
                  found.session.pinOwner oldPin (sha256 newPin) represented accepted
              · intro told asked
                obtain rfl := Option.some.inj asked
                refine ⟨rfl, ?_⟩
                rintro (impossible | impossible)
                · cases impossible
                · cases impossible
            · have verdict : ((machine.holder found.session.pinOwner).guess (sha256 oldPin)).1 ≠
                  .accepted := by
                intro told
                rw [told] at rv
                exact accepted rv
              have done : step sha256 system
                  (.call (.setPIN hSession (some oldPin) (some newPin)) env) =
                  (⟨(hsmVerifyPin sha256 found.slot found.session.pinOwner oldPin).1, .nothing⟩,
                    system.withSlot found.context
                      (hsmVerifyPin sha256 found.slot found.session.pinOwner oldPin).2) := by
                simp only [step, callStep, cSetPIN, if_neg refused, located, if_neg nobody,
                  accepted, ne_eq, not_false_eq_true, if_true]
              rw [StepAgrees]
              rw [done, action, act_change, if_neg verdict]
              refine ⟨⟨_, rfl, after⟩, ?_⟩
              intro told asked
              obtain rfl := Option.some.inj asked
              refine ⟨rv, ?_⟩
              intro skipped
              rw [unevaluated skipped]
              exact with_slot_same system found.context present

/-- `C_InitToken` and `C_InitPIN` give no verdict; it is enough that the slot
represents the machine after the move. -/
theorem reset_agrees (sha256 : Sha256) (system : System) (machine : PinMachine) (event : Event)
    (after : HsmContext) (afterwards : (step sha256 system event).2.gHsmContext = some after)
    (silent : (machine.act (pinAction sha256 system event)).1 = none)
    (represented : PinsRepresent after.slot (machine.act (pinAction sha256 system event)).2) :
    StepAgrees sha256 system machine event := by
  constructor
  · exact ⟨after, afterwards, represented⟩
  · intro verdict asked
    rw [silent] at asked
    cases asked

theorem init_token_agrees (sha256 : Sha256) (env : Env) (system : System) (machine : PinMachine)
    (slotID : CkSlotId) (pPin pLabel : Option Bytes)
    (before : HsmContext) (present : system.gHsmContext = some before)
    (represented : PinsRepresent before.slot machine) :
    StepAgrees sha256 system machine (.call (.initToken slotID pPin pLabel) env) := by
  have unchanged := idle_unchanged_agrees sha256 system machine
    (.call (.initToken slotID pPin pLabel) env) before present represented
  have someContext : ¬ system.gHsmContext.isNone = true := by simp [present]
  cases pPin with
  | none => exact unchanged rfl rfl
  | some pin =>
    cases pLabel with
    | none => exact unchanged rfl rfl
    | some label =>
      by_cases refused : (pin.length < hsmMinPinLen || pin.length > hsmMaxPinLen) = true
      · apply unchanged
        · simp only [pinAction, if_pos refused]
        · simp only [step, callStep, cInitToken, if_pos refused]
      · have admissible := refused
        simp only [Bool.or_eq_true, decide_eq_true_eq, not_or, not_lt] at admissible
        obtain ⟨longEnough, shortEnough⟩ := admissible
        by_cases absent : slotID ≥ slotCount
        · apply unchanged
          · simp only [pinAction, if_neg refused, if_neg someContext, if_pos absent]
          · simp only [step, callStep, cInitToken, if_neg refused, present, if_pos absent]
        · have action : pinAction sha256 system
              (.call (.initToken slotID (some pin) (some label)) env) =
              .resetToken (sha256 pin) := by
            simp only [pinAction, if_neg refused, if_neg someContext, if_neg absent]
          have resets := init_token_resets sha256 env system slotID pin label before present
            (Nat.lt_of_not_le absent) longEnough shortEnough
          apply reset_agrees sha256 system machine _
            { before with
              slot := before.slot.reinitialized (sha256 pin) (initTokenLabel pin.length label) }
          · simp only [step, callStep, resets]
            rfl
          · rw [action]
            rfl
          · rw [action]
            exact reinitialized_represents before.slot machine (sha256 pin) _

theorem init_pin_agrees (sha256 : Sha256) (env : Env) (system : System) (machine : PinMachine)
    (hSession : CkSessionHandle) (pPin : Option Bytes)
    (before : HsmContext) (present : system.gHsmContext = some before)
    (represented : PinsRepresent before.slot machine) :
    StepAgrees sha256 system machine (.call (.initPIN hSession pPin) env) := by
  have unchanged := idle_unchanged_agrees sha256 system machine
    (.call (.initPIN hSession pPin) env) before present represented
  cases pPin with
  | none => exact unchanged rfl rfl
  | some pin =>
    by_cases refused : (pin.length < hsmMinPinLen || pin.length > hsmMaxPinLen) = true
    · apply unchanged
      · simp only [pinAction, if_pos refused]
      · simp only [step, callStep, cInitPIN, if_pos refused]
    · have admissible := refused
      simp only [Bool.or_eq_true, decide_eq_true_eq, not_or, not_lt] at admissible
      obtain ⟨longEnough, shortEnough⟩ := admissible
      cases located : hsmGetSession system hSession with
      | error rv =>
        apply unchanged
        · simp only [pinAction, if_neg refused, located]
        · simp only [step, callStep, cInitPIN, if_neg refused, located]
      | ok found =>
        by_cases nobody : (!found.session.soLoggedIn) = true
        · apply unchanged
          · simp only [pinAction, if_neg refused, located, if_pos nobody]
          · simp only [step, callStep, cInitPIN, if_neg refused, located, if_pos nobody]
        · have action : pinAction sha256 system (.call (.initPIN hSession (some pin)) env) =
              .setUser (sha256 pin) := by
            simp only [pinAction, if_neg refused, located, if_neg nobody]
          obtain rfl : before = found.context := Option.some.inj
            (present.symm.trans (get_session_sound system hSession found located).1)
          apply reset_agrees sha256 system machine _
            { found.context with slot := found.slot.userPinSet (sha256 pin) }
          · simp only [step, callStep, cInitPIN, if_neg refused, located, if_neg nobody,
              set_pin_admissible sha256 _ _ pin longEnough shortEnough]
            rfl
          · rw [action]
            rfl
          · rw [action]
            exact user_pin_set_represents found.slot machine (sha256 pin) represented

/-- A call without a PIN keeps the PIN fields, so it agrees. -/
theorem silent_call_agrees (sha256 : Sha256) (env : Env) (system : System) (machine : PinMachine)
    (call : Call) (before : HsmContext) (present : system.gHsmContext = some before)
    (represented : PinsRepresent before.slot machine) (continues : call ≠ .finalizeLibrary false)
    (silent : call.pins = []) (idle : pinAction sha256 system (.call call env) = .idle) :
    StepAgrees sha256 system machine (.call call env) := by
  obtain ⟨after, afterwards⟩ := context_stays sha256 env system call before present continues
  have change := pin_step sha256 env system call before after present afterwards
  have same : SamePins before.slot after.slot := by
    generalize after.slot = slot at change
    cases change with
    | kept _ _ same => exact same
    | _ => cases silent
  apply reset_agrees sha256 system machine (.call call env) after afterwards
  · rw [idle]
    rfl
  · rw [idle]
    exact same_pins_represent before.slot after.slot machine same represented

/-- The event ends the period in which the library is initialized. -/
def Event.endsPeriod : Event → Bool
  | .call (.finalizeLibrary pReserved) _ => !pReserved
  | .newProcess => true
  | _ => false

/-- Every event within the period agrees with the machine's move. -/
theorem event_agrees (sha256 : Sha256) (system : System) (machine : PinMachine) (event : Event)
    (before : HsmContext) (present : system.gHsmContext = some before)
    (represented : PinsRepresent before.slot machine) (continues : event.endsPeriod = false) :
    StepAgrees sha256 system machine event := by
  cases event with
  | newProcess => cases continues
  | call call env =>
    cases call with
    | login hSession userType pPin =>
      exact login_agrees sha256 env system machine hSession userType pPin before present represented
    | setPIN hSession pOldPin pNewPin =>
      exact set_pin_agrees sha256 env system machine hSession pOldPin pNewPin before present
        represented
    | initToken slotID pPin pLabel =>
      exact init_token_agrees sha256 env system machine slotID pPin pLabel before present
        represented
    | initPIN hSession pPin =>
      exact init_pin_agrees sha256 env system machine hSession pPin before present represented
    | finalizeLibrary pReserved =>
      have reserved : pReserved = true := by simpa [Event.endsPeriod] using continues
      subst reserved
      exact idle_unchanged_agrees sha256 system machine _ before present represented rfl rfl
    | _ =>
      exact silent_call_agrees sha256 env system machine _ before present represented nofun rfl rfl

/-! ## Whole periods -/

/-- The library and the machine side by side. -/
def pairedStep (sha256 : Sha256) (pair : System × PinMachine) (event : Event) :
    Response × System × PinMachine :=
  ((step sha256 pair.1 event).1, (step sha256 pair.1 event).2,
    (pair.2.act (pinAction sha256 pair.1 event)).2)

/-- The library is initialized and its slot represents the machine. -/
def PairRepresents (pair : System × PinMachine) : Prop :=
  ∃ context, pair.1.gHsmContext = some context ∧ PinsRepresent context.slot pair.2

/-- Within one period, from the machine that `C_Initialize` loads, the slot
represents the machine before and after every call, and every verification
returns the machine's verdict. -/
theorem pins_refine_machine (sha256 : Sha256) (env : Env) (system opened : System)
    (context : HsmContext) (events : List Event)
    (succeeded : cInitialize env system = (.ok, opened))
    (present : opened.gHsmContext = some context)
    (within : ∀ event ∈ events, event.endsPeriod = false) :
    Runs.EveryStep (pairedStep sha256)
        (fun pair event => PairRepresents pair ∧ StepAgrees sha256 pair.1 pair.2 event)
        (opened, .loaded context.slot) events ∧
      PairRepresents (Runs.run (pairedStep sha256) (opened, .loaded context.slot) events) := by
  have loaded : PairRepresents (opened, .loaded context.slot) := by
    refine ⟨context, present, ?_⟩
    obtain ⟨fopen, storage, same⟩ := initialize_context env system opened context succeeded present
    rw [same]
    exact init_slot_represents fopen storage
  have admitted : Runs.EveryStep (pairedStep sha256) (fun _ event => event.endsPeriod = false)
      (opened, .loaded context.slot) events := by
    apply (Runs.every_step_iff _ _ _ _).mpr
    intro earlier event later split
    exact within event (by simp [split])
  have kept (pair : System × PinMachine) (event : Event) (represented : PairRepresents pair)
      (continues : event.endsPeriod = false) : StepAgrees sha256 pair.1 pair.2 event := by
    obtain ⟨before, there, represents⟩ := represented
    exact event_agrees sha256 pair.1 pair.2 event before there represents continues
  constructor
  · apply Runs.every_step_of_invariant (pairedStep sha256) PairRepresents
      (fun _ event => event.endsPeriod = false) _ _ _ _ _ loaded admitted
    · intro pair event represented continues
      exact (kept pair event represented continues).1
    · intro pair event represented continues
      exact ⟨represented, kept pair event represented continues⟩
  · apply Runs.invariant_run (pairedStep sha256) PairRepresents
      (fun _ event => event.endsPeriod = false) _ _ _ loaded admitted
    intro pair event represented continues
    exact (kept pair event represented continues).1

/-- Three wrong user PINs, then the right one. -/
def userGuesses : List Event :=
  [calmly (.initToken 0 (some soPin) (some [])),
    calmly (.openSession 0 (ckfSerialSession ||| ckfRwSession) true),
    calmly (.login 1 ckuSo (some soPin)),
    calmly (.initPIN 1 (some userPin)),
    calmly (.logout 1),
    calmly (.login 1 ckuUser (some otherUserPin)),
    calmly (.login 1 ckuUser (some otherUserPin)),
    calmly (.login 1 ckuUser (some otherUserPin)),
    calmly (.login 1 ckuUser (some userPin))]

/-- The library just initialized on a fresh machine. -/
def freshContext : HsmContext := hsmInitContext (hsmInitSlot true freshStorage)

theorem user_guesses_refine_machine :
    Runs.EveryStep (pairedStep pinSha256)
        (fun pair event => PairRepresents pair ∧ StepAgrees pinSha256 pair.1 pair.2 event)
        ((cInitialize (calmEnv 1) (bootProcess freshStorage)).2, .loaded freshContext.slot)
        userGuesses ∧
      PairRepresents (Runs.run (pairedStep pinSha256)
        ((cInitialize (calmEnv 1) (bootProcess freshStorage)).2, .loaded freshContext.slot)
        userGuesses) :=
  pins_refine_machine pinSha256 (calmEnv 1) (bootProcess freshStorage)
    (cInitialize (calmEnv 1) (bootProcess freshStorage)).2 freshContext userGuesses rfl rfl
    (by decide)

end PstHsm
