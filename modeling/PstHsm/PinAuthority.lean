import PstHsm.Views

/-!
# Who may change a PIN

A change of the security officer's hash, or the loss of the user's PIN, needs a
PIN that hashes to the stored officer's hash; a change of the user's hash needs
an officer's session or the old user PIN. `C_SetPIN` and `C_InitPIN` ask for
these. `C_InitToken` asks for nothing: it overwrites the officer's PIN of a token
in use, whoever calls. The rule fails at exactly those calls.
-/

namespace PstHsm

open Tables

/-- The PINs that a call supplies. -/
def Call.pins : Call → List Bytes
  | .initToken _ pPin _ => pPin.toList
  | .initPIN _ pPin => pPin.toList
  | .setPIN _ pOldPin pNewPin => pOldPin.toList ++ pNewPin.toList
  | .login _ _ pPin => pPin.toList
  | _ => []

/-- What a call must show before it changes an established PIN. The first part is
about the officer's hash and the user's initialized flag, the second about the
user's hash. -/
def PinChangeAuthorised (sha256 : Sha256) (system : System) (call : Call)
    (before after : HsmSlot) : Prop :=
  (before.soPinInitialized = true →
      (after.soPinHash ≠ before.soPinHash ∨
        (before.userPinInitialized = true ∧ after.userPinInitialized = false)) →
      ∃ pin ∈ call.pins, sha256 pin = before.soPinHash) ∧
    (after.userPinHash ≠ before.userPinHash →
      (∃ hSession pPin found, call = .initPIN hSession pPin ∧
          hsmGetSession system hSession = .ok found ∧ found.session.soLoggedIn = true) ∨
        ∃ hSession oldPin pNewPin found, call = .setPIN hSession (some oldPin) pNewPin ∧
          hsmGetSession system hSession = .ok found ∧ found.session.userLoggedIn = true ∧
          sha256 oldPin = before.userPinHash)

/-- Every change of an established PIN at this step is authorised. Before
`C_Initialize` and after `C_Finalize` there is no PIN to speak of. -/
def PinChangesAuthorised (sha256 : Sha256) (system : System) (event : Event) : Prop :=
  ∀ call env before after, event = .call call env → system.gHsmContext = some before →
    (step sha256 system event).2.gHsmContext = some after →
    PinChangeAuthorised sha256 system call before.slot after.slot

/-- A well-formed `C_InitToken` on a token whose officer has a PIN, with a PIN
that does not hash to the stored hash. -/
def takesOver (sha256 : Sha256) (system : System) : Event → Bool
  | .call (.initToken slotID (some pin) (some _)) _ =>
    match system.gHsmContext with
    | none => false
    | some context =>
      decide (slotID < slotCount) && decide (hsmMinPinLen ≤ pin.length) &&
        decide (pin.length ≤ hsmMaxPinLen) && context.slot.soPinInitialized &&
        decide (sha256 pin ≠ context.slot.soPinHash)
  | _ => false

/-- A slot with the same hashes and flags needs no authority. -/
theorem unchanged_pins_authorised (sha256 : Sha256) (system : System) (call : Call)
    (before after : HsmSlot) (so : after.soPinHash = before.soPinHash)
    (user : after.userPinHash = before.userPinHash)
    (initialized : after.userPinInitialized = before.userPinInitialized) :
    PinChangeAuthorised sha256 system call before after := by
  constructor
  · rintro - (changed | ⟨was, lost⟩)
    · exact absurd so changed
    · rw [initialized, was] at lost
      cases lost
  · intro changed
    exact absurd user changed

/-- The PIN fields determine the hashes and flags. -/
theorem same_pins_secrets (before after : HsmSlot) (same : SamePins before after) :
    after.soPinHash = before.soPinHash ∧ after.userPinHash = before.userPinHash ∧
      after.userPinInitialized = before.userPinInitialized := by
  have so := same ckuSo
  have user := same ckuUser
  simp only [HsmSlot.pinFields, if_true, PinFields.mk.injEq] at so
  simp only [HsmSlot.pinFields, ckuUser, ckuSo, Nat.one_ne_zero, if_false,
    PinFields.mk.injEq] at user
  exact ⟨so.2.1, user.2.1, user.1⟩

/-- The token reset changes the officer's hash to that of the supplied PIN, so it
is authorised exactly when that is no change. -/
theorem token_reset_authorised_iff (sha256 : Sha256) (system : System) (slotID : CkSlotId)
    (pin label : Bytes) (slot : HsmSlot) (tokenLabel : Buffer 32) :
    PinChangeAuthorised sha256 system (.initToken slotID (some pin) (some label)) slot
        (slot.reinitialized (sha256 pin) tokenLabel) ↔
      (slot.soPinInitialized = true → sha256 pin = slot.soPinHash) := by
  constructor
  · intro authorised initialized
    by_contra different
    obtain ⟨supplied, member, same⟩ := authorised.1 initialized (Or.inl different)
    have only : supplied = pin := by simpa [Call.pins] using member
    exact different (only ▸ same)
  · intro known
    constructor
    · intro initialized _
      exact ⟨pin, by simp [Call.pins], known initialized⟩
    · intro changed
      exact absurd rfl changed

/-- The PIN replaced after verification is authorised by the old PIN. -/
theorem pin_replaced_authorised (sha256 : Sha256) (system : System) (hSession : CkSessionHandle)
    (oldPin newPin : Bytes) (found : FoundSession)
    (session : hsmGetSession system hSession = .ok found)
    (accepted : (hsmVerifyPin sha256 found.slot found.session.pinOwner oldPin).1 = .ok) :
    PinChangeAuthorised sha256 system (.setPIN hSession (some oldPin) (some newPin)) found.slot
      ((hsmVerifyPin sha256 found.slot found.session.pinOwner oldPin).2.pinReplaced
        found.session.pinOwner (sha256 newPin)) := by
  obtain ⟨so, user, -, initialized⟩ :=
    verify_pin_secrets sha256 found.slot found.session.pinOwner oldPin
  obtain ⟨-, -, known⟩ :=
    verify_pin_accepts sha256 found.slot found.session.pinOwner oldPin accepted
  have owner : found.session.pinOwner = if found.session.userLoggedIn then ckuUser else ckuSo := rfl
  constructor
  · rintro - changed
    cases loggedIn : found.session.userLoggedIn with
    | false =>
      have officer : found.session.pinOwner = ckuSo := by simp [owner, loggedIn]
      exact ⟨oldPin, by simp [Call.pins], by simpa [HsmSlot.pinFields, officer] using known⟩
    | true =>
      have holder : found.session.pinOwner = ckuUser := by simp [owner, loggedIn]
      rw [holder] at so initialized changed
      rcases changed with changed | ⟨was, lost⟩
      · exact absurd so (by simpa [HsmSlot.pinReplaced, ckuUser, ckuSo] using changed)
      · rw [HsmSlot.pinReplaced, if_neg (by decide)] at lost
        rw [show _ = found.slot.userPinInitialized from initialized, was] at lost
        cases lost
  · intro changed
    cases loggedIn : found.session.userLoggedIn with
    | false =>
      have officer : found.session.pinOwner = ckuSo := by simp [owner, loggedIn]
      rw [officer] at user changed
      exact absurd user (by simpa [HsmSlot.pinReplaced] using changed)
    | true =>
      have holder : found.session.pinOwner = ckuUser := by simp [owner, loggedIn]
      refine Or.inr ⟨hSession, oldPin, some newPin, found, rfl, session, loggedIn, ?_⟩
      simpa [HsmSlot.pinFields, holder, ckuUser, ckuSo] using known

/-- A call that does not take the token over changes PINs with authority only. -/
theorem call_pins_authorised (sha256 : Sha256) (env : Env) (system : System) (call : Call)
    (before after : HsmContext) (present : system.gHsmContext = some before)
    (afterwards : (callStep sha256 env system call).2.gHsmContext = some after)
    (harmless : takesOver sha256 system (.call call env) = false) :
    PinChangeAuthorised sha256 system call before.slot after.slot := by
  have change := pin_step sha256 env system call before after present afterwards
  generalize after.slot = slot at change
  cases change with
  | kept _ _ same =>
    obtain ⟨so, user, initialized⟩ := same_pins_secrets before.slot slot same
    exact unchanged_pins_authorised sha256 system call before.slot slot so user initialized
  | reinitialized slotID pin label tokenLabel valid longEnough shortEnough =>
    apply (token_reset_authorised_iff sha256 system slotID pin label before.slot _).mpr
    intro initialized
    simpa [takesOver, present, valid, longEnough, shortEnough, initialized] using harmless
  | userPinSet hSession pin found session officer =>
    constructor
    · rintro - (changed | ⟨-, lost⟩)
      · exact absurd rfl changed
      · cases lost
    · intro _
      exact Or.inl ⟨hSession, some pin, found, rfl, session, officer⟩
  | loginGuessed hSession userType pin _ same =>
    obtain ⟨so, user, -, initialized⟩ := verify_pin_secrets sha256 before.slot userType pin
    obtain ⟨so', user', initialized'⟩ := same_pins_secrets _ slot same
    exact unchanged_pins_authorised sha256 system _ _ _ (so'.trans so) (user'.trans user)
      (initialized'.trans initialized)
  | changeRefused hSession userType oldPin newPin =>
    obtain ⟨so, user, -, initialized⟩ := verify_pin_secrets sha256 before.slot userType oldPin
    exact unchanged_pins_authorised sha256 system _ _ _ so user initialized
  | replaced hSession oldPin newPin found session accepted =>
    obtain rfl : before = found.context :=
      Option.some.inj (present.symm.trans (get_session_sound system hSession found session).1)
    exact pin_replaced_authorised sha256 system hSession oldPin newPin found session accepted

/-- The rule holds at a step exactly when the step does not take the token over. -/
theorem pin_changes_authorised_iff (sha256 : Sha256) (system : System) (event : Event) :
    PinChangesAuthorised sha256 system event ↔ takesOver sha256 system event = false := by
  constructor
  · intro authorised
    by_contra harmful
    cases event with
    | newProcess => exact harmful rfl
    | call call env =>
      unfold takesOver at harmful
      split at harmful
      · rename_i slotID pin label env' same
        obtain ⟨rfl, rfl⟩ := Event.call.inj same
        split at harmful
        · exact harmful rfl
        · rename_i context present
          simp only [Bool.not_eq_false, Bool.and_eq_true, decide_eq_true_eq] at harmful
          obtain ⟨⟨⟨⟨valid, longEnough⟩, shortEnough⟩, initialized⟩, different⟩ := harmful
          have resets := init_token_resets sha256 env system slotID pin label context present valid
            longEnough shortEnough
          have afterwards : (step sha256 system
              (.call (.initToken slotID (some pin) (some label)) env)).2.gHsmContext =
              some { context with
                slot := context.slot.reinitialized (sha256 pin)
                  (initTokenLabel pin.length label) } := by
            simp only [step, callStep, resets]
            rfl
          have shown := authorised _ env context _ rfl present afterwards
          exact different ((token_reset_authorised_iff sha256 system slotID pin label context.slot
            _).mp shown initialized)
      · exact harmful rfl
  · rintro harmless call env before after rfl present afterwards
    exact call_pins_authorised sha256 env system call before after present afterwards harmless

/-- In every run, all PIN changes are authorised exactly when no step takes the
token over. -/
theorem all_pin_changes_authorised_iff (sha256 : Sha256) (system : System)
    (events : List Event) :
    Runs.EveryStep (step sha256) (PinChangesAuthorised sha256) system events ↔
      Runs.EveryStep (step sha256) (fun s e => takesOver sha256 s e = false) system events := by
  constructor
  · apply Runs.every_step_mono
    intro s e
    exact (pin_changes_authorised_iff sha256 s e).mp
  · apply Runs.every_step_mono
    intro s e
    exact (pin_changes_authorised_iff sha256 s e).mpr

/-- Close the session of a token in use and initialize the token again, with a
PIN that is not the officer's. -/
def takeOver : List Event :=
  tokenSetUp ++
    [calmly (.closeSession 1), calmly (.initToken 0 (some otherSoPin) (some []))]

theorem token_in_use_taken_over :
    Booted (bootProcess freshStorage) ∧
      ¬ Runs.EveryStep (step pinSha256) (PinChangesAuthorised pinSha256) (bootProcess freshStorage)
        takeOver := by
  refine ⟨rfl, fun authorised => ?_⟩
  have harmless : Runs.EveryStep (step pinSha256) (fun s e => takesOver pinSha256 s e = false)
      (bootProcess freshStorage) takeOver :=
    Runs.every_step_mono _ _ _ _ _ (fun s e => (pin_changes_authorised_iff pinSha256 s e).mp)
      authorised
  exact absurd harmless (by decide +kernel)

end PstHsm
