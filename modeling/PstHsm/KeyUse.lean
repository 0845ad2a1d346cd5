import PstHsm.Views

/-!
# Signing needs a logged-in user

`C_Sign` does not look at the login state: it trusts the operation that
`C_SignInit` left on the session, and `C_SignInit` does not look at it either.
What keeps signatures authenticated is therefore a discipline of the callers.
Operations are started only where the user is logged in, and a session is not
logged out while one is pending; then every pending signing operation belongs to
a logged-in user, and so does every signature.
-/

namespace PstHsm

open Tables

/-- Whether the user is logged in on the session with the given handle. -/
def System.userLoggedIn (system : System) (hSession : CkSessionHandle) : Bool :=
  match hsmGetSession system hSession with
  | .error _ => false
  | .ok found => found.session.userLoggedIn

/-- The session that a `C_Sign` call names. -/
def Event.signSession : Event → Option CkSessionHandle
  | .call (.sign hSession _ _ _) _ => some hSession
  | _ => none

/-- A `C_Sign` that returns `CKR_OK` is made where the user is logged in. -/
def SignAuthenticated (sha256 : Sha256) (system : System) (event : Event) : Prop :=
  ∀ hSession ∈ event.signSession, (step sha256 system event).1.rv = .ok →
    system.userLoggedIn hSession = true

instance (sha256 : Sha256) (system : System) (event : Event) :
    Decidable (SignAuthenticated sha256 system event) :=
  inferInstanceAs (Decidable (∀ hSession ∈ event.signSession, _))

/-- A signing operation waits on the session. -/
def HsmSession.signPending (session : HsmSession) : Bool :=
  session.operation.active && decide (session.operation.type = .sign)

/-- An object that `C_SignInit` accepts as a key. -/
def HsmObject.signsFor (key : HsmObject) (mechanism : CkMechanismType) : Bool :=
  decide (key.type = objTypePrivateKey) && key.canSign &&
    decide (hsmCheckMechanismSupported mechanism = .ok)

/-- The discipline of the callers: `C_SignInit` with a usable key on an idle
session only where the user is logged in, and no `C_Logout` while a signing
operation waits. -/
def signingGuarded (system : System) : Event → Bool
  | .call (.signInit hSession (some mechanism) hKey) _ =>
    match hsmGetSession system hSession with
    | .error _ => true
    | .ok found =>
      match hsmGetObject found.slot hKey with
      | .error _ => true
      | .ok (_, key) =>
        found.session.operation.active || !key.signsFor mechanism || found.session.userLoggedIn
  | .call (.logout hSession) _ =>
    match hsmGetSession system hSession with
    | .error _ => true
    | .ok found => !found.session.signPending
  | _ => true

/-- Every waiting signing operation belongs to a session with a logged-in user. -/
def PendingAuthenticated (system : System) : Prop :=
  ∀ index session, system.sessions index = some session → session.signPending = true →
    session.userLoggedIn = true

/-- One call under the discipline keeps waiting operations authenticated. -/
theorem pending_authenticated_call (sha256 : Sha256) (env : Env) (system : System) (call : Call)
    (authenticated : PendingAuthenticated system)
    (guarded : signingGuarded system (.call call env) = true) :
    PendingAuthenticated (callStep sha256 env system call).2 := by
  intro index session present pending
  have fate := session_fate sha256 env system call index
  generalize (callStep sha256 env system call).2.sessions index = entry at present fate
  cases fate with
  | kept => exact authenticated index session present pending
  | removed => cases present
  | opened slotID flags free =>
    cases present
    cases pending
  | loggedIn userType pin context before located fresh =>
    cases present
    obtain ⟨-, operation, -⟩ := logged_in_frame before userType env.now
    have waiting : before.signPending = true := by
      simpa only [HsmSession.signPending, operation] using pending
    have user := authenticated index before (get_session_entry _ _ _ located).1 waiting
    rw [fresh.1] at user
    cases user
  | updated call context before after located named update =>
    cases present
    have earlier := authenticated index before (get_session_entry _ _ _ located).1
    cases update with
    | loggedOut hSession =>
      cases named
      simp only [signingGuarded, located] at guarded
      have idle : before.signPending = false := by simpa using guarded
      have waiting : before.signPending = true := pending
      rw [idle] at waiting
      cases waiting
    | searchStarted hSession template idle =>
      obtain ⟨-, operation, user, -, -⟩ := find_objects_frame context.slot before
      simp only [HsmSession.signPending, operation, user] at pending ⊢
      exact earlier pending
    | searchAdvanced hSession most searching => exact earlier pending
    | searchEnded hSession searching => exact earlier pending
    | signStarted hSession mechanism hKey place key idle found isPrivateKey permitted supported =>
      cases named
      have usable : key.signsFor mechanism = true := by
        simp [HsmObject.signsFor, isPrivateKey, permitted, supported]
      have object : hsmGetObject (FoundSession.slot ⟨context, index, before⟩) hKey =
          .ok (place, key) := found
      simpa [signingGuarded, located, object, idle, usable] using guarded
    | verifyStarted hSession mechanism hKey place key idle found isPublicKey => cases pending
    | signDropped hSession data pSignature signatureLen active signing missing => cases pending
    | signEnded hSession data pSignature signatureLen place key active signing found =>
      cases pending
    | verifyDropped hSession data signature active verifying missing => cases pending
    | verifyEnded hSession data signature place key active verifying found => cases pending

/-- A new process has no sessions, so the step lemma covers every event. -/
theorem pending_authenticated_step (sha256 : Sha256) (system : System) (event : Event)
    (authenticated : PendingAuthenticated system)
    (guarded : signingGuarded system event = true) :
    PendingAuthenticated (step sha256 system event).2 := by
  cases event with
  | call call env => exact pending_authenticated_call sha256 env system call authenticated guarded
  | newProcess =>
    intro index session present
    cases present

/-- `C_Sign` returns `CKR_OK` only where a signing operation waits. -/
theorem sign_ok_pending (env : Env) (system : System) (hSession : CkSessionHandle)
    (pData : Option Bytes) (pSignature : Bool) (pulSignatureLen : Option CkUlong)
    (succeeded : (cSign env system hSession pData pSignature pulSignatureLen).1 = .ok) :
    ∃ found, hsmGetSession system hSession = .ok found ∧ found.session.signPending = true := by
  unfold cSign at succeeded
  split at succeeded
  · split at succeeded
    · rename_i rv failed
      rcases get_session_error system hSession rv failed with rfl | rfl
      · cases succeeded
      · cases succeeded
    · rename_i found located
      refine ⟨found, located, ?_⟩
      simp only at succeeded
      split at succeeded
      · cases succeeded
      · rename_i started
        simpa [HsmSession.signPending] using started
  · cases succeeded

/-- In every run under the discipline, every signature is made by a session with
a logged-in user. -/
theorem signatures_authenticated (sha256 : Sha256) (system : System) (events : List Event)
    (booted : Booted system)
    (guarded : Runs.EveryStep (step sha256) (fun s e => signingGuarded s e = true) system events) :
    Runs.EveryStep (step sha256) (SignAuthenticated sha256) system events := by
  apply Runs.every_step_of_invariant (step sha256) PendingAuthenticated
    (fun s e => signingGuarded s e = true)
  · intro s e
    exact pending_authenticated_step sha256 s e
  · intro s e authenticated _ hSession named succeeded
    cases e with
    | newProcess => cases named
    | call call env =>
      cases call with
      | sign named' pData pSignature pulSignatureLen =>
        cases named
        obtain ⟨found, located, pending⟩ :=
          sign_ok_pending env s hSession pData pSignature pulSignatureLen succeeded
        have user := authenticated found.index found.session
          (get_session_entry s hSession found located).1 pending
        simpa [System.userLoggedIn, located] using user
      | _ => cases named
  · rw [booted]
    intro index session present
    cases present
  · exact guarded

/-- Generate a key pair, start an operation, and sign while logged in. -/
def honestSigning : List Event :=
  tokenSetUp ++
    [calmly (.generateKeyPair 1 (some ckmEcKeyPairGen) [] [] true true),
      calmly (.signInit 1 (some ckmEcdsa) (objectHandlePrivateKeyBase + 2)),
      calmly (.sign 1 (some [0x6d]) true (some 72))]

theorem honest_signing_authenticated :
    Runs.EveryStep (step pinSha256) (SignAuthenticated pinSha256) (bootProcess freshStorage)
      honestSigning :=
  signatures_authenticated pinSha256 (bootProcess freshStorage) honestSigning rfl
    (by decide +kernel)

/-- Log out after generating the key pair, then start an operation and sign. -/
def loggedOutSigning : List Event :=
  tokenSetUp ++
    [calmly (.generateKeyPair 1 (some ckmEcKeyPairGen) [] [] true true),
      calmly (.logout 1),
      calmly (.signInit 1 (some ckmEcdsa) (objectHandlePrivateKeyBase + 2)),
      calmly (.sign 1 (some [0x6d]) true (some 72))]

theorem logged_out_session_signs :
    Booted (bootProcess freshStorage) ∧
      ¬ Runs.EveryStep (step pinSha256) (SignAuthenticated pinSha256) (bootProcess freshStorage)
        loggedOutSigning :=
  ⟨rfl, by decide +kernel⟩

end PstHsm
