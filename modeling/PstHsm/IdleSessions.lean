import PstHsm.Admission
import PstHsm.Runs
import PstHsm.Views

/-!
# Idle sessions

The context holds a session timeout and says that it is enforced, and each session holds
the time of its last activity. No call compares the two. Beside each entry of the session
table the time of the last successful call on the session is kept here; a call that uses a
key or sets a PIN answers as if that time did not matter.
-/

namespace PstHsm

open Tables

/-! ## The last use of a session -/

/-- The time of the last successful call on the session at each entry, its opening
included. -/
def noteUse (sha256 : Sha256) (system : System) (uses : Fin hsmMaxSessions → Nat) :
    Event → Fin hsmMaxSessions → Nat
  | .newProcess, place => uses place
  | .call call env, place =>
    if (callStep sha256 env system call).1.rv = .ok ∧
        (system.actsOn call = some place ∨ system.sessions place = none) then env.now
    else uses place

/-- The process with the last uses of its sessions. -/
def usedStep (sha256 : Sha256) :
    System × (Fin hsmMaxSessions → Nat) → Event → Response × System × (Fin hsmMaxSessions → Nat) :=
  Runs.traced (step sha256) (noteUse sha256)

/-- The calls that use a key or set a PIN. -/
def Call.timed : Call → Bool
  | .sign _ _ _ _ | .signInit _ _ _ | .generateKeyPair _ _ _ _ _ _ | .initPIN _ _
  | .setPIN _ _ _ => true
  | _ => false

/-- The session that the call is made on was last used longer ago than the timeout that the
context enforces. -/
def Idle (pair : System × (Fin hsmMaxSessions → Nat)) (call : Call) (env : Env) : Prop :=
  ∃ hSession found, call.hSession = some hSession ∧ hsmGetSession pair.1 hSession = .ok found ∧
    found.context.enforceTimeouts = true ∧
    pair.2 found.index + found.context.sessionTimeout < env.now

/-- The call is refused, and the same call would be accepted at another time. -/
def RefusedByClock (sha256 : Sha256) (env : Env) (system : System) (call : Call) : Prop :=
  (callStep sha256 env system call).1.rv ≠ .ok ∧
    ∃ now, (callStep sha256 { env with now := now } system call).1.rv = .ok

/-- A call on an idle session is refused. -/
def IdleRefused (sha256 : Sha256) (pair : System × (Fin hsmMaxSessions → Nat)) (event : Event) :
    Prop :=
  ∀ call env, event = .call call env → call.timed = true → Idle pair call env →
    (callStep sha256 env pair.1 call).1.rv ≠ .ok

/-- A call on a session that is in use is not refused because of the time. -/
def ActiveServed (sha256 : Sha256) (pair : System × (Fin hsmMaxSessions → Nat)) (event : Event) :
    Prop :=
  ∀ call env, event = .call call env → call.timed = true → ¬ Idle pair call env →
    ¬ RefusedByClock sha256 env pair.1 call

/-! ## What the calls look at -/

/-- The checks of the five calls. -/
def Call.Admits (sha256 : Sha256) (env : Env) (system : System) : Call → Prop
  | .sign hSession (some data) pSignature (some signatureLen) =>
    ∃ found key, Signs env system hSession data pSignature signatureLen found key
  | .signInit hSession (some mechanism) hKey =>
    ∃ found key, StartsSigning system hSession mechanism hKey found key
  | .generateKeyPair hSession (some mechanism) publicTemplate _ true true =>
    ∃ found, Generates env system hSession mechanism publicTemplate found
  | .initPIN hSession (some pin) => ∃ found, SetsUserPin system hSession pin found
  | .setPIN hSession (some oldPin) (some newPin) =>
    ∃ found, ChangesPin system hSession newPin found ∧
      RightPin sha256 found.slot found.session.pinOwner oldPin
  | _ => False

/-- A call on an idle session fails one of its checks. -/
def IdleInadmissible (sha256 : Sha256) (pair : System × (Fin hsmMaxSessions → Nat))
    (event : Event) : Prop :=
  ∀ call env, event = .call call env → call.timed = true → Idle pair call env →
    ¬ call.Admits sha256 env pair.1

section Calls

variable (sha256 : Sha256) (env : Env) (system : System)

/-- One of the five calls is accepted exactly when its checks pass. -/
theorem timed_ok_iff (call : Call) (timed : call.timed = true) :
    (callStep sha256 env system call).1.rv = .ok ↔ call.Admits sha256 env system := by
  cases call with
  | sign hSession pData pSignature pulSignatureLen =>
    cases pData with
    | none => exact iff_of_false CkRv.noConfusion id
    | some data =>
      cases pulSignatureLen with
      | none => exact iff_of_false CkRv.noConfusion id
      | some signatureLen => exact sign_ok_iff env system hSession data pSignature signatureLen
  | signInit hSession pMechanism hKey =>
    cases pMechanism with
    | none => exact iff_of_false CkRv.noConfusion id
    | some mechanism => exact sign_init_ok_iff system hSession mechanism hKey
  | generateKeyPair hSession pMechanism publicTemplate privateTemplate phPublicKey phPrivateKey =>
    cases pMechanism with
    | none => exact iff_of_false CkRv.noConfusion id
    | some mechanism =>
      cases phPublicKey with
      | false => exact iff_of_false CkRv.noConfusion id
      | true =>
        cases phPrivateKey with
        | false => exact iff_of_false CkRv.noConfusion id
        | true =>
          exact generate_key_pair_ok_iff env system hSession mechanism publicTemplate
            privateTemplate
  | initPIN hSession pPin =>
    cases pPin with
    | none => exact iff_of_false CkRv.noConfusion id
    | some pin => exact init_pin_ok_iff sha256 env system hSession pin
  | setPIN hSession pOldPin pNewPin =>
    cases pOldPin with
    | none => exact iff_of_false CkRv.noConfusion id
    | some oldPin =>
      cases pNewPin with
      | none => exact iff_of_false CkRv.noConfusion id
      | some newPin => exact set_pin_ok_iff sha256 env system hSession oldPin newPin
  | _ => cases timed

/-- The checks do not look at the clock. -/
theorem admits_any_time (call : Call) (now : Nat)
    (admits : call.Admits sha256 { env with now := now } system) :
    call.Admits sha256 env system := by
  unfold Call.Admits at admits
  split at admits
  · obtain ⟨found, key, session, active, signing, lookup, isPrivateKey, newKey, newMdCtx,
      signed⟩ := admits
    exact ⟨found, key, session, active, signing, lookup, isPrivateKey, newKey, newMdCtx, signed⟩
  · exact admits
  · obtain ⟨found, session, user, memory, generated, room⟩ := admits
    exact ⟨found, session, user, memory, generated, room⟩
  · exact admits
  · exact admits
  · exact admits.elim

/-- No call is refused because of the time. -/
theorem never_refused_by_clock (call : Call) (timed : call.timed = true) :
    ¬ RefusedByClock sha256 env system call := by
  rintro ⟨refused, now, accepted⟩
  rw [timed_ok_iff sha256 _ system call timed] at accepted
  exact refused ((timed_ok_iff sha256 env system call timed).mpr
    (admits_any_time sha256 env system call now accepted))

end Calls

/-! ## Runs -/

/-- In every run, idle sessions are refused and sessions in use are not refused because of
the time exactly when every call on an idle session fails one of the checks, none of which
looks at the clock. -/
theorem idle_sessions_refused_iff (sha256 : Sha256)
    (pair : System × (Fin hsmMaxSessions → Nat)) (events : List Event) :
    (Runs.EveryStep (usedStep sha256) (IdleRefused sha256) pair events ∧
        Runs.EveryStep (usedStep sha256) (ActiveServed sha256) pair events) ↔
      Runs.EveryStep (usedStep sha256) (IdleInadmissible sha256) pair events := by
  constructor
  · rintro ⟨refused, -⟩
    apply Runs.every_step_mono _ _ _ _ _ ?_ refused
    intro current event idleRefused call env same timed idle admits
    exact idleRefused call env same timed idle
      ((timed_ok_iff sha256 env current.1 call timed).mpr admits)
  · intro inadmissible
    constructor
    · apply Runs.every_step_mono _ _ _ _ _ ?_ inadmissible
      intro current event fails call env same timed idle accepted
      exact fails call env same timed idle
        ((timed_ok_iff sha256 env current.1 call timed).mp accepted)
    · apply Runs.every_step_mono _ _ _ _ _ ?_ inadmissible
      intro current event _ call env _ timed _
      exact never_refused_by_clock sha256 env current.1 call timed

/-- A found session that a call at the given time finds idle. -/
def idleAt (now : Nat) (pair : System × (Fin hsmMaxSessions → Nat)) (hSession : CkSessionHandle) :
    Bool :=
  match hsmGetSession pair.1 hSession with
  | .error _ => false
  | .ok found => found.context.enforceTimeouts &&
    decide (pair.2 found.index + found.context.sessionTimeout < now)

theorem idle_at_idle (pair : System × (Fin hsmMaxSessions → Nat)) (call : Call) (env : Env)
    (hSession : CkSessionHandle) (named : call.hSession = some hSession)
    (idle : idleAt env.now pair hSession = true) : Idle pair call env := by
  rw [idleAt] at idle
  split at idle
  · cases idle
  · rename_i found session
    obtain ⟨enforced, past⟩ := Bool.and_eq_true_iff.mp idle
    exact ⟨hSession, found, named, session, enforced, of_decide_eq_true past⟩

/-- A timeout and a second after the user logged in. -/
def lateEnv : Env := { calmEnv 1 with now := hsmSessionTimeout + 1 }

def lateGeneration : Call := .generateKeyPair 1 (some ckmEcKeyPairGen) [] [] true true

/-- The idle session is served. -/
theorem idle_session_served :
    ¬ (Runs.EveryStep (usedStep pinSha256) (IdleRefused pinSha256)
          (bootProcess freshStorage, fun _ => 0) (tokenSetUp ++ [.call lateGeneration lateEnv]) ∧
        Runs.EveryStep (usedStep pinSha256) (ActiveServed pinSha256)
          (bootProcess freshStorage, fun _ => 0)
          (tokenSetUp ++ [.call lateGeneration lateEnv])) := by
  rintro ⟨refused, -⟩
  obtain ⟨-, late, -⟩ := (Runs.every_step_append _ _ _ tokenSetUp _).mp refused
  have accepted : (callStep pinSha256 lateEnv (Runs.run (usedStep pinSha256)
      (bootProcess freshStorage, fun _ => 0) tokenSetUp).1 lateGeneration).1.rv = .ok := by
    decide +kernel
  have expired : idleAt lateEnv.now (Runs.run (usedStep pinSha256)
      (bootProcess freshStorage, fun _ => 0) tokenSetUp) 1 = true := by
    decide +kernel
  exact late lateGeneration lateEnv rfl rfl (idle_at_idle _ _ _ 1 rfl expired) accepted

end PstHsm
