import PstHsm.SignBinding

/-!
# Asking C_Sign for the size

The signing functions answer a buffer that is too small with the length they need, and a
null buffer with the length alone. `C_Sign` hands that length on, and clears the operation
whatever the answer was. The call that learns the length is therefore the last one its
operation serves.
-/

namespace PstHsm

open Tables

section OneCall

variable (env : Env) (system : System) (hSession : CkSessionHandle) (data : Bytes)
  (pSignature : Bool) (signatureLen : CkUlong) (found : FoundSession) (key : HsmObject)

/-- A call on a waiting operation whose key, mechanism and data can be signed, with a null
buffer or one that is too small. -/
structure SizeQuery : Prop where
  session : hsmGetSession system hSession = .ok found
  waiting : found.session.signPending = true
  lookup : ∃ index, hsmGetObject found.slot found.session.operation.keyHandle = .ok (index, key)
  signable : ∃ enough, (hsmSignData env.signer key found.session.operation.mechanism data true
    enough).rv = .ok
  asks : pSignature = false ∨
    (cSign env system hSession (some data) pSignature (some signatureLen)).1 = .bufferTooSmall

/-- The process after the call. -/
def System.afterSign : System :=
  (cSign env system hSession (some data) pSignature (some signatureLen)).2.2

/-- The call reports a length, the operation waits as before, and the same data is signed
next into any buffer of at least that length. -/
def RetryServed : Prop :=
  ∃ signature length later,
    (cSign env system hSession (some data) pSignature (some signatureLen)).2.1 =
        some (signature, length) ∧
      hsmGetSession (system.afterSign env hSession data pSignature signatureLen) hSession =
        .ok later ∧
      later.session.operation = found.session.operation ∧
      ∀ room, length ≤ room →
        (cSign env (system.afterSign env hSession data pSignature signatureLen) hSession
          (some data) true (some room)).1 = .ok

variable (asks : SizeQuery env system hSession data pSignature signatureLen found key)

include asks

/-- The session is found again with its operation cleared. -/
theorem size_query_clears :
    ∃ later, hsmGetSession (system.afterSign env hSession data pSignature signatureLen) hSession =
        .ok later ∧ later.session = found.session.operationCleared := by
  obtain ⟨session, waiting, ⟨index, lookup⟩, -, -⟩ := asks
  obtain ⟨active, signing⟩ : found.session.operation.active = true ∧
      found.session.operation.type = .sign := by
    simpa [HsmSession.signPending] using waiting
  obtain ⟨-, -, named⟩ := get_session_sound system hSession found session
  have after : system.afterSign env hSession data pSignature signatureLen =
      system.withSession found found.session.operationCleared := by
    simp only [System.afterSign, cSign, session, active, signing, lookup]
    rfl
  rw [after]
  exact ⟨_, get_session_written system hSession found _ session named, rfl⟩

/-- No call that learns the length can be followed by the signature it asked about: every
further `C_Sign` finds no operation. -/
theorem size_query_ends_operation :
    ¬ RetryServed env system hSession data pSignature signatureLen found ∧
      ∀ env' data' pSignature' room,
        (cSign env' (system.afterSign env hSession data pSignature signatureLen) hSession
          (some data') pSignature' (some room)).1 = .operationNotInitialized := by
  obtain ⟨later, again, cleared⟩ :=
    size_query_clears env system hSession data pSignature signatureLen found key asks
  have refused (env' : Env) (data' : Bytes) (pSignature' : Bool) (room : CkUlong) :
      (cSign env' (system.afterSign env hSession data pSignature signatureLen) hSession
        (some data') pSignature' (some room)).1 = .operationNotInitialized := by
    simp only [cSign, again, cleared]
    rfl
  refine ⟨?_, refused⟩
  rintro ⟨signature, length, -, -, -, -, served⟩
  have succeeded := served length (Nat.le_refl length)
  rw [refused env data true length] at succeeded
  cases succeeded

end OneCall

/-- A hashing signature with a generated key waits on session 1. -/
def hashedSigning : System :=
  Runs.run (step pinSha256) userReady
    [calmly (.generateKeyPair 1 (some ckmEcKeyPairGen) [] [] true true),
      calmly (.signInit 1 (some ckmEcdsaSha256) (objectHandlePrivateKeyBase + 2))]

/-- The signature that is asked for. -/
def hashedSignature : Call := .sign 1 (some [0x6d]) true (some 72)

/-- A null buffer there asks for a length, and with room the call signs. -/
theorem hashed_signing_asks :
    ∃ found key, SizeQuery (calmEnv 1) hashedSigning 1 [0x6d] false 0 found key := by
  have reached : (hashedSigning.signReaches (calmly hashedSignature)).isSome = true := by
    decide +kernel
  have succeeds : (callStep pinSha256 (calmEnv 1) hashedSigning hashedSignature).1.rv = .ok := by
    decide +kernel
  generalize hashedSigning = state at reached succeeds ⊢
  obtain ⟨use, reaches⟩ := Option.isSome_iff_exists.mp reached
  obtain ⟨_, _, _, _, context, session, called, located, waiting, mechanism, lookup⟩ :=
    sign_reaches_cases state _ use reaches
  injection called with sameCall
  injection sameCall with sameSession
  rw [← sameSession] at located
  rw [hashedSignature, sign_reaches_signs pinSha256 (calmEnv 1) state 1 [0x6d] true 72 use reaches,
    ← mechanism] at succeeds
  exact ⟨⟨context, use.place, session⟩, use.key, located, waiting, ⟨use.index, lookup⟩,
    ⟨72, succeeds⟩, Or.inl rfl⟩

theorem hashed_signing_unserved :
    ∃ found, ¬ RetryServed (calmEnv 1) hashedSigning 1 [0x6d] false 0 found := by
  obtain ⟨found, key, asks⟩ := hashed_signing_asks
  exact ⟨found, (size_query_ends_operation _ _ _ _ _ _ found key asks).1⟩

/-- The caller learns the length 72, and the retry with 72 bytes finds no operation. -/
theorem retry_finds_no_operation :
    ∃ found key, SizeQuery (calmEnv 1) hashedSigning 1 [0x6d] false 0 found key ∧
      ¬ RetryServed (calmEnv 1) hashedSigning 1 [0x6d] false 0 found := by
  obtain ⟨found, key, asks⟩ := hashed_signing_asks
  refine ⟨found, key, asks, ?_⟩
  rintro ⟨signature, length, -, written, -, -, served⟩
  have reported : (cSign (calmEnv 1) hashedSigning 1 (some [0x6d]) false (some 0)).2.1 =
      some (none, 72) := by
    decide +kernel
  obtain ⟨rfl, rfl⟩ : none = signature ∧ 72 = length := by
    simpa using reported.symm.trans written
  have signed := served 72 (Nat.le_refl 72)
  revert signed
  decide +kernel

end PstHsm
