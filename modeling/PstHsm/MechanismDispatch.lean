import PstHsm.Admission
import PstHsm.KeyParameters
import PstHsm.SignBinding

/-!
# Mechanisms admitted and mechanisms executed

Four tables name mechanisms: the list of supported ones, the flags of `C_GetMechanismInfo`,
and the switches of the two signing functions. `C_SignInit` looks at the first only, and
not at the type of the key. What it admits is executed exactly when the switch that belongs
to the key has a case for the mechanism.
-/

namespace PstHsm

open Tables

/-! ## The switches of the signing functions -/

/-- The signing function of a key type has a case for the mechanism. -/
def Dispatches (keyType : Nat) (mechanism : CkMechanismType) : Prop :=
  (keyType = keyTypeRsa ∧ (rsaDigest mechanism).isSome = true) ∨
    (keyType = keyTypeEc ∧ (ecDigest mechanism).isSome = true)

instance (keyType : Nat) (mechanism : CkMechanismType) : Decidable (Dispatches keyType mechanism) :=
  inferInstanceAs (Decidable (_ ∨ _))

/-- The two answers that reject the mechanism or the key. -/
def CkRv.Refusal (rv : CkRv) : Prop := rv = .mechanismInvalid ∨ rv = .keyTypeInconsistent

instance (rv : CkRv) : Decidable rv.Refusal := inferInstanceAs (Decidable (_ ∨ _))

/-- A success refuses nothing. -/
theorem ok_no_refusal : ¬ CkRv.ok.Refusal := by decide

/-- Nor does a failure of OpenSSL. -/
theorem failed_no_refusal : ¬ CkRv.functionFailed.Refusal := by decide

/-- Nor does a buffer that is too small. -/
theorem short_no_refusal : ¬ CkRv.bufferTooSmall.Refusal := by decide

/-- The bytes come from one of the three OpenSSL calls that make a signature. -/
def OpensslSigned (signer : Signer) (keyData : HsmKeyData) (data signature : Bytes) : Prop :=
  (∃ md pss, signer.digestSignFinal keyData md pss data = some signature) ∨
    signer.rsaPrivateEncrypt keyData (cInt data.length) data = some signature ∨
    signer.ecdsaDoSign keyData (cInt data.length) data = some signature

/-- No OpenSSL call fails. -/
structure Signer.Succeeds (signer : Signer) : Prop where
  newKey : ∀ keyData, signer.newKey keyData = true
  newMdCtx : signer.newMdCtx = true
  digestSignInit : signer.digestSignInit = true
  digestSignUpdate : signer.digestSignUpdate = true
  digestSignSize : ∀ keyData, (signer.digestSignSize keyData).isSome = true
  digestSignFinal : ∀ keyData md pss data,
    (signer.digestSignFinal keyData md pss data).isSome = true
  rsaPrivateEncrypt : ∀ keyData length data,
    (signer.rsaPrivateEncrypt keyData length data).isSome = true
  ecdsaDoSign : ∀ keyData length data, (signer.ecdsaDoSign keyData length data).isSome = true

section SignData

variable (signer : Signer) (key : HsmObject) (mechanism : CkMechanismType) (data : Bytes)
  (pSignature : Bool) (signatureLen : CkUlong)

/-- The hashing branch refuses nothing. -/
theorem digest_sign_accepts (md : EvpMd) (pss : Bool) :
    ¬ (digestSign signer key.keyData md pss data pSignature signatureLen).rv.Refusal := by
  rw [digestSign]
  split
  · exact failed_no_refusal
  · split
    · exact failed_no_refusal
    · split
      · exact short_no_refusal
      · split
        · exact ok_no_refusal
        · split
          · exact failed_no_refusal
          · exact ok_no_refusal

/-- A mechanism with a case in the key's switch is never refused. -/
theorem sign_data_dispatched (isPrivateKey : key.type = objTypePrivateKey)
    (dispatched : Dispatches key.keyType mechanism) :
    ¬ (hsmSignData signer key mechanism data pSignature signatureLen).rv.Refusal := by
  rw [hsmSignData, if_neg (not_not_intro isPrivateKey)]
  rcases dispatched with ⟨rsa, cased⟩ | ⟨ec, cased⟩
  · obtain ⟨digest, selected⟩ := Option.isSome_iff_exists.mp cased
    rw [if_pos rsa, signRsa, selected]
    split
    · exact failed_no_refusal
    · dsimp only
      split
      · exact failed_no_refusal
      · cases digest with
        | some hashed => exact digest_sign_accepts signer key data pSignature signatureLen _ _
        | none =>
          dsimp only
          split
          · exact short_no_refusal
          · split
            · exact failed_no_refusal
            · exact ok_no_refusal
  · obtain ⟨digest, selected⟩ := Option.isSome_iff_exists.mp cased
    have notRsa : key.keyType ≠ keyTypeRsa := by
      rw [ec]
      decide
    rw [if_neg notRsa, if_pos ec, signEc, selected]
    split
    · exact failed_no_refusal
    · dsimp only
      split
      · exact failed_no_refusal
      · cases digest with
        | some md => exact digest_sign_accepts signer key data pSignature signatureLen md false
        | none =>
          dsimp only
          split
          · exact failed_no_refusal
          · split
            · exact short_no_refusal
            · exact ok_no_refusal

/-- Without a case the key's switch refuses, once OpenSSL has taken the key. -/
theorem sign_data_undispatched (usable : signer.newKey key.keyData = true)
    (undispatched : ¬ Dispatches key.keyType mechanism) :
    (hsmSignData signer key mechanism data pSignature signatureLen).rv.Refusal := by
  rw [hsmSignData]
  have known : ¬ (!signer.newKey key.keyData) = true := by
    rw [usable]
    exact Bool.false_ne_true
  split
  · exact Or.inr rfl
  · split
    · rename_i rsa
      have uncased : rsaDigest mechanism = none :=
        Option.not_isSome_iff_eq_none.mp fun cased => undispatched (Or.inl ⟨rsa, cased⟩)
      rw [signRsa, if_neg known, uncased]
      exact Or.inl rfl
    · split
      · rename_i ec
        have uncased : ecDigest mechanism = none :=
          Option.not_isSome_iff_eq_none.mp fun cased => undispatched (Or.inr ⟨ec, cased⟩)
        rw [signEc, if_neg known, uncased]
        exact Or.inl rfl
      · exact Or.inr rfl

/-- The hashing branch signs when no call fails and there is room. -/
theorem digest_sign_succeeds (succeeds : signer.Succeeds) (md : EvpMd) (pss : Bool) :
    ∃ enough signature, OpensslSigned signer key.keyData data signature ∧
      ∀ room, enough ≤ room → digestSign signer key.keyData md pss data true room =
        ⟨.ok, some signature, signature.length⟩ := by
  obtain ⟨size, sized⟩ := Option.isSome_iff_exists.mp (succeeds.digestSignSize key.keyData)
  obtain ⟨signature, final⟩ :=
    Option.isSome_iff_exists.mp (succeeds.digestSignFinal key.keyData md pss data)
  refine ⟨size, signature, Or.inl ⟨md, pss, final⟩, fun room enough => ?_⟩
  simp only [digestSign, succeeds.digestSignInit, succeeds.digestSignUpdate, sized, final,
    if_neg (Nat.not_lt.mpr enough), Bool.not_true, Bool.or_self, Bool.false_eq_true, if_false]

/-- A mechanism with a case in the key's switch is signed by one of the OpenSSL calls. -/
theorem sign_data_succeeds (succeeds : signer.Succeeds)
    (isPrivateKey : key.type = objTypePrivateKey)
    (dispatched : Dispatches key.keyType mechanism) :
    ∃ enough signature, OpensslSigned signer key.keyData data signature ∧
      ∀ room, enough ≤ room → hsmSignData signer key mechanism data true room =
        ⟨.ok, some signature, signature.length⟩ := by
  have usable : ¬ (!signer.newKey key.keyData) = true := by
    rw [succeeds.newKey]
    exact Bool.false_ne_true
  have context : ¬ (!signer.newMdCtx) = true := by
    rw [succeeds.newMdCtx]
    exact Bool.false_ne_true
  rcases dispatched with ⟨rsa, cased⟩ | ⟨ec, cased⟩
  · obtain ⟨digest, selected⟩ := Option.isSome_iff_exists.mp cased
    have branch (room : CkUlong) : hsmSignData signer key mechanism data true room =
        signRsa signer key.keyData mechanism data true room := by
      rw [hsmSignData, if_neg (not_not_intro isPrivateKey), if_pos rsa]
    simp only [branch, signRsa, if_neg usable, selected, if_neg context]
    cases digest with
    | some hashed => exact digest_sign_succeeds signer key data succeeds hashed.1 hashed.2
    | none =>
      obtain ⟨signature, encrypted⟩ := Option.isSome_iff_exists.mp
        (succeeds.rsaPrivateEncrypt key.keyData (cInt data.length) data)
      refine ⟨signer.rsaSize key.keyData, signature, Or.inr (Or.inl encrypted), ?_⟩
      intro room enough
      simp only [if_neg (Nat.not_lt.mpr enough), encrypted]
  · obtain ⟨digest, selected⟩ := Option.isSome_iff_exists.mp cased
    have notRsa : key.keyType ≠ keyTypeRsa := by
      rw [ec]
      decide
    have branch (room : CkUlong) : hsmSignData signer key mechanism data true room =
        signEc signer key.keyData mechanism data true room := by
      rw [hsmSignData, if_neg (not_not_intro isPrivateKey), if_neg notRsa, if_pos ec]
    simp only [branch, signEc, if_neg usable, selected, if_neg context]
    cases digest with
    | some md => exact digest_sign_succeeds signer key data succeeds md false
    | none =>
      obtain ⟨signature, signed⟩ := Option.isSome_iff_exists.mp
        (succeeds.ecdsaDoSign key.keyData (cInt data.length) data)
      refine ⟨signature.length, signature, Or.inr (Or.inr signed), ?_⟩
      intro room enough
      simp only [signed, if_neg (Nat.not_lt.mpr enough), if_true]

end SignData

/-! ## From C_SignInit to C_Sign -/

/-- What a successful `C_SignInit` found, and the state it leaves. -/
theorem sign_init_checks_cases (sha256 : Sha256) (system : System) (event : Event)
    (start : SignKey) (checked : system.signInitChecks event = some start) :
    ∃ hKey context session,
      hsmGetSession system start.hSession = .ok ⟨context, start.place, session⟩ ∧
      hsmGetObject context.slot hKey = .ok (start.index, start.key) ∧
      start.key.type = objTypePrivateKey ∧
      (step sha256 system event).2 = system.withSession ⟨context, start.place, session⟩
        { session with operation := ⟨.sign, start.mechanism, hKey, true⟩ } := by
  unfold System.signInitChecks at checked
  split at checked
  · rename_i hSession mechanism hKey env
    split at checked
    · rename_i succeeded
      obtain ⟨found, key, located, idle, ⟨index, lookup⟩, isPrivateKey, permitted, supported⟩ :=
        (sign_init_ok_iff system hSession mechanism hKey).mp succeeded
      simp only [located, lookup] at checked
      obtain rfl := Option.some.inj checked
      refine ⟨hKey, found.context, found.session, located, lookup, isPrivateKey, ?_⟩
      change (cSignInit system hSession (some mechanism) hKey).2 = _
      have listed := (mechanism_supported_iff mechanism).mpr supported
      simp [cSignInit, located, idle, lookup, isPrivateKey, permitted, listed]
    · cases checked
  · cases checked

/-- The next `C_Sign` on the session reaches `hsm_sign_data` with what was checked. -/
theorem sign_init_reaches (sha256 : Sha256) (env : Env) (system : System) (event : Event)
    (start : SignKey) (data : Bytes) (pSignature : Bool) (signatureLen : CkUlong)
    (checked : system.signInitChecks event = some start) :
    (step sha256 system event).2.signReaches
      (.call (.sign start.hSession (some data) pSignature (some signatureLen)) env) =
        some start := by
  obtain ⟨hKey, context, session, located, lookup, -, state⟩ :=
    sign_init_checks_cases sha256 system event start checked
  obtain ⟨-, -, named⟩ := get_session_sound system start.hSession _ located
  rw [state]
  have again := get_session_written system start.hSession _
    { session with operation := ⟨.sign, start.mechanism, hKey, true⟩ } located named
  have waiting : HsmSession.signPending
      { session with operation := ⟨.sign, start.mechanism, hKey, true⟩ } = true := rfl
  have key := get_object_session_written ⟨context, start.place, session⟩
    { session with operation := ⟨.sign, start.mechanism, hKey, true⟩ } hKey
  simp only [System.signReaches, again, FoundSession.slot]
  rw [if_pos waiting, key]
  simp only [FoundSession.slot, lookup]

/-- A `C_Sign` that does not reach `hsm_sign_data` refuses neither mechanism nor key. -/
theorem sign_unreached_accepts (sha256 : Sha256) (env : Env) (system : System)
    (hSession : CkSessionHandle) (data : Bytes) (pSignature : Bool) (signatureLen : CkUlong)
    (unreached : system.signReaches
      (.call (.sign hSession (some data) pSignature (some signatureLen)) env) = none) :
    ¬ (callStep sha256 env system
      (.sign hSession (some data) pSignature (some signatureLen))).1.rv.Refusal := by
  obtain ⟨rv, after, code, answered⟩ :=
    sign_unreached_answer env system hSession data pSignature signatureLen unreached
  have accepting : ∀ code ∈ [CkRv.cryptokiNotInitialized, .sessionHandleInvalid,
      .operationNotInitialized, .objectHandleInvalid], ¬ code.Refusal := by decide
  simp only [callStep, answered]
  exact accepting rv code

/-! ## The law -/

/-- A `C_Sign` on the session refuses neither the mechanism nor the key, if it uses those
that `C_SignInit` checked; the label may have changed. -/
def SignExecutes (sha256 : Sha256) (opened : System) (start : SignKey) : Prop :=
  ∀ env data pSignature signatureLen,
    (∀ use, opened.signReaches
        (.call (.sign start.hSession (some data) pSignature (some signatureLen)) env) = some use →
      use.mechanism = start.mechanism ∧ ∃ label, use.key = { start.key with label := label }) →
    ¬ (callStep sha256 env opened
      (.sign start.hSession (some data) pSignature (some signatureLen))).1.rv.Refusal

/-- So it is after any further events. -/
def AdmittedExecutes (sha256 : Sha256) (system : System) (event : Event) (start : SignKey) :
    Prop :=
  ∀ between, SignExecutes sha256 (Runs.run (step sha256) (step sha256 system event).2 between)
    start

def ckfSign : CkFlags := 0x800

/-- `C_GetMechanismInfo` says that the mechanism signs. -/
def AdvertisedForSigning (mechanism : CkMechanismType) : Prop :=
  ∃ system slotID info, cGetMechanismInfo system slotID mechanism true = (.ok, some info) ∧
    info.flags &&& ckfSign ≠ 0

/-- The family of keys that a mechanism is for. -/
def matchingKeyType (mechanism : CkMechanismType) : Nat :=
  if mechanism ∈ [ckmEcdsa, ckmEcdsaSha256, ckmEcdsaSha384, ckmEcdsaSha512] then keyTypeEc
  else keyTypeRsa

/-- In every reachable state a `C_SignInit` with a key of the matching family leads to a
signature that OpenSSL makes: with no call failing and enough room, the `C_Sign` after it
returns one. -/
def AdvertisedExecutes (sha256 : Sha256) (mechanism : CkMechanismType) : Prop :=
  ∀ system event start, Reachable sha256 system → system.signInitChecks event = some start →
    start.mechanism = mechanism → start.key.keyType = matchingKeyType mechanism →
    ∀ env data, env.signer.Succeeds →
      ∃ enough signature, OpensslSigned env.signer start.key.keyData data signature ∧
        ∀ room, enough ≤ room →
          (callStep sha256 env (step sha256 system event).2
            (.sign start.hSession (some data) true (some room))).1 =
              ⟨.ok, .signature (some (some signature, signature.length))⟩

/-- The flags of a mechanism are those of the switch. -/
theorem advertised_flags_iff (mechanism : CkMechanismType) :
    AdvertisedForSigning mechanism ↔ hsmCheckMechanismSupported mechanism = .ok ∧
      ∃ info, mechanismInfo mechanism = some info ∧ info.flags &&& ckfSign ≠ 0 := by
  constructor
  · rintro ⟨system, slotID, info, answered, flagged⟩
    simp only [cGetMechanismInfo, Bool.not_true, Bool.false_eq_true, if_false] at answered
    split at answered
    · cases answered
    · split at answered
      · cases answered
      · split at answered
        · cases answered
        · rename_i supported
          split at answered
          · cases answered
          · rename_i stored switched
            cases answered
            exact ⟨not_not.mp supported, info, switched, flagged⟩
  · rintro ⟨supported, info, switched, flagged⟩
    refine ⟨⟨some (hsmInitContext blankSlot), 1, 1, freshStorage⟩, 0, info, ?_, flagged⟩
    have slot : ¬ (0 : CkSlotId) ≥ slotCount := by decide
    simp only [cGetMechanismInfo, Bool.not_true, Bool.false_eq_true, if_false, if_neg slot,
      supported, switched, ne_eq, not_true_eq_false]

/-- The mechanisms with the flag. -/
theorem advertised_for_signing_iff (mechanism : CkMechanismType) :
    AdvertisedForSigning mechanism ↔
      mechanism ∈ [ckmRsaPkcs, ckmRsaPkcsPss, ckmSha256RsaPkcs, ckmSha384RsaPkcs,
          ckmSha512RsaPkcs, ckmSha256RsaPkcsPss, ckmSha384RsaPkcsPss, ckmSha512RsaPkcsPss] ∨
        mechanism ∈ [ckmEcdsa, ckmEcdsaSha256, ckmEcdsaSha384, ckmEcdsaSha512] := by
  rw [advertised_flags_iff]
  constructor
  · rintro ⟨-, info, switched, flagged⟩
    rw [mechanismInfo] at switched
    split_ifs at switched with rsaPair rsa ecPair ec hash
    · cases switched
      exact absurd rfl flagged
    · exact Or.inl rsa
    · cases switched
      exact absurd rfl flagged
    · exact Or.inr ec
    · cases switched
      exact absurd rfl flagged
  · simp only [List.mem_cons, List.not_mem_nil, or_false]
    rintro ((rfl | rfl | rfl | rfl | rfl | rfl | rfl | rfl) | (rfl | rfl | rfl | rfl))
    all_goals exact ⟨by decide, _, rfl, by decide⟩

/-- Of these one has no case in the switch of its family. -/
theorem advertised_dispatched_iff (mechanism : CkMechanismType)
    (advertised : AdvertisedForSigning mechanism) :
    Dispatches (matchingKeyType mechanism) mechanism ↔ mechanism ≠ ckmRsaPkcsPss := by
  rw [advertised_for_signing_iff] at advertised
  simp only [List.mem_cons, List.not_mem_nil, or_false] at advertised
  rcases advertised with (rfl | rfl | rfl | rfl | rfl | rfl | rfl | rfl) | (rfl | rfl | rfl | rfl)
  all_goals decide

/-- Without a case the `C_Sign` that follows at once is refused, OpenSSL willing. -/
theorem undispatched_refused (sha256 : Sha256) (system : System) (event : Event)
    (start : SignKey) (checked : system.signInitChecks event = some start)
    (undispatched : ¬ Dispatches start.key.keyType start.mechanism) (room : CkUlong) :
    (callStep sha256 (calmEnv 1) (step sha256 system event).2
      (.sign start.hSession (some []) true (some room))).1.rv.Refusal := by
  rw [sign_reaches_signs sha256 (calmEnv 1) _ start.hSession [] true room start
    (sign_init_reaches sha256 (calmEnv 1) system event start [] true room checked)]
  exact sign_data_undispatched calmSigner start.key start.mechanism [] true room rfl undispatched

/-- A mechanism without a branch for the key's type is admitted and not executed. -/
theorem undispatched_not_executed (sha256 : Sha256) (system : System) (event : Event)
    (start : SignKey) (checked : system.signInitChecks event = some start)
    (undispatched : ¬ Dispatches start.key.keyType start.mechanism) :
    ¬ AdmittedExecutes sha256 system event start := by
  intro executes
  have reaches := sign_init_reaches sha256 (calmEnv 1) system event start [] true 0 checked
  have refused := undispatched_refused sha256 system event start checked undispatched 0
  have atOnce : SignExecutes sha256 (step sha256 system event).2 start := executes []
  refine atOnce (calmEnv 1) [] true 0 (fun use used => ?_) refused
  obtain rfl := Option.some.inj (reaches.symm.trans used)
  exact ⟨rfl, start.key.label, rfl⟩

/-- With a case no later `C_Sign` with the key and the mechanism is refused. -/
theorem dispatched_executed (sha256 : Sha256) (system : System) (event : Event)
    (start : SignKey) (checked : system.signInitChecks event = some start)
    (dispatched : Dispatches start.key.keyType start.mechanism) :
    AdmittedExecutes sha256 system event start := by
  obtain ⟨-, -, -, -, -, isPrivateKey, -⟩ :=
    sign_init_checks_cases sha256 system event start checked
  intro between env data pSignature signatureLen same
  generalize Runs.run (step sha256) (step sha256 system event).2 between = opened at same ⊢
  cases reached : opened.signReaches
      (.call (.sign start.hSession (some data) pSignature (some signatureLen)) env) with
  | none =>
    exact sign_unreached_accepts sha256 env opened start.hSession data pSignature signatureLen
      reached
  | some use =>
    obtain ⟨mechanism, label, key⟩ := same use reached
    rw [sign_reaches_signs sha256 env opened start.hSession data pSignature signatureLen use
      reached, mechanism, key]
    exact sign_data_dispatched env.signer { start.key with label := label } start.mechanism data
      pSignature signatureLen isPrivateKey dispatched

/-! ## Plain PSS -/

/-- OpenSSL signing that never fails does not fail. -/
theorem calm_signer_succeeds : calmSigner.Succeeds :=
  ⟨fun _ => rfl, rfl, rfl, rfl, fun _ => rfl, fun _ _ _ _ => rfl, fun _ _ _ => rfl,
    fun _ _ _ => rfl⟩

/-- An RSA key pair is generated for the logged-in user. -/
def rsaKeyReady : System :=
  Runs.run (step pinSha256) userReady
    [.call (.generateKeyPair 1 (some ckmRsaPkcsKeyPairGen) [] [] true true) rsaEnv]

/-- An operation is started with the private half. -/
def rsaSignInit (mechanism : CkMechanismType) : Event :=
  calmly (.signInit 1 (some mechanism) (objectHandlePrivateKeyBase + 2))

/-- The state with an RSA key is reachable. -/
theorem rsa_key_reachable : Reachable pinSha256 rsaKeyReady := set_up_reachable _

/-- What the checks of `C_SignInit` admit there is a signature with the RSA key. -/
theorem rsa_key_admitted (mechanism : CkMechanismType)
    (admitted : (rsaKeyReady.signInitChecks (rsaSignInit mechanism)).map
      (fun start => (start.mechanism, start.key.keyType)) = some (mechanism, keyTypeRsa)) :
    ∃ start, rsaKeyReady.signInitChecks (rsaSignInit mechanism) = some start ∧
      start.mechanism = mechanism ∧ start.key.keyType = keyTypeRsa := by
  obtain ⟨start, checked, fields⟩ := Option.map_eq_some_iff.mp admitted
  obtain ⟨named, family⟩ := Prod.mk.inj fields
  exact ⟨start, checked, named, family⟩

/-- No branch executes plain PSS. -/
theorem pss_undispatched : ¬ Dispatches keyTypeRsa ckmRsaPkcsPss := by decide

/-- Plain PSS is advertised and admitted, and refused by `C_Sign`. -/
theorem pss_not_executed : ¬ AdvertisedExecutes pinSha256 ckmRsaPkcsPss := by
  intro executes
  obtain ⟨start, checked, mechanism, family⟩ := rsa_key_admitted ckmRsaPkcsPss (by decide +kernel)
  obtain ⟨enough, signature, -, signed⟩ := executes rsaKeyReady (rsaSignInit ckmRsaPkcsPss) start
    rsa_key_reachable checked mechanism family (calmEnv 1) [] calm_signer_succeeds
  have refused := undispatched_refused pinSha256 rsaKeyReady (rsaSignInit ckmRsaPkcsPss) start
    checked (by rw [family, mechanism]; exact pss_undispatched) enough
  rw [signed enough (Nat.le_refl enough)] at refused
  exact ok_no_refusal refused

/-! ## When what is admitted is executed -/

/-- Of the mechanisms that are advertised for signing exactly plain PSS is not executed. -/
theorem advertised_executes_iff (mechanism : CkMechanismType)
    (advertised : AdvertisedForSigning mechanism) :
    (∀ sha256, AdvertisedExecutes sha256 mechanism) ↔ mechanism ≠ ckmRsaPkcsPss := by
  constructor
  · rintro executes rfl
    exact pss_not_executed (executes pinSha256)
  · intro notPss sha256 system event start reached checked named family env data succeeds
    have dispatched : Dispatches start.key.keyType start.mechanism := by
      rw [family, named]
      exact (advertised_dispatched_iff mechanism advertised).mpr notPss
    obtain ⟨-, -, -, -, -, isPrivateKey, -⟩ :=
      sign_init_checks_cases sha256 system event start checked
    obtain ⟨enough, signature, signed, room⟩ := sign_data_succeeds env.signer start.key
      start.mechanism data succeeds isPrivateKey dispatched
    refine ⟨enough, signature, signed, fun length fits => ?_⟩
    rw [sign_reaches_signs sha256 env _ start.hSession data true length start
      (sign_init_reaches sha256 env system event start data true length checked), room length fits]

/-- What `C_SignInit` admits is executed exactly when the switch of the key's type has a
case for the mechanism; and of the mechanisms that are advertised for signing exactly plain
PSS is not executed. -/
theorem admitted_executes_iff (sha256 : Sha256) (system : System) (event : Event)
    (start : SignKey) (checked : system.signInitChecks event = some start)
    (mechanism : CkMechanismType) (advertised : AdvertisedForSigning mechanism) :
    (AdmittedExecutes sha256 system event start ↔
        Dispatches start.key.keyType start.mechanism) ∧
      ((∀ sha256, AdvertisedExecutes sha256 mechanism) ↔ mechanism ≠ ckmRsaPkcsPss) := by
  refine ⟨?_, advertised_executes_iff mechanism advertised⟩
  constructor
  · intro executes
    by_contra undispatched
    exact undispatched_not_executed sha256 system event start checked undispatched executes
  · exact dispatched_executed sha256 system event start checked

/-- SHA-256 with RSA is admitted and executed. -/
theorem sha256_rsa_executed :
    ∃ start, rsaKeyReady.signInitChecks (rsaSignInit ckmSha256RsaPkcs) = some start ∧
      AdmittedExecutes pinSha256 rsaKeyReady (rsaSignInit ckmSha256RsaPkcs) start ∧
      ∀ sha256, AdvertisedExecutes sha256 ckmSha256RsaPkcs := by
  obtain ⟨start, checked, mechanism, family⟩ :=
    rsa_key_admitted ckmSha256RsaPkcs (by decide +kernel)
  have cased : Dispatches start.key.keyType start.mechanism := by
    rw [family, mechanism]
    exact Or.inl ⟨rfl, rfl⟩
  have advertised : AdvertisedForSigning ckmSha256RsaPkcs :=
    (advertised_for_signing_iff _).mpr (by decide)
  obtain ⟨admitted, executed⟩ := admitted_executes_iff pinSha256 rsaKeyReady _ start checked
    ckmSha256RsaPkcs advertised
  exact ⟨start, checked, admitted.mpr cased, executed.mpr (by decide)⟩

/-- Plain PSS is advertised and admitted, and refused then. -/
theorem pss_admitted_and_refused :
    Reachable pinSha256 rsaKeyReady ∧ AdvertisedForSigning ckmRsaPkcsPss ∧
      ∃ start, rsaKeyReady.signInitChecks (rsaSignInit ckmRsaPkcsPss) = some start ∧
        ¬ AdmittedExecutes pinSha256 rsaKeyReady (rsaSignInit ckmRsaPkcsPss) start := by
  obtain ⟨start, checked, mechanism, family⟩ := rsa_key_admitted ckmRsaPkcsPss (by decide +kernel)
  refine ⟨rsa_key_reachable, (advertised_for_signing_iff _).mpr (by decide), start, checked, ?_⟩
  apply undispatched_not_executed pinSha256 rsaKeyReady _ start checked
  rw [family, mechanism]
  exact pss_undispatched

end PstHsm
