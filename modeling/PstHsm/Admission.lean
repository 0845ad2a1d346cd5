import PstHsm.Effects

/-!
# When a call is accepted

For the calls that set a PIN, create objects or use a key, what their checks ask of the
arguments, the state and the surroundings: lengths, flags, fields of the objects and keys
found, and the answers of OpenSSL. Each answers `CKR_OK` exactly when its checks pass. The
clock is none of the things they look at.
-/

namespace PstHsm

open Tables

/-! ## The checks -/

/-- What `hsm_verify_pin` asks for: the PIN is set and not locked, and the hash agrees. -/
structure RightPin (sha256 : Sha256) (slot : HsmSlot) (userType : CkUserType) (pin : Bytes) :
    Prop where
  initialized : (slot.pinFields userType).initialized = true
  unlocked : (slot.pinFields userType).locked = false
  same : sha256 pin = (slot.pinFields userType).storedHash

/-- The checks of `C_InitPIN`. -/
structure SetsUserPin (system : System) (hSession : CkSessionHandle) (pin : Bytes)
    (found : FoundSession) : Prop where
  session : hsmGetSession system hSession = .ok found
  officer : found.session.soLoggedIn = true
  longEnough : hsmMinPinLen ≤ pin.length
  shortEnough : pin.length ≤ hsmMaxPinLen

/-- The checks of `C_CreateObject`. -/
structure Creates (env : Env) (system : System) (hSession : CkSessionHandle)
    (found : FoundSession) : Prop where
  session : hsmGetSession system hSession = .ok found
  room : found.slot.objectCount < hsmMaxObjects
  memory : env.calloc 0 = true

instance (env : Env) (system : System) (hSession : CkSessionHandle) :
    Decidable (∃ found, Creates env system hSession found) :=
  match session : hsmGetSession system hSession with
  | .error _ => .isFalse (by
      rintro ⟨found, creates⟩
      cases session.symm.trans creates.session)
  | .ok found =>
    decidable_of_iff (found.slot.objectCount < hsmMaxObjects ∧ env.calloc 0 = true) (by
      constructor
      · exact fun checks => ⟨found, session, checks.1, checks.2⟩
      · rintro ⟨other, creates⟩
        obtain rfl := Except.ok.inj (session.symm.trans creates.session)
        exact ⟨creates.room, creates.memory⟩)

/-- The mechanism generates RSA keys of the size asked for, or keys on the curve asked for, and
OpenSSL makes one. For a curve its parameters are copied besides. -/
def GeneratesHalves (env : Env) (mechanism : CkMechanismType)
    (publicTemplate : List CkAttribute) : Prop :=
  (mechanism = ckmRsaPkcsKeyPairGen ∧
      (requestedModulusBits publicTemplate = 2048 ∨ requestedModulusBits publicTemplate = 4096) ∧
      (env.keygenRsa (requestedModulusBits publicTemplate)).isSome = true) ∨
    (mechanism = ckmEcKeyPairGen ∧
      (env.keygenEc (requestedCurveNid publicTemplate)).isSome = true ∧ env.malloc = true)

instance (env : Env) (mechanism : CkMechanismType) (publicTemplate : List CkAttribute) :
    Decidable (GeneratesHalves env mechanism publicTemplate) :=
  inferInstanceAs (Decidable (_ ∨ _))

/-- The checks of `C_GenerateKeyPair`. -/
structure Generates (env : Env) (system : System) (hSession : CkSessionHandle)
    (mechanism : CkMechanismType) (publicTemplate : List CkAttribute)
    (found : FoundSession) : Prop where
  session : hsmGetSession system hSession = .ok found
  user : found.session.userLoggedIn = true
  memory : env.calloc 0 = true ∧ env.calloc 1 = true
  generated : GeneratesHalves env mechanism publicTemplate
  room : 2 ≤ (freeIndices found.slot.objects).length

instance (env : Env) (system : System) (hSession : CkSessionHandle)
    (mechanism : CkMechanismType) (publicTemplate : List CkAttribute) :
    Decidable (∃ found, Generates env system hSession mechanism publicTemplate found) :=
  match session : hsmGetSession system hSession with
  | .error _ => .isFalse (by
      rintro ⟨found, generates⟩
      cases session.symm.trans generates.session)
  | .ok found =>
    decidable_of_iff (found.session.userLoggedIn = true ∧
        (env.calloc 0 = true ∧ env.calloc 1 = true) ∧
        GeneratesHalves env mechanism publicTemplate ∧
        2 ≤ (freeIndices found.slot.objects).length) (by
      constructor
      · exact fun checks => ⟨found, session, checks.1, checks.2.1, checks.2.2.1, checks.2.2.2⟩
      · rintro ⟨other, generates⟩
        obtain rfl := Except.ok.inj (session.symm.trans generates.session)
        exact ⟨generates.user, generates.memory, generates.generated, generates.room⟩)

/-- The checks of `C_SignInit`. -/
structure StartsSigning (system : System) (hSession : CkSessionHandle)
    (mechanism : CkMechanismType) (hKey : CkObjectHandle) (found : FoundSession)
    (key : HsmObject) : Prop where
  session : hsmGetSession system hSession = .ok found
  idle : found.session.operation.active = false
  lookup : ∃ index, hsmGetObject found.slot hKey = .ok (index, key)
  isPrivateKey : key.type = objTypePrivateKey
  permitted : key.canSign = true
  supported : mechanism ∈ supportedMechanisms

/-- The hashing branch: OpenSSL hashes the data, the signature has room, and OpenSSL makes one
if there is a buffer for it. -/
def HashesAndSigns (signer : Signer) (keyData : HsmKeyData) (md : EvpMd) (pss : Bool)
    (data : Bytes) (pSignature : Bool) (signatureLen : CkUlong) : Prop :=
  signer.digestSignInit = true ∧ signer.digestSignUpdate = true ∧
    ∃ size, signer.digestSignSize keyData = some size ∧ size ≤ signatureLen ∧
      (pSignature = true → (signer.digestSignFinal keyData md pss data).isSome = true)

/-- The mechanism is one of the key's type, and OpenSSL signs with it within the room. -/
def MechanismSigns (signer : Signer) (key : HsmObject) (mechanism : CkMechanismType) (data : Bytes)
    (pSignature : Bool) (signatureLen : CkUlong) : Prop :=
  (key.keyType = keyTypeRsa ∧
      ((∃ md pss, rsaDigest mechanism = some (some (md, pss)) ∧
          HashesAndSigns signer key.keyData md pss data pSignature signatureLen) ∨
        (mechanism = ckmRsaPkcs ∧ signer.rsaSize key.keyData ≤ signatureLen ∧
          (signer.rsaPrivateEncrypt key.keyData (cInt data.length) data).isSome = true))) ∨
    (key.keyType = keyTypeEc ∧
      ((∃ md, ecDigest mechanism = some (some md) ∧
          HashesAndSigns signer key.keyData md false data pSignature signatureLen) ∨
        (mechanism = ckmEcdsa ∧
          ∃ signature, signer.ecdsaDoSign key.keyData (cInt data.length) data = some signature ∧
            signature.length ≤ signatureLen)))

/-- The checks of `C_Sign`, those of the signature functions included. -/
structure Signs (env : Env) (system : System) (hSession : CkSessionHandle) (data : Bytes)
    (pSignature : Bool) (signatureLen : CkUlong) (found : FoundSession) (key : HsmObject) :
    Prop where
  session : hsmGetSession system hSession = .ok found
  active : found.session.operation.active = true
  signing : found.session.operation.type = .sign
  lookup : ∃ index, hsmGetObject found.slot found.session.operation.keyHandle = .ok (index, key)
  isPrivateKey : key.type = objTypePrivateKey
  newKey : env.signer.newKey key.keyData = true
  newMdCtx : env.signer.newMdCtx = true
  signed :
    MechanismSigns env.signer key found.session.operation.mechanism data pSignature signatureLen

/-! ## Helper functions -/

/-- The list is what `hsm_check_mechanism_supported` asks for. -/
theorem mechanism_supported_iff (mechanism : CkMechanismType) :
    hsmCheckMechanismSupported mechanism = .ok ↔ mechanism ∈ supportedMechanisms := by
  rw [hsmCheckMechanismSupported]
  split
  · rename_i listed
    exact iff_of_true rfl listed
  · rename_i unlisted
    exact iff_of_false CkRv.noConfusion unlisted

/-- `hsm_verify_pin` accepts the right PIN only. -/
theorem verify_pin_ok_iff (sha256 : Sha256) (slot : HsmSlot) (userType : CkUserType)
    (pin : Bytes) :
    (hsmVerifyPin sha256 slot userType pin).1 = .ok ↔ RightPin sha256 slot userType pin := by
  constructor
  · intro accepted
    obtain ⟨initialized, unlocked, same⟩ := verify_pin_accepts sha256 slot userType pin accepted
    exact ⟨initialized, unlocked, same⟩
  · rintro ⟨initialized, unlocked, same⟩
    rw [verify_pin_right sha256 slot userType pin initialized unlocked same]

/-- One of the three curves is asked for, whatever the template. -/
theorem requested_curve_supported (publicTemplate : List CkAttribute) :
    requestedCurveNid publicTemplate = nidX962Prime256v1 ∨
      requestedCurveNid publicTemplate = nidSecp384r1 ∨
      requestedCurveNid publicTemplate = nidSecp521r1 := by
  rw [requestedCurveNid]
  split
  · exact Or.inl rfl
  · dsimp only
    split
    · exact Or.inl rfl
    · split
      · exact Or.inr (Or.inl rfl)
      · split
        · exact Or.inr (Or.inr rfl)
        · exact Or.inl rfl

/-- An RSA key is generated exactly when its size is one of two and OpenSSL makes it. -/
theorem generate_rsa_ok_iff (env : Env) (keyBits : CkUlong) (pubKey privKey : HsmObject) :
    (hsmGenerateKeyPairRsa env keyBits pubKey privKey).isOk = true ↔
      (keyBits = 2048 ∨ keyBits = 4096) ∧ (env.keygenRsa keyBits).isSome = true := by
  rw [hsmGenerateKeyPairRsa]
  by_cases sized : keyBits = 2048 ∨ keyBits = 4096
  · rw [if_neg fun other => sized.elim other.1 other.2]
    cases made : env.keygenRsa keyBits with
    | none => exact iff_of_false Bool.false_ne_true fun both => Bool.false_ne_true both.2
    | some key => exact iff_of_true rfl ⟨sized, rfl⟩
  · rw [if_pos (not_or.mp sized)]
    exact iff_of_false Bool.false_ne_true fun both => sized both.1

/-- A key on one of the curves is generated exactly when OpenSSL makes it and the parameters of
the curve are copied. -/
theorem generate_ec_ok_iff (env : Env) (curveNid : Nat) (pubKey privKey : HsmObject)
    (supported : curveNid = nidX962Prime256v1 ∨ curveNid = nidSecp384r1 ∨
      curveNid = nidSecp521r1) :
    (hsmGenerateKeyPairEc env curveNid pubKey privKey).isOk = true ↔
      (env.keygenEc curveNid).isSome = true ∧ env.malloc = true := by
  rw [hsmGenerateKeyPairEc, if_neg (by omega)]
  cases made : env.keygenEc curveNid with
  | none => exact iff_of_false Bool.false_ne_true fun both => Bool.false_ne_true both.1
  | some key =>
    have known : ∃ oid, curveOid curveNid = some oid := by
      rcases supported with rfl | rfl | rfl
      · exact ⟨p256Oid, rfl⟩
      · exact ⟨p384Oid, rfl⟩
      · exact ⟨p521Oid, rfl⟩
    obtain ⟨oid, named⟩ := known
    cases allocated : env.malloc with
    | false =>
      simp only [getEcParamsFromNid, named]
      exact iff_of_false Bool.false_ne_true fun both => Bool.false_ne_true both.2
    | true =>
      simp only [getEcParamsFromNid, named]
      exact iff_of_true rfl ⟨rfl, trivial⟩

/-- The generator of the mechanism succeeds exactly under these conditions. -/
theorem generate_halves_ok_iff (env : Env) (mechanism : CkMechanismType)
    (publicTemplate privateTemplate : List CkAttribute) :
    (generateHalves env mechanism publicTemplate privateTemplate).isOk = true ↔
      GeneratesHalves env mechanism publicTemplate := by
  have apart : ckmRsaPkcsKeyPairGen ≠ ckmEcKeyPairGen := by decide
  rw [generateHalves, GeneratesHalves]
  by_cases rsa : mechanism = ckmRsaPkcsKeyPairGen
  · rw [if_pos rsa, generate_rsa_ok_iff]
    constructor
    · exact fun made => Or.inl ⟨rsa, made⟩
    · rintro (⟨-, made⟩ | ⟨ec, -⟩)
      · exact made
      · exact absurd (rsa.symm.trans ec) apart
  · rw [if_neg rsa]
    by_cases ec : mechanism = ckmEcKeyPairGen
    · rw [if_pos ec, generate_ec_ok_iff _ _ _ _ (requested_curve_supported publicTemplate)]
      constructor
      · exact fun made => Or.inr ⟨ec, made⟩
      · rintro (⟨same, -⟩ | ⟨-, made⟩)
        · exact absurd same rsa
        · exact made
    · rw [if_neg ec]
      refine iff_of_false Bool.false_ne_true ?_
      rintro (⟨same, -⟩ | ⟨same, -⟩)
      · exact rsa same
      · exact ec same

section SignData

variable (signer : Signer) (key : HsmObject) (mechanism : CkMechanismType) (data : Bytes)
  (pSignature : Bool) (signatureLen : CkUlong)

/-- The hashing branch succeeds exactly when OpenSSL does and there is room. -/
theorem digest_sign_ok_iff (md : EvpMd) (pss : Bool) :
    (digestSign signer key.keyData md pss data pSignature signatureLen).rv = .ok ↔
      HashesAndSigns signer key.keyData md pss data pSignature signatureLen := by
  rw [digestSign, HashesAndSigns]
  cases started : signer.digestSignInit with
  | false => simp
  | true =>
    cases updated : signer.digestSignUpdate with
    | false => simp
    | true =>
      cases sized : signer.digestSignSize key.keyData with
      | none => simp
      | some size =>
        by_cases short : signatureLen < size
        · simp [short]
        · cases pSignature with
          | false => simp [short, Nat.le_of_not_lt short]
          | true =>
            cases signer.digestSignFinal key.keyData md pss data with
            | none => simp [short]
            | some signature => simp [short, Nat.le_of_not_lt short]

/-- `sign_rsa` succeeds exactly so. -/
theorem sign_rsa_ok_iff :
    (signRsa signer key.keyData mechanism data pSignature signatureLen).rv = .ok ↔
      signer.newKey key.keyData = true ∧ signer.newMdCtx = true ∧
        ((∃ md pss, rsaDigest mechanism = some (some (md, pss)) ∧
            HashesAndSigns signer key.keyData md pss data pSignature signatureLen) ∨
          (rsaDigest mechanism = some none ∧ signer.rsaSize key.keyData ≤ signatureLen ∧
            (signer.rsaPrivateEncrypt key.keyData (cInt data.length) data).isSome = true)) := by
  rw [signRsa]
  cases usable : signer.newKey key.keyData with
  | false => simp
  | true =>
    cases selected : rsaDigest mechanism with
    | none => simp
    | some digest =>
      cases context : signer.newMdCtx with
      | false => simp
      | true =>
        cases digest with
        | some hashed =>
          obtain ⟨md, pss⟩ := hashed
          have signed := digest_sign_ok_iff signer key data pSignature signatureLen md pss
          simp only [Bool.not_true, Bool.false_eq_true, if_false, signed, true_and]
          constructor
          · exact fun hashes => Or.inl ⟨md, pss, rfl, hashes⟩
          · rintro (⟨_, _, ⟨⟩, hashes⟩ | ⟨raw, -⟩)
            · exact hashes
            · cases raw
        | none =>
          by_cases short : signatureLen < signer.rsaSize key.keyData
          · simp [short]
          · cases signer.rsaPrivateEncrypt key.keyData (cInt data.length) data with
            | none => simp [short]
            | some signature => simp [short, Nat.le_of_not_lt short]

/-- `sign_ec` succeeds exactly so. -/
theorem sign_ec_ok_iff :
    (signEc signer key.keyData mechanism data pSignature signatureLen).rv = .ok ↔
      signer.newKey key.keyData = true ∧ signer.newMdCtx = true ∧
        ((∃ md, ecDigest mechanism = some (some md) ∧
            HashesAndSigns signer key.keyData md false data pSignature signatureLen) ∨
          (ecDigest mechanism = some none ∧
            ∃ signature, signer.ecdsaDoSign key.keyData (cInt data.length) data = some signature ∧
              signature.length ≤ signatureLen)) := by
  rw [signEc]
  cases usable : signer.newKey key.keyData with
  | false => simp
  | true =>
    cases selected : ecDigest mechanism with
    | none => simp
    | some digest =>
      cases context : signer.newMdCtx with
      | false => simp
      | true =>
        cases digest with
        | some md => simp [digest_sign_ok_iff]
        | none =>
          cases signer.ecdsaDoSign key.keyData (cInt data.length) data with
          | none => simp
          | some signature =>
            by_cases short : signatureLen < signature.length
            · simp [short]
            · simp [short, Nat.le_of_not_lt short]

/-- Only the raw mechanism of each family has no hash. -/
theorem raw_mechanism_iff :
    (rsaDigest mechanism = some none ↔ mechanism = ckmRsaPkcs) ∧
      (ecDigest mechanism = some none ↔ mechanism = ckmEcdsa) := by
  constructor
  · rw [rsaDigest]
    repeat' split
    all_goals simp_all
    all_goals decide
  · rw [ecDigest]
    repeat' split
    all_goals simp_all
    all_goals decide

/-- `hsm_sign_data` succeeds exactly with a private key whose type has the mechanism, when
OpenSSL signs and there is room. -/
theorem sign_data_ok_iff :
    (hsmSignData signer key mechanism data pSignature signatureLen).rv = .ok ↔
      key.type = objTypePrivateKey ∧ signer.newKey key.keyData = true ∧
        signer.newMdCtx = true ∧
        MechanismSigns signer key mechanism data pSignature signatureLen := by
  have apart : keyTypeRsa ≠ keyTypeEc := by decide
  obtain ⟨rawRsa, rawEc⟩ := raw_mechanism_iff mechanism
  rw [hsmSignData, MechanismSigns, ← rawRsa, ← rawEc]
  by_cases isPrivateKey : key.type = objTypePrivateKey
  · rw [if_neg (not_not_intro isPrivateKey)]
    by_cases rsa : key.keyType = keyTypeRsa
    · have notEc : key.keyType ≠ keyTypeEc := fun ec => apart (rsa.symm.trans ec)
      rw [if_pos rsa, sign_rsa_ok_iff]
      simp only [isPrivateKey, rsa, true_and, apart, false_and, or_false]
    · rw [if_neg rsa]
      by_cases ec : key.keyType = keyTypeEc
      · rw [if_pos ec, sign_ec_ok_iff]
        simp only [isPrivateKey, ec, true_and, Ne.symm apart, false_and, false_or]
      · simp [ec, rsa]
  · simp [isPrivateKey]

end SignData

/-! ## Exactness -/

section Calls

variable (sha256 : Sha256) (env : Env) (system : System) (hSession : CkSessionHandle)

/-- `C_InitPIN` succeeds exactly when its checks pass. -/
theorem init_pin_ok_iff (pin : Bytes) :
    (cInitPIN sha256 env system hSession (some pin)).1 = .ok ↔
      ∃ found, SetsUserPin system hSession pin found := by
  constructor
  · intro accepted
    rcases init_pin_cases sha256 env system hSession (some pin) with
      ⟨rv, failed, same⟩ | ⟨pin', found, ⟨⟩, session, officer, longEnough, shortEnough, -⟩
    · rw [same] at accepted
      exact absurd accepted failed
    · exact ⟨found, session, officer, longEnough, shortEnough⟩
  · rintro ⟨found, session, officer, longEnough, shortEnough⟩
    have admissible : ¬ (pin.length < hsmMinPinLen || pin.length > hsmMaxPinLen) = true := by
      simp only [Bool.or_eq_true, decide_eq_true_eq, not_or, not_lt]
      exact ⟨longEnough, shortEnough⟩
    simp [cInitPIN, admissible, session, officer,
      set_pin_admissible sha256 found.slot ckuUser pin longEnough shortEnough]

/-- `C_SetPIN` succeeds exactly when its checks pass, those of `hsm_verify_pin` included. -/
theorem set_pin_ok_iff (oldPin newPin : Bytes) :
    (cSetPIN sha256 env system hSession (some oldPin) (some newPin)).1 = .ok ↔
      ∃ found, ChangesPin system hSession newPin found ∧
        RightPin sha256 found.slot found.session.pinOwner oldPin := by
  simp only [← verify_pin_ok_iff]
  constructor
  · intro accepted
    rcases set_pin_cases sha256 env system hSession (some oldPin) (some newPin) with
      ⟨rv, failed, same⟩ | ⟨old, new, found, ⟨⟩, ⟨⟩, changes, outcome⟩
    · rw [same] at accepted
      exact absurd accepted failed
    · rcases outcome with ⟨rv, failed, -, same⟩ | ⟨verified, -⟩
      · rw [same] at accepted
        exact absurd accepted failed
      · exact ⟨found, changes, verified⟩
  · rintro ⟨found, changes, verified⟩
    have someone : ¬ (!found.session.userLoggedIn && !found.session.soLoggedIn) = true := by
      rcases changes.loggedIn with user | officer
      · simp [user]
      · simp [officer]
    rw [set_pin_replaces sha256 env system hSession oldPin newPin found changes.session
      changes.longEnough changes.shortEnough someone verified]

/-- `C_SignInit` succeeds exactly when its checks pass. -/
theorem sign_init_ok_iff (mechanism : CkMechanismType) (hKey : CkObjectHandle) :
    (cSignInit system hSession (some mechanism) hKey).1 = .ok ↔
      ∃ found key, StartsSigning system hSession mechanism hKey found key := by
  have listed := mechanism_supported_iff mechanism
  constructor
  · intro accepted
    cases session : hsmGetSession system hSession with
    | error rv =>
      simp only [cSignInit, session] at accepted
      exact absurd accepted (get_session_refused system hSession rv session)
    | ok found =>
      cases idle : found.session.operation.active with
      | true => simp [cSignInit, session, idle] at accepted
      | false =>
        cases lookup : hsmGetObject found.slot hKey with
        | error rv =>
          obtain rfl := get_object_error found.slot hKey rv lookup
          simp [cSignInit, session, idle, lookup] at accepted
        | ok pair =>
          obtain ⟨index, key⟩ := pair
          by_cases isPrivateKey : key.type = objTypePrivateKey
          · cases permitted : key.canSign with
            | false => simp [cSignInit, session, idle, lookup, isPrivateKey, permitted] at accepted
            | true =>
              refine ⟨found, key, session, idle, ⟨index, lookup⟩, isPrivateKey, permitted, ?_⟩
              rw [← listed]
              by_contra unsupported
              simp [cSignInit, session, idle, lookup, isPrivateKey, permitted, unsupported]
                at accepted
          · simp [cSignInit, session, idle, lookup, isPrivateKey] at accepted
  · rintro ⟨found, key, session, idle, ⟨index, lookup⟩, isPrivateKey, permitted, supported⟩
    simp [cSignInit, session, idle, lookup, isPrivateKey, permitted, listed.mpr supported]

/-- `C_Sign` succeeds exactly when its checks pass, those of the signature functions included. -/
theorem sign_ok_iff (data : Bytes) (pSignature : Bool) (signatureLen : CkUlong) :
    (cSign env system hSession (some data) pSignature (some signatureLen)).1 = .ok ↔
      ∃ found key, Signs env system hSession data pSignature signatureLen found key := by
  constructor
  · intro accepted
    cases session : hsmGetSession system hSession with
    | error rv =>
      simp only [cSign, session] at accepted
      exact absurd accepted (get_session_refused system hSession rv session)
    | ok found =>
      by_cases started : (!found.session.operation.active ||
          decide (found.session.operation.type ≠ .sign)) = true
      · simp only [cSign, session, if_pos started] at accepted
        cases accepted
      · obtain ⟨active, signing⟩ : found.session.operation.active = true ∧
            found.session.operation.type = .sign := by simpa using started
        cases lookup : hsmGetObject found.slot found.session.operation.keyHandle with
        | error rv =>
          obtain rfl := get_object_error found.slot _ rv lookup
          simp only [cSign, session, if_neg started, lookup] at accepted
          cases accepted
        | ok pair =>
          obtain ⟨index, key⟩ := pair
          simp only [cSign, session, if_neg started, lookup] at accepted
          obtain ⟨isPrivateKey, newKey, newMdCtx, signed⟩ :=
            (sign_data_ok_iff _ _ _ _ _ _).mp accepted
          exact ⟨found, key, session, active, signing, ⟨index, lookup⟩, isPrivateKey, newKey,
            newMdCtx, signed⟩
  · rintro ⟨found, key, session, active, signing, ⟨index, lookup⟩, isPrivateKey, newKey, newMdCtx,
      signed⟩
    have accepted := (sign_data_ok_iff env.signer key found.session.operation.mechanism data
      pSignature signatureLen).mpr ⟨isPrivateKey, newKey, newMdCtx, signed⟩
    simp [cSign, session, active, signing, lookup, accepted]

/-- A creation that succeeds passed its checks. -/
theorem create_object_checked (template : List CkAttribute)
    (accepted : (cCreateObject env system hSession (some template) true).1 = .ok) :
    ∃ found, Creates env system hSession found := by
  rcases create_object_cases env system hSession (some template) true with
    ⟨rv, failed, same⟩ | ⟨parsed, found, index, ⟨⟩, -, session, room, free, same⟩
  · rw [same] at accepted
    exact absurd accepted failed
  · refine ⟨found, session, room, ?_⟩
    by_contra memory
    have lacking : (!env.calloc 0) = true := by simpa using memory
    simp only [cCreateObject, session, hsmCreateObject, if_neg (Nat.not_le_of_lt room), free,
      if_pos lacking] at accepted
    cases accepted

/-- A pair is inserted exactly when two entries are free. -/
theorem insert_key_pair_ok_iff (context : HsmContext) (pubObj privObj : HsmObject) :
    (insertKeyPair env system context pubObj privObj).1 = .ok ↔
      2 ≤ (freeIndices context.slot.objects).length := by
  unfold insertKeyPair
  simp only
  split
  · rename_i pubIdx privIdx rest free
    rw [free]
    exact iff_of_true rfl (Nat.le_add_left 2 rest.length)
  · rename_i short
    refine iff_of_false CkRv.noConfusion ?_
    intro room
    cases free : freeIndices context.slot.objects with
    | nil =>
      rw [free] at room
      exact absurd room (by decide)
    | cons pubIdx others =>
      cases others with
      | nil =>
        rw [free] at room
        exact absurd room (by simp)
      | cons privIdx rest => exact absurd free (short pubIdx privIdx rest)

/-- `C_GenerateKeyPair` succeeds exactly when its checks pass. -/
theorem generate_key_pair_ok_iff (mechanism : CkMechanismType)
    (publicTemplate privateTemplate : List CkAttribute) :
    (cGenerateKeyPair env system hSession (some mechanism) publicTemplate privateTemplate true
        true).1 = .ok ↔
      ∃ found, Generates env system hSession mechanism publicTemplate found := by
  have halvesMade := generate_halves_ok_iff env mechanism publicTemplate privateTemplate
  constructor
  · intro accepted
    rcases generate_key_pair_cases env system hSession (some mechanism) publicTemplate
        privateTemplate true true with
      ⟨rv, failed, same⟩ | ⟨mechanism', found, pubObj, privObj, pubIdx, privIdx, rest, ⟨⟩, -, -,
        session, user, generated, free, -⟩
    · rw [same] at accepted
      exact absurd accepted failed
    · refine ⟨found, session, user, ?_, ?_, ?_⟩
      · by_contra memory
        have lacking : (!env.calloc 0 || !env.calloc 1) = true := by
          by_contra enough
          exact memory (by simpa using enough)
        simp [cGenerateKeyPair, session, user, lacking] at accepted
      · rw [← halvesMade, generated]
        rfl
      · rw [free]
        exact Nat.le_add_left 2 rest.length
  · rintro ⟨found, session, user, ⟨memory, memory'⟩, generated, room⟩
    cases halves : generateHalves env mechanism publicTemplate privateTemplate with
    | error rv =>
      rw [halves] at halvesMade
      exact absurd (halvesMade.mpr generated) Bool.false_ne_true
    | ok pair =>
      obtain ⟨pubObj, privObj⟩ := pair
      have inserted : cGenerateKeyPair env system hSession (some mechanism) publicTemplate
          privateTemplate true true = insertKeyPair env system found.context pubObj privObj := by
        simp [cGenerateKeyPair, session, user, memory, memory', halves]
      rw [inserted]
      exact (insert_key_pair_ok_iff env system found.context pubObj privObj).mpr room

end Calls

end PstHsm
