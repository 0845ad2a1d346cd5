import PstHsm.Objects

/-!
# Signing and verifying

Each session has one operation. `C_SignInit` and `C_VerifyInit` fill it after
checking the key; `C_Sign` and `C_Verify` look the key up again by handle, and
clear the operation whether or not the cryptography succeeds. OpenSSL is a set
of functions supplied with the call.
-/

namespace PstHsm

open Tables

/-! ## Mechanisms -/

def supportedMechanisms : List CkMechanismType :=
  [ckmRsaPkcsKeyPairGen, ckmRsaPkcs, ckmRsaPkcsPss, ckmSha256RsaPkcs, ckmSha384RsaPkcs,
    ckmSha512RsaPkcs, ckmSha256RsaPkcsPss, ckmSha384RsaPkcsPss, ckmSha512RsaPkcsPss,
    ckmEcKeyPairGen, ckmEcdsa, ckmEcdsaSha256, ckmEcdsaSha384, ckmEcdsaSha512,
    ckmSha256, ckmSha384, ckmSha512]

/-- `hsm_check_mechanism_supported`. -/
def hsmCheckMechanismSupported (mechanism : CkMechanismType) : CkRv :=
  if mechanism ∈ supportedMechanisms then .ok else .mechanismInvalid

/-! ## Producing a signature -/

/-- A conversion of a 64-bit length to `int`. -/
def cInt (length : Nat) : Int :=
  if length % 2 ^ 32 < 2 ^ 31 then (length % 2 ^ 32 : Nat)
  else (length % 2 ^ 32 : Nat) - 2 ^ 32

theorem c_int_negative_iff (length : Nat) : cInt length < 0 ↔ 2 ^ 31 ≤ length % 2 ^ 32 := by
  rw [cInt]
  split
  · omega
  · omega

/-- A conversion that is not negative is the low half of the number. -/
theorem c_int_low (length : Nat) (positive : ¬ cInt length < 0) :
    (cInt length).toNat = length % 2 ^ 32 := by
  rw [c_int_negative_iff] at positive
  rw [cInt, if_pos (by omega), Int.toNat_natCast]

/-- The return value, the bytes written to the signature buffer and the length
left behind the length pointer. -/
structure SignResult where
  rv : CkRv
  signature : Option Bytes
  signatureLen : CkUlong
  deriving DecidableEq

/-- The hashing branch that `sign_rsa` and `sign_ec` share. With a null buffer the
last OpenSSL call reports the size and writes nothing. -/
def digestSign (signer : Signer) (keyData : HsmKeyData) (md : EvpMd) (pss : Bool) (data : Bytes)
    (pSignature : Bool) (signatureLen : CkUlong) : SignResult :=
  if !signer.digestSignInit || !signer.digestSignUpdate then
    ⟨.functionFailed, none, signatureLen⟩
  else
    match signer.digestSignSize keyData with
    | none => ⟨.functionFailed, none, signatureLen⟩
    | some size =>
      if signatureLen < size then ⟨.bufferTooSmall, none, size⟩
      else if !pSignature then ⟨.ok, none, size⟩
      else
        match signer.digestSignFinal keyData md pss data with
        | none => ⟨.functionFailed, none, signatureLen⟩
        | some signature => ⟨.ok, some signature, signature.length⟩

/-- The hash and padding a mechanism selects in `sign_rsa`; the raw mechanism has
no hash. -/
def rsaDigest (mechanism : CkMechanismType) : Option (Option (EvpMd × Bool)) :=
  if mechanism = ckmSha256RsaPkcs then some (some (.sha256, false))
  else if mechanism = ckmSha256RsaPkcsPss then some (some (.sha256, true))
  else if mechanism = ckmSha384RsaPkcs then some (some (.sha384, false))
  else if mechanism = ckmSha384RsaPkcsPss then some (some (.sha384, true))
  else if mechanism = ckmSha512RsaPkcs then some (some (.sha512, false))
  else if mechanism = ckmSha512RsaPkcsPss then some (some (.sha512, true))
  else if mechanism = ckmRsaPkcs then some none
  else none

/-- `sign_rsa`. -/
def signRsa (signer : Signer) (keyData : HsmKeyData) (mechanism : CkMechanismType)
    (data : Bytes) (pSignature : Bool) (signatureLen : CkUlong) : SignResult :=
  if !signer.newKey keyData then ⟨.functionFailed, none, signatureLen⟩
  else
    match rsaDigest mechanism with
    | none => ⟨.mechanismInvalid, none, signatureLen⟩
    | some digest =>
      if !signer.newMdCtx then ⟨.functionFailed, none, signatureLen⟩
      else
        match digest with
        | some (md, pss) =>
          digestSign signer keyData md pss data pSignature signatureLen
        | none =>
          if signatureLen < signer.rsaSize keyData then
            ⟨.bufferTooSmall, none, signer.rsaSize keyData⟩
          else
            match signer.rsaPrivateEncrypt keyData (cInt data.length) data with
            | none => ⟨.functionFailed, none, signatureLen⟩
            | some signature => ⟨.ok, some signature, signature.length⟩

/-- The hash a mechanism selects in `sign_ec`. -/
def ecDigest (mechanism : CkMechanismType) : Option (Option EvpMd) :=
  if mechanism = ckmEcdsaSha256 then some (some .sha256)
  else if mechanism = ckmEcdsaSha384 then some (some .sha384)
  else if mechanism = ckmEcdsaSha512 then some (some .sha512)
  else if mechanism = ckmEcdsa then some none
  else none

/-- `sign_ec`. -/
def signEc (signer : Signer) (keyData : HsmKeyData) (mechanism : CkMechanismType)
    (data : Bytes) (pSignature : Bool) (signatureLen : CkUlong) : SignResult :=
  if !signer.newKey keyData then ⟨.functionFailed, none, signatureLen⟩
  else
    match ecDigest mechanism with
    | none => ⟨.mechanismInvalid, none, signatureLen⟩
    | some digest =>
      if !signer.newMdCtx then ⟨.functionFailed, none, signatureLen⟩
      else
        match digest with
        | some md => digestSign signer keyData md false data pSignature signatureLen
        | none =>
          match signer.ecdsaDoSign keyData (cInt data.length) data with
          | none => ⟨.functionFailed, none, signatureLen⟩
          | some signature =>
            if signatureLen < signature.length then
              ⟨.bufferTooSmall, none, signature.length⟩
            else ⟨.ok, if pSignature then some signature else none, signature.length⟩

/-- `hsm_sign_data`. -/
def hsmSignData (signer : Signer) (privKey : HsmObject) (mechanism : CkMechanismType)
    (data : Bytes) (pSignature : Bool) (signatureLen : CkUlong) : SignResult :=
  if privKey.type ≠ objTypePrivateKey then ⟨.keyTypeInconsistent, none, signatureLen⟩
  else if privKey.keyType = keyTypeRsa then
    signRsa signer privKey.keyData mechanism data pSignature signatureLen
  else if privKey.keyType = keyTypeEc then
    signEc signer privKey.keyData mechanism data pSignature signatureLen
  else ⟨.keyTypeInconsistent, none, signatureLen⟩

/-- `hsm_verify_signature`. -/
def hsmVerifySignature : CkRv := .functionNotSupported

/-! ## Entry points -/

/-- `C_SignInit`. -/
def cSignInit (system : System) (hSession : CkSessionHandle)
    (pMechanism : Option CkMechanismType) (hKey : CkObjectHandle) : CkRv × System :=
  match pMechanism with
  | none => (.argumentsBad, system)
  | some mechanism =>
    match hsmGetSession system hSession with
    | .error rv => (rv, system)
    | .ok found =>
      if found.session.operation.active then (.operationActive, system)
      else
        match hsmGetObject found.slot hKey with
        | .error rv => (rv, system)
        | .ok (_, key) =>
          if key.type ≠ objTypePrivateKey then (.keyTypeInconsistent, system)
          else if !key.canSign then (.keyFunctionNotPermitted, system)
          else if hsmCheckMechanismSupported mechanism ≠ .ok then (.mechanismInvalid, system)
          else (.ok, system.withSession found { found.session with
            operation :=
              { type := .sign, mechanism := mechanism, keyHandle := hKey, active := true } })

/-- `C_VerifyInit`. -/
def cVerifyInit (system : System) (hSession : CkSessionHandle)
    (pMechanism : Option CkMechanismType) (hKey : CkObjectHandle) : CkRv × System :=
  match pMechanism with
  | none => (.argumentsBad, system)
  | some mechanism =>
    match hsmGetSession system hSession with
    | .error rv => (rv, system)
    | .ok found =>
      if found.session.operation.active then (.operationActive, system)
      else
        match hsmGetObject found.slot hKey with
        | .error rv => (rv, system)
        | .ok (_, key) =>
          if key.type ≠ objTypePublicKey then (.keyTypeInconsistent, system)
          else (.ok, system.withSession found { found.session with
            operation :=
              { type := .verify, mechanism := mechanism, keyHandle := hKey, active := true } })

/-- The session whose key lookup failed. -/
def HsmSession.operationDropped (session : HsmSession) : HsmSession :=
  { session with operation := { session.operation with active := false } }

/-- The session after its operation ran. -/
def HsmSession.operationCleared (session : HsmSession) : HsmSession :=
  { session with operation := { session.operation with active := false, type := .none } }

/-- `C_Sign`. The second component is the signature and the length reported
behind the caller's pointers. -/
def cSign (env : Env) (system : System) (hSession : CkSessionHandle) (pData : Option Bytes)
    (pSignature : Bool) (pulSignatureLen : Option CkUlong) :
    CkRv × Option (Option Bytes × CkUlong) × System :=
  match pData, pulSignatureLen with
  | some data, some signatureLen =>
    match hsmGetSession system hSession with
    | .error rv => (rv, some (none, signatureLen), system)
    | .ok found =>
      let operation := found.session.operation
      if !operation.active || operation.type ≠ .sign then
        (.operationNotInitialized, some (none, signatureLen), system)
      else
        match hsmGetObject found.slot operation.keyHandle with
        | .error rv =>
          (rv, some (none, signatureLen),
            system.withSession found found.session.operationDropped)
        | .ok (_, privKey) =>
          let result :=
            hsmSignData env.signer privKey operation.mechanism data pSignature signatureLen
          (result.rv, some (result.signature, result.signatureLen),
            system.withSession found found.session.operationCleared)
  | _, _ => (.argumentsBad, none, system)

/-- `C_Verify`. -/
def cVerify (system : System) (hSession : CkSessionHandle) (pData pSignature : Option Bytes) :
    CkRv × System :=
  match pData, pSignature with
  | some _, some _ =>
    match hsmGetSession system hSession with
    | .error rv => (rv, system)
    | .ok found =>
      let operation := found.session.operation
      if !operation.active || operation.type ≠ .verify then (.operationNotInitialized, system)
      else
        match hsmGetObject found.slot operation.keyHandle with
        | .error rv => (rv, system.withSession found found.session.operationDropped)
        | .ok _ => (hsmVerifySignature, system.withSession found found.session.operationCleared)
  | _, _ => (.argumentsBad, system)

/-- `C_GenerateRandom`. The length is narrowed to the `int` that `RAND_bytes`
takes. -/
def cGenerateRandom (env : Env) (system : System) (hSession : CkSessionHandle)
    (randomData : Bool) (ulRandomLen : CkUlong) : CkRv × Option Bytes :=
  if !randomData then (.argumentsBad, none)
  else
    match hsmGetSession system hSession with
    | .error rv => (rv, none)
    | .ok _ =>
      match env.randBytes (cInt ulRandomLen) with
      | none => (.randomNoRng, none)
      | some bytes => (.ok, some bytes)

end PstHsm
