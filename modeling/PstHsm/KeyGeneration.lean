import PstHsm.Objects

/-!
# Key pair generation

`C_GenerateKeyPair` with the two generators of the crypto module. The login check
comes first, then both halves are built outside any lock, and one section inserts
them and writes their files. Any failing OpenSSL step is one failed generation; the parameters
of a curve are copied after it, for which memory can be missing.
-/

namespace PstHsm

open Tables

/-! ## Curves -/

def nidUndef : Nat := 0
def nidX962Prime256v1 : Nat := 415
def nidSecp384r1 : Nat := 715
def nidSecp521r1 : Nat := 716

def p256Oid : Bytes := [0x06, 0x08, 0x2a, 0x86, 0x48, 0xce, 0x3d, 0x03, 0x01, 0x07]
def p384Oid : Bytes := [0x06, 0x05, 0x2b, 0x81, 0x04, 0x00, 0x22]
def p521Oid : Bytes := [0x06, 0x05, 0x2b, 0x81, 0x04, 0x00, 0x23]

/-- `get_curve_nid_from_params`, which nothing calls. -/
def getCurveNidFromParams (params : Bytes) : Nat :=
  if params = p256Oid then nidX962Prime256v1
  else if params = p384Oid then nidSecp384r1
  else if params = p521Oid then nidSecp521r1
  else nidUndef

/-- The switch of `get_ec_params_from_nid`. -/
def curveOid (nid : Nat) : Option Bytes :=
  if nid = nidX962Prime256v1 then some p256Oid
  else if nid = nidSecp384r1 then some p384Oid
  else if nid = nidSecp521r1 then some p521Oid
  else none

/-- `get_ec_params_from_nid`: a copy of the curve's identifier in memory of its own. -/
def getEcParamsFromNid (malloc : Bool) (nid : Nat) : Except CkRv Bytes :=
  match curveOid nid with
  | none => .error .domainParamsInvalid
  | some oid => if malloc then .ok oid else .error .hostMemory

/-! ## Generators -/

/-- `hsm_generate_key_pair_rsa`. -/
def hsmGenerateKeyPairRsa (env : Env) (keyBits : CkUlong) (pubKey privKey : HsmObject) :
    Except CkRv (HsmObject × HsmObject) :=
  if keyBits ≠ 2048 ∧ keyBits ≠ 4096 then .error .keySizeRange
  else
    match env.keygenRsa keyBits with
    | none => .error .functionFailed
    | some key =>
      let publicPart : HsmRsaKey :=
        { pubKey.keyData.rsa with bits := keyBits, modulus := key.n, publicExponent := key.e }
      let privatePart : HsmRsaKey :=
        { bits := keyBits
          modulus := key.n
          publicExponent := key.e
          privateExponent := key.d
          prime1 := key.p
          prime2 := key.q
          exponent1 := key.dmp1
          exponent2 := key.dmq1
          coefficient := key.iqmp }
      .ok ({ pubKey with
          keyType := keyTypeRsa
          keyData := { pubKey.keyData with rsa := publicPart } },
        { privKey with
          keyType := keyTypeRsa
          keyData := { privKey.keyData with rsa := privatePart } })

/-- `hsm_generate_key_pair_ec`. -/
def hsmGenerateKeyPairEc (env : Env) (curveNid : Nat) (pubKey privKey : HsmObject) :
    Except CkRv (HsmObject × HsmObject) :=
  if curveNid ≠ nidX962Prime256v1 ∧ curveNid ≠ nidSecp384r1 ∧ curveNid ≠ nidSecp521r1 then
    .error .domainParamsInvalid
  else
    match env.keygenEc curveNid with
    | none => .error .functionFailed
    | some key =>
      match getEcParamsFromNid env.malloc curveNid with
      | .error rv => .error rv
      | .ok ecParams =>
        let publicPart : HsmEcKey :=
          { curveNid := curveNid, ecParams := ecParams, ecPoint := key.point, ecPrivate := [] }
        let privatePart : HsmEcKey :=
          { curveNid := curveNid, ecParams := ecParams, ecPoint := key.point,
            ecPrivate := key.priv }
        .ok ({ pubKey with
            keyType := keyTypeEc
            keyData := { pubKey.keyData with ec := publicPart } },
          { privKey with
            keyType := keyTypeEc
            keyData := { privKey.keyData with ec := privatePart } })

/-! ## The two halves -/

/-- The public half before its template is parsed. -/
def initialPublicKey : HsmObject :=
  { type := objTypePublicKey, isExtractable := true, canVerify := true }

/-- The private half before its template is parsed. -/
def initialPrivateKey : HsmObject :=
  { type := objTypePrivateKey, isPrivate := true, isSensitive := true, canSign := true }

/-- The first `CKA_MODULUS_BITS` entry, or 2048. -/
def requestedModulusBits (pPublicKeyTemplate : List CkAttribute) : CkUlong :=
  match pPublicKeyTemplate.find? (fun entry => entry.type = ckaModulusBits) with
  | none => 2048
  | some entry => entry.readUlong

/-- The first `CKA_EC_PARAMS` entry selects the curve; an unknown value keeps
P-256. -/
def requestedCurveNid (pPublicKeyTemplate : List CkAttribute) : Nat :=
  match pPublicKeyTemplate.find? (fun entry => entry.type = ckaEcParams) with
  | none => nidX962Prime256v1
  | some entry =>
    let params := entry.read entry.ulValueLen
    if params = p256Oid then nidX962Prime256v1
    else if params = p384Oid then nidSecp384r1
    else if params = p521Oid then nidSecp521r1
    else nidX962Prime256v1

/-- Parse both templates and run the generator of the mechanism. -/
def generateHalves (env : Env) (mechanism : CkMechanismType)
    (pPublicKeyTemplate pPrivateKeyTemplate : List CkAttribute) :
    Except CkRv (HsmObject × HsmObject) :=
  let pubObj := hsmParseTemplate pPublicKeyTemplate initialPublicKey
  let privObj := hsmParseTemplate pPrivateKeyTemplate initialPrivateKey
  if mechanism = ckmRsaPkcsKeyPairGen then
    hsmGenerateKeyPairRsa env (requestedModulusBits pPublicKeyTemplate) pubObj privObj
  else if mechanism = ckmEcKeyPairGen then
    hsmGenerateKeyPairEc env (requestedCurveNid pPublicKeyTemplate) pubObj privObj
  else .error .mechanismInvalid

/-- The section that adds both halves to the slot. Their handles use the bases of
a public and a private key whatever class the templates gave. -/
def insertKeyPair (env : Env) (system : System) (context : HsmContext)
    (pubObj privObj : HsmObject) :
    CkRv × Option (CkObjectHandle × CkObjectHandle) × System :=
  let slot := context.slot
  match freeIndices slot.objects with
  | pubIdx :: privIdx :: _ =>
    let counter := system.handleCounter
    let pubObj := { pubObj with handle := hsmGenerateObjectHandle objTypePublicKey counter }
    let privObj := { privObj with
      handle := hsmGenerateObjectHandle objTypePrivateKey (advanceCounter counter) }
    let slot := { slot with
      objects := put (put slot.objects pubIdx (some pubObj)) privIdx (some privObj)
      objectCount := slot.objectCount + 2 }
    let storage := (hsmStorageSaveObject pubObj (env.objectWrite 0) system.storage).2
    let storage := (hsmStorageSaveObject privObj (env.objectWrite 1) storage).2
    (.ok, some (pubObj.handle, privObj.handle),
      { system.withSlot context slot with
        handleCounter := advanceCounter (advanceCounter counter)
        storage := storage })
  | _ => (.hostMemory, none, system)

/-- `C_GenerateKeyPair`. -/
def cGenerateKeyPair (env : Env) (system : System) (hSession : CkSessionHandle)
    (pMechanism : Option CkMechanismType)
    (pPublicKeyTemplate pPrivateKeyTemplate : List CkAttribute)
    (phPublicKey phPrivateKey : Bool) :
    CkRv × Option (CkObjectHandle × CkObjectHandle) × System :=
  match pMechanism, phPublicKey, phPrivateKey with
  | some mechanism, true, true =>
    match hsmGetSession system hSession with
    | .error rv => (rv, none, system)
    | .ok found =>
      if !found.session.userLoggedIn then (.userNotLoggedIn, none, system)
      else if !env.calloc 0 || !env.calloc 1 then (.hostMemory, none, system)
      else
        match generateHalves env mechanism pPublicKeyTemplate pPrivateKeyTemplate with
        | .error rv => (rv, none, system)
        | .ok (pubObj, privObj) => insertKeyPair env system found.context pubObj privObj
  | _, _, _ => (.argumentsBad, none, system)

end PstHsm
