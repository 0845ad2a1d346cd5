import Mathlib.Data.Nat.Size
import PstHsm.KeyPairTemplates

/-!
# The parameters of a key pair

The size of an RSA key and the curve of an EC key are looked up in the public template:
the first entry of the right type counts, an unknown curve becomes P-256, and nobody
looks for a public exponent. What is stored is compared with everything the template
asks for. OpenSSL is assumed to generate keys of the size it is asked for, with the
exponent 65537.
-/

namespace PstHsm

/-! ## Curves -/

def knownCurves : List Bytes := [p256Oid, p384Oid, p521Oid]

/-- The two tables of curves are inverse to each other. -/
theorem curve_of_params (oid : Bytes) (known : oid ∈ knownCurves) :
    curveOid (getCurveNidFromParams oid) = some oid := by
  simp only [knownCurves, List.mem_cons, List.not_mem_nil, or_false] at known
  rcases known with rfl | rfl | rfl
  · rfl
  · rfl
  · rfl

/-- The parameters copied are those of the curve. -/
theorem ec_params_copied (malloc : Bool) (nid : Nat) (params : Bytes)
    (copied : getEcParamsFromNid malloc nid = .ok params) : curveOid nid = some params := by
  unfold getEcParamsFromNid at copied
  split at copied
  · cases copied
  · rename_i oid named
    split at copied
    · cases copied
      exact named
    · cases copied

theorem params_of_curve (malloc : Bool) (nid : Nat) (params : Bytes)
    (copied : getEcParamsFromNid malloc nid = .ok params) :
    params ∈ knownCurves ∧ getCurveNidFromParams params = nid := by
  have stored := ec_params_copied malloc nid params copied
  rw [curveOid] at stored
  split at stored
  · rename_i named
    cases stored
    exact ⟨by simp [knownCurves], named.symm⟩
  · split at stored
    · rename_i named
      cases stored
      exact ⟨by simp [knownCurves], named.symm⟩
    · split at stored
      · rename_i named
        cases stored
        exact ⟨by simp [knownCurves], named.symm⟩
      · cases stored

/-- A first entry with a known curve selects that curve. -/
theorem requested_curve_known (pTemplate : List CkAttribute) (entry : CkAttribute) (oid : Bytes)
    (first : pTemplate.find? (fun tested => tested.type = ckaEcParams) = some entry)
    (holds : entry.read entry.ulValueLen = oid) (known : oid ∈ knownCurves) :
    requestedCurveNid pTemplate = getCurveNidFromParams oid := by
  simp only [requestedCurveNid, first, holds]
  simp only [knownCurves, List.mem_cons, List.not_mem_nil, or_false] at known
  rcases known with rfl | rfl | rfl
  · rfl
  · rfl
  · rfl

/-! ## What the generators store -/

section Generators

variable (env : Env) (publicTemplate privateTemplate : List CkAttribute)
  (pubObj privObj : HsmObject)

theorem generate_halves_rsa
    (generated : generateHalves env ckmRsaPkcsKeyPairGen publicTemplate privateTemplate =
      .ok (pubObj, privObj)) :
    ∃ key, env.keygenRsa (requestedModulusBits publicTemplate) = some key ∧
      pubObj.keyData.rsa.modulus = key.n ∧ privObj.keyData.rsa.modulus = key.n ∧
      pubObj.keyData.rsa.publicExponent = key.e ∧ privObj.keyData.rsa.publicExponent = key.e := by
  cases generate_halves_made env _ publicTemplate privateTemplate _ _ generated with
  | rsa key isRsa keygen => exact ⟨key, keygen, rfl, rfl, rfl, rfl⟩
  | ec key ecParams isEc keygen known => exact absurd isEc (by decide)

theorem generate_halves_ec
    (generated : generateHalves env ckmEcKeyPairGen publicTemplate privateTemplate =
      .ok (pubObj, privObj)) :
    ∃ params, getEcParamsFromNid env.malloc (requestedCurveNid publicTemplate) = .ok params ∧
      pubObj.keyData.ec.ecParams = params ∧ privObj.keyData.ec.ecParams = params ∧
      pubObj.keyData.ec.curveNid = requestedCurveNid publicTemplate ∧
      privObj.keyData.ec.curveNid = requestedCurveNid publicTemplate := by
  cases generate_halves_made env _ publicTemplate privateTemplate _ _ generated with
  | rsa key isRsa keygen => exact absurd isRsa (by decide)
  | ec key ecParams isEc keygen known => exact ⟨ecParams, known, rfl, rfl, rfl, rfl⟩

end Generators

/-! ## Parameters asked for -/

/-- Both halves are on the curve that the bytes name. -/
structure CurveStored (pubKey privKey : HsmEcKey) (params : Bytes) : Prop where
  known : params ∈ knownCurves
  publicParams : pubKey.ecParams = params
  privateParams : privKey.ecParams = params
  publicCurve : pubKey.curveNid = getCurveNidFromParams params
  privateCurve : privKey.curveNid = getCurveNidFromParams params

/-- Both halves have a modulus of the size. -/
def SizeStored (pubKey privKey : HsmRsaKey) (bits : CkUlong) : Prop :=
  Nat.size (Bytes.ofBigEndian pubKey.modulus) = bits ∧
    Nat.size (Bytes.ofBigEndian privKey.modulus) = bits

/-- Both halves have the public exponent. -/
def ExponentStored (pubKey privKey : HsmRsaKey) (exponent : Nat) : Prop :=
  Bytes.ofBigEndian pubKey.publicExponent = exponent ∧
    Bytes.ofBigEndian privKey.publicExponent = exponent

/-- The halves are what every entry of the public template asks for. -/
structure ParametersHonoured (mechanism : CkMechanismType) (pTemplate : List CkAttribute)
    (pubObj privObj : HsmObject) : Prop where
  curve : mechanism = ckmEcKeyPairGen → ∀ entry ∈ pTemplate, entry.type = ckaEcParams →
    CurveStored pubObj.keyData.ec privObj.keyData.ec (entry.read entry.ulValueLen)
  size : mechanism = ckmRsaPkcsKeyPairGen → ∀ entry ∈ pTemplate, entry.type = ckaModulusBits →
    SizeStored pubObj.keyData.rsa privObj.keyData.rsa entry.readUlong
  exponent : mechanism = ckmRsaPkcsKeyPairGen → ∀ entry ∈ pTemplate,
    entry.type = ckaPublicExponent →
    ExponentStored pubObj.keyData.rsa privObj.keyData.rsa
      (Bytes.ofBigEndian (entry.read entry.ulValueLen))

/-- The template asks for one known curve at most, or for one size at most and no exponent
but 65537. -/
structure ParametersPlain (mechanism : CkMechanismType) (pTemplate : List CkAttribute) :
    Prop where
  curve : mechanism = ckmEcKeyPairGen → ∃ oid ∈ knownCurves, ∀ entry ∈ pTemplate,
    entry.type = ckaEcParams → entry.read entry.ulValueLen = oid
  size : mechanism = ckmRsaPkcsKeyPairGen → ∀ entry ∈ pTemplate, ∀ other ∈ pTemplate,
    entry.type = ckaModulusBits → other.type = ckaModulusBits →
    entry.readUlong = other.readUlong
  exponent : mechanism = ckmRsaPkcsKeyPairGen → ∀ entry ∈ pTemplate,
    entry.type = ckaPublicExponent → Bytes.ofBigEndian (entry.read entry.ulValueLen) = 65537

/-- OpenSSL generates RSA keys of the size it is asked for, with its default exponent. -/
def GeneratesAsAsked (keygenRsa : Nat → Option RsaComponents) : Prop :=
  ∀ bits key, keygenRsa bits = some key →
    Nat.size (Bytes.ofBigEndian key.n) = bits ∧ Bytes.ofBigEndian key.e = 65537

/-- A template with an entry of a type has a first one. -/
theorem first_entry (type : CkAttributeType) (pTemplate : List CkAttribute) (entry : CkAttribute)
    (member : entry ∈ pTemplate) (named : entry.type = type) :
    ∃ first ∈ pTemplate, first.type = type ∧
      pTemplate.find? (fun tested => tested.type = type) = some first := by
  cases located : pTemplate.find? (fun tested => tested.type = type) with
  | none => exact absurd (decide_eq_true named) (List.find?_eq_none.mp located entry member)
  | some first =>
    have matched := List.find?_some located
    exact ⟨first, List.mem_of_find?_eq_some located, of_decide_eq_true matched, rfl⟩

/-- The size of the first entry is the size asked for. -/
theorem requested_bits_agree (pTemplate : List CkAttribute) (entry : CkAttribute)
    (member : entry ∈ pTemplate) (sized : entry.type = ckaModulusBits) :
    ∃ other ∈ pTemplate, other.type = ckaModulusBits ∧
      requestedModulusBits pTemplate = other.readUlong := by
  obtain ⟨other, otherMember, otherSized, located⟩ :=
    first_entry ckaModulusBits pTemplate entry member sized
  refine ⟨other, otherMember, otherSized, ?_⟩
  rw [requestedModulusBits, located]

/-- A pair generated for a curve is what the template asks for exactly when the template
asks for one known curve at most. -/
theorem curve_stored_iff (env : Env) (publicTemplate privateTemplate : List CkAttribute)
    (pubObj privObj : HsmObject)
    (generated : generateHalves env ckmEcKeyPairGen publicTemplate privateTemplate =
      .ok (pubObj, privObj)) :
    (∀ entry ∈ publicTemplate, entry.type = ckaEcParams →
        CurveStored pubObj.keyData.ec privObj.keyData.ec (entry.read entry.ulValueLen)) ↔
      ∃ oid ∈ knownCurves, ∀ entry ∈ publicTemplate, entry.type = ckaEcParams →
        entry.read entry.ulValueLen = oid := by
  obtain ⟨params, stored, pubParams, privParams, pubCurve, privCurve⟩ :=
    generate_halves_ec env publicTemplate privateTemplate pubObj privObj generated
  obtain ⟨known, same⟩ := params_of_curve _ _ params stored
  constructor
  · intro honoured
    refine ⟨params, known, ?_⟩
    intro entry member named
    exact (honoured entry member named).publicParams.symm.trans pubParams
  · rintro ⟨oid, oidKnown, asked⟩ entry member named
    obtain rfl := asked entry member named
    obtain ⟨first, firstMember, firstNamed, located⟩ :=
      first_entry ckaEcParams publicTemplate entry member named
    have agreed := asked first firstMember firstNamed
    have curve := requested_curve_known publicTemplate first _ located agreed oidKnown
    have copied := ec_params_copied _ _ _ stored
    rw [curve, curve_of_params _ oidKnown] at copied
    obtain rfl := Option.some.inj copied
    exact ⟨oidKnown, pubParams, privParams, pubCurve.trans curve, privCurve.trans curve⟩

section Rsa

variable (env : Env) (openssl : GeneratesAsAsked env.keygenRsa)
  (publicTemplate privateTemplate : List CkAttribute) (pubObj privObj : HsmObject)
  (generated : generateHalves env ckmRsaPkcsKeyPairGen publicTemplate privateTemplate =
    .ok (pubObj, privObj))

include openssl generated

/-- The size is what every entry asks for exactly when the entries agree. -/
theorem size_stored_iff :
    (∀ entry ∈ publicTemplate, entry.type = ckaModulusBits →
        SizeStored pubObj.keyData.rsa privObj.keyData.rsa entry.readUlong) ↔
      ∀ entry ∈ publicTemplate, ∀ other ∈ publicTemplate, entry.type = ckaModulusBits →
        other.type = ckaModulusBits → entry.readUlong = other.readUlong := by
  obtain ⟨key, keygen, pubModulus, privModulus, -, -⟩ :=
    generate_halves_rsa env publicTemplate privateTemplate pubObj privObj generated
  obtain ⟨size, -⟩ := openssl _ key keygen
  constructor
  · intro honoured entry member other otherMember sized otherSized
    exact (honoured entry member sized).1.symm.trans (honoured other otherMember otherSized).1
  · intro agree entry member sized
    obtain ⟨other, otherMember, otherSized, asked⟩ :=
      requested_bits_agree publicTemplate entry member sized
    rw [asked, agree other otherMember entry member otherSized sized] at size
    exact ⟨pubModulus ▸ size, privModulus ▸ size⟩

/-- The exponent is what every entry asks for exactly when they all ask for 65537. -/
theorem exponent_stored_iff :
    (∀ entry ∈ publicTemplate, entry.type = ckaPublicExponent →
        ExponentStored pubObj.keyData.rsa privObj.keyData.rsa
          (Bytes.ofBigEndian (entry.read entry.ulValueLen))) ↔
      ∀ entry ∈ publicTemplate, entry.type = ckaPublicExponent →
        Bytes.ofBigEndian (entry.read entry.ulValueLen) = 65537 := by
  obtain ⟨key, keygen, -, -, pubExponent, privExponent⟩ :=
    generate_halves_rsa env publicTemplate privateTemplate pubObj privObj generated
  obtain ⟨-, exponent⟩ := openssl _ key keygen
  refine forall₃_congr fun entry member named => ?_
  rw [ExponentStored, pubExponent, privExponent, exponent, and_self, eq_comm]

end Rsa

/-- A failing call stores nothing; a pair that was generated is what the public template
asks for exactly when the template asks for nothing that the code does not provide. -/
theorem parameters_honoured_iff (env : Env) (openssl : GeneratesAsAsked env.keygenRsa)
    (system : System) (hSession : CkSessionHandle) (pMechanism : Option CkMechanismType)
    (publicTemplate privateTemplate : List CkAttribute) (phPublicKey phPrivateKey : Bool) :
    ((cGenerateKeyPair env system hSession pMechanism publicTemplate privateTemplate phPublicKey
        phPrivateKey).1 ≠ .ok →
      (cGenerateKeyPair env system hSession pMechanism publicTemplate privateTemplate phPublicKey
        phPrivateKey).2.2 = system) ∧
    ((cGenerateKeyPair env system hSession pMechanism publicTemplate privateTemplate phPublicKey
        phPrivateKey).1 = .ok →
      ∃ mechanism pubObj privObj, pMechanism = some mechanism ∧
        system.newHalves (cGenerateKeyPair env system hSession pMechanism publicTemplate
          privateTemplate phPublicKey phPrivateKey).2.2 = some (pubObj, privObj) ∧
        (ParametersHonoured mechanism publicTemplate pubObj privObj ↔
          ParametersPlain mechanism publicTemplate)) := by
  constructor
  · intro failed
    rcases generate_key_pair_cases env system hSession pMechanism publicTemplate privateTemplate
        phPublicKey phPrivateKey with
      ⟨rv, -, same⟩ | ⟨_, found, pubObj, privObj, pubIdx, privIdx, rest, -, -, -, -, -, -, -, same⟩
    · rw [same]
    · rw [same] at failed
      exact absurd rfl failed
  · intro accepted
    obtain ⟨mechanism, found, pubObj, privObj, pubIdx, privIdx, rest, named, session, generated,
      free, same⟩ := generate_key_pair_accepted env system hSession pMechanism publicTemplate
        privateTemplate phPublicKey phPrivateKey accepted
    rw [same]
    refine ⟨mechanism, _, _, named,
      new_halves_stored env system hSession found pubIdx privIdx rest pubObj privObj session free,
      ?_⟩
    constructor
    · rintro ⟨curve, size, exponent⟩
      refine ⟨?_, ?_, ?_⟩
      · rintro rfl
        exact (curve_stored_iff env publicTemplate privateTemplate pubObj privObj generated).mp
          (curve rfl)
      · rintro rfl
        exact (size_stored_iff env openssl publicTemplate privateTemplate pubObj privObj
          generated).mp (size rfl)
      · rintro rfl
        exact (exponent_stored_iff env openssl publicTemplate privateTemplate pubObj privObj
          generated).mp (exponent rfl)
    · rintro ⟨curve, size, exponent⟩
      refine ⟨?_, ?_, ?_⟩
      · rintro rfl
        exact (curve_stored_iff env publicTemplate privateTemplate pubObj privObj generated).mpr
          (curve rfl)
      · rintro rfl
        exact (size_stored_iff env openssl publicTemplate privateTemplate pubObj privObj
          generated).mpr (size rfl)
      · rintro rfl
        exact (exponent_stored_iff env openssl publicTemplate privateTemplate pubObj privObj
          generated).mpr (exponent rfl)

/-! ## Concrete pairs -/

/-- Two primes just below 2^1024. -/
def samplePrime1 : Nat := 2 ^ 1024 - 105
def samplePrime2 : Nat := 2 ^ 1024 - 179

/-- The inverse of 65537 that belongs to them. -/
def samplePrivateExponent : Nat :=
  (1 + 54058 * (samplePrime1 - 1) * (samplePrime2 - 1)) / 65537

example : 65537 * samplePrivateExponent % ((samplePrime1 - 1) * (samplePrime2 - 1)) = 1 := by
  decide +kernel

/-- An RSA key of 2048 bits. -/
def sampleRsaKey : RsaComponents where
  n := Bytes.bigEndian 256 (samplePrime1 * samplePrime2)
  e := Bytes.bigEndian 3 65537
  d := Bytes.bigEndian 256 samplePrivateExponent
  p := Bytes.bigEndian 128 samplePrime1
  q := Bytes.bigEndian 128 samplePrime2
  dmp1 := Bytes.bigEndian 128 (samplePrivateExponent % (samplePrime1 - 1))
  dmq1 := Bytes.bigEndian 128 (samplePrivateExponent % (samplePrime2 - 1))
  iqmp := Bytes.bigEndian 128 ((5 * samplePrime1 - 1) / 74)

/-- OpenSSL generates that key. -/
def rsaEnv : Env :=
  { calmEnv 1 with keygenRsa := fun bits => if bits = 2048 then some sampleRsaKey else none }

theorem sample_generated_as_asked : GeneratesAsAsked rsaEnv.keygenRsa := by
  intro bits key generated
  by_cases asked : bits = 2048
  · subst asked
    obtain rfl : sampleRsaKey = key := Option.some.inj generated
    have modulus := Bytes.big_endian_read 256 (samplePrime1 * samplePrime2) (by decide +kernel)
    have exponent := Bytes.big_endian_read 3 65537 (by decide)
    have atMost : Nat.size (samplePrime1 * samplePrime2) ≤ 2048 :=
      Nat.size_le.mpr (by decide +kernel)
    have atLeast : 2047 < Nat.size (samplePrime1 * samplePrime2) :=
      Nat.lt_size.mpr (by decide +kernel)
    refine ⟨?_, exponent⟩
    rw [sampleRsaKey, modulus]
    exact Nat.le_antisymm atMost atLeast
  · simp [rsaEnv, asked] at generated

/-- The public template of the basic test, as far as it names parameters. -/
def testParameters : List CkAttribute :=
  [entryOf ckaModulusBits (Bytes.littleEndian 8 2048), entryOf ckaPublicExponent [1, 0, 1]]

theorem test_parameters_honoured :
    ∃ mechanism pubObj privObj, some ckmRsaPkcsKeyPairGen = some mechanism ∧
      userReady.newHalves (cGenerateKeyPair rsaEnv userReady 1 (some ckmRsaPkcsKeyPairGen)
        testParameters [] true true).2.2 = some (pubObj, privObj) ∧
      (ParametersHonoured mechanism testParameters pubObj privObj ↔
        ParametersPlain mechanism testParameters) :=
  (parameters_honoured_iff rsaEnv sample_generated_as_asked userReady 1
    (some ckmRsaPkcsKeyPairGen) testParameters [] true true).2 (by decide +kernel)

/-- The object identifier of the curve secp256k1. -/
def secp256k1Oid : Bytes := [0x06, 0x05, 0x2b, 0x81, 0x04, 0x00, 0x0a]

/-- The generation of a pair on a curve the library does not know. -/
def unknownCurvePair : CkRv × Option (CkObjectHandle × CkObjectHandle) × System :=
  cGenerateKeyPair (calmEnv 1) userReady 1 (some ckmEcKeyPairGen)
    [entryOf ckaEcParams secp256k1Oid] [] true true

/-- The generation of a pair with the exponent 3. -/
def smallExponentPair : CkRv × Option (CkObjectHandle × CkObjectHandle) × System :=
  cGenerateKeyPair rsaEnv userReady 1 (some ckmRsaPkcsKeyPairGen)
    [entryOf ckaPublicExponent [3]] [] true true

/-- Both succeed, one with a key on P-256 and one with the exponent 65537. -/
theorem parameters_replaced :
    secp256k1Oid ∉ knownCurves ∧ unknownCurvePair.1 = .ok ∧
      (userReady.newHalves unknownCurvePair.2.2).map
        (fun halves => (halves.1.keyData.ec.ecParams, halves.2.keyData.ec.ecParams)) =
        some (p256Oid, p256Oid) ∧
      smallExponentPair.1 = .ok ∧
      (userReady.newHalves smallExponentPair.2.2).map
        (fun halves => halves.1.keyData.rsa.publicExponent) = some [1, 0, 1] := by
  refine ⟨?_, ?_, ?_, ?_, ?_⟩
  all_goals decide +kernel

end PstHsm
