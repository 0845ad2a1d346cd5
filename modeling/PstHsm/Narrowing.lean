import PstHsm.MechanismDispatch
import PstHsm.Queries
import PstHsm.Responses

/-!
# Narrowed lengths

`RAND_bytes`, `RSA_private_encrypt` and `ECDSA_do_sign` take their length as an `int`;
`C_GenerateRandom` and the raw branches of the signing functions pass them a 64-bit one.
OpenSSL acts on exactly as many bytes as the `int` says and fails when it is negative. So
a call that succeeds has acted on all the bytes exactly when their number is below `2 ^ 32`:
from there on only the low half of the number counts, and it fails or acts on too few.
What a call asks OpenSSL for is told from its answers.
-/

namespace PstHsm

open Queries

/-! ## The low half of a length -/

/-- The low half is the whole number exactly below `2 ^ 32`. -/
theorem low_half_iff (length : Nat) : length = length % 2 ^ 32 ↔ length < 2 ^ 32 := by
  omega

/-- The bytes in reach of the low half are all the bytes exactly below `2 ^ 32`. -/
theorem low_bytes_iff (data : Bytes) :
    data = data.take (data.length % 2 ^ 32) ↔ data.length < 2 ^ 32 := by
  rw [eq_comm, List.take_eq_self_iff]
  omega

/-! ## OpenSSL by the bytes it acts on -/

/-- The functions that sign the data as they are. -/
inductive RawFunction where
  | rsaPrivateEncrypt
  | ecdsaDoSign
  deriving DecidableEq

/-- The mechanism that leads to the function. -/
def RawFunction.mechanism : RawFunction → CkMechanismType
  | .rsaPrivateEncrypt => ckmRsaPkcs
  | .ecdsaDoSign => ckmEcdsa

/-- A function, the key and the bytes it is to act on. -/
structure RawRequest where
  function : RawFunction
  keyData : HsmKeyData
  bytes : Bytes

/-- OpenSSL behind its `int` lengths: the random bytes for a number of them, each answer as
long as asked, and the signature of a byte string. -/
structure Openssl where
  randBytes : (amount : Nat) → Option (Buffer amount)
  rawSign : RawRequest → Option Bytes

/-- A length that is not negative is the number of bytes acted on. -/
def onLength {α : Type} (length : Int) (act : Nat → Option α) : Option α :=
  if length < 0 then none else act length.toNat

/-- The functions with an `int` length as their documentation has them. -/
def Env.over (env : Env) (openssl : Openssl) : Env :=
  { env with
    randBytes := fun num =>
      onLength num fun amount => (openssl.randBytes amount).map List.Vector.toList
    signer := { env.signer with
      rsaPrivateEncrypt := fun keyData flen data =>
        onLength flen fun amount =>
          openssl.rawSign ⟨.rsaPrivateEncrypt, keyData, data.take amount⟩
      ecdsaDoSign := fun keyData dgstLen data =>
        onLength dgstLen fun amount =>
          openssl.rawSign ⟨.ecdsaDoSign, keyData, data.take amount⟩ } }

/-- The function among those that sign. -/
def Signer.raw (signer : Signer) : RawFunction → HsmKeyData → Int → Bytes → Option Bytes
  | .rsaPrivateEncrypt => signer.rsaPrivateEncrypt
  | .ecdsaDoSign => signer.ecdsaDoSign

/-- What is documented of the functions and their `int` length: a negative one is refused, and
else it is the number of bytes delivered, or acted on as if there were no others. -/
structure Env.Documented (env : Env) : Prop where
  randRefused : ∀ num, num < 0 → env.randBytes num = none
  randFilled : ∀ num bytes, env.randBytes num = some bytes → bytes.length = num.toNat
  rawRefused : ∀ function keyData length data, length < 0 →
    env.signer.raw function keyData length data = none
  rawActs : ∀ function keyData length data, 0 ≤ length →
    env.signer.raw function keyData length data =
      env.signer.raw function keyData (data.take length.toNat).length (data.take length.toNat)

theorem over_raw (env : Env) (openssl : Openssl) (function : RawFunction) (keyData : HsmKeyData)
    (length : Int) (data : Bytes) :
    (env.over openssl).signer.raw function keyData length data =
      onLength length fun amount => openssl.rawSign ⟨function, keyData, data.take amount⟩ := by
  cases function with
  | rsaPrivateEncrypt => rfl
  | ecdsaDoSign => rfl

/-- The surroundings are over an OpenSSL that answers the four functions alike. -/
theorem over_eq (env : Env) (openssl : Openssl)
    (random : ∀ num, (env.over openssl).randBytes num = env.randBytes num)
    (raw : ∀ function keyData length data,
      (env.over openssl).signer.raw function keyData length data =
        env.signer.raw function keyData length data) : env.over openssl = env := by
  have randBytes : (env.over openssl).randBytes = env.randBytes := funext random
  have rsaPrivateEncrypt : (env.over openssl).signer.rsaPrivateEncrypt =
      env.signer.rsaPrivateEncrypt := by
    funext keyData length data
    exact raw .rsaPrivateEncrypt keyData length data
  have ecdsaDoSign : (env.over openssl).signer.ecdsaDoSign = env.signer.ecdsaDoSign := by
    funext keyData length data
    exact raw .ecdsaDoSign keyData length data
  change { env with
    randBytes := (env.over openssl).randBytes
    signer := { env.signer with
      rsaPrivateEncrypt := (env.over openssl).signer.rsaPrivateEncrypt
      ecdsaDoSign := (env.over openssl).signer.ecdsaDoSign } } = env
  rw [randBytes, rsaPrivateEncrypt, ecdsaDoSign]

/-- Bytes with their number lose nothing when it is forgotten. -/
theorem sized_bytes (amount : Nat) (delivered : Option Bytes)
    (filled : ∀ bytes ∈ delivered, bytes.length = amount) :
    (delivered.pmap (fun bytes length => (⟨bytes, length⟩ : Buffer amount)) filled).map
      List.Vector.toList = delivered := by
  cases delivered with
  | none => rfl
  | some bytes => rfl

/-- Surroundings are as documented exactly when they are those over some OpenSSL. -/
theorem documented_iff (env : Env) : env.Documented ↔ ∃ openssl, env.over openssl = env := by
  constructor
  · intro documented
    have filled (amount : Nat) : ∀ bytes ∈ env.randBytes amount, bytes.length = amount :=
      fun bytes delivered => documented.randFilled amount bytes delivered
    refine ⟨⟨fun amount => (env.randBytes amount).pmap
        (fun bytes length => (⟨bytes, length⟩ : Buffer amount)) (filled amount),
      fun request => env.signer.raw request.function request.keyData request.bytes.length
        request.bytes⟩, over_eq env _ ?_ ?_⟩
    · intro num
      simp only [Env.over, onLength]
      split
      · rename_i negative
        exact (documented.randRefused num negative).symm
      · rename_i positive
        obtain ⟨amount, rfl⟩ := Int.eq_ofNat_of_zero_le (Int.not_lt.mp positive)
        exact sized_bytes amount _ (filled amount)
    · intro function keyData length data
      rw [over_raw, onLength]
      split
      · rename_i negative
        exact (documented.rawRefused function keyData length data negative).symm
      · rename_i positive
        exact (documented.rawActs function keyData length data (Int.not_lt.mp positive)).symm
  · rintro ⟨openssl, same⟩
    rw [← same]
    constructor
    · intro num negative
      simp only [Env.over, onLength, if_pos negative]
    · intro num bytes delivered
      simp only [Env.over, onLength] at delivered
      split at delivered
      · cases delivered
      · obtain ⟨buffer, -, rfl⟩ := Option.map_eq_some_iff.mp delivered
        exact buffer.toList_length
    · intro function keyData length data negative
      rw [over_raw, onLength, if_pos negative]
    · intro function keyData length data positive
      have whole : ¬ ((data.take length.toNat).length : Int) < 0 := by omega
      rw [over_raw, over_raw, onLength, onLength, if_neg (Int.not_lt.mpr positive), if_neg whole,
        Int.toNat_natCast, List.take_length]

/-- The conversion of a length below `2 ^ 31`, or with such a low half, is acted on; others
are refused. -/
theorem on_c_int {α : Type} (length : Nat) (act : Nat → Option α) :
    onLength (cInt length) act =
      if 2 ^ 31 ≤ length % 2 ^ 32 then none else act (length % 2 ^ 32) := by
  rw [onLength]
  split
  · rename_i negative
    rw [if_pos ((c_int_negative_iff length).mp negative)]
  · rename_i positive
    rw [if_neg (mt (c_int_negative_iff length).mpr positive), c_int_low length positive]

/-! ## Random bytes -/

section Random

variable (env : Env) (openssl : Openssl) (system : System) (hSession : CkSessionHandle)
  (amount : CkUlong)

/-- `C_GenerateRandom` with another source of random bytes. -/
def generateWith (randBytes : (amount : Nat) → Option (Buffer amount)) : CkRv × Option Bytes :=
  cGenerateRandom (env.over { openssl with randBytes := randBytes }) system hSession true amount

/-- The call asked for exactly as many bytes as the caller did, and delivered them. -/
structure RandomWhole : Prop where
  asked : Asks (generateWith env openssl system hSession amount) amount
  filled : ∀ bytes, (cGenerateRandom (env.over openssl) system hSession true amount).2 =
    some bytes → bytes.length = amount

/-- The answer for what the generator delivered. -/
def randomAnswer (delivered : Option Bytes) : CkRv × Option Bytes :=
  match delivered with
  | none => (.randomNoRng, none)
  | some bytes => (.ok, some bytes)

/-- A successful call goes on from the generator's answer for the low half of the length. -/
theorem generate_with_low
    (succeeded : (cGenerateRandom (env.over openssl) system hSession true amount).1 = .ok) :
    ¬ 2 ^ 31 ≤ amount % 2 ^ 32 ∧ ∀ randBytes,
      generateWith env openssl system hSession amount randBytes =
        randomAnswer ((randBytes (amount % 2 ^ 32)).map List.Vector.toList) := by
  obtain ⟨⟨found, session⟩, delivered⟩ :=
    (NetworkServer.generate_random_ok_iff (env.over openssl) system hSession amount).mp succeeded
  have low : ¬ 2 ^ 31 ≤ amount % 2 ^ 32 := by
    intro negative
    simp only [Env.over, on_c_int, if_pos negative] at delivered
    cases delivered
  refine ⟨low, fun randBytes => ?_⟩
  rw [generateWith, cGenerateRandom, Bool.not_true, if_neg Bool.false_ne_true, session]
  simp only [Env.over, on_c_int, if_neg low]
  cases (randBytes (amount % 2 ^ 32)).map List.Vector.toList with
  | none => rfl
  | some bytes => rfl

/-- It has asked for the low half, and for nothing else. -/
theorem generate_asks
    (succeeded : (cGenerateRandom (env.over openssl) system hSession true amount).1 = .ok) :
    Asks (generateWith env openssl system hSession amount) (amount % 2 ^ 32) := by
  obtain ⟨low, answers⟩ := generate_with_low env openssl system hSession amount succeeded
  have same := funext answers
  rw [same]
  refine asks_answer (amount % 2 ^ 32) (fun delivered : Option (Buffer (amount % 2 ^ 32)) =>
    randomAnswer (delivered.map List.Vector.toList)) openssl.randBytes (fun _ => none) ?_
  have delivered : (generateWith env openssl system hSession amount openssl.randBytes).1 = .ok :=
    succeeded
  rw [answers] at delivered
  intro equal
  rw [equal] at delivered
  cases delivered

/-- A successful call has asked for all the bytes exactly when there are fewer than
`2 ^ 32`. -/
theorem random_whole_iff
    (succeeded : (cGenerateRandom (env.over openssl) system hSession true amount).1 = .ok) :
    RandomWhole env openssl system hSession amount ↔ amount < 2 ^ 32 := by
  have asks := generate_asks env openssl system hSession amount succeeded
  obtain ⟨low, answers⟩ := generate_with_low env openssl system hSession amount succeeded
  constructor
  · intro whole
    exact (low_half_iff amount).mp ((asks_iff asks).mp whole.asked)
  · intro small
    have same := (low_half_iff amount).mpr small
    refine ⟨(asks_iff asks).mpr same, ?_⟩
    intro bytes shown
    have here : (generateWith env openssl system hSession amount openssl.randBytes).2 =
        some bytes := shown
    rw [answers] at here
    cases delivered : openssl.randBytes (amount % 2 ^ 32) with
    | none =>
      rw [delivered] at here
      cases here
    | some buffer =>
      rw [delivered] at here
      cases here
      rw [List.Vector.toList_length]
      exact same.symm

end Random

/-! ## Raw signatures -/

section RawSign

variable (env : Env) (openssl : Openssl) (system : System) (hSession : CkSessionHandle)
  (data : Bytes) (pSignature : Bool) (signatureLen : CkUlong)

/-- What the raw branches do with the answer for the bytes they passed: without a signature
they fail, and a signature they return is that one. -/
structure RawAnswer (rest : Option Bytes → SignResult) : Prop where
  failed : (rest none).rv ≠ .ok
  returned : ∀ answer signature, (rest answer).signature = some signature →
    answer = some signature

/-- The result, as a function of OpenSSL's raw signing, goes on from its answer for the data
as far as the converted length reaches. -/
def GoesOn (function : RawFunction) (keyData : HsmKeyData)
    (result : (RawRequest → Option Bytes) → SignResult) : Prop :=
  ∃ rest, RawAnswer rest ∧ ∀ rawSign, result rawSign =
    rest (onLength (cInt data.length) fun amount =>
      rawSign ⟨function, keyData, data.take amount⟩)

/-- A refusal goes on from any answer alike. -/
theorem refused_goes_on (function : RawFunction) (keyData : HsmKeyData) (rv : CkRv)
    (length : CkUlong) (failed : rv ≠ .ok) :
    GoesOn data function keyData fun _ => ⟨rv, none, length⟩ := by
  refine ⟨fun _ => ⟨rv, none, length⟩, ⟨failed, ?_⟩, fun _ => rfl⟩
  rintro answer signature ⟨⟩

/-- A branch on what OpenSSL's raw signing has no part in. -/
theorem branch_goes_on (function : RawFunction) (keyData : HsmKeyData)
    (first second : (RawRequest → Option Bytes) → SignResult) (condition : Prop)
    [Decidable condition] (one : GoesOn data function keyData first)
    (two : GoesOn data function keyData second) :
    GoesOn data function keyData fun rawSign =>
      if condition then first rawSign else second rawSign := by
  by_cases holds : condition
  · simpa only [if_pos holds] using one
  · simpa only [if_neg holds] using two

/-- What `sign_rsa` makes of the signature, having room for it. -/
def encryptedAnswer (signatureLen : CkUlong) : Option Bytes → SignResult
  | none => ⟨.functionFailed, none, signatureLen⟩
  | some signature => ⟨.ok, some signature, signature.length⟩

/-- What `sign_ec` makes of the signature. -/
def doSignAnswer (pSignature : Bool) (signatureLen : CkUlong) : Option Bytes → SignResult
  | none => ⟨.functionFailed, none, signatureLen⟩
  | some signature =>
    if signatureLen < signature.length then ⟨.bufferTooSmall, none, signature.length⟩
    else ⟨.ok, if pSignature then some signature else none, signature.length⟩

theorem encrypted_raw_answer : RawAnswer (encryptedAnswer signatureLen) := by
  refine ⟨CkRv.noConfusion, ?_⟩
  intro answer signature shown
  cases answer with
  | none => cases shown
  | some bytes => exact shown

theorem do_sign_raw_answer : RawAnswer (doSignAnswer pSignature signatureLen) := by
  refine ⟨CkRv.noConfusion, ?_⟩
  intro answer signature shown
  cases answer with
  | none => cases shown
  | some bytes =>
    rw [doSignAnswer] at shown
    split at shown
    · cases shown
    · cases pSignature with
      | false => cases shown
      | true => exact shown

/-- The raw branch of `sign_rsa`. -/
theorem sign_rsa_goes_on (keyData : HsmKeyData) :
    GoesOn data .rsaPrivateEncrypt keyData fun rawSign =>
      signRsa (env.over { openssl with rawSign := rawSign }).signer keyData ckmRsaPkcs data
        pSignature signatureLen := by
  have encrypted : GoesOn data .rsaPrivateEncrypt keyData fun rawSign =>
      encryptedAnswer signatureLen (onLength (cInt data.length) fun amount =>
        rawSign ⟨.rsaPrivateEncrypt, keyData, data.take amount⟩) :=
    ⟨_, encrypted_raw_answer signatureLen, fun _ => rfl⟩
  have branches (rawSign) :
      signRsa (env.over { openssl with rawSign := rawSign }).signer keyData ckmRsaPkcs data
          pSignature signatureLen =
        if !env.signer.newKey keyData then ⟨.functionFailed, none, signatureLen⟩
        else if !env.signer.newMdCtx then ⟨.functionFailed, none, signatureLen⟩
        else if signatureLen < env.signer.rsaSize keyData then
          ⟨.bufferTooSmall, none, env.signer.rsaSize keyData⟩
        else encryptedAnswer signatureLen (onLength (cInt data.length) fun amount =>
          rawSign ⟨.rsaPrivateEncrypt, keyData, data.take amount⟩) := by
    have raw : rsaDigest ckmRsaPkcs = some none := rfl
    simp only [signRsa, Env.over, raw]
    cases onLength (cInt data.length) fun amount =>
        rawSign ⟨.rsaPrivateEncrypt, keyData, data.take amount⟩ with
    | none => rfl
    | some signature => rfl
  have refused (rv) (length) (failed : rv ≠ .ok) :=
    refused_goes_on data .rsaPrivateEncrypt keyData rv length failed
  simp only [branches]
  apply branch_goes_on data _ _ _ _ _ (refused _ _ CkRv.noConfusion)
  apply branch_goes_on data _ _ _ _ _ (refused _ _ CkRv.noConfusion)
  exact branch_goes_on data _ _ _ _ _ (refused _ _ CkRv.noConfusion) encrypted

/-- The raw branch of `sign_ec`. -/
theorem sign_ec_goes_on (keyData : HsmKeyData) :
    GoesOn data .ecdsaDoSign keyData fun rawSign =>
      signEc (env.over { openssl with rawSign := rawSign }).signer keyData ckmEcdsa data
        pSignature signatureLen := by
  have signed : GoesOn data .ecdsaDoSign keyData fun rawSign =>
      doSignAnswer pSignature signatureLen (onLength (cInt data.length) fun amount =>
        rawSign ⟨.ecdsaDoSign, keyData, data.take amount⟩) :=
    ⟨_, do_sign_raw_answer pSignature signatureLen, fun _ => rfl⟩
  have branches (rawSign) :
      signEc (env.over { openssl with rawSign := rawSign }).signer keyData ckmEcdsa data
          pSignature signatureLen =
        if !env.signer.newKey keyData then ⟨.functionFailed, none, signatureLen⟩
        else if !env.signer.newMdCtx then ⟨.functionFailed, none, signatureLen⟩
        else doSignAnswer pSignature signatureLen (onLength (cInt data.length) fun amount =>
          rawSign ⟨.ecdsaDoSign, keyData, data.take amount⟩) := by
    have raw : ecDigest ckmEcdsa = some none := rfl
    simp only [signEc, Env.over, raw]
    cases onLength (cInt data.length) fun amount =>
        rawSign ⟨.ecdsaDoSign, keyData, data.take amount⟩ with
    | none => rfl
    | some signature => rfl
  have refused (rv) (length) (failed : rv ≠ .ok) :=
    refused_goes_on data .ecdsaDoSign keyData rv length failed
  simp only [branches]
  apply branch_goes_on data _ _ _ _ _ (refused _ _ CkRv.noConfusion)
  exact branch_goes_on data _ _ _ _ _ (refused _ _ CkRv.noConfusion) signed

/-- A raw mechanism is refused for the key, or goes on from OpenSSL's answer for the data. -/
theorem sign_data_goes_on (function : RawFunction) (key : HsmObject) :
    GoesOn data function key.keyData fun rawSign =>
      hsmSignData (env.over { openssl with rawSign := rawSign }).signer key function.mechanism data
        pSignature signatureLen := by
  have refused (rv) (failed : rv ≠ .ok) :=
    refused_goes_on data function key.keyData rv signatureLen failed
  -- a key of the other family has no case for the mechanism
  have uncased := branch_goes_on data function key.keyData _ _
    ((!env.signer.newKey key.keyData) = true) (refused .functionFailed CkRv.noConfusion)
    (refused .mechanismInvalid CkRv.noConfusion)
  have rsa : GoesOn data function key.keyData fun rawSign =>
      signRsa (env.over { openssl with rawSign := rawSign }).signer key.keyData function.mechanism
        data pSignature signatureLen := by
    cases function with
    | rsaPrivateEncrypt =>
      exact sign_rsa_goes_on env openssl data pSignature signatureLen key.keyData
    | ecdsaDoSign => exact uncased
  have ec : GoesOn data function key.keyData fun rawSign =>
      signEc (env.over { openssl with rawSign := rawSign }).signer key.keyData function.mechanism
        data pSignature signatureLen := by
    cases function with
    | rsaPrivateEncrypt => exact uncased
    | ecdsaDoSign => exact sign_ec_goes_on env openssl data pSignature signatureLen key.keyData
  have inconsistent := refused .keyTypeInconsistent CkRv.noConfusion
  apply branch_goes_on data _ _ _ _ _ inconsistent
  apply branch_goes_on data _ _ _ _ _ rsa
  exact branch_goes_on data _ _ _ _ _ ec inconsistent

/-- `C_Sign` with another raw signing. -/
def signWith (sha256 : Sha256) (rawSign : RawRequest → Option Bytes) : Response :=
  (callStep sha256 (env.over { openssl with rawSign := rawSign }) system
    (.sign hSession (some data) pSignature (some signatureLen))).1

/-- The call passed the caller's bytes to the function, and nothing else; a signature that it
returns is the one over these bytes. -/
def RawSignWhole (sha256 : Sha256) (function : RawFunction) : Prop :=
  ∃ keyData, Asks (signWith env openssl system hSession data pSignature signatureLen sha256)
      ⟨function, keyData, data⟩ ∧
    ∀ signature length, (signWith env openssl system hSession data pSignature signatureLen sha256
        openssl.rawSign).output = .signature (some (some signature, length)) →
      openssl.rawSign ⟨function, keyData, data⟩ = some signature

/-- The response that carries the result. -/
def SignResult.response (result : SignResult) : Response :=
  ⟨result.rv, .signature (some (result.signature, result.signatureLen))⟩

/-- The operation of the session is the function's, and the call succeeds. -/
structure RawSigned (sha256 : Sha256) (function : RawFunction) : Prop where
  operation : ∃ found, hsmGetSession system hSession = .ok found ∧
    found.session.operation.mechanism = function.mechanism
  succeeded : (callStep sha256 (env.over openssl) system
    (.sign hSession (some data) pSignature (some signatureLen))).1.rv = .ok

variable (sha256 : Sha256) (function : RawFunction)

theorem signed_with_own
    (signed : RawSigned env openssl system hSession data pSignature signatureLen sha256 function) :
    (signWith env openssl system hSession data pSignature signatureLen sha256
      openssl.rawSign).rv = .ok := by
  have own : env.over { openssl with rawSign := openssl.rawSign } = env.over openssl := rfl
  rw [signWith, own, signed.succeeded]

/-- A successful call reaches the signing function with a key. -/
theorem raw_signed_reaches
    (signed : RawSigned env openssl system hSession data pSignature signatureLen sha256 function) :
    ∃ use : SignKey, use.mechanism = function.mechanism ∧
      ∀ anyEnv, system.signReaches
        (.call (.sign hSession (some data) pSignature (some signatureLen)) anyEnv) = some use := by
  obtain ⟨⟨found, located, mechanism⟩, succeeded⟩ := signed
  cases reached : system.signReaches
      (.call (.sign hSession (some data) pSignature (some signatureLen)) (env.over openssl)) with
  | none =>
    obtain ⟨rv, after, code, answered⟩ :=
      sign_unreached_answer (env.over openssl) system hSession data pSignature signatureLen reached
    simp only [callStep, answered] at succeeded
    rw [succeeded] at code
    exact absurd code (by decide)
  | some use =>
    obtain ⟨_, _, _, _, context, session, called, there, -, named, -⟩ :=
      sign_reaches_cases system _ use reached
    cases called
    obtain rfl := Except.ok.inj (located.symm.trans there)
    exact ⟨use, named.symm.trans mechanism, fun anyEnv => reached⟩

/-- It goes on from OpenSSL's answer for as many bytes as the low half of the length says. -/
theorem sign_with_low
    (signed : RawSigned env openssl system hSession data pSignature signatureLen sha256 function) :
    ¬ 2 ^ 31 ≤ data.length % 2 ^ 32 ∧ ∃ keyData rest, RawAnswer rest ∧ ∀ rawSign,
      signWith env openssl system hSession data pSignature signatureLen sha256 rawSign =
        (rest (rawSign ⟨function, keyData, data.take (data.length % 2 ^ 32)⟩)).response := by
  obtain ⟨use, mechanism, reaches⟩ := raw_signed_reaches env openssl system hSession data
    pSignature signatureLen sha256 function signed
  obtain ⟨rest, answer, result⟩ :=
    sign_data_goes_on env openssl data pSignature signatureLen function use.key
  have response (rawSign) :
      signWith env openssl system hSession data pSignature signatureLen sha256 rawSign =
        (rest (onLength (cInt data.length) fun amount =>
          rawSign ⟨function, use.key.keyData, data.take amount⟩)).response := by
    rw [signWith, sign_reaches_signs sha256 _ system hSession data pSignature signatureLen use
      (reaches _), mechanism, ← result]
    rfl
  have low : ¬ 2 ^ 31 ≤ data.length % 2 ^ 32 := by
    intro negative
    have succeeded := signed_with_own env openssl system hSession data pSignature signatureLen
      sha256 function signed
    rw [response, on_c_int, if_pos negative] at succeeded
    exact answer.failed succeeded
  refine ⟨low, use.key.keyData, rest, answer, fun rawSign => ?_⟩
  rw [response, on_c_int, if_neg low]

/-- A successful call has passed all the bytes exactly when there are fewer than `2 ^ 32`. -/
theorem raw_sign_whole_iff
    (signed : RawSigned env openssl system hSession data pSignature signatureLen sha256 function) :
    RawSignWhole env openssl system hSession data pSignature signatureLen sha256 function ↔
      data.length < 2 ^ 32 := by
  obtain ⟨-, keyData, rest, answer, answers⟩ := sign_with_low env openssl system hSession data
    pSignature signatureLen sha256 function signed
  have succeeded := signed_with_own env openssl system hSession data pSignature signatureLen
    sha256 function signed
  have asks : Asks (signWith env openssl system hSession data pSignature signatureLen sha256)
      ⟨function, keyData, data.take (data.length % 2 ^ 32)⟩ := by
    have same := funext answers
    rw [same]
    refine asks_answer ⟨function, keyData, data.take (data.length % 2 ^ 32)⟩
      (fun signature : Option Bytes => (rest signature).response) openssl.rawSign (fun _ => none) ?_
    rw [answers] at succeeded
    intro equal
    rw [equal] at succeeded
    exact answer.failed succeeded
  constructor
  · rintro ⟨anyKey, asked, -⟩
    exact (low_bytes_iff data).mp (RawRequest.mk.inj ((asks_iff asks).mp asked)).2.2
  · intro small
    have whole := (low_bytes_iff data).mpr small
    rw [← whole] at asks answers
    refine ⟨keyData, asks, ?_⟩
    intro signature length shown
    rw [answers] at shown
    have returned : (rest (openssl.rawSign ⟨function, keyData, data⟩)).signature =
        some signature := by
      have parts := Option.some.inj (Output.signature.inj shown)
      exact (Prod.mk.inj parts).1
    exact answer.returned _ signature returned

end RawSign

/-! ## Lengths that are kept -/

/-- Every successful `C_GenerateRandom` for this many bytes asks for all of them. -/
def RandomKept (amount : CkUlong) : Prop :=
  ∀ sha256 system, Reachable sha256 system → ∀ env openssl hSession,
    (cGenerateRandom (Env.over env openssl) system hSession true amount).1 = .ok →
      RandomWhole env openssl system hSession amount

/-- Every successful raw `C_Sign` of this many bytes passes all of them. -/
def RawSignKept (function : RawFunction) (amount : CkUlong) : Prop :=
  ∀ sha256 system, Reachable sha256 system →
    ∀ env openssl hSession data pSignature signatureLen, data.length = amount →
    RawSigned env openssl system hSession data pSignature signatureLen sha256 function →
      RawSignWhole env openssl system hSession data pSignature signatureLen sha256 function

/-- The length fits, or the `int` it becomes is negative and OpenSSL refuses it. -/
def Survives (amount : CkUlong) : Prop := amount < 2 ^ 32 ∨ 2 ^ 31 ≤ amount % 2 ^ 32

instance (amount : CkUlong) : Decidable (Survives amount) := inferInstanceAs (Decidable (_ ∨ _))

/-- OpenSSL delivers any number of bytes and signs any byte string. -/
def calmOpenssl : Openssl where
  randBytes amount := some (Buffer.filled amount 0)
  rawSign _ := some (List.replicate 64 0x5a)

/-- The random bytes of a length with a low half that is not negative are delivered. -/
theorem calm_random_succeeds (amount : CkUlong) (low : ¬ 2 ^ 31 ≤ amount % 2 ^ 32) :
    (cGenerateRandom ((calmEnv 1).over calmOpenssl) userReady 1 true amount).1 = .ok := by
  rw [NetworkServer.generate_random_ok_iff]
  constructor
  · have opened : (hsmGetSession userReady 1).isOk = true := by decide +kernel
    cases session : hsmGetSession userReady 1 with
    | error rv =>
      rw [session] at opened
      cases opened
    | ok found => exact ⟨found, rfl⟩
  · simp only [Env.over, on_c_int, if_neg low, calmOpenssl]
    rfl

theorem random_kept_iff (amount : CkUlong) : RandomKept amount ↔ Survives amount := by
  constructor
  · intro kept
    by_cases low : 2 ^ 31 ≤ amount % 2 ^ 32
    · exact Or.inr low
    · have succeeded := calm_random_succeeds amount low
      have reached := set_up_reachable []
      rw [Runs.run] at reached
      have whole := kept pinSha256 userReady reached (calmEnv 1) calmOpenssl 1 succeeded
      exact Or.inl ((random_whole_iff (calmEnv 1) calmOpenssl userReady 1 amount succeeded).mp
        whole)
  · intro survives sha256 system reached env openssl hSession succeeded
    rw [random_whole_iff env openssl system hSession amount succeeded]
    have low := (generate_with_low env openssl system hSession amount succeeded).1
    exact survives.resolve_right low

/-- A key pair of the function's family is generated. -/
def rawKeyEvents : RawFunction → List Event
  | .rsaPrivateEncrypt =>
    [.call (.generateKeyPair 1 (some ckmRsaPkcsKeyPairGen) [] [] true true) rsaEnv]
  | .ecdsaDoSign => [calmly (.generateKeyPair 1 (some ckmEcKeyPairGen) [] [] true true)]

def RawFunction.keyType : RawFunction → Nat
  | .rsaPrivateEncrypt => keyTypeRsa
  | .ecdsaDoSign => keyTypeEc

def rawKeyReady (function : RawFunction) : System :=
  Runs.run (step pinSha256) userReady (rawKeyEvents function)

/-- The raw operation is started with the private half. -/
def rawSignInit (function : RawFunction) : Event :=
  calmly (.signInit 1 (some function.mechanism) (objectHandlePrivateKeyBase + 2))

/-- The operation is pending on session 1. -/
def rawSignReady (function : RawFunction) : System :=
  (step pinSha256 (rawKeyReady function) (rawSignInit function)).2

theorem raw_sign_ready_reachable (function : RawFunction) :
    Reachable pinSha256 (rawSignReady function) := by
  have reached := set_up_reachable (rawKeyEvents function ++ [rawSignInit function])
  rwa [Runs.run_snoc] at reached

/-- What the operation's start checked. -/
theorem raw_sign_started (function : RawFunction) :
    ∃ start, (rawKeyReady function).signInitChecks (rawSignInit function) = some start ∧
      start.hSession = 1 ∧ start.mechanism = function.mechanism ∧
      start.key.type = objTypePrivateKey ∧ start.key.keyType = function.keyType := by
  have checks : ((rawKeyReady function).signInitChecks (rawSignInit function)).map
      (fun start => (start.hSession, start.mechanism, start.key.keyType)) =
        some (1, function.mechanism, function.keyType) := by
    cases function with
    | rsaPrivateEncrypt => decide +kernel
    | ecdsaDoSign => decide +kernel
  obtain ⟨start, checked, fields⟩ := Option.map_eq_some_iff.mp checks
  obtain ⟨named, rest⟩ := Prod.mk.inj fields
  obtain ⟨mechanism, family⟩ := Prod.mk.inj rest
  obtain ⟨-, -, -, -, -, isPrivateKey, -⟩ := sign_init_checks_cases pinSha256 _ _ start checked
  exact ⟨start, checked, named, mechanism, isPrivateKey, family⟩

/-- A raw function that answers any bytes signs any data whose converted length is not
negative. -/
theorem calm_sign_data (function : RawFunction) (key : HsmObject) (data : Bytes)
    (low : ¬ 2 ^ 31 ≤ data.length % 2 ^ 32) (isPrivateKey : key.type = objTypePrivateKey)
    (family : key.keyType = function.keyType) :
    (hsmSignData ((calmEnv 1).over calmOpenssl).signer key function.mechanism data true
      512).rv = .ok := by
  have answered {α : Type} (act : Nat → Option α) :
      onLength (cInt data.length) act = act (data.length % 2 ^ 32) := by
    rw [on_c_int, if_neg low]
  cases function with
  | rsaPrivateEncrypt =>
    have rsa : key.keyType = keyTypeRsa := family
    rw [hsmSignData, if_neg (not_not_intro isPrivateKey), if_pos rsa, signRsa]
    simp only [Env.over, answered]
    rfl
  | ecdsaDoSign =>
    have ec : key.keyType = keyTypeEc := family
    have notRsa : key.keyType ≠ keyTypeRsa := by
      rw [ec]
      decide
    rw [hsmSignData, if_neg (not_not_intro isPrivateKey), if_neg notRsa, if_pos ec, signEc]
    simp only [Env.over, answered]
    rfl

/-- The pending operation signs such data. -/
theorem calm_raw_signed (function : RawFunction) (data : Bytes)
    (low : ¬ 2 ^ 31 ≤ data.length % 2 ^ 32) :
    RawSigned (calmEnv 1) calmOpenssl (rawSignReady function) 1 data true 512 pinSha256
      function := by
  obtain ⟨start, checked, named, mechanism, isPrivateKey, family⟩ := raw_sign_started function
  have reaches := sign_init_reaches pinSha256 ((calmEnv 1).over calmOpenssl)
    (rawKeyReady function) (rawSignInit function) start data true 512 checked
  rw [named] at reaches
  change (rawSignReady function).signReaches _ = some start at reaches
  constructor
  · obtain ⟨_, _, _, _, context, session, called, located, -, same, -⟩ :=
      sign_reaches_cases _ _ start reaches
    rw [named] at located
    exact ⟨_, located, same.trans mechanism⟩
  · rw [sign_reaches_signs pinSha256 ((calmEnv 1).over calmOpenssl) (rawSignReady function) 1 data
      true 512 start reaches, mechanism]
    exact calm_sign_data function start.key data low isPrivateKey family

theorem raw_sign_kept_iff (function : RawFunction) (amount : CkUlong) :
    RawSignKept function amount ↔ Survives amount := by
  constructor
  · intro kept
    by_cases low : 2 ^ 31 ≤ amount % 2 ^ 32
    · exact Or.inr low
    · have length : (List.replicate amount (0 : UInt8)).length = amount := List.length_replicate
      have signed := calm_raw_signed function (List.replicate amount 0) (by rwa [length])
      have whole := kept pinSha256 (rawSignReady function) (raw_sign_ready_reachable function)
        (calmEnv 1) calmOpenssl 1 _ true 512 length signed
      rw [raw_sign_whole_iff _ _ _ _ _ _ _ _ _ signed, length] at whole
      exact Or.inl whole
  · rintro survives sha256 system reached env openssl hSession data pSignature signatureLen rfl
      signed
    rw [raw_sign_whole_iff env openssl system hSession data pSignature signatureLen sha256 function
      signed]
    have low := (sign_with_low env openssl system hSession data pSignature signatureLen sha256
      function signed).1
    exact survives.resolve_right low

/-! ## The law -/

/-- A successful call asks OpenSSL for all of its bytes exactly when there are fewer than
`2 ^ 32`. So every success of a length does, exactly when the length is below `2 ^ 32` or
OpenSSL refuses what it becomes as an `int`. -/
theorem length_kept_iff (amount : CkUlong) :
    ((∀ env openssl system hSession,
        (cGenerateRandom (Env.over env openssl) system hSession true amount).1 = .ok →
          (RandomWhole env openssl system hSession amount ↔ amount < 2 ^ 32)) ∧
      (RandomKept amount ↔ Survives amount)) ∧
    ∀ function,
      (∀ env openssl system hSession data pSignature signatureLen sha256, data.length = amount →
        RawSigned env openssl system hSession data pSignature signatureLen sha256 function →
          (RawSignWhole env openssl system hSession data pSignature signatureLen sha256 function ↔
            amount < 2 ^ 32)) ∧
      (RawSignKept function amount ↔ Survives amount) := by
  refine ⟨⟨?_, random_kept_iff amount⟩,
    fun function => ⟨?_, raw_sign_kept_iff function amount⟩⟩
  · intro env openssl system hSession succeeded
    exact random_whole_iff env openssl system hSession amount succeeded
  · rintro env openssl system hSession data pSignature signatureLen sha256 rfl signed
    exact raw_sign_whole_iff env openssl system hSession data pSignature signatureLen sha256
      function signed

theorem digest_length_kept : RandomKept 32 ∧ ∀ function, RawSignKept function 32 :=
  ⟨(length_kept_iff 32).1.2.mpr (by decide),
    fun function => ((length_kept_iff 32).2 function).2.mpr (by decide)⟩

/-- For `2 ^ 32` random bytes OpenSSL is asked for none, and of `2 ^ 32 + 32` bytes of data
thirty-two are passed on. -/
theorem low_half_succeeds :
    cGenerateRandom ((calmEnv 1).over calmOpenssl) userReady 1 true (2 ^ 32) = (.ok, some []) ∧
      ¬ RandomKept (2 ^ 32) ∧ ∀ function, ¬ RawSignKept function (2 ^ 32 + 32) := by
  refine ⟨by decide +kernel, ?_, ?_⟩
  · rw [random_kept_iff]
    decide
  · intro function
    rw [raw_sign_kept_iff]
    decide

end PstHsm
