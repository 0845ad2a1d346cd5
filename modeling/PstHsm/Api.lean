import PstHsm.Library
import PstHsm.Runs

/-!
# Calls, answers and runs

One event is an API call with its surroundings, or the start of a new process
over the same storage. The step function dispatches each call to its entry point
and collects the return value and everything written through the caller's
pointers. A run is a list of events from a process over some storage.
-/

namespace PstHsm

/-- An API call with its arguments. A Boolean argument named after an output
pointer says that the pointer is not null. -/
inductive Call where
  | initializeLibrary
  | finalizeLibrary (pReserved : Bool)
  | getInfo (pInfo : Bool)
  | getFunctionList (ppFunctionList : Bool)
  | getSlotList (tokenPresent pSlotList : Bool) (pulCount : Option CkUlong)
  | getSlotInfo (slotID : CkSlotId) (pInfo : Bool)
  | getTokenInfo (slotID : CkSlotId) (pInfo : Bool)
  | getMechanismList (slotID : CkSlotId) (pMechanismList : Bool) (pulCount : Option CkUlong)
  | getMechanismInfo (slotID : CkSlotId) (type : CkMechanismType) (pInfo : Bool)
  | initToken (slotID : CkSlotId) (pPin pLabel : Option Bytes)
  | initPIN (hSession : CkSessionHandle) (pPin : Option Bytes)
  | setPIN (hSession : CkSessionHandle) (pOldPin pNewPin : Option Bytes)
  | openSession (slotID : CkSlotId) (flags : CkFlags) (phSession : Bool)
  | closeSession (hSession : CkSessionHandle)
  | closeAllSessions (slotID : CkSlotId)
  | getSessionInfo (hSession : CkSessionHandle) (pInfo : Bool)
  | login (hSession : CkSessionHandle) (userType : CkUserType) (pPin : Option Bytes)
  | logout (hSession : CkSessionHandle)
  | createObject (hSession : CkSessionHandle) (pTemplate : Option (List CkAttribute))
      (phObject : Bool)
  | destroyObject (hSession : CkSessionHandle) (hObject : CkObjectHandle)
  | getAttributeValue (hSession : CkSessionHandle) (hObject : CkObjectHandle)
      (pTemplate : Option (List CkAttribute))
  | setAttributeValue (hSession : CkSessionHandle) (hObject : CkObjectHandle)
      (pTemplate : Option (List CkAttribute))
  | findObjectsInit (hSession : CkSessionHandle) (pTemplate : List CkAttribute)
  | findObjects (hSession : CkSessionHandle) (phObject : Bool) (ulMaxObjectCount : CkUlong)
      (pulObjectCount : Bool)
  | findObjectsFinal (hSession : CkSessionHandle)
  | signInit (hSession : CkSessionHandle) (pMechanism : Option CkMechanismType)
      (hKey : CkObjectHandle)
  | sign (hSession : CkSessionHandle) (pData : Option Bytes) (pSignature : Bool)
      (pulSignatureLen : Option CkUlong)
  | verifyInit (hSession : CkSessionHandle) (pMechanism : Option CkMechanismType)
      (hKey : CkObjectHandle)
  | verify (hSession : CkSessionHandle) (pData pSignature : Option Bytes)
  | generateKeyPair (hSession : CkSessionHandle) (pMechanism : Option CkMechanismType)
      (pPublicKeyTemplate pPrivateKeyTemplate : List CkAttribute)
      (phPublicKey phPrivateKey : Bool)
  | generateRandom (hSession : CkSessionHandle) (randomData : Bool) (ulRandomLen : CkUlong)
  | seedRandom
  | notSupported
  | notParallel

/-- What a call writes through the caller's pointers. -/
inductive Output where
  | nothing
  | handle (handle : Option CkUlong)
  | keyPair (handles : Option (CkObjectHandle × CkObjectHandle))
  | handles (chunk : List CkObjectHandle)
  | template (entries : List CkAttribute)
  | signature (written : Option (Option Bytes × CkUlong))
  | random (bytes : Option Bytes)
  | numbers (written : Option (List CkUlong × CkUlong))
  | info (info : Option CkInfo)
  | slotInfo (info : Option CkSlotInfo)
  | tokenInfo (info : Option CkTokenInfo)
  | mechanismInfo (info : Option CkMechanismInfo)
  | sessionInfo (info : Option CkSessionInfo)
  deriving DecidableEq

/-- What a call returns and writes. -/
structure Response where
  rv : CkRv
  output : Output
  deriving DecidableEq

/-- What happens to a process: a call with its surroundings, or the start of a new one. -/
inductive Event where
  | call (call : Call) (env : Env)
  | newProcess

/-- One API call. -/
def callStep (sha256 : Sha256) (env : Env) (system : System) : Call → Response × System
  | .initializeLibrary =>
    let (rv, system) := cInitialize env system
    (⟨rv, .nothing⟩, system)
  | .finalizeLibrary pReserved =>
    let (rv, system) := cFinalize system pReserved
    (⟨rv, .nothing⟩, system)
  | .getInfo pInfo =>
    let (rv, info) := cGetInfo system pInfo
    (⟨rv, .info info⟩, system)
  | .getFunctionList ppFunctionList =>
    (⟨if ppFunctionList then .ok else .argumentsBad, .nothing⟩, system)
  | .getSlotList tokenPresent pSlotList pulCount =>
    let (rv, written) := cGetSlotList system tokenPresent pSlotList pulCount
    (⟨rv, .numbers written⟩, system)
  | .getSlotInfo slotID pInfo =>
    let (rv, info) := cGetSlotInfo system slotID pInfo
    (⟨rv, .slotInfo info⟩, system)
  | .getTokenInfo slotID pInfo =>
    let (rv, info) := cGetTokenInfo env system slotID pInfo
    (⟨rv, .tokenInfo info⟩, system)
  | .getMechanismList slotID pMechanismList pulCount =>
    let (rv, written) := cGetMechanismList system slotID pMechanismList pulCount
    (⟨rv, .numbers written⟩, system)
  | .getMechanismInfo slotID type pInfo =>
    let (rv, info) := cGetMechanismInfo system slotID type pInfo
    (⟨rv, .mechanismInfo info⟩, system)
  | .initToken slotID pPin pLabel =>
    let (rv, system) := cInitToken sha256 env system slotID pPin pLabel
    (⟨rv, .nothing⟩, system)
  | .initPIN hSession pPin =>
    let (rv, system) := cInitPIN sha256 env system hSession pPin
    (⟨rv, .nothing⟩, system)
  | .setPIN hSession pOldPin pNewPin =>
    let (rv, system) := cSetPIN sha256 env system hSession pOldPin pNewPin
    (⟨rv, .nothing⟩, system)
  | .openSession slotID flags phSession =>
    let (rv, handle, system) := cOpenSession env system slotID flags phSession
    (⟨rv, .handle handle⟩, system)
  | .closeSession hSession =>
    let (rv, system) := cCloseSession system hSession
    (⟨rv, .nothing⟩, system)
  | .closeAllSessions slotID =>
    let (rv, system) := cCloseAllSessions system slotID
    (⟨rv, .nothing⟩, system)
  | .getSessionInfo hSession pInfo =>
    let (rv, info) := cGetSessionInfo system hSession pInfo
    (⟨rv, .sessionInfo info⟩, system)
  | .login hSession userType pPin =>
    let (rv, system) := cLogin sha256 env system hSession userType pPin
    (⟨rv, .nothing⟩, system)
  | .logout hSession =>
    let (rv, system) := cLogout system hSession
    (⟨rv, .nothing⟩, system)
  | .createObject hSession pTemplate phObject =>
    let (rv, handle, system) := cCreateObject env system hSession pTemplate phObject
    (⟨rv, .handle handle⟩, system)
  | .destroyObject hSession hObject =>
    let (rv, system) := cDestroyObject env system hSession hObject
    (⟨rv, .nothing⟩, system)
  | .getAttributeValue hSession hObject pTemplate =>
    let (rv, entries) := cGetAttributeValue system hSession hObject pTemplate
    (⟨rv, .template entries⟩, system)
  | .setAttributeValue hSession hObject pTemplate =>
    let (rv, system) := cSetAttributeValue system hSession hObject pTemplate
    (⟨rv, .nothing⟩, system)
  | .findObjectsInit hSession _ =>
    let (rv, system) := cFindObjectsInit system hSession
    (⟨rv, .nothing⟩, system)
  | .findObjects hSession phObject ulMaxObjectCount pulObjectCount =>
    let (rv, chunk, system) := cFindObjects system hSession phObject ulMaxObjectCount pulObjectCount
    (⟨rv, .handles chunk⟩, system)
  | .findObjectsFinal hSession =>
    let (rv, system) := cFindObjectsFinal system hSession
    (⟨rv, .nothing⟩, system)
  | .signInit hSession pMechanism hKey =>
    let (rv, system) := cSignInit system hSession pMechanism hKey
    (⟨rv, .nothing⟩, system)
  | .sign hSession pData pSignature pulSignatureLen =>
    let (rv, written, system) := cSign env system hSession pData pSignature pulSignatureLen
    (⟨rv, .signature written⟩, system)
  | .verifyInit hSession pMechanism hKey =>
    let (rv, system) := cVerifyInit system hSession pMechanism hKey
    (⟨rv, .nothing⟩, system)
  | .verify hSession pData pSignature =>
    let (rv, system) := cVerify system hSession pData pSignature
    (⟨rv, .nothing⟩, system)
  | .generateKeyPair hSession pMechanism pPublicKeyTemplate pPrivateKeyTemplate
      phPublicKey phPrivateKey =>
    let (rv, handles, system) := cGenerateKeyPair env system hSession pMechanism
      pPublicKeyTemplate pPrivateKeyTemplate phPublicKey phPrivateKey
    (⟨rv, .keyPair handles⟩, system)
  | .generateRandom hSession randomData ulRandomLen =>
    let (rv, bytes) := cGenerateRandom env system hSession randomData ulRandomLen
    (⟨rv, .random bytes⟩, system)
  | .seedRandom => (⟨.ok, .nothing⟩, system)
  | .notSupported => (⟨.functionNotSupported, .nothing⟩, system)
  | .notParallel => (⟨.functionNotParallel, .nothing⟩, system)

/-- One event. A new process answers nothing; `CKR_OK` fills the place. -/
def step (sha256 : Sha256) (system : System) : Event → Response × System
  | .call call env => callStep sha256 env system call
  | .newProcess => (⟨.ok, .nothing⟩, bootProcess system.storage)

/-- A process that has just started, whatever its storage holds. -/
def Booted (system : System) : Prop := system = bootProcess system.storage

/-- The states that runs reach from a fresh process over any storage. -/
def Reachable (sha256 : Sha256) (system : System) : Prop :=
  Runs.Reachable (step sha256) Booted system

/-! ## Surroundings in which nothing fails

The surroundings of the concrete runs below: the PINs of the basic test, a
second choice for each, their SHA-256 digests, and calls of which none fails. -/

def soPin : Bytes := [0x31, 0x32, 0x33, 0x34, 0x35, 0x36, 0x37, 0x38, 0x39, 0x30]
def otherSoPin : Bytes := [0x30, 0x39, 0x38, 0x37, 0x36, 0x35, 0x34, 0x33, 0x32, 0x31]
def userPin : Bytes := [0x75, 0x73, 0x65, 0x72, 0x31, 0x32, 0x33, 0x34]
def otherUserPin : Bytes := [0x38, 0x37, 0x36, 0x35, 0x34, 0x33, 0x32, 0x31]

/-- SHA-256 on the four PINs. -/
def pinSha256 : Sha256 := fun bytes =>
  if bytes = soPin then ⟨[0xc7, 0x75, 0xe7, 0xb7, 0x57, 0xed, 0xe6, 0x30, 0xcd, 0x0a, 0xa1,
    0x11, 0x3b, 0xd1, 0x02, 0x66, 0x1a, 0xb3, 0x88, 0x29, 0xca, 0x52,
    0xa6, 0x42, 0x2a, 0xb7, 0x82, 0x86, 0x2f, 0x26, 0x86, 0x46], rfl⟩
  else if bytes = otherSoPin then ⟨[0x17, 0x75, 0x63, 0x15, 0xeb, 0xd4, 0x7b, 0x71, 0x10, 0x35,
    0x9f, 0xc7, 0xb1, 0x68, 0x17, 0x9b, 0xf6, 0xf2, 0xdf, 0x36, 0x46, 0xfc,
    0xc8, 0x88, 0xbc, 0x8a, 0xa0, 0x5c, 0x78, 0xb3, 0x8a, 0xc1], rfl⟩
  else if bytes = userPin then ⟨[0x83, 0x1c, 0x23, 0x79, 0x28, 0xe6, 0x21, 0x2b, 0xed, 0xaa, 0x44,
    0x51, 0xa5, 0x14, 0xac, 0xe3, 0x17, 0x45, 0x62, 0xf6, 0x76, 0x1f,
    0x6a, 0x15, 0x7a, 0x2f, 0xe5, 0x08, 0x2b, 0x36, 0xe2, 0xfb], rfl⟩
  else if bytes = otherUserPin then ⟨[0xe2, 0x4d, 0xf9, 0x20, 0x07, 0x8c, 0x3d, 0xd4, 0xe7, 0xe8,
    0xd2, 0x44, 0x2f, 0x00, 0xe5, 0xc9, 0xab, 0x2a, 0x23, 0x1b, 0xb3, 0x91,
    0x8d, 0x65, 0xcc, 0x50, 0x90, 0x6e, 0x49, 0xec, 0xae, 0xf4], rfl⟩
  else Buffer.filled 32 0

/-- Every file is written whole. -/
def wholeWrite : WriteOutcome := ⟨true, fun _ => none⟩

/-- A P-256 signature in DER: a sequence of two numbers of 32 bytes. -/
def derSignature : Bytes :=
  [0x30, 0x44, 0x02, 0x20] ++ List.replicate 32 0x5a ++ [0x02, 0x20] ++ List.replicate 32 0x5a

/-- OpenSSL signing that never fails, with lengths of RSA-2048 and P-256. A DER signature can take
72 bytes, which is what OpenSSL asks for before it signs. -/
def calmSigner : Signer where
  newKey _ := true
  newMdCtx := true
  digestSignInit := true
  digestSignUpdate := true
  digestSignSize key := some (if key.rsa.modulus.isEmpty then 72 else 256)
  digestSignFinal key _ _ _ :=
    some (if key.rsa.modulus.isEmpty then derSignature else List.replicate 256 0x5a)
  rsaSize _ := 256
  rsaPrivateEncrypt _ _ _ := some (List.replicate 256 0x5a)
  ecdsaDoSign _ _ _ := some derSignature

/-- Nothing fails, and the key generated is the one with the given scalar byte. -/
def calmEnv (scalar : UInt8) : Env where
  now := 0
  calloc _ := true
  malloc := true
  mkdirStorage := true
  mkdirKeys := true
  tokenRead := true
  tokenWrite := wholeWrite
  objectWrite _ := wholeWrite
  unlink := true
  keygenRsa _ := none
  keygenEc _ := some ⟨List.replicate 65 0x04, List.replicate 32 scalar⟩
  signer := calmSigner
  randBytes amount := some (List.replicate amount.toNat 0)

/-- A call in those surroundings. -/
def calmly (call : Call) : Event := .call call (calmEnv 1)

/-- A machine that the library has never run on. -/
def freshStorage : Storage := ⟨false, false, none, ∅⟩

/-- The library just initialized on a fresh machine. -/
def blankToken : System := (cInitialize (calmEnv 1) (bootProcess freshStorage)).2

/-- Initialize the token and its user PIN, and log the user in on session 1. -/
def tokenSetUp : List Event :=
  [calmly .initializeLibrary,
    calmly (.initToken 0 (some soPin) (some [])),
    calmly (.openSession 0 (ckfSerialSession ||| ckfRwSession) true),
    calmly (.login 1 ckuSo (some soPin)),
    calmly (.initPIN 1 (some userPin)),
    calmly (.logout 1),
    calmly (.login 1 ckuUser (some userPin))]

/-- The user is logged in on session 1. -/
def userReady : System := Runs.run (step pinSha256) (bootProcess freshStorage) tokenSetUp

/-- Whatever happens from there is reachable. -/
theorem set_up_reachable (events : List Event) :
    Reachable pinSha256 (Runs.run (step pinSha256) userReady events) := by
  refine ⟨bootProcess freshStorage, tokenSetUp ++ events, rfl, ?_⟩
  rw [Runs.run_append]
  rfl

/-- The entry of the session opened first. -/
def firstEntry : Fin hsmMaxSessions := ⟨0, by decide⟩

/-- The entry of the session opened second. -/
def secondEntry : Fin hsmMaxSessions := ⟨1, by decide⟩

/-- An entry whose pointer shows the given bytes and whose length is theirs. -/
def entryOf (type : CkAttributeType) (bytes : Bytes) : CkAttribute :=
  ⟨type, some bytes, bytes.length⟩

end PstHsm
