import PstHsm.Api
import PstHsm.Heaps

/-!
# The library with its heap

The entry points once more, each with what it allocates and frees, in the order of the source and
on every return path. The library holds the array of slots, a block for each session, and for each
object a block and the buffers of its key. No function frees a buffer of a key: with the block of
its object the last pointer to it is gone. A signature without a buffer to go to is encoded into a
block that `i2d_ECDSA_SIG` allocates, and nobody keeps the pointer.

The objects of OpenSSL, which the source frees on every path, are not on the books. Of the calls
of `malloc` only the first one for the key of an elliptic curve is checked, and it can fail; the
other buffers of a key are taken to be allocated, as the source does not look.
-/

namespace PstHsm

open Tables Heaps

/-- The block of an `hsm_object_t` and the buffers that its key points to. -/
structure ObjectBlocks where
  object : Block
  key : List Block

/-- The pointers of the library and the heap they point to. Beside them stand the buffers that no
pointer leads to any more and the encodings that none ever led to, which no function reads. -/
structure Memory where
  heap : Heap
  slots : Option Block
  sessions : Table hsmMaxSessions Block
  objects : Table hsmMaxObjects ObjectBlocks
  lost : List Block
  encodings : List Block

namespace Memory

/-- The memory of a process that has just started. -/
def blank : Memory := ⟨Heap.blank, none, empty, empty, [], []⟩

/-! ## Sessions -/

/-- `hsm_create_session`. -/
def hsmCreateSession (env : Env) (context : HsmContext) (memory : Memory) : Memory :=
  if context.slot.sessionCount ≥ hsmMaxSessions then memory
  else
    match firstFree context.slot.sessions with
    | none => memory
    | some index =>
      match memory.heap.tryAlloc (env.calloc 0) with
      | (none, heap) => { memory with heap := heap }
      | (some session, heap) =>
        { memory with heap := heap, sessions := put memory.sessions index (some session) }

/-- `hsm_destroy_session`. The context of an operation is never set, so only the session goes. -/
def hsmDestroySession (system : System) (hSession : CkSessionHandle) (memory : Memory) : Memory :=
  match hsmGetSession system hSession with
  | .error _ => memory
  | .ok found =>
    { memory with
      heap := memory.heap.freePointer (memory.sessions found.index)
      sessions := put memory.sessions found.index none }

/-- One turn of the loops that close every session of the slot. -/
def closeSessionAt (pair : System × Memory) (index : Fin hsmMaxSessions) : System × Memory :=
  match pair.1.gHsmContext with
  | none => pair
  | some context =>
    match context.slot.sessions index with
    | none => pair
    | some session =>
      ((PstHsm.hsmDestroySession pair.1 session.handle).2,
        hsmDestroySession pair.1 session.handle pair.2)

/-- The loop over all indices. -/
def closeSessions (system : System) (memory : Memory) : Memory :=
  ((List.finRange hsmMaxSessions).foldl closeSessionAt (system, memory)).2

/-! ## Objects -/

/-- `free` on an object and the reset of its entry. The buffers of the key stay. -/
def freeObjectAt (memory : Memory) (index : Fin hsmMaxObjects) : Memory :=
  match memory.objects index with
  | none => memory
  | some blocks =>
    { memory with
      heap := memory.heap.free blocks.object
      objects := put memory.objects index none
      lost := blocks.key ++ memory.lost }

/-- `hsm_create_object`. Parsing a template cannot fail, so the object is never freed here. -/
def hsmCreateObject (env : Env) (found : FoundSession) (memory : Memory) : Memory :=
  if found.slot.objectCount ≥ hsmMaxObjects then memory
  else
    match firstFree found.slot.objects with
    | none => memory
    | some index =>
      match memory.heap.tryAlloc (env.calloc 0) with
      | (none, heap) => { memory with heap := heap }
      | (some object, heap) =>
        { memory with heap := heap, objects := put memory.objects index (some ⟨object, []⟩) }

/-- `hsm_destroy_object`. -/
def hsmDestroyObject (found : FoundSession) (hObject : CkObjectHandle) (memory : Memory) :
    Memory :=
  match hsmGetObject found.slot hObject with
  | .error _ => memory
  | .ok (index, _) => memory.freeObjectAt index

/-- The buffers of a public key: modulus and public exponent, or curve and point. -/
def publicBuffers : Nat := 2

/-- The buffers of a private key: all eight numbers, or curve, point and private value. -/
def privateBuffers (mechanism : CkMechanismType) : Nat :=
  if mechanism = ckmRsaPkcsKeyPairGen then 8 else 3

/-- The section that adds both halves of a key pair to the slot, or frees them again. -/
def insertKeyPair (context : HsmContext) (pub priv : ObjectBlocks) (memory : Memory) : Memory :=
  match freeIndices context.slot.objects with
  | pubIdx :: privIdx :: _ =>
    { memory with objects := put (put memory.objects pubIdx (some pub)) privIdx (some priv) }
  | _ =>
    { memory with
      heap := (memory.heap.free pub.object).free priv.object
      lost := priv.key ++ (pub.key ++ memory.lost) }

/-- `C_GenerateKeyPair`. -/
def cGenerateKeyPair (env : Env) (system : System) (hSession : CkSessionHandle)
    (pMechanism : Option CkMechanismType)
    (pPublicKeyTemplate pPrivateKeyTemplate : List CkAttribute)
    (phPublicKey phPrivateKey : Bool) (memory : Memory) : Memory :=
  match pMechanism, phPublicKey, phPrivateKey with
  | some mechanism, true, true =>
    match hsmGetSession system hSession with
    | .error _ => memory
    | .ok found =>
      if !found.session.userLoggedIn then memory
      else
        let (pubObj, heap) := memory.heap.tryAlloc (env.calloc 0)
        let (privObj, heap) := heap.tryAlloc (env.calloc 1)
        match pubObj, privObj with
        | some pubObj, some privObj =>
          match generateHalves env mechanism pPublicKeyTemplate pPrivateKeyTemplate with
          | .error _ => { memory with heap := (heap.free pubObj).free privObj }
          | .ok _ =>
            let (pubKey, heap) := heap.allocs publicBuffers
            let (privKey, heap) := heap.allocs (privateBuffers mechanism)
            insertKeyPair found.context ⟨pubObj, pubKey⟩ ⟨privObj, privKey⟩
              { memory with heap := heap }
        | pubObj, privObj =>
          { memory with heap := (heap.freePointer pubObj).freePointer privObj }
  | _, _, _ => memory

/-! ## Signatures -/

/-- `sign_ec`. In the raw branch the second call of `i2d_ECDSA_SIG` allocates the encoding itself
if it is given a null pointer to write to. -/
def signEc (signer : Signer) (keyData : HsmKeyData) (mechanism : CkMechanismType) (data : Bytes)
    (pSignature : Bool) (signatureLen : CkUlong) (memory : Memory) : Memory :=
  if !signer.newKey keyData then memory
  else
    match ecDigest mechanism with
    | none => memory
    | some digest =>
      if !signer.newMdCtx then memory
      else
        match digest with
        | some _ => memory
        | none =>
          match signer.ecdsaDoSign keyData (cInt data.length) data with
          | none => memory
          | some signature =>
            if signatureLen < signature.length then memory
            else if pSignature then memory
            else
              { memory with
                heap := memory.heap.alloc.2
                encodings := memory.heap.alloc.1 :: memory.encodings }

/-- `hsm_sign_data`. -/
def hsmSignData (signer : Signer) (privKey : HsmObject) (mechanism : CkMechanismType)
    (data : Bytes) (pSignature : Bool) (signatureLen : CkUlong) (memory : Memory) : Memory :=
  if privKey.type ≠ objTypePrivateKey then memory
  else if privKey.keyType = keyTypeRsa then memory
  else if privKey.keyType = keyTypeEc then
    signEc signer privKey.keyData mechanism data pSignature signatureLen memory
  else memory

/-- `C_Sign`. -/
def cSign (env : Env) (system : System) (hSession : CkSessionHandle) (pData : Option Bytes)
    (pSignature : Bool) (pulSignatureLen : Option CkUlong) (memory : Memory) : Memory :=
  match pData, pulSignatureLen with
  | some data, some signatureLen =>
    match hsmGetSession system hSession with
    | .error _ => memory
    | .ok found =>
      let operation := found.session.operation
      if !operation.active || operation.type ≠ .sign then memory
      else
        match hsmGetObject found.slot operation.keyHandle with
        | .error _ => memory
        | .ok (_, privKey) =>
          hsmSignData env.signer privKey operation.mechanism data pSignature signatureLen memory
  | _, _ => memory

/-! ## Initialization and finalization -/

/-- `C_Initialize`. `hsm_init_context` clears the context and with it the pointer to the slots. -/
def cInitialize (env : Env) (system : System) (memory : Memory) : Memory :=
  match system.gHsmContext with
  | some _ => memory
  | none =>
    if (hsmStorageInit env system.storage).1 ≠ .ok then { memory with slots := none }
    else
      let (slots, heap) := memory.heap.tryAlloc (env.calloc 0)
      { memory with heap := heap, slots := slots, sessions := empty, objects := empty }

/-- `hsm_cleanup_slot`. -/
def hsmCleanupSlot (system : System) (memory : Memory) : Memory :=
  (List.finRange hsmMaxObjects).foldl freeObjectAt (closeSessions system memory)

/-- `C_Finalize`. -/
def cFinalize (system : System) (pReserved : Bool) (memory : Memory) : Memory :=
  if pReserved then memory
  else
    match system.gHsmContext with
    | none => memory
    | some _ =>
      let memory := hsmCleanupSlot system memory
      { memory with heap := memory.heap.freePointer memory.slots, slots := none }

/-! ## Entry points -/

/-- `C_OpenSession`. -/
def cOpenSession (env : Env) (system : System) (slotID : CkSlotId) (flags : CkFlags)
    (phSession : Bool) (memory : Memory) : Memory :=
  if !phSession then memory
  else
    match system.gHsmContext with
    | none => memory
    | some context =>
      if slotID ≥ slotCount then memory
      else if flags &&& ckfSerialSession = 0 then memory
      else hsmCreateSession env context memory

/-- `C_CloseAllSessions`. -/
def cCloseAllSessions (system : System) (slotID : CkSlotId) (memory : Memory) : Memory :=
  match system.gHsmContext with
  | none => memory
  | some _ => if slotID ≥ slotCount then memory else closeSessions system memory

/-- `C_InitToken`, which closes the sessions of the slot. -/
def cInitToken (system : System) (slotID : CkSlotId) (pPin pLabel : Option Bytes)
    (memory : Memory) : Memory :=
  match pPin, pLabel with
  | some pin, some _ =>
    if pin.length < hsmMinPinLen || pin.length > hsmMaxPinLen then memory
    else
      match system.gHsmContext with
      | none => memory
      | some _ => if slotID ≥ slotCount then memory else closeSessions system memory
  | _, _ => memory

/-- `C_CreateObject`. -/
def cCreateObject (env : Env) (system : System) (hSession : CkSessionHandle)
    (pTemplate : Option (List CkAttribute)) (phObject : Bool) (memory : Memory) : Memory :=
  match pTemplate, phObject with
  | some _, true =>
    match hsmGetSession system hSession with
    | .error _ => memory
    | .ok found => hsmCreateObject env found memory
  | _, _ => memory

/-- `C_DestroyObject`. -/
def cDestroyObject (system : System) (hSession : CkSessionHandle) (hObject : CkObjectHandle)
    (memory : Memory) : Memory :=
  match hsmGetSession system hSession with
  | .error _ => memory
  | .ok found => hsmDestroyObject found hObject memory

/-- What a call does to the memory; the others neither allocate nor free. -/
def callStep (env : Env) (system : System) (memory : Memory) : Call → Memory
  | .initializeLibrary => cInitialize env system memory
  | .finalizeLibrary pReserved => cFinalize system pReserved memory
  | .initToken slotID pPin pLabel => cInitToken system slotID pPin pLabel memory
  | .openSession slotID flags phSession => cOpenSession env system slotID flags phSession memory
  | .closeSession hSession => hsmDestroySession system hSession memory
  | .closeAllSessions slotID => cCloseAllSessions system slotID memory
  | .createObject hSession pTemplate phObject =>
    cCreateObject env system hSession pTemplate phObject memory
  | .destroyObject hSession hObject => cDestroyObject system hSession hObject memory
  | .generateKeyPair hSession pMechanism pPublicKeyTemplate pPrivateKeyTemplate phPublicKey
      phPrivateKey =>
    cGenerateKeyPair env system hSession pMechanism pPublicKeyTemplate pPrivateKeyTemplate
      phPublicKey phPrivateKey memory
  | .sign hSession pData pSignature pulSignatureLen =>
    cSign env system hSession pData pSignature pulSignatureLen memory
  | _ => memory

/-- The heap of a process goes with the process. -/
def after (system : System) (memory : Memory) : Event → Memory
  | .call made env => callStep env system memory made
  | .newProcess => blank

end Memory

/-- The process with its memory. -/
def memoryStep (sha256 : Sha256) : System × Memory → Event → Response × System × Memory :=
  Runs.traced (step sha256) Memory.after

end PstHsm
