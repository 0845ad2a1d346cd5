import PstHsm.HeapLedger

/-!
# The buffers of keys

No function frees a buffer of a key. Those of an object that is destroyed or freed with its slot
stay allocated with no pointer to them. So does the encoding of a raw signature on an elliptic
curve for which the caller gave no buffer. When the library is finalized the heap holds the
buffers of all keys that the process ever generated and these encodings, and nothing else.
-/

namespace PstHsm

open Tables Heaps

/-- The buffers of keys, those that objects point to and those that are lost. -/
def Memory.keyBuffers (memory : Memory) : List Block :=
  (live memory.objects).flatMap ObjectBlocks.key ++ memory.lost

/-- How many buffers a call makes: those of a key pair, whether or not the slot has room for it. -/
def buffersMade (env : Env) (system : System) : Call → Nat
  | .generateKeyPair hSession (some mechanism) publicTemplate privateTemplate true true =>
    match hsmGetSession system hSession with
    | .error _ => 0
    | .ok found =>
      if found.session.userLoggedIn && env.calloc 0 && env.calloc 1 then
        match generateHalves env mechanism publicTemplate privateTemplate with
        | .error _ => 0
        | .ok _ => Memory.publicBuffers + Memory.privateBuffers mechanism
      else 0
  | _ => 0

/-- How many encodings a call loses: that of a raw signature on an elliptic curve without a
buffer. -/
def encodingsMade (env : Env) (system : System) : Call → Nat
  | .sign hSession pData false pulSignatureLen =>
    match hsmGetSession system hSession with
    | .error _ => 0
    | .ok found =>
      if found.session.operation.mechanism = ckmEcdsa ∧
          (cSign env system hSession pData false pulSignatureLen).1 = .ok then 1
      else 0
  | _ => 0

/-- The buffers and encodings that the process has made so far. -/
def countLeaks (system : System) (made : Nat) : Event → Nat
  | .call call env => made + (buffersMade env system call + encodingsMade env system call)
  | .newProcess => 0

/-- Every buffer of a key and every encoding stays, and so many are new. -/
structure Adds (before : Memory) (buffers encodings : Nat) (after : Memory) : Prop where
  keys : ∃ fresh, fresh.length = buffers ∧ after.keyBuffers.Perm (fresh ++ before.keyBuffers)
  encoded : after.encodings.length = before.encodings.length + encodings

/-- Nothing that could be lost changes. -/
structure Untouched (before after : Memory) : Prop where
  objects : after.objects = before.objects
  lost : after.lost = before.lost
  encodings : after.encodings = before.encodings

/-- Nothing has been touched yet. -/
theorem untouched_refl (memory : Memory) : Untouched memory memory := ⟨rfl, rfl, rfl⟩

/-- What two steps leave untouched both leave untouched. -/
theorem untouched_trans {first second third : Memory} (before : Untouched first second)
    (after : Untouched second third) : Untouched first third where
  objects := after.objects.trans before.objects
  lost := after.lost.trans before.lost
  encodings := after.encodings.trans before.encodings

/-- Buffers that are only moved. -/
theorem adds_perm (before after : Memory) (perm : after.keyBuffers.Perm before.keyBuffers)
    (encodings : after.encodings = before.encodings) : Adds before 0 0 after := by
  refine ⟨⟨[], rfl, ?_⟩, ?_⟩
  · rw [List.nil_append]
    exact perm
  · rw [encodings, Nat.add_zero]

/-- Where nothing changes, nothing comes or goes. -/
theorem adds_none (before after : Memory) (same : Untouched before after) :
    Adds before 0 0 after := by
  apply adds_perm
  · unfold Memory.keyBuffers
    rw [same.objects, same.lost]
  · exact same.encodings

/-! ## Sessions -/

/-- No session has a key. -/
theorem destroy_session_buffers (system : System) (hSession : CkSessionHandle)
    (memory : Memory) : Untouched memory (memory.hsmDestroySession system hSession) := by
  unfold Memory.hsmDestroySession
  split
  · exact untouched_refl memory
  · exact ⟨rfl, rfl, rfl⟩

/-- Nor have all of them together. -/
theorem close_sessions_buffers (system : System) (memory : Memory) :
    Untouched memory (memory.closeSessions system) := by
  have turn (pair : System × Memory) (index : Fin hsmMaxSessions) :
      Untouched pair.2 (Memory.closeSessionAt pair index).2 := by
    unfold Memory.closeSessionAt
    split
    · exact untouched_refl pair.2
    · split
      · exact untouched_refl pair.2
      · exact destroy_session_buffers pair.1 _ pair.2
  have loop (indices : List (Fin hsmMaxSessions)) (pair : System × Memory) :
      Untouched pair.2 (indices.foldl Memory.closeSessionAt pair).2 := by
    induction indices generalizing pair with
    | nil => exact untouched_refl pair.2
    | cons index rest inductionHypothesis =>
      exact untouched_trans (turn pair index) (inductionHypothesis _)
  unfold Memory.closeSessions
  exact loop (List.finRange hsmMaxSessions) (system, memory)

/-- A session comes without a key. -/
theorem create_session_buffers (env : Env) (context : HsmContext) (memory : Memory) :
    Untouched memory (memory.hsmCreateSession env context) := by
  unfold Memory.hsmCreateSession
  split
  · exact untouched_refl memory
  · split
    · exact untouched_refl memory
    · split
      · exact ⟨rfl, rfl, rfl⟩
      · exact ⟨rfl, rfl, rfl⟩

/-- Opening a session touches no buffer of a key. -/
theorem open_session_buffers (env : Env) (system : System) (slotID : CkSlotId)
    (flags : CkFlags) (phSession : Bool) (memory : Memory) :
    Untouched memory (memory.cOpenSession env system slotID flags phSession) := by
  unfold Memory.cOpenSession
  split
  · exact untouched_refl memory
  · split
    · exact untouched_refl memory
    · split
      · exact untouched_refl memory
      · split
        · exact untouched_refl memory
        · exact create_session_buffers env _ memory

/-- Closing all sessions touches none. -/
theorem close_all_sessions_buffers (system : System) (slotID : CkSlotId) (memory : Memory) :
    Untouched memory (memory.cCloseAllSessions system slotID) := by
  unfold Memory.cCloseAllSessions
  split
  · exact untouched_refl memory
  · split
    · exact untouched_refl memory
    · exact close_sessions_buffers system memory

/-- Nor does initializing the token. -/
theorem init_token_buffers (system : System) (slotID : CkSlotId) (pPin pLabel : Option Bytes)
    (memory : Memory) : Untouched memory (memory.cInitToken system slotID pPin pLabel) := by
  unfold Memory.cInitToken
  split
  · split
    · exact untouched_refl memory
    · split
      · exact untouched_refl memory
      · split
        · exact untouched_refl memory
        · exact close_sessions_buffers system memory
  · exact untouched_refl memory

/-! ## Objects -/

/-- The key of an object that comes into a null entry is new. -/
theorem object_buffers_added (memory : Memory) (index : Fin hsmMaxObjects)
    (object : ObjectBlocks) (free : memory.objects index = none) (heap : Heap) :
    Adds memory object.key.length 0
      { memory with heap := heap, objects := put memory.objects index (some object) } := by
  refine ⟨⟨object.key, rfl, ?_⟩, rfl⟩
  have added := (live_fill memory.objects index object free).flatMap_right ObjectBlocks.key
  rw [List.flatMap_cons] at added
  unfold Memory.keyBuffers
  rw [← List.append_assoc]
  exact added.append_right _

/-- An object is freed without its key. -/
theorem free_object_buffers (memory : Memory) (index : Fin hsmMaxObjects) :
    (memory.freeObjectAt index).keyBuffers.Perm memory.keyBuffers := by
  unfold Memory.freeObjectAt
  cases owned : memory.objects index with
  | none => exact List.Perm.refl _
  | some object =>
    have removed := (live_remove memory.objects index object owned).flatMap_right
      ObjectBlocks.key
    apply List.perm_iff_count.mpr
    intro block
    have counted := removed.count_eq block
    simp only [Memory.keyBuffers, List.count_append, List.flatMap_cons] at counted ⊢
    omega

/-- Freeing an object leaves the lost signatures. -/
theorem free_object_encodings (memory : Memory) (index : Fin hsmMaxObjects) :
    (memory.freeObjectAt index).encodings = memory.encodings := by
  unfold Memory.freeObjectAt
  cases memory.objects index with
  | none => rfl
  | some object => rfl

/-- So are all of them. -/
theorem free_objects_buffers (indices : List (Fin hsmMaxObjects)) (memory : Memory) :
    (indices.foldl Memory.freeObjectAt memory).keyBuffers.Perm memory.keyBuffers ∧
      (indices.foldl Memory.freeObjectAt memory).encodings = memory.encodings := by
  induction indices generalizing memory with
  | nil => exact ⟨List.Perm.refl _, rfl⟩
  | cons index rest inductionHypothesis =>
    obtain ⟨buffers, encodings⟩ := inductionHypothesis (memory.freeObjectAt index)
    exact ⟨buffers.trans (free_object_buffers memory index),
      encodings.trans (free_object_encodings memory index)⟩

section Calls

variable (system : System) (memory : Memory) (accounted : Accounted (system, memory))

/-- Destroying an object makes no buffer. -/
theorem destroy_object_buffers (hSession : CkSessionHandle) (hObject : CkObjectHandle) :
    Adds memory 0 0 (memory.cDestroyObject system hSession hObject) := by
  have same : Adds memory 0 0 memory := adds_none _ _ (untouched_refl memory)
  unfold Memory.cDestroyObject
  split
  · exact same
  · unfold Memory.hsmDestroyObject
    split
    · exact same
    · rename_i index _ _
      exact adds_perm _ _ (free_object_buffers memory index) (free_object_encodings memory index)

include accounted

/-- Nor does creating one. -/
theorem create_object_buffers (env : Env) (hSession : CkSessionHandle)
    (pTemplate : Option (List CkAttribute)) (phObject : Bool) :
    Adds memory 0 0 (memory.cCreateObject env system hSession pTemplate phObject) := by
  have same : Adds memory 0 0 memory := adds_none _ _ (untouched_refl memory)
  unfold Memory.cCreateObject
  split
  · cases located : hsmGetSession system hSession with
    | error rv => exact same
    | ok found =>
      obtain ⟨present, -, -⟩ := get_session_sound system hSession found located
      dsimp only
      unfold Memory.hsmCreateObject
      by_cases full : found.slot.objectCount ≥ hsmMaxObjects
      · rw [if_pos full]
        exact same
      · rw [if_neg full]
        cases free : firstFree found.slot.objects with
        | none => exact same
        | some index =>
          have vacant := vacant_object system memory accounted _ present index
            (first_free_sound _ index free)
          cases allocated : env.calloc 0 with
          | false => exact adds_none _ _ ⟨rfl, rfl, rfl⟩
          | true =>
            exact object_buffers_added memory index ⟨memory.heap.alloc.1, []⟩ vacant
              memory.heap.alloc.2
  · exact same

/-- With room or without, both keys are new and stay. -/
theorem insert_key_pair_buffers (context : HsmContext)
    (present : system.gHsmContext = some context) (pub priv : ObjectBlocks) (heap : Heap) :
    Adds memory (pub.key.length + priv.key.length) 0
      (Memory.insertKeyPair context pub priv { memory with heap := heap }) := by
  have lost (heap : Heap) : Adds memory (pub.key.length + priv.key.length) 0
      { memory with heap := heap, lost := priv.key ++ (pub.key ++ memory.lost) } := by
    refine ⟨⟨pub.key ++ priv.key, List.length_append, ?_⟩, rfl⟩
    apply List.perm_iff_count.mpr
    intro block
    simp only [Memory.keyBuffers, List.count_append]
    omega
  unfold Memory.insertKeyPair
  cases free : freeIndices context.slot.objects with
  | nil => exact lost _
  | cons pubIdx rest =>
    cases rest with
    | nil => exact lost _
    | cons privIdx rest =>
      obtain ⟨pubFree, privFree, different⟩ := free_indices_sound _ pubIdx privIdx rest free
      have pubVacant := vacant_object system memory accounted context present pubIdx pubFree
      have privVacant : put memory.objects pubIdx (some pub) privIdx = none :=
        (put_other _ _ _ _ different.symm).trans
          (vacant_object system memory accounted context present privIdx privFree)
      obtain ⟨⟨pubKey, pubLength, first⟩, -⟩ :=
        object_buffers_added memory pubIdx pub pubVacant heap
      obtain ⟨⟨privKey, privLength, second⟩, -⟩ := object_buffers_added { memory with
        heap := heap, objects := put memory.objects pubIdx (some pub) } privIdx priv privVacant heap
      refine ⟨⟨privKey ++ pubKey, by rw [List.length_append]; omega, ?_⟩, rfl⟩
      rw [List.append_assoc]
      exact second.trans (first.append_left _)

/-- Generating a key pair makes its buffers, whether or not the slot has room for it. -/
theorem generate_key_pair_buffers (env : Env) (hSession : CkSessionHandle)
    (pMechanism : Option CkMechanismType) (publicTemplate privateTemplate : List CkAttribute)
    (phPublicKey phPrivateKey : Bool) :
    Adds memory
      (buffersMade env system (.generateKeyPair hSession pMechanism publicTemplate
        privateTemplate phPublicKey phPrivateKey)) 0
      (memory.cGenerateKeyPair env system hSession pMechanism publicTemplate privateTemplate
        phPublicKey phPrivateKey) := by
  have same : Adds memory 0 0 memory := adds_none _ _ (untouched_refl memory)
  have heapOnly (heap : Heap) : Adds memory 0 0 { memory with heap := heap } :=
    adds_none _ _ ⟨rfl, rfl, rfl⟩
  unfold Memory.cGenerateKeyPair
  cases pMechanism with
  | none => exact same
  | some mechanism =>
    cases phPublicKey with
    | false => exact same
    | true =>
      cases phPrivateKey with
      | false => exact same
      | true =>
        unfold buffersMade
        dsimp only
        cases located : hsmGetSession system hSession with
        | error rv => exact same
        | ok found =>
          obtain ⟨present, -, -⟩ := get_session_sound system hSession found located
          dsimp only
          cases user : found.session.userLoggedIn with
          | false => exact same
          | true =>
            cases pubAllocated : env.calloc 0 with
            | false =>
              cases privAllocated : env.calloc 1 with
              | false => exact heapOnly _
              | true => exact heapOnly _
            | true =>
              cases privAllocated : env.calloc 1 with
              | false => exact heapOnly _
              | true =>
                dsimp only [Heap.tryAlloc]
                simp only [Bool.not_true, Bool.and_self, Bool.false_eq_true, if_false, if_true]
                cases generateHalves env mechanism publicTemplate privateTemplate with
                | error rv => exact heapOnly _
                | ok pair =>
                  have pubAmount := Heap.allocs_length memory.heap.alloc.2.alloc.2
                    Memory.publicBuffers
                  generalize Heap.allocs _ Memory.publicBuffers = made at pubAmount ⊢
                  have privAmount := Heap.allocs_length made.2 (Memory.privateBuffers mechanism)
                  generalize Heap.allocs _ (Memory.privateBuffers mechanism) = rest
                    at privAmount ⊢
                  rw [← pubAmount, ← privAmount]
                  exact insert_key_pair_buffers system memory accounted found.context present
                    ⟨memory.heap.alloc.1, made.1⟩ ⟨memory.heap.alloc.2.alloc.1, rest.1⟩ rest.2

/-- Initializing the library makes none. -/
theorem initialize_buffers (env : Env) : Adds memory 0 0 (memory.cInitialize env system) := by
  have same : Adds memory 0 0 memory := adds_none _ _ (untouched_refl memory)
  unfold Memory.cInitialize
  cases present : system.gHsmContext with
  | some context => exact same
  | none =>
    obtain ⟨-, -, objects⟩ := absent_books system memory accounted present
    by_cases failed : (hsmStorageInit env system.storage).1 ≠ .ok
    · simp only [if_pos failed]
      exact adds_none _ _ ⟨rfl, rfl, rfl⟩
    · simp only [if_neg failed]
      exact adds_none _ _ ⟨objects.symm, rfl, rfl⟩

omit accounted in
/-- Nor does finalizing it. -/
theorem finalize_buffers (pReserved : Bool) :
    Adds memory 0 0 (memory.cFinalize system pReserved) := by
  have same : Adds memory 0 0 memory := adds_none _ _ (untouched_refl memory)
  unfold Memory.cFinalize
  cases pReserved with
  | true => exact same
  | false =>
    cases present : system.gHsmContext with
    | none => exact same
    | some context =>
      obtain ⟨objects, lost, encodings⟩ := close_sessions_buffers system memory
      obtain ⟨kept, left⟩ := free_objects_buffers (List.finRange hsmMaxObjects)
        (memory.closeSessions system)
      have closed : (memory.closeSessions system).keyBuffers = memory.keyBuffers := by
        unfold Memory.keyBuffers
        rw [objects, lost]
      rw [closed] at kept
      rw [encodings] at left
      unfold Memory.hsmCleanupSlot
      generalize (List.finRange hsmMaxObjects).foldl Memory.freeObjectAt
        (memory.closeSessions system) = cleaned at kept left
      exact adds_perm _ _ kept left

omit accounted in
/-- The raw mechanism of elliptic curves is none of RSA. -/
theorem sign_rsa_ecdsa (signer : Signer) (keyData : HsmKeyData) (data : Bytes)
    (pSignature : Bool) (signatureLen : CkUlong) :
    (signRsa signer keyData ckmEcdsa data pSignature signatureLen).rv ≠ .ok := by
  have unknown : rsaDigest ckmEcdsa = none := by decide
  rw [signRsa, unknown]
  split
  · exact CkRv.noConfusion
  · exact CkRv.noConfusion

omit accounted in
/-- The raw branch of `sign_ec` leaves an encoding exactly when it succeeds without a buffer. -/
theorem sign_ec_encodes (signer : Signer) (keyData : HsmKeyData) (mechanism : CkMechanismType)
    (data : Bytes) (signatureLen : CkUlong) :
    (memory.signEc signer keyData mechanism data false signatureLen).encodings.length =
      memory.encodings.length +
        if mechanism = ckmEcdsa ∧
          (signEc signer keyData mechanism data false signatureLen).rv = .ok then 1 else 0 := by
  by_cases raw : mechanism = ckmEcdsa
  · have digest : ecDigest ckmEcdsa = some none := by decide
    rw [raw, signEc, Memory.signEc, digest]
    by_cases key : (!signer.newKey keyData) = true
    · simp [key]
    · by_cases context : (!signer.newMdCtx) = true
      · simp [key, context]
      · cases signer.ecdsaDoSign keyData (cInt data.length) data with
        | none => simp [key, context]
        | some signature =>
          by_cases short : signatureLen < signature.length
          · simp [key, context, short]
          · simp [key, context, short]
  · have hashed : ecDigest mechanism ≠ some none := by
      rw [ecDigest]
      split
      · decide
      · split
        · decide
        · split
          · decide
          · decide
    rw [if_neg fun both => raw both.1, Nat.add_zero, Memory.signEc]
    split
    · rfl
    · split
      · rfl
      · rename_i digest found
        split
        · rfl
        · cases digest with
          | none => exact absurd found hashed
          | some md => rfl

omit accounted in
/-- Whatever the key, a signature without a buffer leaves an encoding exactly when it succeeds
with that mechanism. -/
theorem sign_data_encodes (signer : Signer) (privKey : HsmObject) (mechanism : CkMechanismType)
    (data : Bytes) (signatureLen : CkUlong) :
    (memory.hsmSignData signer privKey mechanism data false signatureLen).encodings.length =
      memory.encodings.length +
        if mechanism = ckmEcdsa ∧
            (hsmSignData signer privKey mechanism data false signatureLen).rv = .ok
          then 1 else 0 := by
  rw [Memory.hsmSignData, hsmSignData]
  split
  · simp
  · split
    · rw [if_neg]
      · rfl
      · rintro ⟨rfl, succeeded⟩
        exact sign_rsa_ecdsa signer privKey.keyData data false signatureLen succeeded
    · split
      · exact sign_ec_encodes memory signer privKey.keyData mechanism data signatureLen
      · simp

omit accounted in
/-- With a buffer `hsm_sign_data` allocates nothing. -/
theorem sign_data_written (signer : Signer) (privKey : HsmObject) (mechanism : CkMechanismType)
    (data : Bytes) (signatureLen : CkUlong) :
    memory.hsmSignData signer privKey mechanism data true signatureLen = memory := by
  unfold Memory.hsmSignData Memory.signEc
  repeat' split
  all_goals first | rfl | contradiction

omit accounted in
/-- Signing makes no buffer of a key. -/
theorem sign_data_keys (signer : Signer) (privKey : HsmObject) (mechanism : CkMechanismType)
    (data : Bytes) (pSignature : Bool) (signatureLen : CkUlong) :
    (memory.hsmSignData signer privKey mechanism data pSignature signatureLen).keyBuffers =
      memory.keyBuffers := by
  unfold Memory.hsmSignData Memory.signEc
  repeat' split
  all_goals rfl

omit accounted in
/-- Nor does `C_Sign`. -/
theorem sign_keys (env : Env) (hSession : CkSessionHandle) (pData : Option Bytes)
    (pSignature : Bool) (pulSignatureLen : Option CkUlong) :
    (memory.cSign env system hSession pData pSignature pulSignatureLen).keyBuffers =
      memory.keyBuffers := by
  unfold Memory.cSign
  split
  · split
    · rfl
    · dsimp only
      split
      · rfl
      · split
        · rfl
        · exact sign_data_keys memory _ _ _ _ _ _
  · rfl

omit accounted in
/-- With a buffer `C_Sign` allocates nothing. -/
theorem sign_written (env : Env) (hSession : CkSessionHandle) (pData : Option Bytes)
    (pulSignatureLen : Option CkUlong) :
    memory.cSign env system hSession pData true pulSignatureLen = memory := by
  unfold Memory.cSign
  split
  · split
    · rfl
    · dsimp only
      split
      · rfl
      · split
        · rfl
        · exact sign_data_written memory _ _ _ _ _
  · rfl

omit accounted in
/-- Without one it keeps the encoding that it makes. -/
theorem sign_encodes (env : Env) (hSession : CkSessionHandle) (pData : Option Bytes)
    (pulSignatureLen : Option CkUlong) :
    (memory.cSign env system hSession pData false pulSignatureLen).encodings.length =
      memory.encodings.length +
        encodingsMade env system (.sign hSession pData false pulSignatureLen) := by
  have missing (argument : (cSign env system hSession pData false pulSignatureLen).1 =
      .argumentsBad) :
      encodingsMade env system (.sign hSession pData false pulSignatureLen) = 0 := by
    unfold encodingsMade
    dsimp only
    split
    · rfl
    · rw [argument, if_neg fun both => CkRv.noConfusion both.2]
  cases pData with
  | none =>
    rw [missing rfl]
    rfl
  | some data =>
    cases pulSignatureLen with
    | none =>
      rw [missing rfl]
      rfl
    | some signatureLen =>
      cases located : hsmGetSession system hSession with
      | error rv =>
        simp only [Memory.cSign, encodingsMade, located]
        exact (Nat.add_zero _).symm
      | ok found =>
        simp only [Memory.cSign, encodingsMade, cSign, located]
        split
        · simp
        · cases lookup : hsmGetObject found.slot found.session.operation.keyHandle with
          | error rv =>
            rw [get_object_error found.slot _ rv lookup]
            simp
          | ok pair => exact sign_data_encodes memory env.signer pair.2 _ data signatureLen

omit accounted in
/-- Signing may lose one encoding. -/
theorem sign_buffers (env : Env) (hSession : CkSessionHandle) (pData : Option Bytes)
    (pSignature : Bool) (pulSignatureLen : Option CkUlong) :
    Adds memory 0
      (encodingsMade env system (.sign hSession pData pSignature pulSignatureLen))
      (memory.cSign env system hSession pData pSignature pulSignatureLen) := by
  have keys := sign_keys system memory env hSession pData pSignature pulSignatureLen
  refine ⟨⟨[], rfl, by rw [List.nil_append, keys]⟩, ?_⟩
  cases pSignature with
  | true =>
    rw [sign_written system memory env hSession pData pulSignatureLen]
    rfl
  | false => exact sign_encodes system memory env hSession pData pulSignatureLen

/-- What a call adds to the leaks, for every call. -/
theorem call_buffers (env : Env) (call : Call) :
    Adds memory (buffersMade env system call) (encodingsMade env system call)
      (memory.callStep env system call) := by
  cases call with
  | initializeLibrary => exact initialize_buffers system memory accounted env
  | finalizeLibrary pReserved => exact finalize_buffers system memory pReserved
  | initToken slotID pPin pLabel =>
    exact adds_none _ _ (init_token_buffers system slotID pPin pLabel memory)
  | openSession slotID flags phSession =>
    exact adds_none _ _ (open_session_buffers env system slotID flags phSession memory)
  | closeSession hSession => exact adds_none _ _ (destroy_session_buffers system hSession memory)
  | closeAllSessions slotID =>
    exact adds_none _ _ (close_all_sessions_buffers system slotID memory)
  | createObject hSession pTemplate phObject =>
    exact create_object_buffers system memory accounted env hSession pTemplate phObject
  | destroyObject hSession hObject => exact destroy_object_buffers system memory hSession hObject
  | generateKeyPair hSession pMechanism publicTemplate privateTemplate phPublicKey phPrivateKey =>
    exact generate_key_pair_buffers system memory accounted env hSession pMechanism
      publicTemplate privateTemplate phPublicKey phPrivateKey
  | sign hSession pData pSignature pulSignatureLen =>
    exact sign_buffers system memory env hSession pData pSignature pulSignatureLen
  | _ => exact adds_none _ _ (untouched_refl memory)

end Calls

/-! ## Runs -/

/-- The blocks that nothing will free. -/
def Memory.leaks (memory : Memory) : List Block := memory.keyBuffers ++ memory.encodings

/-- Nothing leaks before the first call. -/
theorem blank_leaks : Memory.blank.leaks.length = 0 := by
  simp [Memory.leaks, Memory.keyBuffers, Memory.blank, live_empty]

/-- The leaks of one step are those that it is counted for. -/
theorem step_counted (sha256 : Sha256) (pair : System × Memory) (event : Event)
    (accounted : Accounted pair) :
    (memoryStep sha256 pair event).2.2.leaks.length =
      countLeaks pair.1 pair.2.leaks.length event := by
  cases event with
  | newProcess => exact blank_leaks
  | call call env =>
    obtain ⟨⟨fresh, length, perm⟩, encoded⟩ := call_buffers pair.1 pair.2 accounted env call
    change (pair.2.callStep env pair.1 call).leaks.length =
      pair.2.leaks.length + (buffersMade env pair.1 call + encodingsMade env pair.1 call)
    rw [Memory.leaks, Memory.leaks, List.length_append, List.length_append, perm.length_eq,
      List.length_append, length, encoded]
    omega

/-- The leaks on the heap are as many as were made, along one run of both. -/
theorem leaks_counted (sha256 : Sha256) (pair : System × Memory) (made : Nat)
    (events : List Event) (accounted : Accounted pair)
    (amount : pair.2.leaks.length = made) :
    (Runs.run (memoryStep sha256) pair events).2.leaks.length =
      (Runs.run (Runs.traced (step sha256) countLeaks) (pair.1, made) events).2 := by
  induction events generalizing pair made with
  | nil => exact amount
  | cons event rest inductionHypothesis =>
    have counted := step_counted sha256 pair event accounted
    rw [amount] at counted
    exact inductionHypothesis _ _ (memory_step_accounted sha256 pair event accounted) counted

/-- As long as the process lives, so do the buffers. -/
theorem buffers_kept (sha256 : Sha256) (pair : System × Memory) (calls : List (Call × Env))
    (accounted : Accounted pair) :
    pair.2.keyBuffers ⊆ (Runs.run (memoryStep sha256) pair
      (calls.map fun made => .call made.1 made.2)).2.keyBuffers := by
  induction calls generalizing pair with
  | nil => exact List.Subset.refl _
  | cons made rest inductionHypothesis =>
    obtain ⟨⟨fresh, -, perm⟩, -⟩ := call_buffers pair.1 pair.2 accounted made.2 made.1
    have now : pair.2.keyBuffers ⊆ (pair.2.callStep made.2 pair.1 made.1).keyBuffers :=
      fun _ member => perm.mem_iff.mpr (List.mem_append_right _ member)
    have later := inductionHypothesis (memoryStep sha256 pair (.call made.1 made.2)).2
      (memory_step_accounted sha256 pair _ accounted)
    exact List.Subset.trans now later

/-- What is on the books as the buffer of a key is live. -/
theorem buffers_live (pair : System × Memory) (accounted : Accounted pair) :
    pair.2.keyBuffers ⊆ pair.2.heap.live := by
  intro block member
  apply accounted.holds.exactly.mem_iff.mpr
  rcases List.mem_append.mp member with held | lost
  · obtain ⟨object, present, owns⟩ := List.mem_flatMap.mp held
    have listed : block ∈ (live pair.2.objects).flatMap ObjectBlocks.blocks :=
      List.mem_flatMap.mpr ⟨object, present, List.mem_cons_of_mem _ owns⟩
    exact List.mem_append_right _ (List.mem_append_right _ (List.mem_append_left _ listed))
  · exact List.mem_append_right _ (List.mem_append_right _ (List.mem_append_right _
      (List.mem_append_left _ lost)))

/-- Without a slot nothing but what leaked is live. -/
theorem absent_live (pair : System × Memory) (accounted : Accounted pair)
    (absent : pair.1.gHsmContext = none) :
    pair.2.heap.live.length = pair.2.leaks.length := by
  obtain ⟨slots, sessions, objects⟩ := absent_books pair.1 pair.2 accounted absent
  rw [accounted.holds.exactly.length_eq]
  unfold Memory.blocks Memory.leaks Memory.keyBuffers
  rw [slots, sessions, objects, live_empty, live_empty]
  simp only [Option.toList_none, List.flatMap_nil, List.nil_append]

/-- The buffers of a key stay on the heap for the life of the process, whatever is destroyed and
finalized meanwhile. -/
theorem key_buffers_never_freed (sha256 : Sha256) (storage : Storage) (events : List Event)
    (calls : List (Call × Env)) :
    (Runs.run (memoryStep sha256) (bootProcess storage, Memory.blank) events).2.keyBuffers ⊆
      (Runs.run (memoryStep sha256) (bootProcess storage, Memory.blank)
        (events ++ calls.map fun made => .call made.1 made.2)).2.heap.live := by
  have accounted := accounted_run sha256 storage events
  have later := accounted_run sha256 storage
    (events ++ calls.map fun made => .call made.1 made.2)
  have kept := buffers_kept sha256 _ calls accounted
  rw [← Runs.run_append] at kept
  exact List.Subset.trans kept (buffers_live _ later)

/-- Whatever happened before, once the library is finalized the heap holds exactly as many blocks
as buffers of keys were made, and encodings of signatures lost, since the process started. -/
theorem finalized_heap_holds_keys (sha256 : Sha256) (storage : Storage) (events : List Event)
    (env : Env) :
    (Runs.run (memoryStep sha256) (bootProcess storage, Memory.blank)
        (events ++ [.call (.finalizeLibrary false) env])).2.heap.live.length =
      (Runs.run (Runs.traced (step sha256) countLeaks) (bootProcess storage, 0) events).2 := by
  have accounted := accounted_run sha256 storage events
  have counted := leaks_counted sha256 (bootProcess storage, Memory.blank) 0 events
    (blank_accounted storage) blank_leaks
  rw [Runs.run_snoc, ← counted]
  generalize Runs.run (memoryStep sha256) (bootProcess storage, Memory.blank) events = pair
    at accounted
  have after := memory_step_accounted sha256 pair (.call (.finalizeLibrary false) env) accounted
  have ended := finalize_ends sha256 env pair.1
  have noneMade (made : Nat) :
      countLeaks pair.1 made (.call (.finalizeLibrary false) env) = made := rfl
  rw [absent_live _ after ended, step_counted sha256 pair _ accounted, noneMade]

end PstHsm
