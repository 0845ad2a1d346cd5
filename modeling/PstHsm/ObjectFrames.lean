import PstHsm.Durability
import PstHsm.ObjectTable

/-!
# Locality of creation and destruction

Three calls add objects or take one away. When such a call fails, nothing at all has
changed; when it succeeds, one or two entries that were free are filled or one is
emptied, and every other live object keeps its entry and its file. Two objects share a
file only if they share a handle, so live handles are assumed to be distinct.
-/

namespace PstHsm

open Tables

/-- The number of entries a successful call changes. -/
def Call.entriesChanged : Call → Nat
  | .createObject _ _ _ | .destroyObject _ _ => 1
  | .generateKeyPair _ _ _ _ _ _ => 2
  | _ => 0

/-- Outside the given entries every live object stays where it is, with its contents and
its file. -/
structure OthersKept (before after : System) (changed : List (Fin hsmMaxObjects)) : Prop where
  entries : ∀ index, index ∉ changed → after.objects index = before.objects index
  files : ∀ index object, index ∉ changed → before.objects index = some object →
    after.storage.keyFiles.lookup (objectFileName object.handle) =
      before.storage.keyFiles.lookup (objectFileName object.handle)

/-- The call fills entries that were free, or empties one, and nothing else happens. -/
def ChangesLocally (call : Call) (before after : System) : Prop :=
  ∃ changed : List (Fin hsmMaxObjects), changed.Nodup ∧ changed.length = call.entriesChanged ∧
    (∀ index ∈ changed, (before.objects index).isSome = call.destroysObject ∧
      (after.objects index).isSome = !call.destroysObject) ∧
    OthersKept before after changed

/-! ## Files of other objects -/

/-- Saving an object leaves the file of another handle. -/
theorem saved_elsewhere (object other : HsmObject) (outcome : WriteOutcome) (storage : Storage)
    (different : other.handle ≠ object.handle) :
    (hsmStorageSaveObject object outcome storage).2.keyFiles.lookup
        (objectFileName other.handle) =
      storage.keyFiles.lookup (objectFileName other.handle) := by
  rw [save_object_writes]
  apply written_after
  intro member
  obtain ⟨save, saved, same⟩ := List.mem_map.mp member
  obtain rfl := List.mem_singleton.mp (List.mem_of_mem_filter saved)
  exact different (object_file_name_injective _ _ same).symm

/-- So does deleting one. -/
theorem deleted_elsewhere (env : Env) (object other : HsmObject) (storage : Storage)
    (different : other.handle ≠ object.handle) :
    (storageWithout env object storage).keyFiles.lookup (objectFileName other.handle) =
      storage.keyFiles.lookup (objectFileName other.handle) := by
  have apart : objectFileName other.handle ≠ objectFileName object.handle := fun same =>
    different (object_file_name_injective _ _ same)
  rw [storageWithout, hsmStorageDeleteObject]
  split
  · split
    · rfl
    · split
      · exact AList.lookup_erase_ne apart
      · rfl
  · rfl

/-! ## One call each -/

section Calls

variable (env : Env) (system : System)

/-- `C_CreateObject` fills one entry or changes nothing. -/
theorem create_object_local (hSession : CkSessionHandle) (pTemplate : Option (List CkAttribute))
    (phObject : Bool)
    (distinct : KeysDistinct HsmObject.handle
      (cCreateObject env system hSession pTemplate phObject).2.2.objects) :
    ((cCreateObject env system hSession pTemplate phObject).1 ≠ .ok →
        (cCreateObject env system hSession pTemplate phObject).2.2 = system) ∧
      ((cCreateObject env system hSession pTemplate phObject).1 = .ok →
        ChangesLocally (.createObject hSession pTemplate phObject) system
          (cCreateObject env system hSession pTemplate phObject).2.2) := by
  rcases create_object_cases env system hSession pTemplate phObject with
    ⟨rv, failed, same⟩ | ⟨template, found, index, rfl, rfl, session, room, free, same⟩
  · rw [same]
    exact ⟨fun _ => rfl, fun accepted => absurd accepted failed⟩
  · rw [same] at distinct ⊢
    refine ⟨fun failed => absurd rfl failed, fun _ => ?_⟩
    obtain ⟨vacant, after⟩ := created_entry system hSession found index template
      (env.objectWrite 0) session free
    generalize stored : createdObject template system.handleCounter = object at distinct after ⊢
    have filled : (system.withCreated found index template (env.objectWrite 0)).objects index =
        some object := by
      rw [after, put_self]
    refine ⟨[index], List.nodup_singleton index, rfl, ?_, ?_, ?_⟩
    · intro tested member
      obtain rfl := List.mem_singleton.mp member
      rw [vacant, filled]
      exact ⟨rfl, rfl⟩
    · intro tested elsewhere
      rw [after, put_other _ _ _ _ (List.ne_of_not_mem_cons elsewhere)]
    · intro tested other elsewhere live
      have apart : tested ≠ index := List.ne_of_not_mem_cons elsewhere
      have kept : (system.withCreated found index template (env.objectWrite 0)).objects tested =
          some other := by
        rw [after, put_other _ _ _ _ apart, live]
      change (hsmStorageSaveObject
        (createdObject template system.handleCounter) _ _).2.keyFiles.lookup _ = _
      rw [stored]
      exact saved_elsewhere object other _ _ fun clash =>
        apart (distinct tested index other object kept filled clash)

/-- `C_DestroyObject` empties one entry or changes nothing. -/
theorem destroy_object_local (hSession : CkSessionHandle) (hObject : CkObjectHandle)
    (distinct : KeysDistinct HsmObject.handle system.objects) :
    ((cDestroyObject env system hSession hObject).1 ≠ .ok →
        (cDestroyObject env system hSession hObject).2 = system) ∧
      ((cDestroyObject env system hSession hObject).1 = .ok →
        ChangesLocally (.destroyObject hSession hObject) system
          (cDestroyObject env system hSession hObject).2) := by
  rcases destroy_object_cases env system hSession hObject with
    ⟨rv, failed, same⟩ | ⟨found, index, object, session, lookup, same⟩
  · rw [same]
    exact ⟨fun _ => rfl, fun accepted => absurd accepted failed⟩
  · rw [same]
    refine ⟨fun failed => absurd rfl failed, fun _ => ?_⟩
    have before := found_objects system hSession found session
    have entry := object_found system hSession hObject found index object session lookup
    refine ⟨[index], List.nodup_singleton index, rfl, ?_, ?_, ?_⟩
    · intro tested member
      obtain rfl := List.mem_singleton.mp member
      refine ⟨by rw [entry]; rfl, ?_⟩
      change (put found.slot.objects tested none tested).isSome = _
      rw [put_self]
      rfl
    · intro tested elsewhere
      change put found.slot.objects index none tested = _
      rw [put_other _ _ _ _ (List.ne_of_not_mem_cons elsewhere), before]
    · intro tested other elsewhere live
      exact deleted_elsewhere env object other system.storage fun clash =>
        List.ne_of_not_mem_cons elsewhere (distinct tested index other object live entry clash)

/-- `C_GenerateKeyPair` fills two entries or changes nothing. -/
theorem generate_key_pair_local (hSession : CkSessionHandle)
    (pMechanism : Option CkMechanismType) (publicTemplate privateTemplate : List CkAttribute)
    (phPublicKey phPrivateKey : Bool)
    (distinct : KeysDistinct HsmObject.handle
      (cGenerateKeyPair env system hSession pMechanism publicTemplate privateTemplate phPublicKey
        phPrivateKey).2.2.objects) :
    ((cGenerateKeyPair env system hSession pMechanism publicTemplate privateTemplate phPublicKey
        phPrivateKey).1 ≠ .ok →
      (cGenerateKeyPair env system hSession pMechanism publicTemplate privateTemplate phPublicKey
        phPrivateKey).2.2 = system) ∧
    ((cGenerateKeyPair env system hSession pMechanism publicTemplate privateTemplate phPublicKey
        phPrivateKey).1 = .ok →
      ChangesLocally (.generateKeyPair hSession pMechanism publicTemplate privateTemplate
          phPublicKey phPrivateKey) system
        (cGenerateKeyPair env system hSession pMechanism publicTemplate privateTemplate phPublicKey
          phPrivateKey).2.2) := by
  rcases generate_key_pair_cases env system hSession pMechanism publicTemplate privateTemplate
      phPublicKey phPrivateKey with
    ⟨rv, failed, same⟩ | ⟨mechanism, found, pubObj, privObj, pubIdx, privIdx, rest, rfl, rfl, rfl,
      session, user, generated, free, same⟩
  · rw [same]
    exact ⟨fun _ => rfl, fun accepted => absurd accepted failed⟩
  · rw [same] at distinct ⊢
    refine ⟨fun failed => absurd rfl failed, fun _ => ?_⟩
    obtain ⟨pubFree, privFree, different, after⟩ := key_pair_entries env system hSession found
      pubIdx privIdx rest pubObj privObj session free
    generalize pubStored : storedPublicKey pubObj system.handleCounter = pubKey at distinct after ⊢
    generalize privStored : storedPrivateKey privObj system.handleCounter = privKey
      at distinct after ⊢
    obtain ⟨pubEntry, privEntry, kept⟩ :=
      put_pair system.objects pubIdx privIdx (some pubKey) (some privKey) different
    rw [← after] at pubEntry privEntry kept
    refine ⟨[pubIdx, privIdx], ?_, rfl, ?_, kept, ?_⟩
    · exact List.nodup_cons.mpr ⟨fun member => different (List.mem_singleton.mp member),
        List.nodup_singleton privIdx⟩
    · intro tested member
      rcases List.mem_cons.mp member with rfl | member
      · rw [pubFree, pubEntry]
        exact ⟨rfl, rfl⟩
      · obtain rfl := List.mem_singleton.mp member
        rw [privFree, privEntry]
        exact ⟨rfl, rfl⟩
    · intro tested other elsewhere live
      have lives := (kept tested elsewhere).trans live
      have notPub := List.ne_of_not_mem_cons elsewhere
      have notPriv := List.ne_of_not_mem_cons (List.not_mem_of_not_mem_cons elsewhere)
      change (hsmStorageSaveObject (storedPrivateKey privObj system.handleCounter) _
        (hsmStorageSaveObject
          (storedPublicKey pubObj system.handleCounter) _ _).2).2.keyFiles.lookup _ = _
      rw [pubStored, privStored, saved_elsewhere privKey other, saved_elsewhere pubKey other]
      · exact fun clash => notPub (distinct tested pubIdx other pubKey lives pubEntry clash)
      · exact fun clash => notPriv (distinct tested privIdx other privKey lives privEntry clash)

end Calls

/-- In every reachable state a failing creation or destruction leaves the whole process
and its storage as they were, and a successful one changes the entries it is about and
nothing else; the scan for a free entry, which has no bound of its own, stops inside
the array. -/
theorem object_calls_local (sha256 : Sha256) (env : Env) (system : System) (call : Call)
    (reached : Reachable sha256 system)
    (asked : call.createsObjects = true ∨ call.destroysObject = true)
    (distinct : KeysDistinct HsmObject.handle system.objects)
    (distinctAfter : KeysDistinct HsmObject.handle (callStep sha256 env system call).2.objects) :
    ((callStep sha256 env system call).1.rv ≠ .ok → (callStep sha256 env system call).2 = system) ∧
      ((callStep sha256 env system call).1.rv = .ok →
        ChangesLocally call system (callStep sha256 env system call).2) ∧
      ∀ context, system.gHsmContext = some context → context.slot.objectCount < hsmMaxObjects →
        ∃ index, firstFree context.slot.objects = some index := by
  have counted := objects_counted_reachable sha256 system reached
  refine and_assoc.mp ⟨?_, create_scan_stops system counted⟩
  cases call with
  | createObject hSession pTemplate phObject =>
    exact create_object_local env system hSession pTemplate phObject distinctAfter
  | destroyObject hSession hObject =>
    exact destroy_object_local env system hSession hObject distinct
  | generateKeyPair hSession pMechanism publicTemplate privateTemplate phPublicKey phPrivateKey =>
    exact generate_key_pair_local env system hSession pMechanism publicTemplate privateTemplate
      phPublicKey phPrivateKey distinctAfter
  | _ => rcases asked with impossible | impossible <;> cases impossible

/-- Issued handles are distinct. -/
theorem handles_issued_objects (system : System) (issued : HandlesIssued system.objectStore) :
    KeysDistinct HsmObject.handle system.objects :=
  issued.distinct

/-- The creation of a token object. -/
def tokenCreation : Call := .createObject 1 (some [entryOf ckaToken [ckTrue]]) true

/-- A token object lies in the first entry and in its file. -/
def tokenHeld : System := (callStep pinSha256 (calmEnv 1) userReady tokenCreation).2

/-- A second token object joins the first one, which keeps its entry and its file. -/
theorem token_creation_local :
    (tokenHeld.objects ⟨0, by decide⟩).any HsmObject.isToken = true ∧
      (callStep pinSha256 (calmEnv 1) tokenHeld tokenCreation).1.rv = .ok ∧
      ChangesLocally tokenCreation tokenHeld
        (callStep pinSha256 (calmEnv 1) tokenHeld tokenCreation).2 := by
  have issued : HandlesIssued tokenHeld.objectStore :=
    handles_issued_step pinSha256 userReady (.call tokenCreation (calmEnv 1)) set_up_issued
      (by decide +kernel)
  have issuedAfter := handles_issued_step pinSha256 tokenHeld (.call tokenCreation (calmEnv 1))
    issued (by decide +kernel)
  have reached : Reachable pinSha256 tokenHeld :=
    set_up_reachable [.call tokenCreation (calmEnv 1)]
  have asked : tokenCreation.createsObjects = true ∨ tokenCreation.destroysObject = true :=
    Or.inl rfl
  have created : (callStep pinSha256 (calmEnv 1) tokenHeld tokenCreation).1.rv = .ok := by
    decide +kernel
  obtain ⟨-, localChange, -⟩ := object_calls_local pinSha256 (calmEnv 1) tokenHeld tokenCreation
    reached asked (handles_issued_objects tokenHeld issued) (handles_issued_objects _ issuedAfter)
  exact ⟨by decide +kernel, created, localChange created⟩

end PstHsm
