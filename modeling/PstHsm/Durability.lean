import PstHsm.KeyFiles
import PstHsm.SessionTable

/-!
# Durability of successful calls

Six calls change what the storage is meant to hold, and none of them looks at what the
storage functions return; these in turn do not look at what `fwrite` returns. The
stored state agrees with memory when the token file holds the record of the slot, an
object that a call put into the table has its whole record on disk if it is a token
object, and a destroyed token object has no file. A token that was never initialized
needs no token file.
-/

namespace PstHsm

open Tables

/-! ## Files and records -/

/-- Every item reaches the file whole. -/
def WriteOutcome.Whole (outcome : WriteOutcome) (items : List Bytes) : Prop :=
  ∀ item ∈ items.zipIdx, ∀ reached, outcome.fwrite item.2 = some reached →
    item.1.length ≤ reached

/-- First parts of byte strings make up the whole only if each is whole itself. -/
theorem flatten_prefixes_iff {ι : Type} (entries : List ι) (part whole : ι → Bytes)
    (prefixes : ∀ entry, part entry <+: whole entry) :
    (entries.map part).flatten = (entries.map whole).flatten ↔
      ∀ entry ∈ entries, part entry = whole entry := by
  have shorter (rest : List ι) :
      (rest.map part).flatten.length ≤ (rest.map whole).flatten.length := by
    induction rest with
    | nil => exact Nat.le_refl 0
    | cons entry rest inductionHypothesis =>
      have first := (prefixes entry).length_le
      simp only [List.map_cons, List.flatten_cons, List.length_append]
      omega
  induction entries with
  | nil => simp
  | cons entry rest inductionHypothesis =>
    simp only [List.map_cons, List.flatten_cons, List.forall_mem_cons]
    constructor
    · intro same
      have first := (prefixes entry).length_le
      have others := shorter rest
      have lengths := congrArg List.length same
      simp only [List.length_append] at lengths
      obtain ⟨here, later⟩ := List.append_inj same (by omega)
      exact ⟨here, inductionHypothesis.mp later⟩
    · rintro ⟨here, later⟩
      rw [here, inductionHypothesis.mpr later]

/-- The file holds all the items exactly when each was written whole. -/
theorem written_whole_iff (outcome : WriteOutcome) (items : List Bytes) :
    writtenBytes outcome items = items.flatten ↔ outcome.Whole items := by
  have names : items.zipIdx.map Prod.fst = items := List.zipIdx_map_fst 0 items
  have wholes := flatten_prefixes_iff items.zipIdx
    (fun item => (outcome.fwrite item.2).elim item.1 item.1.take) Prod.fst (by
      intro item
      cases outcome.fwrite item.2 with
      | none => exact List.prefix_rfl
      | some reached => exact List.take_prefix reached item.1)
  have bytes : writtenBytes outcome items =
      (items.zipIdx.map fun item => (outcome.fwrite item.2).elim item.1 item.1.take).flatten := by
    rw [writtenBytes]
    congr 2
    funext item
    cases outcome.fwrite item.2 with
    | none => rfl
    | some reached => rfl
  rw [names, ← bytes] at wholes
  refine wholes.trans (forall₂_congr fun item _ => ?_)
  cases reaches : outcome.fwrite item.2 with
  | none => simp
  | some reached => simp [List.take_eq_self_iff]

/-- The file that was written last holds the record. -/
theorem saved_record (object : HsmObject) (outcome : WriteOutcome) (storage : Storage)
    (token : object.isToken = true) (opened : outcome.fopen = true)
    (whole : outcome.Whole (objectItems object)) :
    (hsmStorageSaveObject object outcome storage).2.keyFiles.lookup
        (objectFileName object.handle) = some (objectItems object).flatten := by
  rw [← (written_whole_iff outcome (objectItems object)).mpr whole]
  simp [hsmStorageSaveObject, token, opened]

/-- What a save leaves in a file is the record: it is written whole, or the file cannot
be opened and the old content will do. -/
def Kept (outcome : WriteOutcome) (items : List Bytes) (unwritten : Prop) : Prop :=
  (outcome.fopen = true ∧ outcome.Whole items) ∨ (outcome.fopen = false ∧ unwritten)

/-! ## Agreement of memory and storage -/

/-- The token file holds the record of the slot; no file stands for a blank token. -/
def TokenFileHolds (file : Option Bytes) (slot : HsmSlot) : Prop :=
  match file with
  | none => tokenInfoItems slot = tokenInfoItems blankSlot
  | some bytes => bytes = (tokenInfoItems slot).flatten

instance (file : Option Bytes) (slot : HsmSlot) : Decidable (TokenFileHolds file slot) :=
  match file with
  | none => inferInstanceAs (Decidable (tokenInfoItems slot = tokenInfoItems blankSlot))
  | some bytes => inferInstanceAs (Decidable (bytes = (tokenInfoItems slot).flatten))

/-- The token file agrees with the slot. -/
def TokenStored (system : System) : Prop :=
  ∀ context, system.gHsmContext = some context →
    TokenFileHolds system.storage.tokenFile context.slot

instance (system : System) : Decidable (TokenStored system) :=
  match present : system.gHsmContext with
  | none => isTrue fun context located => by cases present.symm.trans located
  | some context =>
    decidable_of_iff (TokenFileHolds system.storage.tokenFile context.slot)
      ⟨fun holds _ located => Option.some.inj (present.symm.trans located) ▸ holds,
        fun stored => stored context present⟩

/-- A token object has its whole record on disk. -/
def ObjectStored (files : AList (fun _ : FileName => Bytes)) (object : HsmObject) : Prop :=
  object.isToken = true →
    files.lookup (objectFileName object.handle) = some (objectItems object).flatten

/-- A token object has no file. -/
def ObjectGone (files : AList (fun _ : FileName => Bytes)) (object : HsmObject) : Prop :=
  object.isToken = true → files.lookup (objectFileName object.handle) = none

/-- The stored state agrees with memory after a call. -/
structure Durable (before after : System) : Prop where
  token : TokenStored after
  touched : ∀ index object, after.objects index = some object →
    before.objects index ≠ some object → ObjectStored after.storage.keyFiles object
  destroyed : ∀ index object, before.objects index = some object → after.objects index = none →
    ObjectGone after.storage.keyFiles object

/-- The calls that change what the storage is meant to hold. -/
def Call.persists : Call → Bool
  | .initToken _ _ _ | .initPIN _ _ | .setPIN _ _ _ | .createObject _ _ _
  | .generateKeyPair _ _ _ _ _ _ | .destroyObject _ _ => true
  | _ => false

/-- The event is one of those calls, and it answers `CKR_OK`. -/
def persisted (sha256 : Sha256) (system : System) : Event → Bool
  | .call call env => call.persists && decide ((callStep sha256 env system call).1.rv = .ok)
  | .newProcess => false

/-- A success is durable. -/
def SuccessDurable (sha256 : Sha256) (system : System) (event : Event) : Prop :=
  persisted sha256 system event = true → Durable system (step sha256 system event).2

/-! ## What the storage has to do -/

/-- The slot with the change that a call asks for, where the call saves the token. -/
def System.tokenChange (sha256 : Sha256) (system : System) : Call → Option HsmSlot
  | .initToken _ (some pin) (some label) =>
    system.gHsmContext.map fun context =>
      context.slot.reinitialized (sha256 pin) (initTokenLabel pin.length label)
  | .initPIN hSession (some pin) =>
    match hsmGetSession system hSession with
    | .error _ => none
    | .ok found => some (found.slot.userPinSet (sha256 pin))
  | .setPIN hSession (some _) (some newPin) =>
    match hsmGetSession system hSession with
    | .error _ => none
    | .ok found => some (found.slot.pinReplaced found.session.pinOwner (sha256 newPin))
  | _ => none

/-- The token file: a call that changes the token has its record written. -/
def TokenWritten (sha256 : Sha256) (env : Env) (system : System) (call : Call) : Prop :=
  ∀ slot, system.tokenChange sha256 call = some slot →
    Kept env.tokenWrite (tokenInfoItems slot) (TokenFileHolds system.storage.tokenFile slot)

/-- Any other call finds the token file in agreement. -/
def TokenLeft (sha256 : Sha256) (system : System) (call : Call) : Prop :=
  system.tokenChange sha256 call = none → TokenStored system

/-- The key files: the record of every token object created is written, and the file of a
token object destroyed is unlinked or not there. -/
structure ObjectsSaved (system : System) (event : Event) : Prop where
  saved : ∀ save ∈ system.saves event, Kept save.outcome (objectItems save.object)
    (system.storage.keyFiles.lookup save.path = some (objectItems save.object).flatten)
  unlinked : ∀ object unlink, system.destroyed event = some (object, unlink) →
    object.isToken = true →
    unlink = true ∨ system.storage.keyFiles.lookup (objectFileName object.handle) = none

/-- The writes and the deletion of a successful call do what it needs of them. -/
def SuccessWritten (sha256 : Sha256) (system : System) : Event → Prop
  | .call call env => persisted sha256 system (.call call env) = true →
    TokenWritten sha256 env system call ∧ ObjectsSaved system (.call call env)
  | .newProcess => True

/-- They do, and a successful call that leaves the token alone finds the token file in
agreement. -/
def SuccessStored (sha256 : Sha256) (system : System) : Event → Prop
  | .call call env => persisted sha256 system (.call call env) = true →
    (TokenWritten sha256 env system call ∧ TokenLeft sha256 system call) ∧
      ObjectsSaved system (.call call env)
  | .newProcess => True

/-! ## The token file after a call -/

/-- A token file that was saved holds the record when the writing went well, or when it
holds it anyway. -/
theorem saved_token_holds_iff (slot : HsmSlot) (outcome : WriteOutcome) (storage : Storage) :
    TokenFileHolds (hsmStorageSaveTokenInfo slot outcome storage).2.tokenFile slot ↔
      Kept outcome (tokenInfoItems slot) (TokenFileHolds storage.tokenFile slot) := by
  cases opened : outcome.fopen with
  | true =>
    simpa [hsmStorageSaveTokenInfo, TokenFileHolds, opened, Kept] using
      written_whole_iff outcome (tokenInfoItems slot)
  | false => simp [hsmStorageSaveTokenInfo, opened, Kept]

/-- The token file holds a slot by its record alone. -/
theorem token_file_holds_congr (file : Option Bytes) (slot slot' : HsmSlot)
    (same : tokenInfoItems slot = tokenInfoItems slot') :
    TokenFileHolds file slot ↔ TokenFileHolds file slot' := by
  cases file with
  | none => simp only [TokenFileHolds, same]
  | some bytes => simp only [TokenFileHolds, same]

section Calls

variable (sha256 : Sha256) (env : Env) (system : System)

/-- Verifying a PIN leaves the record of the token alone. -/
theorem verify_pin_items (slot : HsmSlot) (userType : CkUserType) (pin : Bytes) :
    tokenInfoItems (hsmVerifyPin sha256 slot userType pin).2 = tokenInfoItems slot := by
  obtain ⟨retryCount, locked, stored⟩ := verify_pin_stores sha256 slot userType pin
  rw [stored]
  rw [HsmSlot.storeAttempts]
  split
  · rfl
  · rfl

/-- A replaced PIN and the attempts before it touch different fields. -/
theorem pin_replaced_items (slot : HsmSlot) (userType : CkUserType) (pin : Bytes)
    (hash : Buffer 32) :
    tokenInfoItems ((hsmVerifyPin sha256 slot userType pin).2.pinReplaced userType hash) =
      tokenInfoItems (slot.pinReplaced userType hash) := by
  obtain ⟨retryCount, locked, stored⟩ := verify_pin_stores sha256 slot userType pin
  rw [stored]
  unfold HsmSlot.storeAttempts HsmSlot.pinReplaced
  split
  · rfl
  · rfl

/-- The token is saved as the change asked for, up to fields that the record leaves out. -/
theorem saved_slot_stored_iff (context : HsmContext) (slot change : HsmSlot)
    (same : tokenInfoItems slot = tokenInfoItems change) :
    TokenStored (system.withSavedSlot env context slot) ↔
      Kept env.tokenWrite (tokenInfoItems change)
        (TokenFileHolds system.storage.tokenFile change) := by
  have file := saved_token_holds_iff slot env.tokenWrite system.storage
  rw [same, token_file_holds_congr _ slot change same,
    token_file_holds_congr _ slot change same] at file
  refine Iff.trans ⟨?_, ?_⟩ file
  · intro stored
    exact (token_file_holds_congr _ slot change same).mp (stored _ rfl)
  · intro holds stored there
    obtain rfl := Option.some.inj there
    exact (token_file_holds_congr _ slot change same).mpr holds

/-- A slot changed outside its record agrees with the token file as before. -/
theorem untouched_token_stored_iff (context : HsmContext) (slot : HsmSlot) (after : System)
    (present : system.gHsmContext = some context)
    (afterwards : after.gHsmContext = some { context with slot := slot })
    (file : after.storage.tokenFile = system.storage.tokenFile)
    (same : tokenInfoItems slot = tokenInfoItems context.slot) :
    TokenStored after ↔ TokenStored system := by
  unfold TokenStored
  rw [present, afterwards, file]
  constructor
  · rintro stored _ ⟨⟩
    exact (token_file_holds_congr _ slot context.slot same).mp (stored _ rfl)
  · rintro stored _ ⟨⟩
    exact (token_file_holds_congr _ slot context.slot same).mpr (stored _ rfl)

/-- What each of the six calls leaves behind when it answers `CKR_OK`. -/
inductive Success : Call → System → Prop
  | tokenReset (slotID : CkSlotId) (pin label : Bytes) (context : HsmContext)
      (present : system.gHsmContext = some context) :
      Success (.initToken slotID (some pin) (some label))
        (system.withSavedSlot env context
          (context.slot.reinitialized (sha256 pin) (initTokenLabel pin.length label)))
  | userPinSet (hSession : CkSessionHandle) (pin : Bytes) (found : FoundSession)
      (session : hsmGetSession system hSession = .ok found) :
      Success (.initPIN hSession (some pin))
        (system.withSavedSlot env found.context (found.slot.userPinSet (sha256 pin)))
  | pinChanged (hSession : CkSessionHandle) (oldPin newPin : Bytes) (found : FoundSession)
      (session : hsmGetSession system hSession = .ok found) :
      Success (.setPIN hSession (some oldPin) (some newPin))
        (system.withSavedSlot env found.context
          ((hsmVerifyPin sha256 found.slot found.session.pinOwner oldPin).2.pinReplaced
            found.session.pinOwner (sha256 newPin)))
  | objectCreated (hSession : CkSessionHandle) (template : List CkAttribute)
      (found : FoundSession) (index : Fin hsmMaxObjects)
      (session : hsmGetSession system hSession = .ok found)
      (free : firstFree found.slot.objects = some index)
      (stored : cCreateObject env system hSession (some template) true =
        (.ok, some (createdObject template system.handleCounter).handle,
          system.withCreated found index template (env.objectWrite 0))) :
      Success (.createObject hSession (some template) true)
        (system.withCreated found index template (env.objectWrite 0))
  | pairInserted (hSession : CkSessionHandle) (mechanism : CkMechanismType)
      (publicTemplate privateTemplate : List CkAttribute) (found : FoundSession)
      (pubObj privObj : HsmObject) (pubIdx privIdx : Fin hsmMaxObjects)
      (rest : List (Fin hsmMaxObjects)) (session : hsmGetSession system hSession = .ok found)
      (generated : generateHalves env mechanism publicTemplate privateTemplate =
        .ok (pubObj, privObj))
      (free : freeIndices found.slot.objects = pubIdx :: privIdx :: rest)
      (stored : cGenerateKeyPair env system hSession (some mechanism) publicTemplate
        privateTemplate true true =
        (.ok, some ((storedPublicKey pubObj system.handleCounter).handle,
          (storedPrivateKey privObj system.handleCounter).handle),
          system.withKeyPair env found pubIdx privIdx pubObj privObj)) :
      Success
        (.generateKeyPair hSession (some mechanism) publicTemplate privateTemplate true true)
        (system.withKeyPair env found pubIdx privIdx pubObj privObj)
  | objectDestroyed (hSession : CkSessionHandle) (hObject : CkObjectHandle)
      (found : FoundSession) (index : Fin hsmMaxObjects) (object : HsmObject)
      (session : hsmGetSession system hSession = .ok found)
      (lookup : hsmGetObject found.slot hObject = .ok (index, object)) :
      Success (.destroyObject hSession hObject)
        { system.withSlot found.context
            (found.slot.withObject index none (found.slot.objectCount - 1)) with
          storage := storageWithout env object system.storage }

theorem success_cases (call : Call)
    (success : persisted sha256 system (.call call env) = true) :
    Success sha256 env system call (callStep sha256 env system call).2 := by
  obtain ⟨persists, succeeded⟩ : call.persists = true ∧
      (callStep sha256 env system call).1.rv = .ok := by
    simpa [persisted] using success
  cases call with
  | initToken slotID pPin pLabel =>
    rcases init_token_cases sha256 env system slotID pPin pLabel with
      ⟨rv, failed, same⟩ | ⟨pin, label, context, rfl, rfl, present, -, -, -, same⟩
    · simp only [callStep, same] at succeeded
      exact absurd succeeded failed
    · simp only [callStep, same]
      exact .tokenReset slotID pin label context present
  | initPIN hSession pPin =>
    rcases init_pin_cases sha256 env system hSession pPin with
      ⟨rv, failed, same⟩ | ⟨pin, found, rfl, session, -, -, -, same⟩
    · simp only [callStep, same] at succeeded
      exact absurd succeeded failed
    · simp only [callStep, same]
      exact .userPinSet hSession pin found session
  | setPIN hSession pOldPin pNewPin =>
    rcases set_pin_cases sha256 env system hSession pOldPin pNewPin with
      ⟨rv, failed, same⟩ | ⟨oldPin, newPin, found, rfl, rfl, changes, outcome⟩
    · simp only [callStep, same] at succeeded
      exact absurd succeeded failed
    · rcases outcome with ⟨rv, failed, -, same⟩ | ⟨-, same⟩
      · simp only [callStep, same] at succeeded
        exact absurd succeeded failed
      · simp only [callStep, same]
        exact .pinChanged hSession oldPin newPin found changes.session
  | createObject hSession pTemplate phObject =>
    rcases create_object_cases env system hSession pTemplate phObject with
      ⟨rv, failed, same⟩ | ⟨template, found, index, rfl, rfl, session, -, free, same⟩
    · simp only [callStep, same] at succeeded
      exact absurd succeeded failed
    · simp only [callStep, same]
      exact .objectCreated hSession template found index session free same
  | generateKeyPair hSession pMechanism publicTemplate privateTemplate phPublicKey phPrivateKey =>
    rcases generate_key_pair_cases env system hSession pMechanism publicTemplate privateTemplate
        phPublicKey phPrivateKey with
      ⟨rv, failed, same⟩ | ⟨mechanism, found, pubObj, privObj, pubIdx, privIdx, rest, rfl, rfl,
        rfl, session, -, generated, free, same⟩
    · simp only [callStep, same] at succeeded
      exact absurd succeeded failed
    · simp only [callStep, same]
      exact .pairInserted hSession mechanism publicTemplate privateTemplate found pubObj privObj
        pubIdx privIdx rest session generated free same
  | destroyObject hSession hObject =>
    rcases destroy_object_cases env system hSession hObject with
      ⟨rv, failed, same⟩ | ⟨found, index, object, session, lookup, same⟩
    · simp only [callStep, same] at succeeded
      exact absurd succeeded failed
    · simp only [callStep, same]
      exact .objectDestroyed hSession hObject found index object session lookup
  | _ => cases persists

/-- After a success the token file agrees exactly when the storage did its part. -/
theorem token_stored_iff (call : Call)
    (success : persisted sha256 system (.call call env) = true) :
    TokenStored (callStep sha256 env system call).2 ↔
      TokenWritten sha256 env system call ∧ TokenLeft sha256 system call := by
  have changed (slot : HsmSlot) (change : system.tokenChange sha256 call = some slot) :
      TokenWritten sha256 env system call ∧ TokenLeft sha256 system call ↔
        Kept env.tokenWrite (tokenInfoItems slot)
          (TokenFileHolds system.storage.tokenFile slot) := by
    simp [TokenWritten, TokenLeft, change]
  have unchanged (change : system.tokenChange sha256 call = none) :
      TokenWritten sha256 env system call ∧ TokenLeft sha256 system call ↔
        TokenStored system := by
    simp [TokenWritten, TokenLeft, change]
  have outcome := success_cases sha256 env system call success
  generalize (callStep sha256 env system call).2 = after at outcome ⊢
  cases outcome with
  | tokenReset slotID pin label context present =>
    rw [changed (context.slot.reinitialized (sha256 pin) (initTokenLabel pin.length label))
      (by simp only [System.tokenChange, present, Option.map_some])]
    exact saved_slot_stored_iff env system context _ _ rfl
  | userPinSet hSession pin found session =>
    rw [changed (found.slot.userPinSet (sha256 pin)) (by simp only [System.tokenChange, session])]
    exact saved_slot_stored_iff env system found.context _ _ rfl
  | pinChanged hSession oldPin newPin found session =>
    rw [changed (found.slot.pinReplaced found.session.pinOwner (sha256 newPin))
      (by simp only [System.tokenChange, session])]
    exact saved_slot_stored_iff env system found.context _ _
      (pin_replaced_items sha256 found.slot found.session.pinOwner oldPin (sha256 newPin))
  | objectCreated hSession template found index session =>
    obtain ⟨present, -, -⟩ := get_session_sound system hSession found session
    rw [unchanged rfl]
    exact untouched_token_stored_iff system found.context _ _ present rfl
      (save_object_frame _ _ _).2.2 rfl
  | pairInserted hSession mechanism publicTemplate privateTemplate found pubObj privObj pubIdx
      privIdx rest session =>
    obtain ⟨present, -, -⟩ := get_session_sound system hSession found session
    rw [unchanged rfl]
    exact untouched_token_stored_iff system found.context _ _ present rfl
      ((save_object_frame _ _ _).2.2.trans (save_object_frame _ _ _).2.2) rfl
  | objectDestroyed hSession hObject found index object session =>
    obtain ⟨present, -, -⟩ := get_session_sound system hSession found session
    rw [unchanged rfl]
    refine untouched_token_stored_iff system found.context _ _ present rfl ?_ rfl
    rw [delete_object_storage system.objectStore object env system.storage rfl]

/-! ## The key files after a call -/

/-- One save leaves the record in its file when it goes well, or when it is there anyway. -/
theorem written_record_iff (files : AList (fun _ : FileName => Bytes)) (save : SaveCall) :
    (save.write files).lookup save.path = some (objectItems save.object).flatten ↔
      Kept save.outcome (objectItems save.object)
        (files.lookup save.path = some (objectItems save.object).flatten) := by
  cases opened : save.outcome.fopen with
  | true =>
    simpa [SaveCall.write, opened, Kept, AList.lookup_insert] using
      written_whole_iff save.outcome (objectItems save.object)
  | false => simp [SaveCall.write, opened, Kept]

/-- A save leaves the other files alone. -/
theorem written_elsewhere (files : AList (fun _ : FileName => Bytes)) (save : SaveCall)
    (name : FileName) (other : name ≠ save.path) :
    (save.write files).lookup name = files.lookup name := by
  rw [SaveCall.write]
  split
  · exact AList.lookup_insert_ne other
  · rfl

theorem written_after (files : AList (fun _ : FileName => Bytes)) (saves : List SaveCall)
    (name : FileName) (others : name ∉ saves.map SaveCall.path) :
    (saves.foldl SaveCall.write files).lookup name = files.lookup name := by
  induction saves generalizing files with
  | nil => rfl
  | cons save rest inductionHypothesis =>
    simp only [List.map_cons, List.mem_cons, not_or] at others
    rw [List.foldl_cons, inductionHypothesis _ others.2, written_elsewhere files save name others.1]

/-- Saves to different files leave all records in place exactly when each does so by
itself. -/
theorem written_records_iff (files : AList (fun _ : FileName => Bytes)) (saves : List SaveCall)
    (apart : (saves.map SaveCall.path).Nodup) :
    (∀ save ∈ saves, (saves.foldl SaveCall.write files).lookup save.path =
        some (objectItems save.object).flatten) ↔
      ∀ save ∈ saves, Kept save.outcome (objectItems save.object)
        (files.lookup save.path = some (objectItems save.object).flatten) := by
  induction saves generalizing files with
  | nil => simp
  | cons save rest inductionHypothesis =>
    simp only [List.map_cons, List.nodup_cons] at apart
    obtain ⟨alone, restApart⟩ := apart
    simp only [List.forall_mem_cons, List.foldl_cons]
    refine and_congr ?_ ?_
    · rw [written_after _ rest save.path alone]
      exact written_record_iff files save
    · rw [inductionHypothesis (save.write files) restApart]
      refine forall₂_congr fun later member => ?_
      have other : later.path ≠ save.path := by
        intro same
        exact alone (same ▸ List.mem_map_of_mem member)
      rw [written_elsewhere files save later.path other]

/-- What a success puts into the table and takes out of it: the objects of its saves and
the object it destroys. -/
structure ObjectsChanged (before after : System) (event : Event) : Prop where
  added : ∀ object, (∃ index, after.objects index = some object ∧
      before.objects index ≠ some object) ↔ object ∈ (before.creations event).map SaveCall.object
  removed : ∀ object, (∃ index, before.objects index = some object ∧
      after.objects index = none) ↔ ∃ unlink, before.destroyed event = some (object, unlink)

/-- A call that leaves the objects alone. -/
theorem same_objects_changed (call : Call) (after : System)
    (same : after.objects = system.objects) (uncreated : call.createsObjects = false)
    (undestroyed : call.destroysObject = false) :
    ObjectsChanged system after (.call call env) := by
  have nothing : system.creations (.call call env) = [] := by
    cases call with
    | createObject hSession pTemplate phObject => cases uncreated
    | generateKeyPair => cases uncreated
    | _ => rfl
  constructor
  · intro object
    rw [nothing, same]
    refine iff_of_false ?_ List.not_mem_nil
    rintro ⟨index, present, absent⟩
    exact absent present
  · intro object
    rw [destroyed_none env system call undestroyed, same]
    refine iff_of_false ?_ ?_
    · rintro ⟨index, present, absent⟩
      cases present.symm.trans absent
    · rintro ⟨unlink, impossible⟩
      cases impossible

/-- An object put into a free entry is the only one added, and none is removed. -/
theorem filled_entry (table : Table hsmMaxObjects HsmObject) (index : Fin hsmMaxObjects)
    (object : HsmObject) (free : table index = none) :
    (∀ other, (∃ tested, put table index (some object) tested = some other ∧
        table tested ≠ some other) ↔ other = object) ∧
      ∀ tested, table tested ≠ none → put table index (some object) tested = table tested := by
  refine ⟨fun other => ⟨?_, ?_⟩, ?_⟩
  · rintro ⟨tested, present, absent⟩
    by_cases here : tested = index
    · rw [here, put_self] at present
      exact (Option.some.inj present).symm
    · rw [put_other _ _ _ _ here] at present
      exact absurd present absent
  · rintro rfl
    refine ⟨index, put_self table index _, ?_⟩
    rw [free]
    exact (Option.some_ne_none other).symm
  · intro tested occupied
    apply put_other
    rintro rfl
    exact occupied free

/-- Where every entry in use is kept, nothing is taken out. -/
theorem none_removed {table after : Table hsmMaxObjects HsmObject}
    (kept : ∀ tested, table tested ≠ none → after tested = table tested) (object : HsmObject) :
    ¬ ∃ tested, table tested = some object ∧ after tested = none := by
  rintro ⟨tested, present, absent⟩
  have stays := kept tested (by rw [present]; exact Option.some_ne_none object)
  rw [present, absent] at stays
  cases stays

/-- Two free entries filled one after the other. -/
theorem filled_entries (table : Table hsmMaxObjects HsmObject)
    (first second : Fin hsmMaxObjects) (object object' : HsmObject)
    (free : table first = none) (free' : table second = none) (different : first ≠ second) :
    (∀ other, (∃ tested,
        put (put table first (some object)) second (some object') tested = some other ∧
        table tested ≠ some other) ↔ other = object ∨ other = object') ∧
      ∀ tested, table tested ≠ none →
        put (put table first (some object)) second (some object') tested = table tested := by
  obtain ⟨added, kept⟩ := filled_entry table first object free
  have stillFree : put table first (some object) second = none := by
    rw [put_other _ _ _ _ different.symm, free']
  obtain ⟨added', kept'⟩ := filled_entry (put table first (some object)) second object' stillFree
  constructor
  · intro other
    constructor
    · rintro ⟨tested, present, absent⟩
      by_cases between : put table first (some object) tested = some other
      · exact Or.inl ((added other).mp ⟨tested, between, absent⟩)
      · exact Or.inr ((added' other).mp ⟨tested, present, between⟩)
    · rintro (isFirst | isSecond)
      · obtain ⟨tested, present, absent⟩ := (added other).mpr isFirst
        refine ⟨tested, ?_, absent⟩
        rw [kept' tested (by rw [present]; exact Option.some_ne_none other), present]
      · obtain ⟨tested, present, absent⟩ := (added' other).mpr isSecond
        refine ⟨tested, present, fun before => absent ?_⟩
        rw [kept tested (by rw [before]; exact Option.some_ne_none other), before]
  · intro tested occupied
    have between := kept tested occupied
    rw [kept' tested (by rw [between]; exact occupied), between]

/-- A call that fills free entries with the objects of its saves. -/
theorem added_objects_changed (call : Call) (after : System)
    (undestroyed : call.destroysObject = false)
    (added : ∀ object, (∃ index, after.objects index = some object ∧
      system.objects index ≠ some object) ↔
        object ∈ (system.creations (.call call env)).map SaveCall.object)
    (kept : ∀ index, system.objects index ≠ none → after.objects index = system.objects index) :
    ObjectsChanged system after (.call call env) := by
  refine ⟨added, fun object => ?_⟩
  rw [destroyed_none env system call undestroyed]
  refine iff_of_false (none_removed kept object) ?_
  rintro ⟨unlink, impossible⟩
  cases impossible

/-- A call that clears the entry of the object it destroys. -/
theorem destroyed_objects_changed (event : Event) (after : System) (index : Fin hsmMaxObjects)
    (object : HsmObject) (unlink : Bool) (entry : system.objects index = some object)
    (cleared : after.objects = put system.objects index none)
    (uncreated : system.creations event = [])
    (destruction : system.destroyed event = some (object, unlink)) :
    ObjectsChanged system after event := by
  constructor
  · intro other
    rw [uncreated, cleared]
    refine iff_of_false ?_ List.not_mem_nil
    rintro ⟨tested, present, absent⟩
    by_cases here : tested = index
    · rw [here, put_self] at present
      cases present
    · exact absent ((put_other system.objects index tested none here).symm.trans present)
  · intro other
    rw [destruction, cleared]
    constructor
    · rintro ⟨tested, present, absent⟩
      by_cases here : tested = index
      · subst here
        cases entry.symm.trans present
        exact ⟨unlink, rfl⟩
      · cases present.symm.trans
          ((put_other system.objects index tested none here).symm.trans absent)
    · rintro ⟨other, same⟩
      cases same
      exact ⟨index, entry, put_self system.objects index none⟩

/-- The objects change as the saves and the destruction of a success say. -/
theorem objects_changed (call : Call)
    (success : persisted sha256 system (.call call env) = true) :
    ObjectsChanged system (callStep sha256 env system call).2 (.call call env) := by
  have outcome := success_cases sha256 env system call success
  generalize (callStep sha256 env system call).2 = after at outcome ⊢
  cases outcome with
  | tokenReset slotID pin label context present =>
    exact same_objects_changed env system _ _ (objects_present system context present).symm rfl rfl
  | userPinSet hSession pin found session =>
    exact same_objects_changed env system _ _ (found_objects system hSession found session).symm
      rfl rfl
  | pinChanged hSession oldPin newPin found session =>
    refine same_objects_changed env system _ _ ?_ rfl rfl
    rw [found_objects system hSession found session]
    exact (pin_replaced_objects _ _ _).trans (verify_pin_objects _ _ _ _)
  | objectCreated hSession template found index session free stored =>
    obtain ⟨vacant, filled⟩ := created_entry system hSession found index template
      (env.objectWrite 0) session free
    obtain ⟨added, kept⟩ := filled_entry system.objects index
      (createdObject template system.handleCounter) vacant
    have one : system.creations (.call (.createObject hSession (some template) true) env) =
        [⟨createdObject template system.handleCounter, env.objectWrite 0⟩] := by
      simp [System.creations, stored]
    refine added_objects_changed env system _ _ rfl ?_ ?_
    · intro object
      rw [one, filled, List.map_singleton, List.mem_singleton]
      exact added object
    · rw [filled]
      exact kept
  | pairInserted hSession mechanism publicTemplate privateTemplate found pubObj privObj pubIdx
      privIdx rest session generated free stored =>
    obtain ⟨pubFree, privFree, different, filled⟩ := key_pair_entries env system hSession found
      pubIdx privIdx rest pubObj privObj session free
    obtain ⟨added, kept⟩ := filled_entries system.objects pubIdx privIdx
      (storedPublicKey pubObj system.handleCounter)
      (storedPrivateKey privObj system.handleCounter) pubFree privFree different
    have two : system.creations (.call (.generateKeyPair hSession (some mechanism) publicTemplate
        privateTemplate true true) env) =
        [⟨storedPublicKey pubObj system.handleCounter, env.objectWrite 0⟩,
          ⟨storedPrivateKey privObj system.handleCounter, env.objectWrite 1⟩] := by
      simp [System.creations, stored, generated]
    refine added_objects_changed env system _ _ rfl ?_ ?_
    · intro object
      rw [two, filled, List.map_cons, List.map_singleton, List.mem_pair]
      exact added object
    · rw [filled]
      exact kept
  | objectDestroyed hSession hObject found index object session lookup =>
    have destruction : system.destroyed (.call (.destroyObject hSession hObject) env) =
        some (object, env.unlink) := by
      simp only [System.destroyed, session, lookup]
    refine destroyed_objects_changed system _ _ index object env.unlink ?_ ?_ rfl destruction
    · exact object_found system hSession hObject found index object session lookup
    · rw [found_objects system hSession found session]
      rfl

include sha256 in
/-- The saves of one call go to different files. -/
theorem save_paths_apart (call : Call) :
    ((system.saves (.call call env)).map SaveCall.path).Nodup := by
  rcases creations_cases sha256 env system call with
    ⟨nothing, -⟩ | ⟨hSession, template, -, one, -⟩ |
      ⟨hSession, mechanism, publicTemplate, privateTemplate, pubObj, privObj, -, two, -⟩
  · simp [System.saves, nothing]
  · have all : ((system.creations (.call call env)).map SaveCall.path).Nodup := by simp [one]
    exact all.sublist (List.filter_sublist.map SaveCall.path)
  · have apart : objectFileName (storedPublicKey pubObj system.handleCounter).handle ≠
        objectFileName (storedPrivateKey privObj system.handleCounter).handle := by
      intro same
      have handles : (0x10000000 : Nat) + system.handleCounter =
          0x20000000 + (system.handleCounter + 1) % 2 ^ 32 :=
        object_file_name_injective _ _ same
      omega
    have all : ((system.creations (.call call env)).map SaveCall.path).Nodup := by
      simpa [two, SaveCall.path] using apart
    exact all.sublist (List.filter_sublist.map SaveCall.path)

/-- A call that destroys an object creates none. -/
theorem destroys_or_creates (call : Call) :
    system.destroyed (.call call env) = none ∨ system.creations (.call call env) = [] := by
  cases destroys : call.destroysObject with
  | false => exact Or.inl (destroyed_none env system call destroys)
  | true =>
    cases call with
    | destroyObject hSession hObject => exact Or.inr rfl
    | _ => cases destroys

/-- A destroyed object's file is gone when it could be unlinked or was not there. -/
theorem unlinked_gone_iff (files : AList (fun _ : FileName => Bytes)) (object : HsmObject)
    (unlink : Bool) :
    ObjectGone (unlinked files (some (object, unlink))) object ↔
      (object.isToken = true →
        unlink = true ∨ files.lookup (objectFileName object.handle) = none) := by
  refine forall_congr' fun token => ?_
  cases unlink with
  | true => simp [unlinked, token]
  | false => simp [unlinked]

/-- After a success the key files agree exactly when the storage did its part. -/
theorem objects_stored_iff (call : Call)
    (success : persisted sha256 system (.call call env) = true) :
    ((∀ index object, (callStep sha256 env system call).2.objects index = some object →
          system.objects index ≠ some object →
          ObjectStored (callStep sha256 env system call).2.storage.keyFiles object) ∧
        ∀ index object, system.objects index = some object →
          (callStep sha256 env system call).2.objects index = none →
          ObjectGone (callStep sha256 env system call).2.storage.keyFiles object) ↔
      ObjectsSaved system (.call call env) := by
  have changed := objects_changed sha256 env system call success
  have files : (callStep sha256 env system call).2.storage.keyFiles =
      (system.saves (.call call env)).foldl SaveCall.write
        (unlinked system.storage.keyFiles (system.destroyed (.call call env))) :=
    key_files_after sha256 system (.call call env)
  have stored : (∀ save ∈ system.saves (.call call env),
      (callStep sha256 env system call).2.storage.keyFiles.lookup save.path =
        some (objectItems save.object).flatten) ↔
      ∀ save ∈ system.saves (.call call env), Kept save.outcome (objectItems save.object)
        (system.storage.keyFiles.lookup save.path =
          some (objectItems save.object).flatten) := by
    rw [files]
    rcases destroys_or_creates env system call with kept | nothing
    · rw [kept]
      exact written_records_iff _ _ (save_paths_apart sha256 env system call)
    · simp [System.saves, nothing]
  have gone (object : HsmObject) (unlink : Bool)
      (destroys : system.destroyed (.call call env) = some (object, unlink)) :
      ObjectGone (callStep sha256 env system call).2.storage.keyFiles object ↔
        (object.isToken = true → unlink = true ∨
          system.storage.keyFiles.lookup (objectFileName object.handle) = none) := by
    rcases destroys_or_creates env system call with kept | nothing
    · cases kept.symm.trans destroys
    · rw [files, destroys, System.saves, nothing]
      exact unlinked_gone_iff system.storage.keyFiles object unlink
  constructor
  · rintro ⟨touched, destroyed⟩
    refine ⟨stored.mp ?_, ?_⟩
    · intro save member
      obtain ⟨created, token⟩ := List.mem_filter.mp member
      obtain ⟨index, after, before⟩ :=
        (changed.added save.object).mpr (List.mem_map_of_mem created)
      exact touched index save.object after before token
    · intro object unlink destroys
      obtain ⟨index, before, after⟩ := (changed.removed object).mpr ⟨unlink, destroys⟩
      exact (gone object unlink destroys).mp (destroyed index object before after)
  · intro saved
    constructor
    · intro index object after before token
      obtain ⟨save, created, rfl⟩ :=
        List.mem_map.mp ((changed.added object).mp ⟨index, after, before⟩)
      exact stored.mpr saved.saved save (List.mem_filter.mpr ⟨created, token⟩)
    · intro index object before after
      obtain ⟨unlink, destroys⟩ := (changed.removed object).mp ⟨index, before, after⟩
      exact (gone object unlink destroys).mpr (saved.unlinked object unlink destroys)

end Calls

/-- A success is durable exactly when the storage did its part. -/
theorem success_durable_iff (sha256 : Sha256) (system : System) (event : Event) :
    SuccessDurable sha256 system event ↔ SuccessStored sha256 system event := by
  cases event with
  | newProcess => exact iff_of_true (fun success => Bool.noConfusion success) trivial
  | call call env =>
    refine forall_congr' fun success => ?_
    have token := token_stored_iff sha256 env system call success
    have objects := objects_stored_iff sha256 env system call success
    constructor
    · intro durable
      exact ⟨token.mp durable.token, objects.mp ⟨durable.touched, durable.destroyed⟩⟩
    · rintro ⟨tokenSaved, objectsSaved⟩
      obtain ⟨touched, destroyed⟩ := objects.mpr objectsSaved
      exact ⟨token.mpr tokenSaved, touched, destroyed⟩

/-! ## Whole runs -/

/-- There is no token file, or it is the record of some slot. -/
def TokenFileWhole (file : Option Bytes) : Prop :=
  ∀ bytes, file = some bytes → ∃ slot, bytes = (tokenInfoItems slot).flatten

/-- The byte written for a flag determines it. -/
theorem bool_item_injective : Function.Injective boolItem := by decide

/-- Reading back one byte written for a flag. -/
theorem read_bool_item (current value : Bool) (rest : Bytes) :
    freadBool current (boolItem value ++ rest) = (value, rest) := by
  cases value with
  | false => rfl
  | true => rfl

/-- Reading back a buffer written whole. -/
theorem read_buffer_item {size : Nat} (current value : Buffer size) (rest : Bytes) :
    freadBuffer current (value.toList ++ rest) = (value, rest) := by
  have whole : (value.toList ++ rest).take size = value.toList := by
    rw [List.take_append_of_le_length (by simp), List.take_of_length_le (by simp)]
  have tail : (value.toList ++ rest).drop size = rest := by
    rw [List.drop_append_of_le_length (by simp), List.drop_eq_nil_of_le (by simp), List.nil_append]
  rw [freadBuffer]
  rw [whole, tail]
  refine Prod.ext (List.Vector.eq _ _ ?_) rfl
  simp [Buffer.overwrite]

theorem token_items_bytes (slot : HsmSlot) : (tokenInfoItems slot).flatten =
    boolItem slot.tokenInitialized ++ (boolItem slot.userPinInitialized ++
      (boolItem slot.soPinInitialized ++ (slot.tokenLabel.toList ++
        (slot.userPinHash.toList ++ (slot.soPinHash.toList ++ []))))) := by
  simp [tokenInfoItems]

/-- A slot loaded from a record has that record. -/
theorem loaded_items (storage : Storage) (slot loaded : HsmSlot)
    (record : storage.tokenFile = some (tokenInfoItems slot).flatten) :
    tokenInfoItems (hsmStorageLoadTokenInfo true storage loaded) = tokenInfoItems slot := by
  rw [hsmStorageLoadTokenInfo, fopenRead, if_pos rfl]
  rw [record, token_items_bytes]
  simp only [read_bool_item, read_buffer_item]
  rfl

/-- A slot just initialized agrees with a whole token file that was opened. -/
theorem init_slot_stored (fopen : Bool) (storage : Storage)
    (whole : TokenFileWhole storage.tokenFile)
    (opened : storage.tokenFile.isSome = true → fopen = true) :
    TokenFileHolds storage.tokenFile (hsmInitSlot fopen storage) := by
  rw [hsmInitSlot]
  cases file : storage.tokenFile with
  | none => simp [TokenFileHolds, hsmStorageLoadTokenInfo, fopenRead, file]
  | some bytes =>
    obtain rfl := opened (by rw [file]; rfl)
    obtain ⟨slot, rfl⟩ := whole bytes file
    change (tokenInfoItems slot).flatten = _
    rw [loaded_items storage slot blankSlot file]

/-- A call that initializes the library opens the token file if there is one. -/
def TokenRead (system : System) : Event → Prop
  | .newProcess => True
  | .call call env => call = .initializeLibrary → system.gHsmContext = none →
      system.storage.tokenFile.isSome = true → env.tokenRead = true

/-- The token file is whole and agrees with the slot. -/
def TokenAgrees (system : System) : Prop :=
  TokenFileWhole system.storage.tokenFile ∧ TokenStored system

section Agreement

variable (sha256 : Sha256) (env : Env) (system : System)

/-- The calls that save the token. -/
def Call.savesToken : Call → Bool
  | .initToken _ _ _ | .initPIN _ _ | .setPIN _ _ _ => true
  | _ => false

/-- What one call does to the record of the token in memory and to the token file. -/
inductive TokenStep : Call → System → Prop
  | kept (call : Call) (after : System)
      (file : after.storage.tokenFile = system.storage.tokenFile)
      (same : ∀ later, after.gHsmContext = some later → ∃ context,
        system.gHsmContext = some context ∧
          tokenInfoItems later.slot = tokenInfoItems context.slot) :
      TokenStep call after
  | saved (call : Call) (context : HsmContext) (slot : HsmSlot)
      (present : system.gHsmContext = some context) (saves : call.savesToken = true)
      (label : slot.tokenLabel = context.slot.tokenLabel) :
      TokenStep call (system.withSavedSlot env context slot)
  | initialized (storage : Storage) (absent : system.gHsmContext = none)
      (file : storage.tokenFile = system.storage.tokenFile) :
      TokenStep .initializeLibrary
        { system with
          gHsmContext := some (hsmInitContext (hsmInitSlot env.tokenRead storage))
          storage := storage }
  | reset (slotID : CkSlotId) (pin label : Bytes) (context : HsmContext)
      (succeeded : (cInitToken sha256 env system slotID (some pin) (some label)).1 = .ok) :
      TokenStep (.initToken slotID (some pin) (some label))
        (system.withSavedSlot env context
          (context.slot.reinitialized (sha256 pin) (initTokenLabel pin.length label)))

/-- A PIN that is replaced leaves the label alone. -/
theorem pin_changed_label (slot : HsmSlot) (userType : CkUserType) (oldPin : Bytes)
    (hash : Buffer 32) :
    ((hsmVerifyPin sha256 slot userType oldPin).2.pinReplaced userType hash).tokenLabel =
      slot.tokenLabel := by
  obtain ⟨retryCount, locked, stored⟩ := verify_pin_stores sha256 slot userType oldPin
  rw [stored]
  unfold HsmSlot.storeAttempts HsmSlot.pinReplaced
  split
  · rfl
  · rfl

/-- A call keeps the record, saves it with the same label, loads it or initializes the
token. -/
theorem token_step (call : Call) :
    TokenStep sha256 env system call (callStep sha256 env system call).2 := by
  have effect := call_effect sha256 env system call
  generalize (callStep sha256 env system call).2 = after at effect
  have updated (call : Call) (context : HsmContext) (slot : HsmSlot) (later : System)
      (present : system.gHsmContext = some context)
      (afterwards : later.gHsmContext = some { context with slot := slot })
      (file : later.storage.tokenFile = system.storage.tokenFile)
      (same : tokenInfoItems slot = tokenInfoItems context.slot) :
      TokenStep sha256 env system call later := by
    refine .kept call later file fun result there => ⟨context, present, ?_⟩
    obtain rfl := Option.some.inj (afterwards.symm.trans there)
    exact same
  have located (hSession : CkSessionHandle) (found : FoundSession)
      (session : hsmGetSession system hSession = .ok found) :
      system.gHsmContext = some found.context :=
    (get_session_sound system hSession found session).1
  cases effect with
  | unchanged => exact .kept call system rfl fun later there => ⟨later, there, rfl⟩
  | directoriesMade rv storage absent made =>
    have file := (storage_init_files env system.storage).1
    rw [made] at file
    exact .kept _ _ file fun later there => ⟨later, there, rfl⟩
  | initialized storage absent made =>
    have file := (storage_init_files env system.storage).1
    rw [made] at file
    exact .initialized storage absent file
  | finalized context present =>
    refine .kept _ _ rfl ?_
    rintro later ⟨⟩
  | sessionsClosed slotID context present valid => exact updated _ context _ _ present rfl rfl rfl
  | tokenReset slotID pin label context present valid longEnough shortEnough =>
    refine .reset slotID pin label context ?_
    rw [init_token_resets sha256 env system slotID pin label context present valid longEnough
      shortEnough]
  | userPinSet hSession pin found session officer longEnough shortEnough =>
    exact .saved _ found.context _ (located hSession found session) rfl rfl
  | pinChangeRefused hSession oldPin newPin found session loggedIn longEnough shortEnough refused =>
    exact updated _ found.context _ _ (located hSession found session) rfl rfl
      (verify_pin_items sha256 found.slot found.session.pinOwner oldPin)
  | pinChanged hSession oldPin newPin found session loggedIn longEnough shortEnough accepted =>
    exact .saved _ found.context _ (located hSession found session) rfl
      (pin_changed_label sha256 found.slot found.session.pinOwner oldPin (sha256 newPin))
  | loginRefused hSession userType pin found session known fresh writable refused =>
    exact updated _ found.context _ _ (located hSession found session) rfl rfl
      (verify_pin_items sha256 found.slot userType pin)
  | loggedIn hSession userType pin found session known fresh writable accepted =>
    exact updated _ found.context _ _ (located hSession found session) rfl rfl
      (verify_pin_items sha256 found.slot userType pin)
  | sessionOpened slotID flags context index present valid serial room free =>
    exact updated _ context _ _ present rfl rfl rfl
  | sessionClosed hSession found session =>
    exact updated _ found.context _ _ (located hSession found session) rfl rfl rfl
  | sessionUpdated call hSession found changed named session update =>
    exact updated _ found.context _ _ (located hSession found session) rfl rfl rfl
  | objectCreated hSession template found index session room free =>
    exact updated _ found.context _ _ (located hSession found session) rfl
      (save_object_frame _ _ _).2.2 rfl
  | objectDestroyed hSession hObject found index object session lookup =>
    refine updated _ found.context _ _ (located hSession found session) rfl ?_ rfl
    rw [delete_object_storage system.objectStore object env system.storage rfl]
  | labelSet hSession hObject template found index object session lookup =>
    exact updated _ found.context _ _ (located hSession found session) rfl rfl rfl
  | keyPairInserted hSession mechanism publicTemplate privateTemplate found pubObj privObj pubIdx
      privIdx rest session user generated free =>
    exact updated _ found.context _ _ (located hSession found session) rfl
      ((save_object_frame _ _ _).2.2.trans (save_object_frame _ _ _).2.2) rfl

/-- Other calls keep the agreement. -/
theorem unsaved_agrees (call : Call) (unsaved : call.savesToken = false)
    (read : TokenRead system (.call call env)) (agrees : TokenAgrees system) :
    TokenAgrees (callStep sha256 env system call).2 := by
  obtain ⟨whole, stored⟩ := agrees
  have change := token_step sha256 env system call
  generalize (callStep sha256 env system call).2 = after at change
  cases change with
  | kept call after file same =>
    refine ⟨by rwa [file], ?_⟩
    intro later afterwards
    obtain ⟨context, present, items⟩ := same later afterwards
    rw [file, token_file_holds_congr _ _ _ items]
    exact stored context present
  | saved call context slot present saves label => cases unsaved.symm.trans saves
  | initialized storage absent file =>
    have wholeNow : TokenFileWhole storage.tokenFile := by rwa [file]
    refine ⟨wholeNow, ?_⟩
    rintro context ⟨⟩
    refine init_slot_stored env.tokenRead storage wholeNow fun present => ?_
    rw [file] at present
    exact read rfl absent present
  | reset slotID pin label context succeeded => cases unsaved

/-- A saved token that agrees with its file leaves a whole file. -/
theorem saved_agrees (context : HsmContext) (slot : HsmSlot)
    (stored : TokenStored (system.withSavedSlot env context slot)) :
    TokenAgrees (system.withSavedSlot env context slot) := by
  refine ⟨?_, stored⟩
  intro bytes file
  have holds := stored _ rfl
  rw [file] at holds
  exact ⟨slot, holds⟩

/-- A call whose writes and opening of the token file go well keeps the agreement. -/
theorem written_agrees (call : Call)
    (written : SuccessWritten sha256 system (.call call env))
    (read : TokenRead system (.call call env)) (agrees : TokenAgrees system) :
    TokenAgrees (callStep sha256 env system call).2 := by
  have afterSuccess (success : persisted sha256 system (.call call env) = true) :
      TokenStored (callStep sha256 env system call).2 :=
    (token_stored_iff sha256 env system call success).mpr
      ⟨(written success).1, fun _ => agrees.2⟩
  cases call with
  | initToken slotID pPin pLabel =>
    rcases init_token_cases sha256 env system slotID pPin pLabel with
      ⟨rv, -, same⟩ | ⟨pin, label, context, rfl, rfl, -, -, -, -, same⟩
    · simpa only [callStep, same] using agrees
    · have stored := afterSuccess (by simp [persisted, Call.persists, callStep, same])
      simp only [callStep, same] at stored ⊢
      exact saved_agrees env system context _ stored
  | initPIN hSession pPin =>
    rcases init_pin_cases sha256 env system hSession pPin with
      ⟨rv, -, same⟩ | ⟨pin, found, rfl, -, -, -, -, same⟩
    · simpa only [callStep, same] using agrees
    · have stored := afterSuccess (by simp [persisted, Call.persists, callStep, same])
      simp only [callStep, same] at stored ⊢
      exact saved_agrees env system found.context _ stored
  | setPIN hSession pOldPin pNewPin =>
    rcases set_pin_cases sha256 env system hSession pOldPin pNewPin with
      ⟨rv, -, same⟩ | ⟨oldPin, newPin, found, rfl, rfl, changes, outcome⟩
    · simpa only [callStep, same] using agrees
    · rcases outcome with ⟨rv, -, -, same⟩ | ⟨-, same⟩
      · obtain ⟨present, -, -⟩ := get_session_sound system hSession found changes.session
        simp only [callStep, same]
        refine ⟨agrees.1, (untouched_token_stored_iff system found.context _
          (system.withSlot found.context _) present rfl rfl ?_).mpr agrees.2⟩
        exact verify_pin_items sha256 found.slot found.session.pinOwner oldPin
      · have stored := afterSuccess (by simp [persisted, Call.persists, callStep, same])
        simp only [callStep, same] at stored ⊢
        exact saved_agrees env system found.context _ stored
  | _ => exact unsaved_agrees sha256 env system _ rfl read agrees

end Agreement

/-- In every run all successes are durable exactly when the storage does its part at each
of them. Over a whole token file that every initialization opens, that comes down to the
writes and deletions of the successful calls themselves. -/
theorem successes_durable_iff (sha256 : Sha256) (system : System) (events : List Event)
    (booted : Booted system) :
    (Runs.EveryStep (step sha256) (SuccessDurable sha256) system events ↔
        Runs.EveryStep (step sha256) (SuccessStored sha256) system events) ∧
      (TokenFileWhole system.storage.tokenFile →
        Runs.EveryStep (step sha256) TokenRead system events →
        (Runs.EveryStep (step sha256) (SuccessDurable sha256) system events ↔
          Runs.EveryStep (step sha256) (SuccessWritten sha256) system events)) := by
  refine ⟨⟨?_, ?_⟩, fun whole read => ⟨?_, fun writes => ?_⟩⟩
  · exact Runs.every_step_mono _ _ _ _ _ fun s e => (success_durable_iff sha256 s e).mp
  · exact Runs.every_step_mono _ _ _ _ _ fun s e => (success_durable_iff sha256 s e).mpr
  · refine Runs.every_step_mono _ _ _ _ _ fun s e durable => ?_
    have stored := (success_durable_iff sha256 s e).mp durable
    cases e with
    | newProcess => trivial
    | call call env =>
      intro success
      exact ⟨(stored success).1.1, (stored success).2⟩
  · have both := Runs.every_step_and _ _ _ _ _ writes read
    refine Runs.every_step_of_invariant (step sha256) TokenAgrees _ _ ?_ ?_ _ _ ?_ both
    · rintro s e agrees ⟨written, opened⟩
      cases e with
      | newProcess =>
        refine ⟨agrees.1, ?_⟩
        rintro context ⟨⟩
      | call call env => exact written_agrees sha256 env s call written opened agrees
    · rintro s e agrees ⟨written, -⟩
      refine (success_durable_iff sha256 s e).mpr ?_
      cases e with
      | newProcess => trivial
      | call call env =>
        intro success
        exact ⟨⟨(written success).1, fun _ => agrees.2⟩, (written success).2⟩
    · refine ⟨whole, ?_⟩
      intro context present
      rw [booted] at present
      cases present

/-- Over a storage whose writes and deletions all go well nothing is left undone. -/
theorem calm_call_written (sha256 : Sha256) (system : System) (call : Call) :
    SuccessWritten sha256 system (calmly call) := by
  intro _
  refine ⟨fun slot _ => .inl ⟨rfl, ?_⟩, fun save saved => .inl ?_, fun _ _ gone _ => .inl ?_⟩
  · rintro item - reached ⟨⟩
  · have outcome : save.outcome = wholeWrite := by
      have created := (List.mem_filter.mp saved).1
      cases call with
      | createObject hSession pTemplate phObject =>
        cases pTemplate with
        | none => cases created
        | some template =>
          simp only [System.creations] at created
          split at created
          · rw [List.mem_singleton.mp created]
            rfl
          · cases created
      | generateKeyPair hSession pMechanism publicTemplate privateTemplate phPublicKey
          phPrivateKey =>
        cases pMechanism with
        | none => cases created
        | some mechanism =>
          simp only [System.creations] at created
          split at created
          · split at created
            · cases created
            · rcases List.mem_pair.mp created with rfl | rfl
              · rfl
              · rfl
          · cases created
      | _ => cases created
    rw [outcome]
    refine ⟨rfl, ?_⟩
    rintro item - reached ⟨⟩
  · cases call with
    | destroyObject hSession hObject =>
      simp only [System.destroyed] at gone
      split at gone
      · cases gone
      · split at gone
        · cases gone
        · cases gone
          rfl
    | _ => cases gone

/-- Over a storage that opens its files the token file is read. -/
theorem calm_token_read (system : System) (call : Call) : TokenRead system (calmly call) :=
  fun _ _ _ => rfl

/-- On a fresh machine the token is set up durably. -/
theorem token_set_up_durable :
    Runs.EveryStep (step pinSha256) (SuccessDurable pinSha256) (bootProcess freshStorage)
      tokenSetUp :=
  ((successes_durable_iff pinSha256 (bootProcess freshStorage) tokenSetUp rfl).2
    (fun _ absent => by cases absent)
    ⟨calm_token_read _ _, calm_token_read _ _, calm_token_read _ _, calm_token_read _ _,
      calm_token_read _ _, calm_token_read _ _, calm_token_read _ _, trivial⟩).mpr
    ⟨calm_call_written _ _ _, calm_call_written _ _ _, calm_call_written _ _ _,
      calm_call_written _ _ _, calm_call_written _ _ _, calm_call_written _ _ _,
      calm_call_written _ _ _, trivial⟩

/-- A durable success leaves the token file in agreement. -/
theorem durable_token_stored (sha256 : Sha256) (system : System) (event : Event)
    (durable : SuccessDurable sha256 system event)
    (success : persisted sha256 system event = true) :
    TokenStored (step sha256 system event).2 := (durable success).token

/-- The surroundings of a call during which the token file cannot be opened. -/
def tokenFileClosed : Env := { calmEnv 1 with tokenWrite := ⟨false, fun _ => none⟩ }

/-- The user's PIN is changed while the token file cannot be opened. -/
def unsavedPin : Event := .call (.setPIN 1 (some userPin) (some otherUserPin)) tokenFileClosed

/-- The change succeeds, and the token file still holds the old PIN. -/
theorem unsaved_pin_succeeds :
    Booted (bootProcess freshStorage) ∧
      ¬ Runs.EveryStep (step pinSha256) (SuccessDurable pinSha256) (bootProcess freshStorage)
        (tokenSetUp ++ [unsavedPin]) := by
  refine ⟨rfl, fun durable => ?_⟩
  obtain ⟨-, last, -⟩ := (Runs.every_step_append _ _ _ _ _).mp durable
  generalize reached : Runs.run (step pinSha256) (bootProcess freshStorage) tokenSetUp = state
    at last
  have success : persisted pinSha256 state unsavedPin = true := by
    subst reached
    decide +kernel
  have stored := durable_token_stored pinSha256 state unsavedPin last success
  subst reached
  revert stored
  decide +kernel

end PstHsm
