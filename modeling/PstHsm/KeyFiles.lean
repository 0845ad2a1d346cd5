import PstHsm.Handles

/-!
# Key files across processes

The file of a token object is named after its handle, and the counter behind the
handles starts again at 1 in every process while the files stay. Within one
process, and with the counter in its range, no two saves meet; a file that an
earlier process left is overwritten as soon as its handle comes up again. Which
files hold the record of an object that was never destroyed is kept beside the
process, apart for this process and for those before it.
-/

namespace PstHsm

open Tables

/-! ## The files one event writes and removes -/

/-- A call of `hsm_storage_save_object` and how the writing goes. -/
structure SaveCall where
  object : HsmObject
  outcome : WriteOutcome

/-- The file the call writes to. -/
def SaveCall.path (save : SaveCall) : FileName := objectFileName save.object.handle

/-- The objects an event creates, with the calls that save them. -/
def System.creations (system : System) : Event → List SaveCall
  | .call (.createObject hSession (some template) phObject) env =>
    if (cCreateObject env system hSession (some template) phObject).1 = .ok then
      [⟨createdObject template system.handleCounter, env.objectWrite 0⟩]
    else []
  | .call (.generateKeyPair hSession (some mechanism) publicTemplate privateTemplate phPublicKey
      phPrivateKey) env =>
    if (cGenerateKeyPair env system hSession (some mechanism) publicTemplate privateTemplate
        phPublicKey phPrivateKey).1 = .ok then
      match generateHalves env mechanism publicTemplate privateTemplate with
      | .error _ => []
      | .ok (pubObj, privObj) =>
        [⟨storedPublicKey pubObj system.handleCounter, env.objectWrite 0⟩,
          ⟨storedPrivateKey privObj system.handleCounter, env.objectWrite 1⟩]
    else []
  | _ => []

/-- Only token objects reach a file. -/
def System.saves (system : System) (event : Event) : List SaveCall :=
  (system.creations event).filter fun save => save.object.isToken

/-- The object an event destroys, and whether its file can be unlinked. -/
def System.destroyed (system : System) : Event → Option (HsmObject × Bool)
  | .call (.destroyObject hSession hObject) env =>
    match hsmGetSession system hSession with
    | .error _ => none
    | .ok found =>
      match hsmGetObject found.slot hObject with
      | .error _ => none
      | .ok (_, object) => some (object, env.unlink)
  | _ => none

/-- The key files after one save. -/
def SaveCall.write (files : AList (fun _ : FileName => Bytes)) (save : SaveCall) :
    AList (fun _ : FileName => Bytes) :=
  if save.outcome.fopen then
    files.insert save.path (writtenBytes save.outcome (objectItems save.object))
  else files

/-- The key files after the deletion that goes with a destruction. -/
def unlinked (files : AList (fun _ : FileName => Bytes)) :
    Option (HsmObject × Bool) → AList (fun _ : FileName => Bytes)
  | some (object, true) =>
    if object.isToken then files.erase (objectFileName object.handle) else files
  | _ => files

/-- Saving an object is the save call, unless the object stays in memory only. -/
theorem save_object_writes (object : HsmObject) (outcome : WriteOutcome) (storage : Storage) :
    (hsmStorageSaveObject object outcome storage).2.keyFiles =
      (([⟨object, outcome⟩] : List SaveCall).filter fun save => save.object.isToken).foldl
        SaveCall.write storage.keyFiles := by
  cases token : object.isToken with
  | false => simp [hsmStorageSaveObject, token]
  | true =>
    cases opened : outcome.fopen with
    | false => simp [hsmStorageSaveObject, SaveCall.write, token, opened]
    | true => simp [hsmStorageSaveObject, SaveCall.write, SaveCall.path, token, opened]

/-- The calls that can create objects. -/
def Call.createsObjects : Call → Bool
  | .createObject _ _ _ | .generateKeyPair _ _ _ _ _ _ => true
  | _ => false

/-- The call that can destroy one. -/
def Call.destroysObject : Call → Bool
  | .destroyObject _ _ => true
  | _ => false

/-- A call that cannot create objects leaves the counter alone. -/
theorem counter_stays (sha256 : Sha256) (env : Env) (system : System) (call : Call)
    (uncreated : call.createsObjects = false) :
    (callStep sha256 env system call).2.handleCounter = system.handleCounter := by
  have change := store_step sha256 env system call
  change (callStep sha256 env system call).2.objectStore.counter = system.objectStore.counter
  generalize (callStep sha256 env system call).2.objectStore = after at change
  cases change with
  | created hSession template => cases uncreated
  | paired hSession mechanism publicTemplate privateTemplate => cases uncreated
  | _ => rfl

/-- A call that can neither create nor destroy objects leaves the key files alone. -/
theorem files_stay (sha256 : Sha256) (env : Env) (system : System) (call : Call)
    (uncreated : call.createsObjects = false) (undestroyed : call.destroysObject = false) :
    (callStep sha256 env system call).2.storage.keyFiles = system.storage.keyFiles := by
  have change := store_step sha256 env system call
  change (callStep sha256 env system call).2.objectStore.keyFiles = system.objectStore.keyFiles
  generalize (callStep sha256 env system call).2.objectStore = after at change
  cases change with
  | created hSession template => cases uncreated
  | destroyed hSession index object => cases undestroyed
  | paired hSession mechanism publicTemplate privateTemplate => cases uncreated
  | _ => rfl

/-- A call creates nothing, one object, or the two halves of a key pair, moves the
counter on by as many, and saves them in order. -/
theorem creations_cases (sha256 : Sha256) (env : Env) (system : System) (call : Call) :
    (system.creations (.call call env) = [] ∧
        (callStep sha256 env system call).2.handleCounter = system.handleCounter ∧
        (call.destroysObject = false →
          (callStep sha256 env system call).2.storage.keyFiles = system.storage.keyFiles)) ∨
      (∃ hSession template, call = .createObject hSession (some template) true ∧
        system.creations (.call call env) =
          [⟨createdObject template system.handleCounter, env.objectWrite 0⟩] ∧
        (callStep sha256 env system call).2.handleCounter =
          advanceCounter system.handleCounter ∧
        (callStep sha256 env system call).2.storage =
          (hsmStorageSaveObject (createdObject template system.handleCounter) (env.objectWrite 0)
            system.storage).2) ∨
      ∃ hSession mechanism publicTemplate privateTemplate pubObj privObj,
        call = .generateKeyPair hSession (some mechanism) publicTemplate privateTemplate true true ∧
        system.creations (.call call env) =
          [⟨storedPublicKey pubObj system.handleCounter, env.objectWrite 0⟩,
            ⟨storedPrivateKey privObj system.handleCounter, env.objectWrite 1⟩] ∧
        (callStep sha256 env system call).2.handleCounter =
          advanceCounter (advanceCounter system.handleCounter) ∧
        (callStep sha256 env system call).2.storage =
          (hsmStorageSaveObject (storedPrivateKey privObj system.handleCounter) (env.objectWrite 1)
            (hsmStorageSaveObject (storedPublicKey pubObj system.handleCounter) (env.objectWrite 0)
              system.storage).2).2 := by
  cases call with
  | createObject hSession pTemplate phObject =>
    rcases create_object_cases env system hSession pTemplate phObject with
      ⟨rv, failed, same⟩ | ⟨template, found, index, rfl, rfl, -, -, -, same⟩
    · have state : (callStep sha256 env system (.createObject hSession pTemplate phObject)).2 =
          system := congrArg (fun result => result.2.2) same
      left
      rw [state]
      refine ⟨?_, rfl, fun _ => rfl⟩
      cases pTemplate with
      | none => rfl
      | some template => simp [System.creations, same, failed]
    · right
      left
      refine ⟨hSession, template, rfl, ?_, ?_, ?_⟩
      · simp [System.creations, same]
      · exact congrArg (fun result => result.2.2.handleCounter) same
      · exact congrArg (fun result => result.2.2.storage) same
  | generateKeyPair hSession pMechanism publicTemplate privateTemplate phPublicKey phPrivateKey =>
    rcases generate_key_pair_cases env system hSession pMechanism publicTemplate privateTemplate
      phPublicKey phPrivateKey with
      ⟨rv, failed, same⟩ | ⟨mechanism, found, pubObj, privObj, pubIdx, privIdx, rest, rfl, rfl,
        rfl, -, -, generated, -, same⟩
    · have state : (callStep sha256 env system (.generateKeyPair hSession pMechanism publicTemplate
          privateTemplate phPublicKey phPrivateKey)).2 = system :=
        congrArg (fun result => result.2.2) same
      left
      rw [state]
      refine ⟨?_, rfl, fun _ => rfl⟩
      cases pMechanism with
      | none => rfl
      | some mechanism => simp [System.creations, same, failed]
    · right
      right
      refine ⟨hSession, mechanism, publicTemplate, privateTemplate, pubObj, privObj, rfl, ?_, ?_,
        ?_⟩
      · simp [System.creations, same, generated]
      · exact congrArg (fun result => result.2.2.handleCounter) same
      · exact congrArg (fun result => result.2.2.storage) same
  | _ =>
    exact Or.inl ⟨rfl, counter_stays sha256 env system _ rfl,
      files_stay sha256 env system _ rfl⟩

/-- A call other than `C_DestroyObject` destroys nothing. -/
theorem destroyed_none (env : Env) (system : System) (call : Call)
    (undestroyed : call.destroysObject = false) : system.destroyed (.call call env) = none := by
  cases call with
  | destroyObject hSession hObject => cases undestroyed
  | _ => rfl

/-- `C_DestroyObject` deletes the file of the object it finds. -/
theorem destroy_object_unlinks (env : Env) (system : System) (hSession : CkSessionHandle)
    (hObject : CkObjectHandle) :
    (cDestroyObject env system hSession hObject).2.storage.keyFiles =
      unlinked system.storage.keyFiles
        (system.destroyed (.call (.destroyObject hSession hObject) env)) := by
  cases session : hsmGetSession system hSession with
  | error rv => simp [cDestroyObject, System.destroyed, session, unlinked]
  | ok found =>
    cases lookup : hsmGetObject found.slot hObject with
    | error rv =>
      have nothing : system.destroyed (.call (.destroyObject hSession hObject) env) = none := by
        simp only [System.destroyed, session, lookup]
      rw [nothing, destroy_object_missing env system hSession hObject found rv session lookup]
      rfl
    | ok pair =>
      obtain ⟨index, object⟩ := pair
      have destruction : system.destroyed (.call (.destroyObject hSession hObject) env) =
          some (object, env.unlink) := by
        simp only [System.destroyed, session, lookup]
      rw [destruction,
        destroy_object_succeeds env system hSession hObject found index object session lookup]
      change (storageWithout env object system.storage).keyFiles = _
      rw [delete_object_storage system.objectStore object env system.storage rfl]
      cases unlinkable : env.unlink with
      | false => simp [ObjectStore.filesWithout, unlinked, System.objectStore]
      | true => simp [ObjectStore.filesWithout, unlinked, System.objectStore]

/-- The key files change by the saves and the deletion of the event, and by nothing
else. -/
theorem key_files_after (sha256 : Sha256) (system : System) (event : Event) :
    (step sha256 system event).2.storage.keyFiles =
      (system.saves event).foldl SaveCall.write
        (unlinked system.storage.keyFiles (system.destroyed event)) := by
  cases event with
  | newProcess => rfl
  | call call env =>
    change (callStep sha256 env system call).2.storage.keyFiles = _
    rcases creations_cases sha256 env system call with
      ⟨nothing, -, files⟩ | ⟨hSession, template, rfl, one, -, files⟩ |
        ⟨hSession, mechanism, publicTemplate, privateTemplate, pubObj, privObj, rfl, two, -, files⟩
    · rw [System.saves, nothing]
      cases destroys : call.destroysObject with
      | false =>
        rw [destroyed_none env system call destroys]
        exact files destroys
      | true =>
        cases call with
        | destroyObject hSession hObject =>
          exact destroy_object_unlinks env system hSession hObject
        | _ => cases destroys
    · rw [System.saves, one, files]
      exact save_object_writes _ _ system.storage
    · have apart (first second : SaveCall) :
          [first, second].filter (fun save => save.object.isToken) =
            [first].filter (fun save => save.object.isToken) ++
              [second].filter fun save => save.object.isToken :=
        List.filter_append [first] [second]
      rw [System.saves, two, files, apart, List.foldl_append, save_object_writes,
        save_object_writes]
      rfl

/-! ## Which files hold a record -/

/-- The files that hold the record of a token object that was never destroyed: those
that earlier processes left, and those of this process. -/
structure Records where
  inherited : List FileName
  own : List FileName
  deriving DecidableEq

/-- A token object is destroyed. When its file cannot be unlinked, a record that an
earlier process left under the same name is still there. -/
def Records.forget (records : Records) : Option (HsmObject × Bool) → Records
  | none => records
  | some (object, unlink) =>
    if object.isToken then
      { inherited :=
          if unlink then records.inherited.filter (· ≠ objectFileName object.handle)
          else records.inherited
        own := records.own.filter (· ≠ objectFileName object.handle) }
    else records

/-- A save takes the file over, provided the file could be opened. -/
def Records.record (records : Records) (save : SaveCall) : Records :=
  if save.outcome.fopen then
    { inherited := records.inherited.filter (· ≠ save.path)
      own := save.path :: records.own }
  else records

/-- The records after an event. -/
def Records.next (records : Records) (system : System) : Event → Records
  | .newProcess => ⟨records.inherited ++ records.own, []⟩
  | .call call env =>
    (system.saves (.call call env)).foldl Records.record
      (records.forget (system.destroyed (.call call env)))

/-- The process with the records of its key files. -/
def recordedStep (sha256 : Sha256) : System × Records → Event → Response × System × Records :=
  Runs.traced (step sha256) fun system records event => records.next system event

/-- Every file there is when the first process starts counts as a record. -/
def Storage.records (storage : Storage) : Records := ⟨storage.keyFiles.keys, []⟩

/-- Every save of a new token object goes to a file that holds no record, the ones
written by the same call included. -/
def SavesToFreshFiles (pair : System × Records) (event : Event) : Prop :=
  ((pair.1.saves event).map SaveCall.path).Nodup ∧
    ∀ save ∈ pair.1.saves event, save.path ∉ pair.2.inherited ∧ save.path ∉ pair.2.own

instance (pair : System × Records) (event : Event) : Decidable (SavesToFreshFiles pair event) :=
  inferInstanceAs (Decidable (_ ∧ _))

/-! ## Records are files -/

/-- Every record lies in a file of the key directory. -/
def RecordsStored (records : Records) (files : AList (fun _ : FileName => Bytes)) : Prop :=
  ∀ name, name ∈ records.inherited ∨ name ∈ records.own → name ∈ files

/-- A record written and noted is a file. -/
theorem record_stored (records : Records) (files : AList (fun _ : FileName => Bytes))
    (save : SaveCall) (stored : RecordsStored records files) :
    RecordsStored (records.record save) (save.write files) := by
  intro name held
  rw [Records.record] at held
  rw [SaveCall.write]
  split at held
  · rename_i opened
    rw [if_pos opened, AList.mem_insert]
    rcases held with before | here
    · exact Or.inr (stored name (Or.inl (List.mem_filter.mp before).1))
    · rcases List.mem_cons.mp here with same | before
      · exact Or.inl same
      · exact Or.inr (stored name (Or.inr before))
  · rename_i unopened
    rw [if_neg unopened]
    exact stored name held

/-- So are the records of several saves. -/
theorem records_stored_saves (saves : List SaveCall) (records : Records)
    (files : AList (fun _ : FileName => Bytes)) (stored : RecordsStored records files) :
    RecordsStored (saves.foldl Records.record records) (saves.foldl SaveCall.write files) := by
  induction saves generalizing records files with
  | nil => exact stored
  | cons save rest inductionHypothesis =>
    exact inductionHypothesis _ _ (record_stored records files save stored)

/-- A file that is unlinked is not noted any more. -/
theorem records_stored_forget (records : Records) (files : AList (fun _ : FileName => Bytes))
    (destroyed : Option (HsmObject × Bool)) (stored : RecordsStored records files) :
    RecordsStored (records.forget destroyed) (unlinked files destroyed) := by
  intro name held
  match destroyed with
  | none => exact stored name held
  | some (object, unlink) =>
    cases token : object.isToken with
    | false =>
      simp only [Records.forget, token] at held
      cases unlink with
      | false => exact stored name held
      | true => simpa [unlinked, token] using stored name held
    | true =>
      simp only [Records.forget, token, if_true] at held
      cases unlink with
      | false =>
        rcases held with before | before
        · exact stored name (Or.inl before)
        · exact stored name (Or.inr (List.mem_filter.mp before).1)
      | true =>
        simp only [unlinked, token, if_true, AList.mem_erase]
        rcases held with before | before
        · obtain ⟨member, other⟩ := List.mem_filter.mp before
          exact ⟨of_decide_eq_true other, stored name (Or.inl member)⟩
        · obtain ⟨member, other⟩ := List.mem_filter.mp before
          exact ⟨of_decide_eq_true other, stored name (Or.inr member)⟩

/-- In every run the records stay files of the key directory. -/
theorem records_stored_run (sha256 : Sha256) (system : System) (events : List Event) :
    RecordsStored (Runs.run (recordedStep sha256) (system, system.storage.records) events).2
      (Runs.run (step sha256) system events).storage.keyFiles := by
  have machine : (Runs.run (recordedStep sha256) (system, system.storage.records) events).1 =
      Runs.run (step sha256) system events := Runs.traced_run (step sha256) _ system _ events
  rw [← machine]
  apply Runs.invariant_run (recordedStep sha256)
    (fun pair => RecordsStored pair.2 pair.1.storage.keyFiles) (fun _ _ => True)
  · intro pair event stored _
    change RecordsStored (pair.2.next pair.1 event) (step sha256 pair.1 event).2.storage.keyFiles
    rw [key_files_after]
    cases event with
    | newProcess =>
      intro name held
      rcases held with before | impossible
      · exact stored name (List.mem_append.mp before)
      · cases impossible
    | call call env =>
      exact records_stored_saves _ _ _ (records_stored_forget pair.2 _ _ stored)
  · intro name held
    rcases held with there | impossible
    · exact there
    · cases impossible
  · exact (Runs.every_step_iff _ _ _ events).mpr fun _ _ _ _ => trivial

/-! ## Names within one process -/

/-- The files of this process are named after handles it has issued. -/
structure RecordsIssued (pair : System × Records) : Prop where
  started : 1 ≤ pair.1.handleCounter
  bounded : pair.1.handleCounter ≤ handleRange + 1
  issued : ∀ name ∈ pair.2.own,
    ∃ handle, name = objectFileName handle ∧ IssuedBefore pair.1.handleCounter handle

/-- A call that creates one object passes its checks. -/
theorem one_creation_checked (env : Env) (system : System) (hSession : CkSessionHandle)
    (template : List CkAttribute) (save : SaveCall)
    (one : system.creations (.call (.createObject hSession (some template) true) env) = [save]) :
    ∃ found, Creates env system hSession found := by
  apply create_object_checked env system hSession template
  by_contra refused
  simp [System.creations, refused] at one

/-- A call that creates two passes its own. -/
theorem two_creations_checked (env : Env) (system : System) (hSession : CkSessionHandle)
    (mechanism : CkMechanismType) (publicTemplate privateTemplate : List CkAttribute)
    (saves : List SaveCall) (nonempty : saves ≠ [])
    (two : system.creations (.call (.generateKeyPair hSession (some mechanism) publicTemplate
      privateTemplate true true) env) = saves) :
    ∃ found, Generates env system hSession mechanism publicTemplate found := by
  apply (generate_key_pair_ok_iff env system hSession mechanism publicTemplate
    privateTemplate).mp
  by_contra refused
  apply nonempty
  rw [← two]
  simp [System.creations, refused]

/-- Within the range the objects created get serial numbers that are new and differ. -/
theorem creations_numbered (sha256 : Sha256) (env : Env) (system : System) (call : Call)
    (started : 1 ≤ system.handleCounter)
    (within : generatesWithin handleRange system (.call call env) = true) :
    ((system.creations (.call call env)).map SaveCall.path).Nodup ∧
      ∀ save ∈ system.creations (.call call env), ∃ (type serial : Nat),
        save.object.handle = handleBase type + serial ∧ system.handleCounter ≤ serial ∧
          serial ≤ handleRange ∧
          serial < (callStep sha256 env system call).2.handleCounter := by
  rcases creations_cases sha256 env system call with
    ⟨nothing, -⟩ | ⟨hSession, template, rfl, one, counter, -⟩ |
      ⟨hSession, mechanism, publicTemplate, privateTemplate, pubObj, privObj, rfl, two, counter,
        -⟩
  · rw [nothing]
    exact ⟨List.nodup_nil, nofun⟩
  · have allowed : (∃ found, Creates env system hSession found) →
        system.handleCounter ≤ handleRange := of_decide_eq_true within
    have room := allowed (one_creation_checked env system hSession template _ one)
    rw [one, counter]
    refine ⟨List.nodup_singleton _, ?_⟩
    intro save member
    obtain rfl := List.mem_singleton.mp member
    have next := counter_next system.handleCounter (by omega)
    exact ⟨_, system.handleCounter, rfl, Nat.le_refl _, room, by omega⟩
  · have allowed : (∃ found, Generates env system hSession mechanism publicTemplate found) →
        system.handleCounter < handleRange := of_decide_eq_true within
    have room := allowed (two_creations_checked env system hSession mechanism publicTemplate
      privateTemplate _ (List.cons_ne_nil _ _) two)
    have next := counter_next system.handleCounter (by omega)
    have last : advanceCounter (advanceCounter system.handleCounter) =
        system.handleCounter + 2 := by
      rw [next, counter_next (system.handleCounter + 1) (by omega)]
    rw [two, counter, last]
    constructor
    · have different : objectFileName (storedPublicKey pubObj system.handleCounter).handle ≠
          objectFileName (storedPrivateKey privObj system.handleCounter).handle := by
        intro same
        have handles : handleBase objTypePublicKey + system.handleCounter =
            handleBase objTypePrivateKey + advanceCounter system.handleCounter :=
          object_file_name_injective _ _ same
        rw [next] at handles
        have serials := handle_serial_unique objTypePublicKey objTypePrivateKey
          system.handleCounter (system.handleCounter + 1) started (Nat.le_of_lt room) (by omega)
          room handles
        omega
      simpa [SaveCall.path] using different
    · intro save member
      rcases List.mem_cons.mp member with rfl | member
      · exact ⟨objTypePublicKey, system.handleCounter, rfl, Nat.le_refl _, Nat.le_of_lt room,
          by omega⟩
      · obtain rfl := List.mem_singleton.mp member
        refine ⟨objTypePrivateKey, system.handleCounter + 1, ?_, by omega, room, by omega⟩
        exact congrArg (handleBase objTypePrivateKey + ·) next

/-- A record that a save adds to the files of this process was there or is the save's. -/
theorem mem_own_record (saves : List SaveCall) (records : Records) (name : FileName)
    (member : name ∈ (saves.foldl Records.record records).own) :
    name ∈ records.own ∨ ∃ save ∈ saves, name = save.path := by
  induction saves generalizing records with
  | nil => exact Or.inl member
  | cons save rest inductionHypothesis =>
    rcases inductionHypothesis (records.record save) member with before | ⟨later, there, same⟩
    · rw [Records.record] at before
      split at before
      · rcases List.mem_cons.mp before with same | earlier
        · exact Or.inr ⟨save, List.mem_cons_self, same⟩
        · exact Or.inl earlier
      · exact Or.inl before
    · exact Or.inr ⟨later, List.mem_cons_of_mem _ there, same⟩

/-- Destroying adds no record. -/
theorem mem_own_forget (records : Records) (destroyed : Option (HsmObject × Bool))
    (name : FileName) (member : name ∈ (records.forget destroyed).own) : name ∈ records.own := by
  match destroyed with
  | none => exact member
  | some (object, unlink) =>
    simp only [Records.forget] at member
    split at member
    · exact (List.mem_filter.mp member).1
    · exact member

/-- One event within the range keeps the files named after issued handles. -/
theorem records_issued_step (sha256 : Sha256) (pair : System × Records) (event : Event)
    (issued : RecordsIssued pair) (within : generatesWithin handleRange pair.1 event = true) :
    RecordsIssued (recordedStep sha256 pair event).2 := by
  cases event with
  | newProcess =>
    have bounded : 1 ≤ handleRange + 1 := by decide
    exact ⟨Nat.le_refl 1, bounded, nofun⟩
  | call call env =>
    have change := store_step sha256 env pair.1 call
    have upward := store_counter_upward env call _ _ change issued.bounded
    obtain ⟨-, numbered⟩ := creations_numbered sha256 env pair.1 call issued.started within
    refine ⟨issued.started.trans upward, ?_, ?_⟩
    · exact generates_within_bounded sha256 env pair.1 call issued.bounded within
    · intro name member
      rcases mem_own_record _ _ name member with before | ⟨save, there, same⟩
      · obtain ⟨handle, named, type, serial, numbering, low, passed⟩ :=
          issued.issued name (mem_own_forget pair.2 _ name before)
        exact ⟨handle, named, type, serial, numbering, low, Nat.lt_of_lt_of_le passed upward⟩
      · obtain ⟨type, serial, numbering, fresh, -, passed⟩ :=
          numbered save (List.mem_filter.mp there).1
        exact ⟨save.object.handle, same, type, serial, numbering, issued.started.trans fresh,
          passed⟩

/-- Within the range an event saves neither to one file twice nor to a file of this process:
what is left is the files of earlier ones. -/
theorem saves_fresh_here (sha256 : Sha256) (pair : System × Records) (event : Event)
    (issued : RecordsIssued pair) (within : generatesWithin handleRange pair.1 event = true) :
    SavesToFreshFiles pair event ↔
      ∀ save ∈ pair.1.saves event, save.path ∉ pair.2.inherited := by
  constructor
  · exact fun fresh save there => (fresh.2 save there).1
  · intro outside
    cases event with
    | newProcess => exact ⟨List.nodup_nil, nofun⟩
    | call call env =>
      obtain ⟨nodup, numbered⟩ := creations_numbered sha256 env pair.1 call issued.started within
      refine ⟨nodup.sublist (List.filter_sublist.map SaveCall.path), ?_⟩
      intro save there
      refine ⟨outside save there, ?_⟩
      intro member
      obtain ⟨handle, named, owner, earlier, earlierNumber, low, passed⟩ :=
        issued.issued save.path member
      obtain ⟨type, serial, numbering, fresh, high, -⟩ :=
        numbered save (List.mem_filter.mp there).1
      have same := object_file_name_injective _ _ named
      rw [numbering, earlierNumber] at same
      have serials := handle_serial_unique type owner serial earlier (issued.started.trans fresh)
        high low (by omega) same
      omega

/-- A template for a token object of a class. -/
def tokenTemplate (type : Nat) : List CkAttribute :=
  [⟨ckaClass, some (Bytes.littleEndian 8 type), 8⟩, ⟨ckaToken, some [ckTrue], 1⟩]

/-- Initialize, open a session, and create a token object. -/
def createToken (type : Nat) : List Event :=
  [calmly .initializeLibrary,
    calmly (.openSession 0 (ckfSerialSession ||| ckfRwSession) true),
    calmly (.createObject 1 (some (tokenTemplate type)) true)]

end PstHsm
