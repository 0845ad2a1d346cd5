import PstHsm.HandleLifetimes
import PstHsm.ObjectFiles

/-!
# The key directory mirrors the live token objects

As long as files can be written and removed, the handles stay in their range and the library is
not finalized, the key directory has one file for each live token object and no other. So
`hsm_storage_list_objects` lists exactly the live token objects, and `hsm_storage_load_object`
gives back each of them whose file it can open as it was created, but for its key and its
capabilities: a label set later is not stored.
-/

namespace PstHsm

open Tables

/-- There is a file with the record of each live token object as it was created, which is the
object but for a label set since, and no file of another name. -/
structure ObjectStore.Mirrored (born : HsmObject → Prop) (store : ObjectStore) : Prop where
  recorded : ∀ index object, store.objects index = some object → object.isToken = true →
    ∃ label, born { object with label } ∧ store.keyFiles.lookup (objectFileName object.handle) =
      some ({ object with label } : HsmObject).record
  owned : ∀ name ∈ store.keyFiles, ∃ index object, store.objects index = some object ∧
    object.isToken = true ∧ name = objectFileName object.handle

/-- What was born stays born. -/
theorem ObjectStore.Mirrored.grown {born later : HsmObject → Prop} {store : ObjectStore}
    (mirrored : store.Mirrored born) (grows : ∀ object, born object → later object) :
    store.Mirrored later where
  recorded index object present isToken := by
    obtain ⟨label, created, recorded⟩ := mirrored.recorded index object present isToken
    exact ⟨label, grows _ created, recorded⟩
  owned := mirrored.owned

/-! ## One step -/

section Steps

variable (born : HsmObject → Prop) (store : ObjectStore) (mirrored : store.Mirrored born)

include mirrored

/-- A new object and its file join the mirror together. -/
theorem mirrored_added (index : Fin hsmMaxObjects) (object : HsmObject) (outcome : WriteOutcome)
    (complete : outcome.Complete) (free : store.objects index = none)
    (fresh : ∀ tested other, store.objects tested = some other → other.handle ≠ object.handle)
    (created : born object) : (store.added index object outcome).Mirrored born := by
  have bytes : writtenBytes outcome (objectItems object) = object.record := by
    apply (written_whole_iff outcome _).mpr
    intro item member reached cut
    rw [complete.2 item.2] at cut
    cases cut
  have kept (tested : Fin hsmMaxObjects) (other : HsmObject)
      (present : store.objects tested = some other) :
      put store.objects index (some object) tested = some other := by
    have elsewhere : tested ≠ index := by
      rintro rfl
      cases free.symm.trans present
    exact (put_other _ _ _ _ elsewhere).trans present
  cases token : object.isToken with
  | false =>
    have files : store.filesWith object outcome = store.keyFiles := by
      simp [ObjectStore.filesWith, token]
    constructor
    · rw [ObjectStore.added, files]
      apply entries_put _ store.objects index (some object) mirrored.recorded
      intro added same isToken
      cases same
      cases token.symm.trans isToken
    · intro name member
      rw [ObjectStore.added, files] at member
      obtain ⟨tested, other, present, isToken, named⟩ := mirrored.owned name member
      exact ⟨tested, other, kept tested other present, isToken, named⟩
  | true =>
    have files : store.filesWith object outcome =
        store.keyFiles.insert (objectFileName object.handle) object.record := by
      simp [ObjectStore.filesWith, token, complete.1, bytes]
    constructor
    · rw [ObjectStore.added, files]
      intro tested other present isToken
      change put store.objects index (some object) tested = some other at present
      by_cases here : tested = index
      · rw [here, put_self] at present
        cases present
        exact ⟨object.label, created, AList.lookup_insert _⟩
      · rw [put_other _ _ _ _ here] at present
        obtain ⟨label, before, recorded⟩ := mirrored.recorded tested other present isToken
        refine ⟨label, before, ?_⟩
        rw [AList.lookup_insert_ne]
        · exact recorded
        · intro same
          exact fresh tested other present (object_file_name_injective _ _ same)
    · intro name member
      rw [ObjectStore.added, files, AList.mem_insert] at member
      rcases member with rfl | before
      · exact ⟨index, object, put_self _ _ _, token, rfl⟩
      · obtain ⟨tested, other, present, isToken, named⟩ := mirrored.owned name before
        exact ⟨tested, other, kept tested other present, isToken, named⟩

/-- And they leave it together. -/
theorem mirrored_removed (index : Fin hsmMaxObjects) (object : HsmObject)
    (distinct : KeysDistinct HsmObject.handle store.objects)
    (present : store.objects index = some object) :
    ObjectStore.Mirrored born { store with
      objects := put store.objects index none
      keyFiles := store.filesWithout object true } := by
  have apart (tested : Fin hsmMaxObjects) (other : HsmObject) (different : tested ≠ index)
      (there : store.objects tested = some other) :
      objectFileName other.handle ≠ objectFileName object.handle := by
    intro same
    exact different (distinct tested index other object there present
      (object_file_name_injective _ _ same))
  have left (tested : Fin hsmMaxObjects) (other : HsmObject)
      (there : put store.objects index none tested = some other) :
      tested ≠ index ∧ store.objects tested = some other := by
    by_cases here : tested = index
    · rw [here, put_self] at there
      cases there
    · exact ⟨here, (put_other _ _ _ _ here).symm.trans there⟩
  have stays (tested : Fin hsmMaxObjects) (other : HsmObject) (different : other ≠ object)
      (there : store.objects tested = some other) :
      put store.objects index none tested = some other := by
    have elsewhere : tested ≠ index := by
      rintro rfl
      exact different (Option.some.inj (there.symm.trans present))
    exact (put_other _ _ _ _ elsewhere).trans there
  cases token : object.isToken with
  | false =>
    have files : store.filesWithout object true = store.keyFiles := by
      simp [ObjectStore.filesWithout, token]
    rw [files]
    constructor
    · intro tested other there isToken
      exact mirrored.recorded tested other (left tested other there).2 isToken
    · intro name member
      obtain ⟨tested, other, there, isToken, named⟩ := mirrored.owned name member
      refine ⟨tested, other, stays tested other ?_ there, isToken, named⟩
      rintro rfl
      cases token.symm.trans isToken
  | true =>
    have files : store.filesWithout object true =
        store.keyFiles.erase (objectFileName object.handle) := by
      simp [ObjectStore.filesWithout, token]
    rw [files]
    constructor
    · intro tested other there isToken
      obtain ⟨different, before⟩ := left tested other there
      obtain ⟨label, created, recorded⟩ := mirrored.recorded tested other before isToken
      refine ⟨label, created, ?_⟩
      exact (AList.lookup_erase_ne (apart tested other different before)).trans recorded
    · intro name member
      obtain ⟨different, before⟩ := AList.mem_erase.mp member
      obtain ⟨tested, other, there, isToken, rfl⟩ := mirrored.owned name before
      refine ⟨tested, other, stays tested other ?_ there, isToken, rfl⟩
      rintro rfl
      exact different rfl

/-- A label given to a live object does not reach its file. -/
theorem mirrored_relabelled (index : Fin hsmMaxObjects) (object : HsmObject) (label : Buffer 256)
    (present : store.objects index = some object) :
    ObjectStore.Mirrored born { store with
      objects := put store.objects index (some { object with label }) } := by
  constructor
  · apply entries_put _ store.objects index (some { object with label }) mirrored.recorded
    intro other same isToken
    cases same
    obtain ⟨before, created, recorded⟩ := mirrored.recorded index object present isToken
    exact ⟨before, created, recorded⟩
  · intro name member
    obtain ⟨tested, other, there, isToken, named⟩ := mirrored.owned name member
    by_cases here : tested = index
    · subst here
      obtain rfl := Option.some.inj (there.symm.trans present)
      exact ⟨tested, _, put_self _ _ _, isToken, named⟩
    · exact ⟨tested, other, (put_other _ _ _ _ here).trans there, isToken, named⟩

end Steps

/-- The next handle is not that of any object. -/
theorem next_handle_unused (store : ObjectStore) (issued : HandlesIssued store) (type : Nat)
    (within : store.counter ≤ handleRange) (tested : Fin hsmMaxObjects) (other : HsmObject)
    (present : store.objects tested = some other) :
    other.handle ≠ handleBase type + store.counter :=
  next_handle_fresh store.counter type issued.started within other.handle
    (issued.issued tested other present)

/-- The object lies in the later table, and nothing in the earlier one has its handle. -/
def Appears (before after : Table hsmMaxObjects HsmObject) (object : HsmObject) : Prop :=
  object ∈ live after ∧ ∀ other ∈ live before, other.handle ≠ object.handle

/-- A step that writes and deletes as it should, and does not empty the table. -/
theorem mirrored_store (born : HsmObject → Prop) (env : Env) (call : Call)
    (store after : ObjectStore) (change : StoreStep env store call after)
    (works : env.unlink = true) (writes : ∀ turn, (env.objectWrite turn).Complete)
    (within : call.hSession.isSome = true) (issued : HandlesIssued store)
    (bounded : after.counter ≤ handleRange + 1)
    (births : ∀ object, Appears store.objects after.objects object → born object)
    (mirrored : store.Mirrored born) : after.Mirrored born := by
  have appears (index : Fin hsmMaxObjects) (object : HsmObject)
      (there : after.objects index = some object)
      (unused : ∀ tested other, store.objects tested = some other →
        other.handle ≠ object.handle) : born object := by
    refine births object ⟨(mem_live_iff _ _).mpr ⟨index, there⟩, ?_⟩
    intro other member
    obtain ⟨tested, present⟩ := (mem_live_iff _ _).mp member
    exact unused tested other present
  cases change with
  | kept => exact mirrored
  | dropped _ sessionless =>
    rw [sessionless] at within
    cases within
  | created hSession template index free =>
    have next : advanceCounter store.counter = store.counter + 1 :=
      counter_next store.counter issued.bounded
    have low : advanceCounter store.counter ≤ handleRange + 1 := bounded
    have unused (tested : Fin hsmMaxObjects) (other : HsmObject)
        (present : store.objects tested = some other) :
        other.handle ≠ (createdObject template store.counter).handle :=
      next_handle_unused store issued _ (by omega) tested other present
    exact mirrored_added born store mirrored index _ _ (writes 0) free unused
      (appears index _ (put_self _ _ _) unused)
  | destroyed hSession index object present =>
    rw [works]
    exact mirrored_removed born store mirrored index object issued.distinct present
  | relabelled hSession template index object present =>
    obtain ⟨label, same⟩ := set_attribute_value_label template object
    rw [same]
    exact mirrored_relabelled born store mirrored index object label present
  | paired hSession mechanism publicTemplate privateTemplate pubObj privObj pubIdx privIdx
      generated pubFree privFree different =>
    have room := counter_room store.counter issued.bounded bounded
    have next : advanceCounter store.counter = store.counter + 1 :=
      counter_next store.counter issued.bounded
    have second : advanceCounter (advanceCounter store.counter) =
        advanceCounter store.counter + 1 := counter_next _ room
    have last : advanceCounter (advanceCounter store.counter) ≤ handleRange + 1 := bounded
    have first := handles_issued_added store pubIdx (storedPublicKey pubObj store.counter)
      (env.objectWrite 0) objTypePublicKey issued room rfl
    have unused := next_handle_unused store issued objTypePublicKey (by omega)
    have half := mirrored_added born store mirrored pubIdx
      (storedPublicKey pubObj store.counter) _ (writes 0) pubFree unused
      (appears pubIdx _ ((put_other _ _ _ _ different).trans (put_self _ _ _)) unused)
    have unusedNext := next_handle_unused _ first objTypePrivateKey (by
      change advanceCounter store.counter ≤ handleRange
      omega)
    refine mirrored_added born _ half privIdx (storedPrivateKey privObj store.counter) _ (writes 1)
      ((put_other _ _ _ _ different.symm).trans privFree) unusedNext ?_
    refine appears privIdx _ (put_self _ _ _) ?_
    intro tested other present
    refine unusedNext tested other ((put_other _ _ _ _ ?_).trans present)
    rintro rfl
    cases pubFree.symm.trans present

/-! ## Runs -/

section Runs

variable (sha256 : Sha256)

/-- A call without a session leaves the object store alone, unless it finalizes the library. -/
theorem sessionless_store (env : Env) (system : System) (call : Call)
    (sessionless : call.hSession = none) (stays : call ≠ .finalizeLibrary false) :
    (callStep sha256 env system call).2.objectStore = system.objectStore := by
  have effect := call_effect sha256 env system call
  generalize (callStep sha256 env system call).2 = after at effect
  have madeFiles (rv : CkRv) (storage : Storage)
      (made : hsmStorageInit env system.storage = (rv, storage)) :
      storage.keyFiles = system.storage.keyFiles := by
    have files := (storage_init_files env system.storage).2
    rwa [made] at files
  cases effect with
  | unchanged => rfl
  | directoriesMade rv storage absent made =>
    unfold System.objectStore
    rw [objects_absent system absent, ← madeFiles rv storage made]
    exact congrArg (ObjectStore.mk · system.handleCounter storage.keyFiles)
      (objects_absent _ absent)
  | initialized storage absent made =>
    unfold System.objectStore
    rw [objects_absent system absent, ← madeFiles .ok storage made]
    exact congrArg (ObjectStore.mk · system.handleCounter storage.keyFiles)
      (init_slot_tables _ storage).2
  | finalized context present => exact absurd rfl stays
  | sessionsClosed slotID context present valid =>
    unfold System.objectStore
    rw [objects_present system context present]
    rfl
  | tokenReset slotID pin label context present valid longEnough shortEnough =>
    unfold System.objectStore
    rw [objects_present system context present,
      ← save_token_info_key_files _ env.tokenWrite system.storage]
    rfl
  | sessionOpened slotID flags context index present valid serial room free =>
    unfold System.objectStore
    rw [objects_present system context present]
    rfl
  | sessionUpdated _ hSession found updated named session update =>
    cases named.symm.trans sessionless
  | _ => cases sessionless

/-- Files can be written and removed, the handles stay in their range, and the library is not
finalized. -/
def KeepsMirror (system : System) (event : Event) : Prop :=
  KeepsHandles system event ∧ ∀ call env, event = .call call env →
    env.unlink = true ∧ (∀ turn, (env.objectWrite turn).Complete) ∧ call ≠ .finalizeLibrary false

/-- One event of such a run keeps the mirror. -/
theorem mirrored_step (born : HsmObject → Prop) (system : System) (event : Event)
    (keeps : KeepsMirror system event) (issued : HandlesIssued system.objectStore)
    (births : ∀ object,
      Appears system.objects (step sha256 system event).2.objects object → born object)
    (mirrored : system.objectStore.Mirrored born) :
    (step sha256 system event).2.objectStore.Mirrored born := by
  cases event with
  | newProcess => cases keeps.1.1
  | call call env =>
    obtain ⟨works, writes, stays⟩ := keeps.2 call env rfl
    have change := store_step sha256 env system call
    have bounded := generates_within_bounded sha256 env system call issued.bounded keeps.1.2
    change (callStep sha256 env system call).2.objectStore.Mirrored born
    cases named : call.hSession with
    | none =>
      rw [sessionless_store sha256 env system call named stays]
      exact mirrored
    | some hSession =>
      have within : call.hSession.isSome = true := by
        rw [named]
        rfl
      exact mirrored_store born env call _ _ change works writes within issued bounded births
        mirrored

/-- The object as some event of the run created it, under a handle that no live object had. -/
def BornIn (system : System) (events : List Event) (object : HsmObject) : Prop :=
  ∃ before event after, events = before ++ event :: after ∧
    Appears (Runs.run (step sha256) system before).objects
      (Runs.run (step sha256) system (before ++ [event])).objects object

/-- Along such a run from an empty key directory the mirror is kept. -/
theorem mirrored_run (system : System) (events : List Event) (booted : Booted system)
    (fresh : system.storage.keyFiles = ∅)
    (keeps : Runs.EveryStep (step sha256) KeepsMirror system events) :
    HandlesIssued (Runs.run (step sha256) system events).objectStore ∧
      (Runs.run (step sha256) system events).objectStore.Mirrored
        (BornIn sha256 system events) := by
  induction events using List.reverseRecOn with
  | nil =>
    have objects : system.objects = empty := by
      rw [booted]
      rfl
    refine ⟨?_, ?_, ?_⟩
    · rw [booted]
      exact handles_issued_booted system.storage
    · intro index object present
      change system.objects index = some object at present
      rw [objects] at present
      cases present
    · intro name member
      change name ∈ system.storage.keyFiles at member
      rw [fresh] at member
      exact absurd member (AList.notMem_empty name)
  | append_singleton events event inductionHypothesis =>
    obtain ⟨earlier, last, -⟩ := (Runs.every_step_append _ _ _ _ _).mp keeps
    obtain ⟨issued, mirrored⟩ := inductionHypothesis earlier
    have stays (object : HsmObject) (born : BornIn sha256 system events object) :
        BornIn sha256 system (events ++ [event]) object := by
      obtain ⟨before, creating, after, split, appears⟩ := born
      refine ⟨before, creating, after ++ [event], ?_, appears⟩
      rw [split, List.append_assoc, List.cons_append]
    have grown := mirrored.grown stays
    have births (object : HsmObject) (appears : Appears
        (Runs.run (step sha256) system events).objects
        (step sha256 (Runs.run (step sha256) system events) event).2.objects object) :
        BornIn sha256 system (events ++ [event]) object :=
      ⟨events, event, [], rfl, by rwa [Runs.run_snoc]⟩
    rw [Runs.run_snoc]
    exact ⟨handles_issued_step sha256 _ event issued last.1.2,
      mirrored_step sha256 _ _ event last issued births grown⟩

/-! ## What the storage finds -/

/-- The handles of the live token objects. -/
def System.tokenHandles (system : System) : List CkObjectHandle :=
  ((live system.objects).filter (·.isToken)).map HsmObject.handle

/-- The handles of the live token objects. -/
theorem mem_token_handles_iff (system : System) (handle : CkObjectHandle) :
    handle ∈ system.tokenHandles ↔ ∃ index object, system.objects index = some object ∧
      object.isToken = true ∧ object.handle = handle := by
  rw [System.tokenHandles, List.mem_map]
  constructor
  · rintro ⟨object, member, named⟩
    obtain ⟨lives, token⟩ := List.mem_filter.mp member
    obtain ⟨index, present⟩ := (mem_live_iff _ _).mp lives
    exact ⟨index, object, present, token, named⟩
  · rintro ⟨index, object, present, token, named⟩
    exact ⟨object, List.mem_filter.mpr ⟨(mem_live_iff _ _).mpr ⟨index, present⟩, token⟩, named⟩

/-- No range begins after that of the data objects. -/
theorem handle_base_bound (type : Nat) : handleBase type ≤ objectHandleDataBase := by
  unfold handleBase
  split
  · decide
  · split
    · decide
    · split
      · decide
      · split
        · exact Nat.le_refl _
        · exact Nat.zero_le _

/-- A handle that was issued within the range has eight digits. -/
theorem issued_small (counter : Nat) (handle : CkObjectHandle)
    (bounded : counter ≤ handleRange + 1) (issued : IssuedBefore counter handle) :
    handle < 2 ^ 32 := by
  obtain ⟨type, serial, rfl, -, passed⟩ := issued
  have base := handle_base_bound type
  have range : handleRange = 2 ^ 28 := rfl
  have data : objectHandleDataBase = 0x40000000 := rfl
  change handleBase type + serial < 2 ^ 32
  omega

section Mirror

variable (born : HsmObject → Prop) (system : System)
  (mirrored : system.objectStore.Mirrored born)

include mirrored

/-- A file is there for exactly the handles of the live token objects. -/
theorem mirrored_file_iff (handle : CkObjectHandle) :
    objectFileName handle ∈ system.storage.keyFiles ↔ handle ∈ system.tokenHandles := by
  rw [mem_token_handles_iff]
  constructor
  · intro member
    obtain ⟨index, object, present, token, named⟩ := mirrored.owned _ member
    exact ⟨index, object, present, token, (object_file_name_injective _ _ named).symm⟩
  · rintro ⟨index, object, present, token, rfl⟩
    obtain ⟨label, -, recorded⟩ := mirrored.recorded index object present token
    rw [← AList.lookup_isSome]
    exact Option.isSome_of_eq_some recorded

/-- There are no more files than the table has entries. -/
theorem mirrored_file_count : system.storage.keyFiles.keys.length ≤ hsmMaxObjects := by
  have owned : system.storage.keyFiles.keys ⊆ system.tokenHandles.map objectFileName := by
    intro name member
    obtain ⟨index, object, present, token, rfl⟩ := mirrored.owned name member
    exact List.mem_map_of_mem ((mem_token_handles_iff system object.handle).mpr
      ⟨index, object, present, token, rfl⟩)
  calc system.storage.keyFiles.keys.length
    _ ≤ (system.tokenHandles.map objectFileName).length :=
        (List.subperm_of_subset system.storage.keyFiles.keys_nodup owned).length_le
    _ ≤ (live system.objects).length := by
        rw [List.length_map, System.tokenHandles, List.length_map]
        exact List.length_filter_le _ _
    _ ≤ hsmMaxObjects := by
        rw [live_length]
        exact count_le_capacity system.objects

/-- A live token object, once its file is opened, is loaded as it was created, without its key
and its capabilities. -/
theorem mirrored_load (stored : TokenObject) (lives : stored.object ∈ live system.objects) :
    ∃ label, born { stored.object with label } ∧ ∀ fopen into,
      hsmStorageLoadObject stored.object.handle fopen system.storage into =
        if fopen then (.ok, ({ stored.object with label } : HsmObject).readInto into)
        else (.objectHandleInvalid, into) := by
  obtain ⟨index, present⟩ := (mem_live_iff _ _).mp lives
  obtain ⟨label, created, recorded⟩ :=
    mirrored.recorded index stored.object present stored.token
  refine ⟨label, created, ?_⟩
  intro fopen into
  cases fopen with
  | true =>
    exact load_record ⟨{ stored.object with label }, stored.token, stored.handle, stored.type,
      stored.idLen, stored.keyType, stored.rsa, stored.ec⟩ system.storage into recorded
  | false => rfl

variable (issued : HandlesIssued system.objectStore)

include issued

/-- The directory lists the handles of the live token objects, each once. -/
theorem mirrored_listing (entries : List FileName)
    (listing : DirectoryListing system.storage.keyFiles entries) :
    (hsmStorageListObjects (some entries)).1.Perm system.tokenHandles := by
  have named : NamedByHandles system.storage.keyFiles := by
    intro name member
    obtain ⟨index, object, present, -, rfl⟩ := mirrored.owned name member
    exact ⟨object.handle,
      issued_small _ _ issued.bounded (issued.issued index object present), rfl⟩
  obtain ⟨once, exactly⟩ := listed_handles _ entries listing
    (mirrored_file_count born system mirrored) named
  have distinct : system.tokenHandles.Nodup :=
    (List.filter_sublist.map HsmObject.handle).nodup
      (live_keys_nodup HsmObject.handle system.objects issued.distinct)
  apply (List.perm_ext_iff_of_nodup once distinct).mpr
  intro handle
  rw [exactly, mirrored_file_iff born system mirrored handle]
  constructor
  · exact fun both => both.2
  · intro member
    obtain ⟨index, object, present, -, rfl⟩ := (mem_token_handles_iff system handle).mp member
    exact ⟨issued_small _ _ issued.bounded (issued.issued index object present), member⟩

end Mirror

/-- After any run in a process that began with an empty key directory, in which files could be
written and removed and the library was not finalized, the storage lists exactly the live token
objects. It loads each of them, if its file can be opened, as it was when an event of the run
created it, so with the label of then. -/
theorem directory_mirrors_tokens (system : System) (events : List Event) (booted : Booted system)
    (fresh : system.storage.keyFiles = ∅)
    (keeps : Runs.EveryStep (step sha256) KeepsMirror system events) :
    let final := Runs.run (step sha256) system events
    (∀ entries, DirectoryListing final.storage.keyFiles entries →
      (hsmStorageListObjects (some entries)).1.Perm final.tokenHandles) ∧
    ∀ stored : TokenObject, stored.object ∈ live final.objects →
      ∃ label, BornIn sha256 system events { stored.object with label } ∧ ∀ fopen into,
        hsmStorageLoadObject stored.object.handle fopen final.storage into =
          if fopen then (.ok, ({ stored.object with label } : HsmObject).readInto into)
          else (.objectHandleInvalid, into) := by
  obtain ⟨issued, mirrored⟩ := mirrored_run sha256 system events booted fresh keeps
  exact ⟨mirrored_listing _ _ mirrored issued, mirrored_load _ _ mirrored⟩

end Runs

/-- Where nothing fails the mirror is kept. -/
theorem calmly_keeps_mirror (system : System) (call : Call)
    (within : generatesWithin handleRange system (calmly call) = true)
    (stays : call ≠ .finalizeLibrary false) : KeepsMirror system (calmly call) := by
  refine ⟨⟨rfl, within⟩, ?_⟩
  rintro _ _ ⟨⟩
  exact ⟨rfl, fun _ => ⟨rfl, fun _ => rfl⟩, stays⟩

set_option maxRecDepth 4000 in
theorem directory_mirrors_tokens_created :
    let final := Runs.run (step pinSha256) (bootProcess freshStorage)
      (createToken objTypePrivateKey)
    (∀ entries, DirectoryListing final.storage.keyFiles entries →
      (hsmStorageListObjects (some entries)).1.Perm final.tokenHandles) ∧
    ∀ stored : TokenObject, stored.object ∈ live final.objects →
      ∃ label, BornIn pinSha256 (bootProcess freshStorage) (createToken objTypePrivateKey)
          { stored.object with label } ∧ ∀ fopen into,
        hsmStorageLoadObject stored.object.handle fopen final.storage into =
          if fopen then (.ok, ({ stored.object with label } : HsmObject).readInto into)
          else (.objectHandleInvalid, into) :=
  directory_mirrors_tokens pinSha256 (bootProcess freshStorage) (createToken objTypePrivateKey) rfl
    rfl
    ⟨calmly_keeps_mirror _ _ (by decide +kernel) Call.noConfusion,
      calmly_keeps_mirror _ _ (by decide +kernel) Call.noConfusion,
      calmly_keeps_mirror _ _ (by decide +kernel) Call.noConfusion, trivial⟩

end PstHsm
