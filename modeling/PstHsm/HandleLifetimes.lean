import PstHsm.Erasure
import PstHsm.SignBinding

/-!
# The lifetime of an object handle

Within one process, and as long as the counter of handles stays in its range, a handle is
issued once, names one object while that lives, and names nothing ever after: not after the
object was destroyed, not after the library was finalized and initialized again. So no two
creations hand out the same handle, and no call that names a dead one succeeds.
-/

namespace PstHsm

open Tables Erasure

/-! ## What an issued handle may name -/

/-- The handle was issued, and what it names, if anything, is an allowed object. -/
def ObjectStore.Confined (store : ObjectStore) (handle : CkObjectHandle)
    (allowed : HsmObject → Prop) : Prop :=
  IssuedBefore store.counter handle ∧
    ∀ index object, store.objects index = some object → object.handle = handle → allowed object

/-- The handle was issued and names no object. -/
def ObjectStore.Dead (store : ObjectStore) (handle : CkObjectHandle) : Prop :=
  store.Confined handle fun _ => False

/-- No object has a dead handle. -/
theorem dead_absent (store : ObjectStore) (handle : CkObjectHandle) (dead : store.Dead handle) :
    ¬ Carries HsmObject.handle store.objects handle := by
  rintro ⟨index, object, present, named⟩
  exact dead.2 index object present named

section Confined

variable (handle : CkObjectHandle) (allowed : HsmObject → Prop)

/-- An object added under the next handle is not named by a handle issued before. -/
theorem confined_added (store : ObjectStore) (index : Fin hsmMaxObjects) (object : HsmObject)
    (outcome : WriteOutcome) (type : Nat) (issued : HandlesIssued store)
    (within : (store.added index object outcome).counter ≤ handleRange + 1)
    (generated : object.handle = handleBase type + store.counter)
    (confined : store.Confined handle allowed) :
    (store.added index object outcome).Confined handle allowed := by
  have advanced : (store.added index object outcome).counter = store.counter + 1 :=
    counter_next store.counter issued.bounded
  refine ⟨issued_later store.counter _ handle (by omega) confined.1, ?_⟩
  apply entries_put _ store.objects index (some object) confined.2
  intro added same named
  obtain rfl := Option.some.inj same
  have fresh := next_handle_fresh store.counter type issued.started (by omega) handle confined.1
  exact absurd (named.symm.trans generated) fresh

/-- No step of the object store makes an issued handle name another object, if the label does
not matter. -/
theorem confined_store (blind : ∀ object label, allowed object → allowed { object with label })
    (env : Env) (call : Call) (store after : ObjectStore) (change : StoreStep env store call after)
    (issued : HandlesIssued store) (within : after.counter ≤ handleRange + 1)
    (confined : store.Confined handle allowed) : after.Confined handle allowed := by
  cases change with
  | kept => exact confined
  | dropped =>
    refine ⟨confined.1, ?_⟩
    intro index object present
    cases present
  | created hSession template index free =>
    exact confined_added handle allowed store index _ _ _ issued within rfl confined
  | destroyed hSession index object present =>
    refine ⟨confined.1, ?_⟩
    apply entries_put _ store.objects index none confined.2
    intro value none
    cases none
  | relabelled hSession template index object present =>
    obtain ⟨label, same⟩ := set_attribute_value_label template object
    rw [same]
    refine ⟨confined.1, ?_⟩
    apply entries_put _ store.objects index _ confined.2
    intro value relabelled named
    obtain rfl := Option.some.inj relabelled
    exact blind object label (confined.2 index object present named)
  | paired hSession mechanism publicTemplate privateTemplate pubObj privObj pubIdx privIdx
      generated pubFree privFree different =>
    have room := counter_room store.counter issued.bounded within
    have first := handles_issued_added store pubIdx (storedPublicKey pubObj store.counter)
      (env.objectWrite 0) objTypePublicKey issued room rfl
    have half := confined_added handle allowed store pubIdx (storedPublicKey pubObj store.counter)
      (env.objectWrite 0) objTypePublicKey issued room rfl confined
    exact confined_added handle allowed _ privIdx (storedPrivateKey privObj store.counter) _
      objTypePrivateKey first within rfl half

end Confined

/-- The event belongs to the process that runs. -/
def Event.sameProcess : Event → Bool
  | .call _ _ => true
  | .newProcess => false

/-- The event stays in the process and generates handles only within the range. -/
def KeepsHandles (system : System) (event : Event) : Prop :=
  event.sameProcess = true ∧ generatesWithin handleRange system event = true

instance (system : System) (event : Event) : Decidable (KeepsHandles system event) :=
  inferInstanceAs (Decidable (_ ∧ _))

/-- Finalize and initialize the library, and create an object of the private class. -/
def reopening : List Event :=
  [calmly (.finalizeLibrary false), calmly .initializeLibrary,
    calmly (.openSession 0 (ckfSerialSession ||| ckfRwSession) true),
    calmly (.createObject 2 (some (classTemplate objTypePrivateKey)) true)]

section Runs

variable (sha256 : Sha256)

/-- Whatever an event does, only allowed objects come under the handle. -/
theorem confined_step (handle : CkObjectHandle) (allowed : HsmObject → Prop)
    (blind : ∀ object label, allowed object → allowed { object with label }) (system : System)
    (event : Event) (keeps : KeepsHandles system event) (issued : HandlesIssued system.objectStore)
    (confined : system.objectStore.Confined handle allowed) :
    (step sha256 system event).2.objectStore.Confined handle allowed := by
  cases event with
  | newProcess => cases keeps.1
  | call call env =>
    have change := store_step sha256 env system call
    exact confined_store handle allowed blind env call _ _ change issued
      (generates_within_bounded sha256 env system call issued.bounded keeps.2) confined

/-- What an issued handle may name it may name for the rest of the process. -/
theorem confined_run (handle : CkObjectHandle) (allowed : HsmObject → Prop)
    (blind : ∀ object label, allowed object → allowed { object with label }) (system : System)
    (events : List Event) (issued : HandlesIssued system.objectStore)
    (keeps : Runs.EveryStep (step sha256) KeepsHandles system events)
    (confined : system.objectStore.Confined handle allowed) :
    (Runs.run (step sha256) system events).objectStore.Confined handle allowed := by
  have holds := Runs.invariant_run (step sha256)
    (fun now => HandlesIssued now.objectStore ∧ now.objectStore.Confined handle allowed)
    KeepsHandles
    (fun now event held admitted =>
      ⟨handles_issued_step sha256 now event held.1 admitted.2,
        confined_step sha256 handle allowed blind now event admitted held.1 held.2⟩)
    system events ⟨issued, confined⟩ keeps
  exact holds.2

/-- A dead handle stays dead. -/
theorem dead_run (system : System) (events : List Event)
    (issued : HandlesIssued system.objectStore)
    (keeps : Runs.EveryStep (step sha256) KeepsHandles system events) (handle : CkObjectHandle)
    (dead : system.objectStore.Dead handle) :
    (Runs.run (step sha256) system events).objectStore.Dead handle :=
  confined_run sha256 handle _ (fun _ _ never => never) system events issued keeps dead

/-! ## Calls that name a dead handle -/

/-- The object handle that a call carries, if it has one. -/
def Call.hObject : Call → Option CkObjectHandle
  | .destroyObject _ hObject => some hObject
  | .getAttributeValue _ hObject _ => some hObject
  | .setAttributeValue _ hObject _ => some hObject
  | .signInit _ _ hKey => some hKey
  | .verifyInit _ _ hKey => some hKey
  | _ => none

/-- A dead handle leads nowhere. -/
theorem dead_lookup (system : System) (hSession : CkSessionHandle) (found : FoundSession)
    (located : hsmGetSession system hSession = .ok found) (handle : CkObjectHandle)
    (dead : system.objectStore.Dead handle) :
    hsmGetObject found.slot handle = .error .objectHandleInvalid := by
  cases lookup : hsmGetObject found.slot handle with
  | error rv => rw [get_object_error found.slot handle rv lookup]
  | ok pair =>
    obtain ⟨index, object⟩ := pair
    obtain ⟨-, same⟩ := get_object_sound found.slot handle index object lookup
    exact absurd same (dead.2 index object
      (object_found system hSession handle found index object located lookup))

/-- No call that names a dead handle succeeds. -/
theorem dead_call_refused (env : Env) (system : System) (call : Call) (handle : CkObjectHandle)
    (names : call.hObject = some handle) (dead : system.objectStore.Dead handle) :
    (callStep sha256 env system call).1.rv ≠ .ok := by
  have refused (hSession : CkSessionHandle) (rv : CkRv)
      (missing : hsmGetSession system hSession = .error rv) : rv ≠ .ok :=
    get_session_refused system hSession rv missing
  have nowhere (hSession : CkSessionHandle) (found : FoundSession)
      (located : hsmGetSession system hSession = .ok found) :=
    dead_lookup system hSession found located handle dead
  cases call with
  | destroyObject hSession hObject =>
    cases names
    cases located : hsmGetSession system hSession with
    | error rv =>
      simp only [callStep, cDestroyObject, located]
      exact refused hSession rv located
    | ok found =>
      dsimp only [callStep]
      rw [destroy_object_missing env system hSession handle found _ located
        (nowhere hSession found located)]
      exact CkRv.noConfusion
  | getAttributeValue hSession hObject pTemplate =>
    cases names
    cases pTemplate with
    | none => exact CkRv.noConfusion
    | some template =>
      cases located : hsmGetSession system hSession with
      | error rv =>
        simp only [callStep, cGetAttributeValue, located]
        exact refused hSession rv located
      | ok found =>
        simp only [callStep, cGetAttributeValue, located, nowhere hSession found located]
        exact CkRv.noConfusion
  | setAttributeValue hSession hObject pTemplate =>
    cases names
    cases pTemplate with
    | none => exact CkRv.noConfusion
    | some template =>
      cases located : hsmGetSession system hSession with
      | error rv =>
        simp only [callStep, cSetAttributeValue, located]
        exact refused hSession rv located
      | ok found =>
        simp only [callStep, cSetAttributeValue, located, nowhere hSession found located]
        exact CkRv.noConfusion
  | signInit hSession pMechanism hKey =>
    cases names
    cases pMechanism with
    | none => exact CkRv.noConfusion
    | some mechanism =>
      cases located : hsmGetSession system hSession with
      | error rv =>
        simp only [callStep, cSignInit, located]
        exact refused hSession rv located
      | ok found =>
        simp only [callStep, cSignInit, located, nowhere hSession found located]
        split
        · exact CkRv.noConfusion
        · exact CkRv.noConfusion
  | verifyInit hSession pMechanism hKey =>
    cases names
    cases pMechanism with
    | none => exact CkRv.noConfusion
    | some mechanism =>
      cases located : hsmGetSession system hSession with
      | error rv =>
        simp only [callStep, cVerifyInit, located]
        exact refused hSession rv located
      | ok found =>
        simp only [callStep, cVerifyInit, located, nowhere hSession found located]
        split
        · exact CkRv.noConfusion
        · exact CkRv.noConfusion
  | _ => cases names

/-- An object that was destroyed leaves its handle dead. -/
theorem destroyed_dead (env : Env) (system : System) (hSession : CkSessionHandle)
    (hObject : CkObjectHandle) (issued : HandlesIssued system.objectStore)
    (destroyed : (callStep sha256 env system (.destroyObject hSession hObject)).1.rv = .ok) :
    (callStep sha256 env system (.destroyObject hSession hObject)).2.objectStore.Dead hObject := by
  dsimp only [callStep] at destroyed ⊢
  rcases destroy_object_cases env system hSession hObject with
    ⟨rv, refused, same⟩ | ⟨found, index, object, located, lookup, same⟩
  · rw [same] at destroyed
    exact absurd destroyed refused
  · rw [same]
    obtain ⟨entry, named⟩ := get_object_sound found.slot hObject index object lookup
    have present : system.objects index = some object :=
      object_found system hSession hObject found index object located lookup
    have owned : IssuedBefore system.handleCounter object.handle :=
      issued.issued index object present
    refine ⟨named ▸ owned, ?_⟩
    intro other value left same
    have distinct : KeysDistinct HsmObject.handle found.slot.objects := by
      rw [← found_objects system hSession found located]
      exact issued.distinct
    have gone := (carries_remove HsmObject.handle found.slot.objects index object distinct entry
      hObject).mp ⟨other, value, left, same⟩
    exact gone.1 named.symm

/-- After an object was destroyed its handle is dead: whatever happens in the process from
then on, it names no object, and every call that names it fails. -/
theorem destroyed_handles_stay_dead (system : System) (earlier later : List Event)
    (hSession : CkSessionHandle) (hObject : CkObjectHandle) (env : Env) (booted : Booted system)
    (within : Runs.EveryStep (step sha256) (fun now event => generatesWithin handleRange now event)
      system earlier)
    (destroyed : (callStep sha256 env (Runs.run (step sha256) system earlier)
      (.destroyObject hSession hObject)).1.rv = .ok)
    (keeps : Runs.EveryStep (step sha256) KeepsHandles
      (Runs.run (step sha256) system (earlier ++ [.call (.destroyObject hSession hObject) env]))
      later) :
    let final := Runs.run (step sha256) system
      (earlier ++ .call (.destroyObject hSession hObject) env :: later)
    ¬ Carries HsmObject.handle final.objects hObject ∧
      ∀ call env, call.hObject = some hObject → (callStep sha256 env final call).1.rv ≠ .ok := by
  have issued := handles_issued_run sha256 system earlier booted within
  rw [Runs.run_snoc] at keeps
  rw [Runs.run_append, Runs.run]
  generalize Runs.run (step sha256) system earlier = now at issued destroyed keeps ⊢
  have dead := destroyed_dead sha256 env now hSession hObject issued destroyed
  have after := handles_issued_call sha256 env now (.destroyObject hSession hObject) issued rfl
  have final := dead_run sha256 _ later after keeps hObject dead
  refine ⟨dead_absent _ hObject final, ?_⟩
  intro call other names
  exact dead_call_refused sha256 other _ call hObject names final

set_option maxRecDepth 4000 in
theorem destroyed_handles_stay_dead_reopened :
    let first := hsmGenerateObjectHandle objTypePrivateKey 1
    let final := Runs.run (step pinSha256) (bootProcess freshStorage)
      (collisionOpening ++ .call (.destroyObject 1 first) (calmEnv 1) :: reopening)
    ¬ Carries HsmObject.handle final.objects first ∧
      ∀ call env, call.hObject = some first → (callStep pinSha256 env final call).1.rv ≠ .ok :=
  destroyed_handles_stay_dead pinSha256 (bootProcess freshStorage) collisionOpening reopening 1
    (hsmGenerateObjectHandle objTypePrivateKey 1) (calmEnv 1) rfl (by decide +kernel)
    (by decide +kernel) (by decide +kernel)

/-! ## One object for each handle -/

/-- A handle that names an object can only come to name that object under another label. -/
theorem confined_present (store : ObjectStore) (index : Fin hsmMaxObjects) (object : HsmObject)
    (issued : HandlesIssued store) (present : store.objects index = some object) :
    store.Confined object.handle fun other => ∃ label, other = { object with label } := by
  refine ⟨issued.issued index object present, ?_⟩
  intro place other there named
  obtain rfl := issued.distinct place index other object there present named
  obtain rfl := Option.some.inj (there.symm.trans present)
  exact ⟨other.label, rfl⟩

/-- An object that is live keeps everything but its label for as long as its handle names
anything in the process. -/
theorem object_kept (system : System) (events : List Event)
    (issued : HandlesIssued system.objectStore)
    (keeps : Runs.EveryStep (step sha256) KeepsHandles system events)
    (index place : Fin hsmMaxObjects) (first second : HsmObject)
    (present : system.objects index = some first)
    (still : (Runs.run (step sha256) system events).objects place = some second)
    (same : second.handle = first.handle) : ∃ label, second = { first with label } := by
  have blind (object : HsmObject) (label : Buffer 256)
      (before : ∃ label, object = { first with label }) :
      ∃ label', { object with label } = { first with label := label' } := by
    obtain ⟨earlier, rfl⟩ := before
    exact ⟨label, rfl⟩
  have confined := confined_run sha256 first.handle _ blind system events issued keeps
    (confined_present system.objectStore index first issued present)
  exact confined.2 place second still same

/-- At any two moments of a process at which a handle names an object, it names the same one:
the objects differ in their labels at most. -/
theorem one_object_per_handle (system : System) (earlier later : List Event)
    (booted : Booted system)
    (keeps : Runs.EveryStep (step sha256) KeepsHandles system (earlier ++ later))
    (first second : HsmObject)
    (named : first ∈ live (Runs.run (step sha256) system earlier).objects)
    (still : second ∈ live (Runs.run (step sha256) system (earlier ++ later)).objects)
    (same : second.handle = first.handle) : ∃ label, second = { first with label } := by
  obtain ⟨index, present⟩ := (mem_live_iff _ _).mp named
  obtain ⟨place, there⟩ := (mem_live_iff _ _).mp still
  obtain ⟨before, after⟩ := (Runs.every_step_append _ _ _ _ _).mp keeps
  have within := Runs.every_step_mono (step sha256) (fun now event => generatesWithin handleRange
    now event = true) KeepsHandles system earlier (fun _ _ kept => kept.2) before
  have issued := handles_issued_run sha256 system earlier booted within
  rw [Runs.run_append] at there
  exact object_kept sha256 _ later issued after index place first second present there same

set_option maxRecDepth 4000 in
theorem one_object_per_handle_relabelled :
    let first := createdObject (classTemplate objTypePrivateKey) 1
    let second := (hsmSetAttributeValue first [entryOf ckaLabel [0x62]]).2
    ∃ label, second = { first with label } := by
  intro first second
  exact one_object_per_handle pinSha256 (bootProcess freshStorage) collisionOpening
    [calmly (.setAttributeValue 1 first.handle (some [entryOf ckaLabel [0x62]]))] rfl
    (by decide +kernel) first second ((mem_live_iff _ _).mpr ⟨⟨0, by decide⟩, by decide +kernel⟩)
    ((mem_live_iff _ _).mpr ⟨⟨0, by decide⟩, by decide +kernel⟩) rfl

/-- Every `C_Sign` that reaches a key under the handle answers what `hsm_sign_data` makes of the
given key. -/
def SignsWith (system : System) (handle : CkObjectHandle) (key : HsmObject) : Prop :=
  ∀ hSession data pSignature signatureLen env use,
    system.signReaches (.call (.sign hSession (some data) pSignature (some signatureLen)) env) =
      some use → use.key.handle = handle →
    let result := hsmSignData env.signer key use.mechanism data pSignature signatureLen
    (callStep sha256 env system (.sign hSession (some data) pSignature (some signatureLen))).1 =
      ⟨result.rv, .signature (some (result.signature, result.signatureLen))⟩

/-- A key stays the one that signs under its handle. -/
theorem kept_key_signs (system : System) (events : List Event)
    (issued : HandlesIssued system.objectStore)
    (keeps : Runs.EveryStep (step sha256) KeepsHandles system events)
    (index : Fin hsmMaxObjects) (key : HsmObject) (handle : CkObjectHandle)
    (present : system.objects index = some { key with handle }) :
    SignsWith sha256 (Runs.run (step sha256) system events) handle key := by
  intro hSession data pSignature signatureLen env use reaches named
  obtain ⟨_, _, _, _, context, session, called, located, -, -, lookup⟩ :=
    sign_reaches_cases _ _ use reaches
  cases called
  have there := object_found _ use.hSession session.operation.keyHandle
    ⟨context, use.place, session⟩ use.index use.key located lookup
  obtain ⟨label, same⟩ := object_kept sha256 system events issued keeps index use.index _ use.key
    present there named
  rw [sign_reaches_signs sha256 env _ use.hSession data pSignature signatureLen use reaches, same]
  rfl

/-- Once a pair was generated, each signature under the handle of its private half is made with
the very key generated, for the rest of the process. -/
theorem generated_keys_sign (system : System) (earlier later : List Event)
    (hSession : CkSessionHandle) (mechanism : CkMechanismType)
    (publicTemplate privateTemplate : List CkAttribute) (env : Env)
    (pubHandle privHandle : CkObjectHandle) (booted : Booted system)
    (keeps : Runs.EveryStep (step sha256) KeepsHandles system
      (earlier ++ .call (.generateKeyPair hSession (some mechanism) publicTemplate privateTemplate
        true true) env :: later))
    (generated : (callStep sha256 env (Runs.run (step sha256) system earlier)
      (.generateKeyPair hSession (some mechanism) publicTemplate privateTemplate true true)).1 =
        ⟨.ok, .keyPair (some (pubHandle, privHandle))⟩) :
    ∃ pubObj privObj,
      generateHalves env mechanism publicTemplate privateTemplate = .ok (pubObj, privObj) ∧
      SignsWith sha256 (Runs.run (step sha256) system
        (earlier ++ .call (.generateKeyPair hSession (some mechanism) publicTemplate
          privateTemplate true true) env :: later)) privHandle privObj := by
  obtain ⟨before, here, after⟩ := (Runs.every_step_append _ _ _ _ _).mp keeps
  have within := Runs.every_step_mono (step sha256) (fun now event => generatesWithin handleRange
    now event = true) KeepsHandles system earlier (fun _ _ kept => kept.2) before
  have issued := handles_issued_run sha256 system earlier booted within
  rw [Runs.run_append, Runs.run]
  generalize Runs.run (step sha256) system earlier = now at issued here after generated ⊢
  have next := handles_issued_step sha256 now _ issued here.2
  have state : (step sha256 now (.call (.generateKeyPair hSession (some mechanism) publicTemplate
      privateTemplate true true) env)).2 = (cGenerateKeyPair env now hSession (some mechanism)
        publicTemplate privateTemplate true true).2.2 := rfl
  dsimp only [callStep] at generated
  rw [state] at next after ⊢
  rcases generate_key_pair_cases env now hSession (some mechanism) publicTemplate privateTemplate
    true true with ⟨rv, refused, same⟩ |
    ⟨mechanism', found, pubObj, privObj, pubIdx, privIdx, rest, named, -, -, located, -, halves,
      free, same⟩
  · rw [same] at generated
    cases generated
  · obtain rfl := Option.some.inj named
    rw [same] at next after generated ⊢
    cases generated
    obtain ⟨-, -, -, entries⟩ := key_pair_entries env now hSession found pubIdx privIdx rest pubObj
      privObj located free
    refine ⟨pubObj, privObj, halves, ?_⟩
    refine kept_key_signs sha256 _ later next after privIdx privObj _ ?_
    rw [entries, put_self]
    rfl

/-- Relabel the private half of the first pair and start to sign with it. -/
def relabelAndSign : List Event :=
  [calmly (.setAttributeValue 1 (hsmGenerateObjectHandle objTypePrivateKey 2)
      (some [entryOf ckaLabel [0x62]])),
    calmly (.signInit 1 (some ckmEcdsaSha256) (hsmGenerateObjectHandle objTypePrivateKey 2))]

set_option maxRecDepth 4000 in
theorem generated_keys_sign_relabelled :
    ∃ pubObj privObj,
      generateHalves (calmEnv 1) ckmEcKeyPairGen [] [] = .ok (pubObj, privObj) ∧
      SignsWith pinSha256 (Runs.run (step pinSha256) (bootProcess freshStorage) (tokenSetUp ++
        .call (.generateKeyPair 1 (some ckmEcKeyPairGen) [] [] true true) (calmEnv 1) ::
          relabelAndSign)) (hsmGenerateObjectHandle objTypePrivateKey 2) privObj :=
  generated_keys_sign pinSha256 (bootProcess freshStorage) tokenSetUp relabelAndSign 1
    ckmEcKeyPairGen [] [] (calmEnv 1) (hsmGenerateObjectHandle objTypePublicKey 1)
    (hsmGenerateObjectHandle objTypePrivateKey 2) rfl (by decide +kernel) (by decide +kernel)

/-! ## Handles handed out -/

/-- The object handles that a call hands out. -/
def Event.newHandles (event : Event) (response : Response) : List CkObjectHandle :=
  match event, response.output with
  | .call (.createObject _ _ _) _, .handle handle => handle.toList
  | .call (.generateKeyPair _ _ _ _ _ _) _, .keyPair (some (pubHandle, privHandle)) =>
    [pubHandle, privHandle]
  | _, _ => []

/-- All of them along a run, in order. -/
def handedOut (system : System) (events : List Event) : List CkObjectHandle :=
  (history (step sha256) system events).flatMap fun pair => pair.1.newHandles pair.2

/-- The handle is generated while the counter goes from one value to another. -/
def IssuedBetween (first last : Nat) (handle : CkObjectHandle) : Prop :=
  ∃ type serial : Nat, handle = handleBase type + serial ∧ first ≤ serial ∧ serial < last

/-- What a call hands out are different handles, generated by it. -/
theorem step_hands_out (system : System) (event : Event) (keeps : KeepsHandles system event)
    (issued : HandlesIssued system.objectStore) :
    (event.newHandles (step sha256 system event).1).Nodup ∧
      ∀ handle ∈ event.newHandles (step sha256 system event).1,
        IssuedBetween system.handleCounter (step sha256 system event).2.handleCounter handle := by
  have bounded : system.handleCounter ≤ handleRange + 1 := issued.bounded
  have started : 1 ≤ system.handleCounter := issued.started
  have next := counter_next system.handleCounter bounded
  cases event with
  | newProcess => cases keeps.1
  | call call env =>
    have within := generates_within_bounded sha256 env system call bounded keeps.2
    have admitted := keeps.2
    cases call with
    | createObject hSession pTemplate phObject =>
      dsimp only [step, callStep] at within ⊢
      rcases create_object_cases env system hSession pTemplate phObject with
        ⟨rv, -, same⟩ | ⟨template, found, index, -, -, -, -, -, same⟩
      · rw [same]
        exact ⟨List.nodup_nil, fun handle member => absurd member List.not_mem_nil⟩
      · rw [same]
        refine ⟨List.nodup_singleton _, ?_⟩
        intro handle member
        rw [List.mem_singleton.mp member]
        refine ⟨_, system.handleCounter, rfl, Nat.le_refl _, ?_⟩
        change system.handleCounter < advanceCounter system.handleCounter
        omega
    | generateKeyPair hSession pMechanism publicTemplate privateTemplate phPublicKey
        phPrivateKey =>
      dsimp only [step, callStep] at within ⊢
      rcases generate_key_pair_cases env system hSession pMechanism publicTemplate privateTemplate
        phPublicKey phPrivateKey with ⟨rv, -, same⟩ |
        ⟨mechanism, found, pubObj, privObj, pubIdx, privIdx, rest, rfl, rfl, rfl, -, -, -, -, same⟩
      · rw [same]
        exact ⟨List.nodup_nil, fun handle member => absurd member List.not_mem_nil⟩
      · have allowed : (∃ found, Generates env system hSession mechanism publicTemplate found) →
            system.handleCounter < handleRange := of_decide_eq_true admitted
        have room := allowed ((generate_key_pair_ok_iff env system hSession mechanism
          publicTemplate privateTemplate).mp (by rw [same]))
        have second := counter_next (system.handleCounter + 1) (by omega)
        rw [same]
        change [hsmGenerateObjectHandle objTypePublicKey system.handleCounter,
            hsmGenerateObjectHandle objTypePrivateKey (advanceCounter system.handleCounter)].Nodup ∧
          ∀ handle ∈ [hsmGenerateObjectHandle objTypePublicKey system.handleCounter,
            hsmGenerateObjectHandle objTypePrivateKey (advanceCounter system.handleCounter)],
          IssuedBetween system.handleCounter
            (advanceCounter (advanceCounter system.handleCounter)) handle
        rw [next, second]
        have different : hsmGenerateObjectHandle objTypePublicKey system.handleCounter ≠
            hsmGenerateObjectHandle objTypePrivateKey (system.handleCounter + 1) := by
          intro equal
          have serials := handle_serial_unique objTypePublicKey objTypePrivateKey
            system.handleCounter (system.handleCounter + 1) started (by omega) (by omega)
            (by omega) equal
          omega
        refine ⟨by simp [different], ?_⟩
        intro handle member
        rcases List.mem_pair.mp member with rfl | rfl
        · exact ⟨_, system.handleCounter, rfl, Nat.le_refl _, by omega⟩
        · exact ⟨_, system.handleCounter + 1, rfl, by omega, by omega⟩
    | _ => exact ⟨List.nodup_nil, fun handle member => absurd member List.not_mem_nil⟩

/-- From handles issued so far on, a run hands out different handles, all generated in it. -/
theorem handed_out_fresh (system : System) (events : List Event)
    (issued : HandlesIssued system.objectStore)
    (keeps : Runs.EveryStep (step sha256) KeepsHandles system events) :
    (handedOut sha256 system events).Nodup ∧
      ∀ handle ∈ handedOut sha256 system events,
        IssuedBetween system.handleCounter (handleRange + 1) handle := by
  induction events generalizing system with
  | nil => exact ⟨List.nodup_nil, fun handle member => absurd member List.not_mem_nil⟩
  | cons event rest inductionHypothesis =>
    obtain ⟨different, generated⟩ := step_hands_out sha256 system event keeps.1 issued
    have after := handles_issued_step sha256 system event issued keeps.1.2
    obtain ⟨laterDifferent, laterGenerated⟩ := inductionHypothesis _ after keeps.2
    have started : 1 ≤ system.handleCounter := issued.started
    have bounded : (step sha256 system event).2.handleCounter ≤ handleRange + 1 := after.bounded
    have upward : system.handleCounter ≤ (step sha256 system event).2.handleCounter := by
      cases event with
      | newProcess => cases keeps.1.1
      | call call env =>
        exact store_counter_upward env call _ _ (store_step sha256 env system call) issued.bounded
    rw [handedOut, history, List.flatMap_cons]
    refine ⟨List.nodup_append.mpr ⟨different, laterDifferent, ?_⟩, ?_⟩
    · -- An earlier handle has a lower serial number than a later one.
      rintro handle now other later rfl
      obtain ⟨type, serial, same, low, high⟩ := generated handle now
      obtain ⟨type', serial', same', low', high'⟩ := laterGenerated handle later
      have equal := handle_serial_unique type type' serial serial' (by omega) (by omega) (by omega)
        (by omega) (same.symm.trans same')
      omega
    · intro handle member
      rcases List.mem_append.mp member with now | later
      · obtain ⟨type, serial, same, low, high⟩ := generated handle now
        exact ⟨type, serial, same, low, by omega⟩
      · obtain ⟨type, serial, same, low, high⟩ := laterGenerated handle later
        exact ⟨type, serial, same, by omega, high⟩

/-- No two creations of a process hand out the same handle: not after the first object was
destroyed, and not after the library was finalized and initialized again. -/
theorem handles_never_reused (system : System) (events : List Event) (booted : Booted system)
    (keeps : Runs.EveryStep (step sha256) KeepsHandles system events) :
    (handedOut sha256 system events).Nodup := by
  have issued : HandlesIssued system.objectStore := by
    rw [booted]
    exact handles_issued_booted system.storage
  exact (handed_out_fresh sha256 system events issued keeps).1

set_option maxRecDepth 4000 in
theorem handles_never_reused_reopened :
    (handedOut pinSha256 (bootProcess freshStorage) (collisionOpening ++
      calmly (.destroyObject 1 (hsmGenerateObjectHandle objTypePrivateKey 1)) ::
        reopening)).Nodup :=
  handles_never_reused pinSha256 (bootProcess freshStorage) _ rfl (by decide +kernel)

end Runs

end PstHsm
