import PstHsm.KeyFiles
import PstHsm.KeyUse

/-!
# Each signature belongs to one C_SignInit

`C_SignInit` checks a key and leaves its handle on the session; `C_Sign` looks
the handle up again, after any number of other calls. As long as the handle
counter stays in its range a handle is never issued twice, so what `C_Sign`
finds is either the object that was checked or nothing. A look at the key, by
`C_Sign` or `C_Verify`, uses the operation up, so no two signatures share one
`C_SignInit`.
-/

namespace PstHsm

open Tables

/-! ## Checks and uses of a key -/

/-- A session, by its entry and handle, a mechanism, and a key, by its entry and
record. -/
structure SignKey where
  place : Fin hsmMaxSessions
  hSession : CkSessionHandle
  mechanism : CkMechanismType
  index : Fin hsmMaxObjects
  key : HsmObject

/-- What a successful `C_SignInit` checked. -/
def System.signInitChecks (system : System) : Event → Option SignKey
  | .call (.signInit hSession (some mechanism) hKey) _ =>
    if (cSignInit system hSession (some mechanism) hKey).1 = .ok then
      match hsmGetSession system hSession with
      | .error _ => none
      | .ok found =>
        match hsmGetObject found.slot hKey with
        | .error _ => none
        | .ok (index, key) => some ⟨found.index, hSession, mechanism, index, key⟩
    else none
  | _ => none

/-- What a `C_Sign` that reaches `hsm_sign_data` uses. -/
def System.signReaches (system : System) : Event → Option SignKey
  | .call (.sign hSession (some _) _ (some _)) _ =>
    match hsmGetSession system hSession with
    | .error _ => none
    | .ok found =>
      if found.session.signPending then
        match hsmGetObject found.slot found.session.operation.keyHandle with
        | .error _ => none
        | .ok (index, key) =>
          some ⟨found.index, hSession, found.session.operation.mechanism, index, key⟩
      else none
  | _ => none

/-- A verification waits on the session. -/
def HsmSession.verifyPending (session : HsmSession) : Bool :=
  session.operation.active && decide (session.operation.type = .verify)

/-- The session whose key a `C_Sign` or `C_Verify` looks up. -/
def System.keyLookup (system : System) : Event → Option (Fin hsmMaxSessions)
  | .call (.sign hSession (some _) _ (some _)) _ =>
    match hsmGetSession system hSession with
    | .error _ => none
    | .ok found => if found.session.signPending then some found.index else none
  | .call (.verify hSession (some _) (some _)) _ =>
    match hsmGetSession system hSession with
    | .error _ => none
    | .ok found => if found.session.verifyPending then some found.index else none
  | _ => none

/-- The session, the operation and the key of a `C_Sign` that reaches `hsm_sign_data`. -/
theorem sign_reaches_cases (system : System) (event : Event) (use : SignKey)
    (reaches : system.signReaches event = some use) :
    ∃ data pSignature signatureLen env context session,
      event = .call (.sign use.hSession (some data) pSignature (some signatureLen)) env ∧
      hsmGetSession system use.hSession = .ok ⟨context, use.place, session⟩ ∧
      session.signPending = true ∧ session.operation.mechanism = use.mechanism ∧
      hsmGetObject context.slot session.operation.keyHandle = .ok (use.index, use.key) := by
  unfold System.signReaches at reaches
  split at reaches
  · rename_i hSession data pSignature signatureLen env
    split at reaches
    · cases reaches
    · rename_i found located
      split at reaches
      · rename_i pending
        split at reaches
        · cases reaches
        · rename_i index key lookup
          obtain rfl := Option.some.inj reaches
          exact ⟨data, pSignature, signatureLen, env, found.context, found.session, rfl, located,
            pending, rfl, lookup⟩
      · cases reaches
  · cases reaches

/-- A `C_Sign` that reaches `hsm_sign_data` answers what that function returns for
the key and the mechanism. -/
theorem sign_reaches_signs (sha256 : Sha256) (env : Env) (system : System)
    (hSession : CkSessionHandle) (data : Bytes) (pSignature : Bool) (signatureLen : CkUlong)
    (use : SignKey)
    (reaches : system.signReaches
      (.call (.sign hSession (some data) pSignature (some signatureLen)) env) = some use) :
    (callStep sha256 env system (.sign hSession (some data) pSignature (some signatureLen))).1 =
      ⟨(hsmSignData env.signer use.key use.mechanism data pSignature signatureLen).rv,
        .signature (some
          ((hsmSignData env.signer use.key use.mechanism data pSignature signatureLen).signature,
            (hsmSignData env.signer use.key use.mechanism data pSignature
              signatureLen).signatureLen))⟩ := by
  obtain ⟨_, _, _, _, context, session, called, located, pending, mechanism, lookup⟩ :=
    sign_reaches_cases system _ use reaches
  cases called
  obtain ⟨active, signing⟩ : session.operation.active = true ∧ session.operation.type = .sign := by
    simpa [HsmSession.signPending] using pending
  rw [← mechanism]
  simp only [callStep, cSign, located, active, signing]
  rw [show hsmGetObject (FoundSession.slot ⟨context, use.place, session⟩)
    session.operation.keyHandle = .ok (use.index, use.key) from lookup]
  rfl

/-- The entry of a session that was written back. -/
theorem with_session_entry (system : System) (found : FoundSession) (session : HsmSession) :
    (system.withSession found session).sessions found.index = some session :=
  put_self _ _ _

/-- A `C_Sign` that finds its operation pending leaves it inactive. -/
theorem sign_ends (env : Env) (system : System) (hSession : CkSessionHandle) (data : Bytes)
    (pSignature : Bool) (signatureLen : CkUlong) (found : FoundSession)
    (located : hsmGetSession system hSession = .ok found)
    (pending : found.session.signPending = true) :
    ∃ after : HsmSession, after.operation.active = false ∧
      (cSign env system hSession (some data) pSignature (some signatureLen)).2.2 =
        system.withSession found after := by
  obtain ⟨active, signing⟩ : found.session.operation.active = true ∧
      found.session.operation.type = .sign := by
    simpa [HsmSession.signPending] using pending
  cases key : hsmGetObject found.slot found.session.operation.keyHandle with
  | error rv =>
    refine ⟨found.session.operationDropped, rfl, ?_⟩
    simp only [cSign, located, active, signing]
    rw [key]
    rfl
  | ok pair =>
    refine ⟨found.session.operationCleared, rfl, ?_⟩
    simp only [cSign, located, active, signing]
    rw [key]
    rfl

/-- So does a `C_Verify`. -/
theorem verify_ends (system : System) (hSession : CkSessionHandle) (data signature : Bytes)
    (found : FoundSession) (located : hsmGetSession system hSession = .ok found)
    (pending : found.session.verifyPending = true) :
    ∃ after : HsmSession, after.operation.active = false ∧
      (cVerify system hSession (some data) (some signature)).2 =
        system.withSession found after := by
  obtain ⟨active, verifying⟩ : found.session.operation.active = true ∧
      found.session.operation.type = .verify := by
    simpa [HsmSession.verifyPending] using pending
  cases key : hsmGetObject found.slot found.session.operation.keyHandle with
  | error rv =>
    refine ⟨found.session.operationDropped, rfl, ?_⟩
    simp only [cVerify, located, active, verifying]
    rw [key]
    rfl
  | ok pair =>
    refine ⟨found.session.operationCleared, rfl, ?_⟩
    simp only [cVerify, located, active, verifying]
    rw [key]
    rfl

/-- A look at the key uses the operation up. -/
theorem key_lookup_clears (sha256 : Sha256) (system : System) (event : Event)
    (place : Fin hsmMaxSessions) (lookup : system.keyLookup event = some place)
    (session : HsmSession)
    (afterwards : (step sha256 system event).2.sessions place = some session) :
    session.signPending = false := by
  obtain ⟨found, after, idle, here, state⟩ : ∃ (found : FoundSession) (after : HsmSession),
      after.operation.active = false ∧ found.index = place ∧
        (step sha256 system event).2 = system.withSession found after := by
    unfold System.keyLookup at lookup
    split at lookup
    · rename_i hSession data pSignature signatureLen env
      split at lookup
      · cases lookup
      · rename_i found located
        split at lookup
        · rename_i pending
          obtain ⟨after, idle, state⟩ :=
            sign_ends env system hSession data pSignature signatureLen found located pending
          exact ⟨found, after, idle, Option.some.inj lookup, state⟩
        · cases lookup
    · rename_i hSession data signature env
      split at lookup
      · cases lookup
      · rename_i found located
        split at lookup
        · rename_i pending
          obtain ⟨after, idle, state⟩ :=
            verify_ends system hSession data signature found located pending
          exact ⟨found, after, idle, Option.some.inj lookup, state⟩
        · cases lookup
    · cases lookup
  subst here
  rw [state, with_session_entry] at afterwards
  obtain rfl := Option.some.inj afterwards
  simp [HsmSession.signPending, idle]

/-! ## Where signing keys come from -/

/-- The key holds every component that one run of the generator returned. -/
inductive KeyFilled (env : Env) (key : HsmObject) : Prop
  | rsa (bits : Nat) (components : RsaComponents) (isRsa : key.keyType = keyTypeRsa)
      (generated : env.keygenRsa bits = some components)
      (filled : key.keyData.rsa =
        { bits := bits
          modulus := components.n
          publicExponent := components.e
          privateExponent := components.d
          prime1 := components.p
          prime2 := components.q
          exponent1 := components.dmp1
          exponent2 := components.dmq1
          coefficient := components.iqmp })
  | ec (curveNid : Nat) (ecParams : Bytes) (components : EcComponents)
      (isEc : key.keyType = keyTypeEc) (generated : env.keygenEc curveNid = some components)
      (known : getEcParamsFromNid env.malloc curveNid = .ok ecParams)
      (filled : key.keyData.ec =
        { curveNid := curveNid
          ecParams := ecParams
          ecPoint := components.point
          ecPrivate := components.priv })

/-- The private half of a generated pair is filled, and only that half may sign. -/
theorem generate_halves_filled (env : Env) (mechanism : CkMechanismType)
    (publicTemplate privateTemplate : List CkAttribute) (pubObj privObj : HsmObject)
    (generated : generateHalves env mechanism publicTemplate privateTemplate =
      .ok (pubObj, privObj)) :
    KeyFilled env privObj ∧ pubObj.canSign = false := by
  obtain ⟨-, -, -, unsigning, -⟩ := parse_template_key publicTemplate initialPublicKey
  cases generate_halves_made env mechanism publicTemplate privateTemplate _ _ generated with
  | rsa key isRsa keygen => exact ⟨.rsa _ key rfl keygen rfl, unsigning⟩
  | ec key ecParams isEc keygen known => exact ⟨.ec _ ecParams key rfl keygen known rfl, unsigning⟩

/-- The event is a key generation whose private half the object is, up to labels set
since. -/
def GeneratedBy (system : System) (event : Event) (key : HsmObject) : Prop :=
  ∃ hSession mechanism publicTemplate privateTemplate env pubObj privObj label,
    event = .call (.generateKeyPair hSession (some mechanism) publicTemplate privateTemplate
      true true) env ∧
    generateHalves env mechanism publicTemplate privateTemplate = .ok (pubObj, privObj) ∧
    KeyFilled env key ∧
    key = { storedPrivateKey privObj system.handleCounter with label := label }

/-- Some event of the run generated the key. -/
def GeneratedIn (sha256 : Sha256) (system : System) (events : List Event) (key : HsmObject) :
    Prop :=
  ∃ before event after, events = before ++ event :: after ∧
    GeneratedBy (Runs.run (step sha256) system before) event key

theorem generated_later (sha256 : Sha256) (system : System) (events later : List Event)
    (key : HsmObject) (generated : GeneratedIn sha256 system events key) :
    GeneratedIn sha256 system (events ++ later) key := by
  obtain ⟨before, event, after, rfl, byEvent⟩ := generated
  exact ⟨before, event, after ++ later, by simp, byEvent⟩

theorem generated_relabelled (sha256 : Sha256) (system : System) (events : List Event)
    (key : HsmObject) (label : Buffer 256) (generated : GeneratedIn sha256 system events key) :
    GeneratedIn sha256 system events { key with label := label } := by
  obtain ⟨before, event, after, split, hSession, mechanism, publicTemplate, privateTemplate, env,
    pubObj, privObj, earlier, called, halves, filled, rfl⟩ := generated
  refine ⟨before, event, after, split, hSession, mechanism, publicTemplate, privateTemplate, env,
    pubObj, privObj, label, called, halves, ?_, rfl⟩
  cases filled with
  | rsa bits components isRsa keygen filled => exact .rsa bits components isRsa keygen filled
  | ec curveNid ecParams components isEc keygen known filled =>
    exact .ec curveNid ecParams components isEc keygen known filled

/-! ## What becomes of a checked key -/

/-- The entry holds the key, perhaps under another label. -/
def KeyAt (store : ObjectStore) (index : Fin hsmMaxObjects) (key : HsmObject) : Prop :=
  ∃ label, store.objects index = some { key with label := label }

/-- No live object has the key's handle. -/
def KeyGone (store : ObjectStore) (key : HsmObject) : Prop :=
  ∀ index object, store.objects index = some object → object.handle ≠ key.handle

/-- Where there are no objects, every key is gone. -/
theorem key_gone_empty {store : ObjectStore} (key : HsmObject) :
    KeyGone { store with objects := empty } key := by
  intro index object stored
  cases (empty_entry index).symm.trans stored

/-- Adding an object under the next handle leaves every key where it is. -/
theorem key_status_added (store : ObjectStore) (added : Fin hsmMaxObjects) (object : HsmObject)
    (outcome : WriteOutcome) (type : Nat) (key : HsmObject) (issued : HandlesIssued store)
    (within : (store.added added object outcome).counter ≤ handleRange + 1)
    (free : store.objects added = none)
    (generated : object.handle = handleBase type + store.counter)
    (known : IssuedBefore store.counter key.handle) :
    (∀ index, KeyAt store index key → KeyAt (store.added added object outcome) index key) ∧
      (KeyGone store key → KeyGone (store.added added object outcome) key) := by
  have advanced : (store.added added object outcome).counter = store.counter + 1 :=
    counter_next store.counter issued.bounded
  constructor
  · rintro index ⟨label, present⟩
    have elsewhere : index ≠ added := by
      rintro rfl
      rw [free] at present
      cases present
    exact ⟨label, (put_other _ _ _ _ elsewhere).trans present⟩
  · intro gone
    apply entries_put _ store.objects added _ gone
    rintro stored ⟨⟩
    rw [generated]
    exact (next_handle_fresh store.counter type issued.started (by omega) key.handle known).symm

/-- A step of the object store keeps a key in its entry or destroys it for good. -/
theorem key_status_step (env : Env) (call : Call) (store after : ObjectStore)
    (change : StoreStep env store call after) (key : HsmObject) (index : Fin hsmMaxObjects)
    (issued : HandlesIssued store) (within : after.counter ≤ handleRange + 1)
    (known : IssuedBefore store.counter key.handle) :
    (KeyAt store index key → KeyAt after index key ∨ KeyGone after key) ∧
      (KeyGone store key → KeyGone after key) := by
  cases change with
  | kept => exact ⟨Or.inl, id⟩
  | dropped => exact ⟨fun _ => Or.inr (key_gone_empty key), fun _ => key_gone_empty key⟩
  | created hSession template added free =>
    obtain ⟨stays, gone⟩ := key_status_added store added _ _ _ key issued within free rfl known
    exact ⟨fun present => Or.inl (stays index present), gone⟩
  | destroyed hSession destroyed object present =>
    constructor
    · rintro ⟨label, here⟩
      by_cases same : index = destroyed
      · subst same
        right
        intro tested stored there sameHandle
        have elsewhere : tested ≠ index := by
          rintro rfl
          cases (put_self _ _ _).symm.trans there
        have before := (put_other _ _ _ _ elsewhere).symm.trans there
        exact elsewhere (issued.distinct tested index stored _ before here sameHandle)
      · exact Or.inl ⟨label, (put_other _ _ _ _ same).trans here⟩
    · intro gone
      exact entries_put _ store.objects destroyed none gone nofun
  | relabelled hSession template changed object present =>
    obtain ⟨label, same⟩ := set_attribute_value_label template object
    rw [same]
    constructor
    · rintro ⟨earlier, here⟩
      left
      by_cases there : index = changed
      · subst there
        obtain rfl := Option.some.inj (present.symm.trans here)
        exact ⟨label, put_self _ _ _⟩
      · exact ⟨earlier, (put_other _ _ _ _ there).trans here⟩
    · intro gone
      apply entries_put _ store.objects changed _ gone
      rintro stored ⟨⟩
      exact gone changed object present
  | paired hSession mechanism publicTemplate privateTemplate pubObj privObj pubIdx privIdx
      generated pubFree privFree different =>
    have next := counter_next store.counter issued.bounded
    have room := counter_room store.counter issued.bounded within
    obtain ⟨firstStays, firstGone⟩ := key_status_added store pubIdx
      (storedPublicKey pubObj store.counter) (env.objectWrite 0) objTypePublicKey key issued room
      pubFree rfl known
    have issuedFirst := handles_issued_added store pubIdx
      (storedPublicKey pubObj store.counter) (env.objectWrite 0) objTypePublicKey issued room rfl
    have stillFree : (put store.objects pubIdx
        (some (storedPublicKey pubObj store.counter))) privIdx = none :=
      (put_other _ _ _ _ different.symm).trans privFree
    have knownLater : IssuedBefore (advanceCounter store.counter) key.handle :=
      issued_later store.counter _ key.handle (by omega) known
    obtain ⟨secondStays, secondGone⟩ := key_status_added _ privIdx
      (storedPrivateKey privObj store.counter) (env.objectWrite 1) objTypePrivateKey key issuedFirst
      within stillFree rfl knownLater
    exact ⟨fun present => Or.inl (secondStays index (firstStays index present)),
      fun gone => secondGone (firstGone gone)⟩

/-! ## Histories -/

/-- The state after the earlier events and a `C_SignInit`. -/
def afterInit (sha256 : Sha256) (system : System) (earlier : List Event) (init : Event) : System :=
  (step sha256 (Runs.run (step sha256) system earlier) init).2

theorem run_after_init (sha256 : Sha256) (system : System) (earlier : List Event) (init : Event)
    (between : List Event) :
    Runs.run (step sha256) system (earlier ++ init :: between) =
      Runs.run (step sha256) (afterInit sha256 system earlier init) between := by
  rw [Runs.run_append]
  rfl

/-- A `C_SignInit` succeeded, and since then its session stayed open and no key was
looked up on it. -/
structure Started (sha256 : Sha256) (system : System) (earlier : List Event) (init : Event)
    (between : List Event) (start : SignKey) : Prop where
  checked : (Runs.run (step sha256) system earlier).signInitChecks init = some start
  isPrivateKey : start.key.type = objTypePrivateKey
  permitted : start.key.canSign = true
  generated : GeneratedIn sha256 system earlier start.key
  unused : Runs.EveryStep (step sha256)
    (fun state event => state.keyLookup event ≠ some start.place)
    (afterInit sha256 system earlier init) between
  stays : Runs.Throughout (step sha256)
    (fun state => ∃ session, state.sessions start.place = some session ∧
      session.handle = start.hSession)
    (afterInit sha256 system earlier init) between

/-- The key has been in its entry since, and no call on any session destroyed it. -/
structure KeyKept (sha256 : Sha256) (opened : System) (between : List Event) (start : SignKey) :
    Prop where
  alive : Runs.Throughout (step sha256)
    (fun state => KeyAt state.objectStore start.index start.key) opened between
  undestroyed : Runs.EveryStep (step sha256)
    (fun state event => ∀ object unlink, state.destroyed event = some (object, unlink) →
      object.handle ≠ start.key.handle) opened between

/-- The signing operation of a session stems from a `C_SignInit` in the past. -/
def Waiting (sha256 : Sha256) (system : System) (events : List Event)
    (place : Fin hsmMaxSessions) (session : HsmSession) : Prop :=
  ∃ earlier init between start, events = earlier ++ init :: between ∧
    Started sha256 system earlier init between start ∧
    start.place = place ∧ start.hSession = session.handle ∧
    session.operation = ⟨.sign, start.mechanism, start.key.handle, true⟩ ∧
    IssuedBefore (Runs.run (step sha256) system events).handleCounter start.key.handle ∧
    (KeyKept sha256 (afterInit sha256 system earlier init) between start ∨
      KeyGone (Runs.run (step sha256) system events).objectStore start.key)

/-- What holds of a run so far: handles are issued once, signing keys were generated,
and every waiting signature has its `C_SignInit`. -/
structure SignHistory (sha256 : Sha256) (system : System) (events : List Event) : Prop where
  issued : HandlesIssued (Runs.run (step sha256) system events).objectStore
  generated : ∀ index key, (Runs.run (step sha256) system events).objects index = some key →
    key.canSign = true → GeneratedIn sha256 system events key
  waiting : ∀ place session, (Runs.run (step sha256) system events).sessions place = some session →
    session.signPending = true → Waiting sha256 system events place session

/-- A call leaves a key that it does not destroy, and destroys only the object it
names. -/
theorem destroyed_not_kept (sha256 : Sha256) (system : System) (event : Event)
    (index : Fin hsmMaxObjects) (key object : HsmObject) (unlink : Bool)
    (issued : HandlesIssued system.objectStore) (before : KeyAt system.objectStore index key)
    (after : KeyAt (step sha256 system event).2.objectStore index key)
    (destroyed : system.destroyed event = some (object, unlink)) :
    object.handle ≠ key.handle := by
  unfold System.destroyed at destroyed
  split at destroyed
  · rename_i hSession hObject env
    split at destroyed
    · cases destroyed
    · rename_i found session
      split at destroyed
      · cases destroyed
      · rename_i place stored lookup
        cases destroyed
        intro same
        have entry := object_found system hSession hObject found place object session lookup
        obtain ⟨label, here⟩ := before
        have place_same : place = index :=
          issued.distinct place index object _ entry here same
        obtain ⟨later, there⟩ := after
        have state := congrArg Prod.snd
          (destroy_object_succeeds env system hSession hObject found place object session lookup)
        have emptied : (step sha256 system
            (.call (.destroyObject hSession hObject) env)).2.objects index = none := by
          subst place_same
          exact (congrArg (fun after : System => after.objects place) state).trans (put_self _ _ _)
        cases emptied.symm.trans there
  · cases destroyed

section Extending

variable (sha256 : Sha256) (system : System) (events : List Event) (call : Call) (env : Env)

/-- One more call on the state that the events produce. -/
theorem run_one_more :
    Runs.run (step sha256) system (events ++ [.call call env]) =
      (callStep sha256 env (Runs.run (step sha256) system events) call).2 :=
  Runs.run_snoc (step sha256) system events (.call call env)

/-- Signing keys come from the generator, whatever the call. -/
theorem generated_call (history : SignHistory sha256 system events) (index : Fin hsmMaxObjects)
    (key : HsmObject)
    (present : (Runs.run (step sha256) system (events ++ [.call call env])).objects index =
      some key)
    (permitted : key.canSign = true) :
    GeneratedIn sha256 system (events ++ [.call call env]) key := by
  have earlier (index : Fin hsmMaxObjects) (key : HsmObject)
      (before : (Runs.run (step sha256) system events).objects index = some key) :
      key.canSign = true → GeneratedIn sha256 system (events ++ [.call call env]) key :=
    fun permitted => generated_later sha256 system events _ key
      (history.generated index key before permitted)
  rw [run_one_more] at present
  have change := store_step sha256 env (Runs.run (step sha256) system events) call
  have there : (callStep sha256 env (Runs.run (step sha256) system events)
      call).2.objectStore.objects index = some key := present
  generalize (callStep sha256 env (Runs.run (step sha256) system events) call).2.objectStore =
    after at change there
  revert permitted
  cases change with
  | kept => exact earlier index key there
  | dropped => cases there
  | created hSession template added free =>
    refine entries_put _ _ added _ earlier ?_ index key there
    rintro stored ⟨⟩ permitted
    obtain ⟨-, -, -, unsigning, -⟩ := parse_template_key template {}
    cases unsigning.symm.trans permitted
  | destroyed hSession destroyed object before =>
    exact entries_put _ _ destroyed none earlier nofun index key there
  | relabelled hSession template changed object before =>
    obtain ⟨label, same⟩ := set_attribute_value_label template object
    rw [same] at there
    refine entries_put _ _ changed _ earlier ?_ index key there
    rintro stored ⟨⟩ permitted
    exact generated_relabelled sha256 system _ object label
      (earlier changed object before permitted)
  | paired hSession mechanism publicTemplate privateTemplate pubObj privObj pubIdx privIdx
      generated pubFree privFree different =>
    obtain ⟨filled, unsigning⟩ := generate_halves_filled env mechanism publicTemplate
      privateTemplate pubObj privObj generated
    refine entries_put _ _ privIdx _ (entries_put _ _ pubIdx _ earlier ?_) ?_ index key there
    · rintro stored ⟨⟩ permitted
      cases unsigning.symm.trans permitted
    · rintro stored ⟨⟩ permitted
      refine ⟨events, _, [], rfl, hSession, mechanism, publicTemplate, privateTemplate, env, pubObj,
        privObj, privObj.label, rfl, generated, ?_, rfl⟩
      cases filled with
      | rsa bits components isRsa keygen filled => exact .rsa bits components isRsa keygen filled
      | ec curveNid ecParams components isEc keygen known filled =>
        exact .ec curveNid ecParams components isEc keygen known filled

/-- A signing operation keeps waiting through a call that neither uses it up nor
changes it. -/
theorem waiting_continues (place : Fin hsmMaxSessions) (session after : HsmSession)
    (history : SignHistory sha256 system events)
    (within : (Runs.run (step sha256) system (events ++ [.call call env])).handleCounter ≤
      handleRange + 1)
    (waiting : Waiting sha256 system events place session)
    (present : (Runs.run (step sha256) system (events ++ [.call call env])).sessions place =
      some after)
    (sameHandle : after.handle = session.handle)
    (sameOperation : after.operation = session.operation)
    (unused : (Runs.run (step sha256) system events).keyLookup (.call call env) ≠ some place) :
    Waiting sha256 system (events ++ [.call call env]) place after := by
  obtain ⟨earlier, init, between, start, rfl, started, rfl, named, operation, known, status⟩ :=
    waiting
  have here := run_after_init sha256 system earlier init between
  have later : Runs.run (step sha256) system (earlier ++ init :: between ++ [.call call env]) =
      Runs.run (step sha256) (afterInit sha256 system earlier init)
        (between ++ [.call call env]) := by
    rw [List.append_assoc]
    exact run_after_init sha256 system earlier init (between ++ [.call call env])
  have next := run_one_more sha256 system (earlier ++ init :: between) call env
  have change := store_step sha256 env
    (Runs.run (step sha256) system (earlier ++ init :: between)) call
  rw [← next] at change
  have upward := store_counter_upward env call _ _ change history.issued.bounded
  obtain ⟨fromAlive, fromGone⟩ := key_status_step env call _ _ change start.key start.index
    history.issued within known
  refine ⟨earlier, init, between ++ [.call call env], start, by simp, ?_, rfl,
    named.trans sameHandle.symm, sameOperation.trans operation,
    issued_later _ _ start.key.handle upward known, ?_⟩
  · refine ⟨started.checked, started.isPrivateKey, started.permitted, started.generated, ?_, ?_⟩
    · apply Runs.every_step_snoc _ _ _ _ _ started.unused
      rw [← here]
      exact unused
    · apply Runs.throughout_snoc _ _ _ _ _ started.stays
      rw [← later]
      exact ⟨after, present, sameHandle.trans named.symm⟩
  · rcases status with kept | gone
    · have before := Runs.throughout_last _ _ _ _ kept.alive
      rw [← here] at before
      rcases fromAlive before with alive | gone
      · left
        constructor
        · apply Runs.throughout_snoc _ _ _ _ _ kept.alive
          rw [← later]
          exact alive
        · apply Runs.every_step_snoc _ _ _ _ _ kept.undestroyed
          intro object unlink destroyed
          rw [← here] at destroyed
          rw [next] at alive
          exact destroyed_not_kept sha256 _ (.call call env) start.index start.key object unlink
            history.issued before alive destroyed
      · exact Or.inr gone
    · exact Or.inr (fromGone gone)

/-- A successful `C_SignInit` starts a waiting operation. -/
theorem waiting_starts (context : HsmContext) (place : Fin hsmMaxSessions)
    (session : HsmSession) (mechanism : CkMechanismType) (hKey : CkObjectHandle)
    (index : Fin hsmMaxObjects) (key : HsmObject)
    (history : SignHistory sha256 system events)
    (within : (Runs.run (step sha256) system
      (events ++ [.call (.signInit session.handle (some mechanism) hKey) env])).handleCounter ≤
        handleRange + 1)
    (located : hsmGetSession (Runs.run (step sha256) system events) session.handle =
      .ok ⟨context, place, session⟩)
    (idle : session.operation.active = false)
    (found : hsmGetObject context.slot hKey = .ok (index, key))
    (isPrivateKey : key.type = objTypePrivateKey) (permitted : key.canSign = true)
    (supported : hsmCheckMechanismSupported mechanism = .ok) :
    Waiting sha256 system
      (events ++ [.call (.signInit session.handle (some mechanism) hKey) env]) place
      { session with operation := ⟨.sign, mechanism, hKey, true⟩ } := by
  have state := run_one_more sha256 system events
    (.signInit session.handle (some mechanism) hKey) env
  have change := store_step sha256 env (Runs.run (step sha256) system events)
    (.signInit session.handle (some mechanism) hKey)
  rw [← state] at change
  obtain ⟨entry, rfl⟩ := get_object_sound context.slot hKey index key found
  obtain ⟨present, -, -⟩ := get_session_sound _ _ _ located
  have objects := objects_present _ _ present
  have before : (Runs.run (step sha256) system events).objects index = some key :=
    (congrFun objects index).trans entry
  have lookup : hsmGetObject (FoundSession.slot ⟨context, place, session⟩) key.handle =
      .ok (index, key) := found
  have result : cSignInit (Runs.run (step sha256) system events) session.handle (some mechanism)
      key.handle = (.ok, (Runs.run (step sha256) system events).withSession
        ⟨context, place, session⟩
        { session with operation := ⟨.sign, mechanism, key.handle, true⟩ }) := by
    simp only [cSignInit, located, idle]
    rw [lookup]
    simp [isPrivateKey, permitted, supported]
  have checked : (Runs.run (step sha256) system events).signInitChecks
      (.call (.signInit session.handle (some mechanism) key.handle) env) =
        some ⟨place, session.handle, mechanism, index, key⟩ := by
    simp only [System.signInitChecks, result, located, if_true]
    rw [lookup]
  have stays : KeyAt (Runs.run (step sha256) system (events ++
      [.call (.signInit session.handle (some mechanism) key.handle) env])).objectStore index
        key := by
    generalize (Runs.run (step sha256) system (events ++
      [.call (.signInit session.handle (some mechanism) key.handle) env])).objectStore = after
      at change
    cases change with
    | kept => exact ⟨key.label, before⟩
    | dropped => cases ‹(Call.signInit ..).hSession = none›
  have known : IssuedBefore (Runs.run (step sha256) system (events ++
      [.call (.signInit session.handle (some mechanism) key.handle) env])).handleCounter
      key.handle := by
    have upward := store_counter_upward env _ _ _ change history.issued.bounded
    exact issued_later _ _ key.handle upward (history.issued.issued index key before)
  have reopened : Runs.run (step sha256) system (events ++
      [.call (.signInit session.handle (some mechanism) key.handle) env]) =
      afterInit sha256 system events
        (.call (.signInit session.handle (some mechanism) key.handle) env) := state
  refine ⟨events, _, [], ⟨place, session.handle, mechanism, index, key⟩, rfl, ?_, rfl, rfl, rfl,
    known, Or.inl ⟨?_, trivial⟩⟩
  · refine ⟨checked, isPrivateKey, permitted, history.generated index key before permitted, trivial,
      ?_⟩
    refine ⟨{ session with operation := ⟨.sign, mechanism, key.handle, true⟩ }, ?_, rfl⟩
    have after := congrArg Prod.snd result
    exact (congrArg (fun later : System => later.sessions place) after).trans (put_self _ _ _)
  · rw [reopened] at stays
    exact stays

/-- One call extends the history. -/
theorem sign_history_call (history : SignHistory sha256 system events)
    (within : (Runs.run (step sha256) system (events ++ [.call call env])).handleCounter ≤
      handleRange + 1) :
    SignHistory sha256 system (events ++ [.call call env]) := by
  have state := run_one_more sha256 system events call env
  have change := store_step sha256 env (Runs.run (step sha256) system events) call
  rw [← state] at change
  constructor
  · exact handles_issued_store env call _ _ change history.issued within
  · exact generated_call sha256 system events call env history
  · intro place after present pending
    have unused :
        (Runs.run (step sha256) system events).keyLookup (.call call env) ≠ some place := by
      intro lookup
      rw [state] at present
      have idle := key_lookup_clears sha256 _ (.call call env) place lookup after present
      cases idle.symm.trans pending
    have continues (session : HsmSession)
        (before : (Runs.run (step sha256) system events).sessions place = some session)
        (sameHandle : after.handle = session.handle)
        (sameOperation : after.operation = session.operation) :
        Waiting sha256 system (events ++ [.call call env]) place after := by
      have waited : session.signPending = true := by
        simpa [HsmSession.signPending, sameOperation] using pending
      exact waiting_continues sha256 system events call env place session after history within
        (history.waiting place session before waited) present sameHandle sameOperation unused
    have fate := session_fate sha256 env (Runs.run (step sha256) system events) call place
    rw [← state, present] at fate
    generalize becomes : some after = entry at fate
    cases fate with
    | kept => exact continues after becomes.symm rfl rfl
    | removed => cases becomes
    | opened slotID flags free =>
      obtain rfl := Option.some.inj becomes
      cases pending
    | loggedIn userType pin context session located fresh =>
      obtain rfl := Option.some.inj becomes
      obtain ⟨before, -⟩ := get_session_entry _ _ _ located
      obtain ⟨handle, operation, -⟩ := logged_in_frame session userType env.now
      exact continues session before handle operation
    | updated call context session updated located named update =>
      obtain rfl := Option.some.inj becomes
      obtain ⟨before, -⟩ := get_session_entry _ _ _ located
      cases update with
      | loggedOut hSession => exact continues session before rfl rfl
      | searchStarted hSession template idle =>
        obtain ⟨handle, operation, -⟩ := find_objects_frame context.slot session
        generalize hsmFindObjects context.slot session = searched
          at handle operation present pending continues
        exact continues session before handle operation
      | searchAdvanced hSession most searching => exact continues session before rfl rfl
      | searchEnded hSession searching => exact continues session before rfl rfl
      | signStarted hSession mechanism hKey index key idle found isPrivateKey permitted
          supported =>
        obtain rfl := Option.some.inj named
        exact waiting_starts sha256 system events env context place session mechanism hKey index key
          history within located idle found isPrivateKey permitted supported
      | verifyStarted hSession mechanism hKey index key idle found isPublicKey => cases pending
      | signDropped hSession data pSignature signatureLen active signing missing => cases pending
      | signEnded hSession data pSignature signatureLen index key active signing found =>
        cases pending
      | verifyDropped hSession data signature active verifying missing => cases pending
      | verifyEnded hSession data signature index key active verifying found => cases pending

end Extending

/-! ## Objects created in a process -/

/-- The process with the number of objects it has created. -/
def countedStep (sha256 : Sha256) : System × Nat → Event → Response × System × Nat :=
  Runs.traced (step sha256) fun system created event =>
    match event with
    | .newProcess => 0
    | .call call env => created + (system.creations (.call call env)).length

/-- The counter is one ahead of the objects created while these are few. -/
theorem counter_counts (sha256 : Sha256) (pair : System × Nat) (event : Event)
    (counted : pair.1.handleCounter = pair.2 + 1)
    (few : (countedStep sha256 pair event).2.2 < handleRange) :
    (step sha256 pair.1 event).2.handleCounter = (countedStep sha256 pair event).2.2 + 1 := by
  cases event with
  | newProcess => rfl
  | call call env =>
    have later : (countedStep sha256 pair (.call call env)).2.2 =
        pair.2 + (pair.1.creations (.call call env)).length := rfl
    rw [later] at few ⊢
    change (callStep sha256 env pair.1 call).2.handleCounter = _
    rcases creations_cases sha256 env pair.1 call with
      ⟨nothing, counter, -⟩ | ⟨hSession, template, rfl, one, counter, -⟩ |
        ⟨hSession, mechanism, publicTemplate, privateTemplate, pubObj, privObj, rfl, two, counter,
          -⟩
    · rw [counter, nothing, counted]
      rfl
    · rw [one] at few ⊢
      simp only [List.length_singleton] at few ⊢
      rw [counter, counter_next _ (by omega), counted]
    · rw [two] at few ⊢
      simp only [List.length_cons, List.length_nil] at few ⊢
      have next := counter_next pair.1.handleCounter (by omega)
      rw [counter, next, counter_next _ (by omega), counted]

/-- As long as few objects are created, the counter stays in its range. -/
theorem few_keep_range (sha256 : Sha256) (system : System) (events : List Event)
    (booted : Booted system)
    (few : Runs.EveryStep (countedStep sha256)
      (fun pair event => (countedStep sha256 pair event).2.2 < handleRange) (system, 0) events) :
    Runs.EveryStep (step sha256)
      (fun s e => (step sha256 s e).2.handleCounter ≤ handleRange + 1) system events := by
  apply Runs.every_step_traced (step sha256) _ (fun pair => pair.1.handleCounter = pair.2 + 1)
    (fun pair event => (countedStep sha256 pair event).2.2 < handleRange) _ _ _ system 0 events
  · rw [booted]
    rfl
  · exact few
  · intro pair event counted fewHere
    exact counter_counts sha256 pair event counted fewHere
  · intro pair event counted fewHere
    rw [counter_counts sha256 pair event counted fewHere]
    omega

/-- A new process waits for no signature. -/
theorem sign_history_booted (sha256 : Sha256) (system : System) (events : List Event)
    (storage : Storage) (fresh : Runs.run (step sha256) system events = bootProcess storage) :
    SignHistory sha256 system events := by
  constructor
  · rw [fresh]
    exact handles_issued_booted storage
  · intro index key stored
    rw [fresh, objects_absent (bootProcess storage) rfl, empty_entry] at stored
    cases stored
  · intro place session stored
    rw [fresh, sessions_absent (bootProcess storage) rfl, empty_entry] at stored
    cases stored

/-- The history holds at every point of a run that keeps the counter in its range. -/
theorem sign_history_run (sha256 : Sha256) (system : System) (events : List Event)
    (booted : Booted system)
    (ranged : Runs.EveryStep (step sha256)
      (fun s e => (step sha256 s e).2.handleCounter ≤ handleRange + 1) system events) :
    SignHistory sha256 system events := by
  induction events using List.reverseRecOn with
  | nil => exact sign_history_booted sha256 system [] system.storage booted
  | append_singleton earlier event inductionHypothesis =>
    obtain ⟨before, last, -⟩ := (Runs.every_step_append _ _ _ _ _).mp ranged
    have history := inductionHypothesis before
    cases event with
    | newProcess =>
      exact sign_history_booted sha256 system _ _
        (Runs.run_snoc (step sha256) system earlier .newProcess)
    | call call env =>
      apply sign_history_call sha256 system earlier call env history
      rw [run_one_more]
      exact last

/-! ## Matching signatures with their C_SignInit -/

/-- A `C_Sign` uses the mechanism and the key, perhaps relabelled, that the
`C_SignInit` checked. -/
structure SignMatch (sha256 : Sha256) (system : System) (before : List Event) (use : SignKey)
    (earlier : List Event) (init : Event) (between : List Event) (start : SignKey) : Prop where
  past : before = earlier ++ init :: between
  started : Started sha256 system earlier init between start
  kept : KeyKept sha256 (afterInit sha256 system earlier init) between start
  used : use = { start with key := { start.key with label := use.key.label } }

theorem sign_match_place (sha256 : Sha256) (system : System) (before earlier between : List Event)
    (init : Event) (use start : SignKey)
    (matched : SignMatch sha256 system before use earlier init between start) :
    use.place = start.place := by
  have same := congrArg SignKey.place matched.used
  exact same

/-- The `C_SignInit` is the event at the given position of the run. -/
def SignMatchAt (sha256 : Sha256) (system : System) (before : List Event) (use : SignKey)
    (position : Nat) : Prop :=
  ∃ earlier init between start, earlier.length = position ∧
    SignMatch sha256 system before use earlier init between start

/-- Every `C_Sign` that reaches `hsm_sign_data` has its `C_SignInit`. -/
theorem sign_matched (sha256 : Sha256) (system : System) (before : List Event) (event : Event)
    (use : SignKey) (history : SignHistory sha256 system before)
    (reaches : (Runs.run (step sha256) system before).signReaches event = some use) :
    ∃ position, SignMatchAt sha256 system before use position := by
  obtain ⟨data, pSignature, signatureLen, env, context, session, rfl, located, pending, mechanism,
    lookup⟩ := sign_reaches_cases _ event use reaches
  obtain ⟨entry, named⟩ := get_session_entry _ _ _ located
  obtain ⟨present, -, -⟩ := get_session_sound _ _ _ located
  obtain ⟨earlier, init, between, start, past, started, samePlace, sameSession, operation, -,
    status⟩ := history.waiting use.place session entry pending
  rw [operation] at lookup mechanism
  obtain ⟨there, sameHandle⟩ := get_object_sound context.slot _ _ _ lookup
  have objects : (Runs.run (step sha256) system before).objects use.index = some use.key :=
    (congrFun (objects_present _ _ present) use.index).trans there
  rcases status with kept | gone
  · obtain ⟨label, here⟩ := Runs.throughout_last _ _ _ _ kept.alive
    rw [← run_after_init, ← past] at here
    have sameIndex : use.index = start.index :=
      history.issued.distinct use.index start.index use.key _ objects here sameHandle
    have sameKey : use.key = { start.key with label := label } := by
      rw [sameIndex] at objects
      exact Option.some.inj (objects.symm.trans here)
    refine ⟨earlier.length, earlier, init, between, start, rfl, past, started, kept, ?_⟩
    obtain ⟨place, hSession, usedMechanism, index, key⟩ := use
    obtain ⟨startPlace, startSession, startMechanism, startIndex, startKey⟩ := start
    cases samePlace
    cases sameSession.trans named
    cases mechanism
    cases sameIndex
    cases sameKey
    rfl
  · exact absurd sameHandle (gone use.index use.key objects)

/-- A `C_Sign` that reaches `hsm_sign_data` looks the key up on its session. -/
theorem sign_reaches_looks (system : System) (event : Event) (use : SignKey)
    (reaches : system.signReaches event = some use) :
    system.keyLookup event = some use.place := by
  obtain ⟨data, pSignature, signatureLen, env, context, session, rfl, located, pending, -, -⟩ :=
    sign_reaches_cases system event use reaches
  simp only [System.keyLookup, located, pending, if_true]

/-- The session and the operation of a `C_SignInit` that succeeds: idle before,
pending afterwards. -/
theorem sign_init_checks_pending (sha256 : Sha256) (system : System) (event : Event)
    (start : SignKey) (checked : system.signInitChecks event = some start) :
    (∃ session, system.sessions start.place = some session ∧
      session.operation.active = false) ∧
      ∃ session, (step sha256 system event).2.sessions start.place = some session ∧
        session.signPending = true := by
  unfold System.signInitChecks at checked
  split at checked
  · rename_i hSession mechanism hKey env
    split at checked
    · rename_i succeeded
      split at checked
      · cases checked
      · rename_i found located
        split at checked
        · cases checked
        · rename_i index key lookup
          obtain rfl := Option.some.inj checked
          have state : (step sha256 system
              (.call (.signInit hSession (some mechanism) hKey) env)).2 =
              (cSignInit system hSession (some mechanism) hKey).2 := rfl
          rw [state]
          simp only [cSignInit, located] at succeeded ⊢
          rw [lookup] at succeeded ⊢
          split at succeeded
          · cases succeeded
          · rename_i idle
            refine ⟨⟨found.session, (get_session_entry system hSession found located).1,
              Bool.eq_false_of_not_eq_true idle⟩, ?_⟩
            rw [if_neg idle]
            dsimp only at succeeded ⊢
            split at succeeded
            · cases succeeded
            · rename_i isPrivateKey
              split at succeeded
              · cases succeeded
              · rename_i permitted
                split at succeeded
                · cases succeeded
                · rename_i supported
                  rw [if_neg isPrivateKey, if_neg permitted, if_neg supported]
                  exact ⟨_, with_session_entry system found _, rfl⟩
    · cases checked
  · cases checked

/-- While no key is looked up on a session that stays open, its signing operation
stays pending. -/
theorem sign_pending_stays (sha256 : Sha256) (system : System) (event : Event)
    (place : Fin hsmMaxSessions) (session after : HsmSession)
    (before : system.sessions place = some session) (pending : session.signPending = true)
    (later : (step sha256 system event).2.sessions place = some after)
    (unused : system.keyLookup event ≠ some place) : after.signPending = true := by
  obtain ⟨active, signing⟩ : session.operation.active = true ∧ session.operation.type = .sign := by
    simpa [HsmSession.signPending] using pending
  cases event with
  | newProcess => cases later
  | call call env =>
    have change := session_change sha256 env system call place session after before later
    cases change with
    | kept => exact pending
    | loggedIn userType pin context located fresh =>
      obtain ⟨-, operation, -⟩ := logged_in_frame session userType env.now
      simpa only [HsmSession.signPending, operation] using pending
    | updated call context updated located named update =>
      cases update with
      | loggedOut hSession => exact pending
      | searchStarted hSession template idle =>
        obtain ⟨-, operation, -⟩ := find_objects_frame context.slot session
        simpa only [HsmSession.signPending, operation] using pending
      | searchAdvanced hSession most searching => exact pending
      | searchEnded hSession searching => exact pending
      | signStarted hSession mechanism hKey index key idle =>
        cases active.symm.trans idle
      | verifyStarted hSession mechanism hKey index key idle =>
        cases active.symm.trans idle
      | signDropped hSession data pSignature signatureLen _ _ missing =>
        obtain rfl := Option.some.inj named
        simp [System.keyLookup, located, pending] at unused
      | signEnded hSession data pSignature signatureLen index key _ _ found =>
        obtain rfl := Option.some.inj named
        simp [System.keyLookup, located, pending] at unused
      | verifyDropped hSession data signature _ verifying missing =>
        cases signing.symm.trans verifying
      | verifyEnded hSession data signature index key _ verifying found =>
        cases signing.symm.trans verifying

theorem sign_pending_run (sha256 : Sha256) (system : System) (events : List Event)
    (place : Fin hsmMaxSessions) (session : HsmSession)
    (before : system.sessions place = some session) (pending : session.signPending = true)
    (stays : Runs.Throughout (step sha256) (fun state => ∃ session,
      state.sessions place = some session) system events)
    (unused : Runs.EveryStep (step sha256) (fun state event => state.keyLookup event ≠ some place)
      system events) :
    ∃ after, (Runs.run (step sha256) system events).sessions place = some after ∧
      after.signPending = true := by
  induction events generalizing system session with
  | nil => exact ⟨session, before, pending⟩
  | cons event rest inductionHypothesis =>
    obtain ⟨next, there⟩ : ∃ next, (step sha256 system event).2.sessions place = some next := by
      cases rest with
      | nil => exact stays.2
      | cons => exact stays.2.1
    exact inductionHypothesis (step sha256 system event).2 next there
      (sign_pending_stays sha256 system event place session next before pending there unused.1)
      stays.2 unused.2

/-- A session has one `C_SignInit` at most that its pending operation may stem from. -/
theorem started_once (sha256 : Sha256) (system : System) (earlier earlier' : List Event)
    (init init' : Event) (between between' : List Event) (start start' : SignKey)
    (same : earlier ++ init :: between = earlier' ++ init' :: between')
    (started : Started sha256 system earlier init between start)
    (started' : Started sha256 system earlier' init' between' start')
    (samePlace : start.place = start'.place) : ¬ earlier.length < earlier'.length := by
  intro shorter
  obtain ⟨middle, rfl, rfl⟩ := Runs.split_earlier _ _ _ _ _ _ same shorter
  obtain ⟨-, session, opened, pending⟩ :=
    sign_init_checks_pending sha256 _ init start started.checked
  obtain ⟨⟨session', there, idle⟩, -⟩ :=
    sign_init_checks_pending sha256 _ init' start' started'.checked
  have stays := Runs.throughout_prefix (step sha256) _ _ middle _ started.stays
  have unused := ((Runs.every_step_append (step sha256) _ _ middle _).mp started.unused).1
  obtain ⟨after, here, still⟩ := sign_pending_run sha256 _ middle start.place session opened pending
    (Runs.throughout_mono (step sha256) _ _ _ middle
      (fun _ ⟨session, entry, _⟩ => ⟨session, entry⟩) stays) unused
  rw [← samePlace, run_after_init] at there
  obtain rfl := Option.some.inj (there.symm.trans here)
  simp [HsmSession.signPending, idle] at still

/-- The match of a `C_Sign` is unique. -/
theorem sign_match_unique (sha256 : Sha256) (system : System) (before : List Event)
    (use : SignKey) (position position' : Nat)
    (first : SignMatchAt sha256 system before use position)
    (second : SignMatchAt sha256 system before use position') : position = position' := by
  obtain ⟨earlier, init, between, start, rfl, one⟩ := first
  obtain ⟨earlier', init', between', start', rfl, other⟩ := second
  have same := one.past.symm.trans other.past
  have samePlace : start.place = start'.place :=
    (sign_match_place _ _ _ _ _ _ _ _ one).symm.trans (sign_match_place _ _ _ _ _ _ _ _ other)
  have notBefore := started_once sha256 system _ _ _ _ _ _ _ _ same one.started other.started
    samePlace
  have notAfter := started_once sha256 system _ _ _ _ _ _ _ _ same.symm other.started one.started
    samePlace.symm
  omega

/-- A later `C_Sign` does not match where an earlier one did. -/
theorem sign_match_unshared (sha256 : Sha256) (system : System) (before before' : List Event)
    (event event' : Event) (rest rest' : List Event) (use use' : SignKey) (position : Nat)
    (same : before ++ event :: rest = before' ++ event' :: rest')
    (reaches : (Runs.run (step sha256) system before).signReaches event = some use)
    (matched : SignMatchAt sha256 system before use position)
    (matched' : SignMatchAt sha256 system before' use' position) :
    ¬ before.length < before'.length := by
  intro shorter
  obtain ⟨middle, rfl, -⟩ := Runs.split_earlier _ _ _ _ _ _ same shorter
  obtain ⟨earlier, init, between, start, rfl, one⟩ := matched
  obtain ⟨earlier', init', between', start', sameLength, other⟩ := matched'
  have past := other.past
  rw [one.past, List.append_assoc, List.cons_append] at past
  obtain ⟨rfl, tail⟩ := List.append_inj past sameLength.symm
  obtain ⟨rfl, rfl⟩ := List.cons.inj tail
  obtain rfl := Option.some.inj (one.started.checked.symm.trans other.started.checked)
  have unused := (Runs.every_step_iff (step sha256) _ _ _).mp other.started.unused between event
    middle rfl
  rw [← run_after_init, ← one.past, sign_reaches_looks _ event use reaches] at unused
  exact unused (congrArg some (sign_match_place _ _ _ _ _ _ _ _ one))

/-- A `C_Sign` that does not reach `hsm_sign_data` answers without the cryptography, with one of
four codes. -/
theorem sign_unreached_answer (env : Env) (system : System) (hSession : CkSessionHandle)
    (data : Bytes) (pSignature : Bool) (signatureLen : CkUlong)
    (unreached : system.signReaches
      (.call (.sign hSession (some data) pSignature (some signatureLen)) env) = none) :
    ∃ rv after, rv ∈ [.cryptokiNotInitialized, .sessionHandleInvalid, .operationNotInitialized,
        .objectHandleInvalid] ∧
      ∀ env, cSign env system hSession (some data) pSignature (some signatureLen) =
        (rv, some (none, signatureLen), after) := by
  cases located : hsmGetSession system hSession with
  | error rv =>
    have code := get_session_error system hSession rv located
    refine ⟨rv, system, ?_, fun env => by simp only [cSign, located]⟩
    rcases code with rfl | rfl
    · decide
    · decide
  | ok found =>
    cases pending : found.session.signPending with
    | false =>
      have idle : (!found.session.operation.active ||
          decide (found.session.operation.type ≠ .sign)) = true := by
        cases active : found.session.operation.active with
        | false => rfl
        | true => simpa [HsmSession.signPending, active] using pending
      refine ⟨.operationNotInitialized, system, by decide, fun env => ?_⟩
      simp only [cSign, located, idle, if_true]
    | true =>
      cases key : hsmGetObject found.slot found.session.operation.keyHandle with
      | error rv =>
        obtain ⟨active, signing⟩ : found.session.operation.active = true ∧
            found.session.operation.type = .sign := by
          simpa [HsmSession.signPending] using pending
        obtain rfl := get_object_error found.slot _ rv key
        refine ⟨.objectHandleInvalid, system.withSession found found.session.operationDropped,
          by decide, fun env => ?_⟩
        simp only [cSign, located, active, signing]
        rw [key]
        rfl
      | ok pair => simp [System.signReaches, located, pending, key] at unreached

theorem sign_unreached (sha256 : Sha256) (env : Env) (system : System) (signer : Signer)
    (hSession : CkSessionHandle) (pData : Option Bytes) (pSignature : Bool)
    (pulSignatureLen : Option CkUlong)
    (unreached : system.signReaches (.call (.sign hSession pData pSignature pulSignatureLen) env) =
      none) :
    callStep sha256 env system (.sign hSession pData pSignature pulSignatureLen) =
      callStep sha256 { env with signer := signer } system
        (.sign hSession pData pSignature pulSignatureLen) := by
  cases pData with
  | none => rfl
  | some data =>
    cases pulSignatureLen with
    | none => rfl
    | some signatureLen =>
      obtain ⟨rv, after, -, answered⟩ :=
        sign_unreached_answer env system hSession data pSignature signatureLen unreached
      simp only [callStep, answered]

/-- A call that names another session leaves the session's record as it is. -/
theorem other_session_kept (sha256 : Sha256) (env : Env) (system : System) (call : Call)
    (place : Fin hsmMaxSessions) (session : HsmSession) (other : CkSessionHandle)
    (entry : system.sessions place = some session) (named : call.hSession = some other)
    (different : other ≠ session.handle) :
    (callStep sha256 env system call).2.sessions place = some session := by
  have elsewhere : system.actsOn call ≠ some place := by
    cases located : hsmGetSession system other with
    | error rv => simp [System.actsOn, named, located]
    | ok found =>
      rw [acts_on_found system call other found named located]
      intro here
      obtain rfl := Option.some.inj here
      obtain ⟨there, sameHandle⟩ := get_session_entry system other found located
      obtain rfl := Option.some.inj (entry.symm.trans there)
      exact different sameHandle.symm
  rcases session_untouched sha256 env system call place session entry elsewhere with
    kept | ⟨unnamed, -⟩
  · exact kept
  · cases named.symm.trans unnamed

/-- Signatures are bound to the `C_SignInit` of their session throughout a run: each
`C_Sign` that reaches `hsm_sign_data` matches one, no two match the same, and none is
reached once the key is destroyed. -/
structure SignaturesBound (sha256 : Sha256) (system : System) (events : List Event) : Prop where
  matched : ∀ before event rest use, events = before ++ event :: rest →
    (Runs.run (step sha256) system before).signReaches event = some use →
    ∃! position, SignMatchAt sha256 system before use position
  unshared : ∀ before event rest use before' event' rest' use' position,
    events = before ++ event :: rest → events = before' ++ event' :: rest' →
    (Runs.run (step sha256) system before).signReaches event = some use →
    (Runs.run (step sha256) system before').signReaches event' = some use' →
    SignMatchAt sha256 system before use position →
    SignMatchAt sha256 system before' use' position → before = before'
  forgotten : ∀ earlier init between start event rest use,
    events = earlier ++ init :: between ++ event :: rest →
    Started sha256 system earlier init between start →
    (∃ middle destroying later object unlink, between = middle ++ destroying :: later ∧
      (Runs.run (step sha256) system (earlier ++ init :: middle)).destroyed destroying =
        some (object, unlink) ∧
      object.handle = start.key.handle) →
    (Runs.run (step sha256) system (earlier ++ init :: between)).signReaches event = some use →
    use.place ≠ start.place
  answered : ∀ before hSession data pSignature signatureLen env rest use,
    events = before ++
      .call (.sign hSession (some data) pSignature (some signatureLen)) env :: rest →
    (Runs.run (step sha256) system before).signReaches
      (.call (.sign hSession (some data) pSignature (some signatureLen)) env) = some use →
    (callStep sha256 env (Runs.run (step sha256) system before)
        (.sign hSession (some data) pSignature (some signatureLen))).1 =
      ⟨(hsmSignData env.signer use.key use.mechanism data pSignature signatureLen).rv,
        .signature (some
          ((hsmSignData env.signer use.key use.mechanism data pSignature signatureLen).signature,
            (hsmSignData env.signer use.key use.mechanism data pSignature
              signatureLen).signatureLen))⟩
  unreached : ∀ before hSession pData pSignature pulSignatureLen env rest signer,
    events = before ++ .call (.sign hSession pData pSignature pulSignatureLen) env :: rest →
    (Runs.run (step sha256) system before).signReaches
      (.call (.sign hSession pData pSignature pulSignatureLen) env) = none →
    callStep sha256 env (Runs.run (step sha256) system before)
        (.sign hSession pData pSignature pulSignatureLen) =
      callStep sha256 { env with signer := signer } (Runs.run (step sha256) system before)
        (.sign hSession pData pSignature pulSignatureLen)
  untouched : ∀ before call env rest place session other,
    events = before ++ .call call env :: rest →
    (Runs.run (step sha256) system before).sessions place = some session →
    call.hSession = some other → other ≠ session.handle →
    (Runs.run (step sha256) system (before ++ [.call call env])).sessions place = some session

/-- In every run with fewer than 2^28 objects created in each process, signatures
are bound. -/
theorem signatures_bound (sha256 : Sha256) (system : System) (events : List Event)
    (booted : Booted system)
    (few : Runs.EveryStep (countedStep sha256)
      (fun pair event => (countedStep sha256 pair event).2.2 < handleRange) (system, 0) events) :
    SignaturesBound sha256 system events := by
  have ranged := few_keep_range sha256 system events booted few
  have matched (before : List Event) (event : Event) (rest : List Event) (use : SignKey)
      (split : events = before ++ event :: rest)
      (reaches : (Runs.run (step sha256) system before).signReaches event = some use) :
      ∃ position, SignMatchAt sha256 system before use position := by
    rw [split, Runs.every_step_append] at ranged
    exact sign_matched sha256 system before event use
      (sign_history_run sha256 system before booted ranged.1) reaches
  constructor
  · intro before event rest use split reaches
    obtain ⟨position, here⟩ := matched before event rest use split reaches
    refine ⟨position, here, ?_⟩
    intro other there
    exact sign_match_unique sha256 system before use other position there here
  · intro before event rest use before' event' rest' use' position split split' reaches reaches'
      here there
    have same := split.symm.trans split'
    have notBefore := sign_match_unshared sha256 system _ _ _ _ _ _ use use' position same reaches
      here there
    have notAfter := sign_match_unshared sha256 system _ _ _ _ _ _ use' use position same.symm
      reaches' there here
    exact List.append_inj_left same (by omega)
  · rintro earlier init between start event rest use split started
      ⟨middle, destroying, later, object, unlink, rfl, destroyed, named⟩ reaches samePlace
    obtain ⟨position, earlier', init', between', start', rfl, here⟩ :=
      matched _ event rest use split reaches
    have samePlace' : start.place = start'.place :=
      samePlace.symm.trans (sign_match_place _ _ _ _ _ _ _ _ here)
    have notBefore := started_once sha256 system _ _ _ _ _ _ _ _ here.past started here.started
      samePlace'
    have notAfter := started_once sha256 system _ _ _ _ _ _ _ _ here.past.symm here.started started
      samePlace'.symm
    obtain ⟨rfl, tail⟩ := List.append_inj here.past (by omega)
    obtain ⟨rfl, rfl⟩ := List.cons.inj tail
    obtain rfl := Option.some.inj (started.checked.symm.trans here.started.checked)
    have undestroyed := (Runs.every_step_iff (step sha256) _ _ _).mp here.kept.undestroyed middle
      destroying later rfl object unlink
    rw [← run_after_init] at undestroyed
    exact undestroyed destroyed named
  · intro before hSession data pSignature signatureLen env rest use _ reaches
    exact sign_reaches_signs sha256 env _ hSession data pSignature signatureLen use reaches
  · intro before hSession pData pSignature pulSignatureLen env rest signer _ unreached
    exact sign_unreached sha256 env _ signer hSession pData pSignature pulSignatureLen unreached
  · intro before call env rest place session other _ entry named different
    rw [run_one_more]
    exact other_session_kept sha256 env _ call place session other entry named different

theorem honest_signing_bound :
    SignaturesBound pinSha256 (bootProcess freshStorage) honestSigning :=
  signatures_bound pinSha256 (bootProcess freshStorage) honestSigning rfl (by decide +kernel)

end PstHsm
