import PstHsm.ObjectTable
import PstHsm.AttributeUpdates
import PstHsm.Durability
import PstHsm.KeyPairTemplates
import PstHsm.LoginState

/-!
# Calls on read-only sessions

The read-write bit of a session is looked at in one place, where it keeps the security
officer out of a read-only session. Every other call treats both kinds of sessions
alike. The token is what outlives the sessions: its token objects, the two PIN hashes and
the files. A call on a read-only session leaves it as it was exactly when the call is
refused or happens not to touch it.
-/

namespace PstHsm

open Tables

/-! ## The token -/

/-- The token objects of the slot. -/
def System.tokenObjects (system : System) : Table hsmMaxObjects HsmObject :=
  fun index => (system.objects index).filter HsmObject.isToken

/-- The PIN hashes of the user and the security officer. -/
def System.pinHashes (system : System) : Option (Buffer 32 × Buffer 32) :=
  system.gHsmContext.map fun context => (context.slot.userPinHash, context.slot.soPinHash)

/-- The token objects with their attributes, the PIN hashes and the files stay as they are. -/
structure TokenKept (before after : System) : Prop where
  objects : after.tokenObjects = before.tokenObjects
  pinHashes : after.pinHashes = before.pinHashes
  storage : after.storage = before.storage

theorem token_kept_same (system : System) : TokenKept system system := ⟨rfl, rfl, rfl⟩

/-- Changes outside the object table, the hashes and the storage keep the token. -/
theorem token_kept_slot (system : System) (context : HsmContext) (slot : HsmSlot)
    (present : system.gHsmContext = some context)
    (objects : slot.objects = context.slot.objects)
    (user : slot.userPinHash = context.slot.userPinHash)
    (officer : slot.soPinHash = context.slot.soPinHash) :
    TokenKept system (system.withSlot context slot) := by
  refine ⟨?_, ?_, rfl⟩
  · funext index
    change (slot.objects index).filter _ = (system.objects index).filter _
    rw [objects, objects_present system context present]
  · rw [System.pinHashes, System.pinHashes, present]
    change some (slot.userPinHash, slot.soPinHash) = some _
    rw [user, officer]

/-! ## The six calls that may change it -/

/-- The call is refused, or it leaves the token alone. -/
def LeavesToken (sha256 : Sha256) (env : Env) (system : System) : Call → Prop
  | .createObject hSession (some template) true =>
    ∀ found, Creates env system hSession found → namedFlag ckaToken template false = false
  | .destroyObject hSession hObject =>
    ∀ found index object, hsmGetSession system hSession = .ok found →
      hsmGetObject found.slot hObject = .ok (index, object) → object.isToken = false
  | .setAttributeValue hSession hObject (some template) =>
    ∀ found index object, hsmGetSession system hSession = .ok found →
      hsmGetObject found.slot hObject = .ok (index, object) →
      object.isToken = false ∨ WritesSame object.label (labelsReached template)
  | .generateKeyPair hSession (some mechanism) publicTemplate privateTemplate true true =>
    ∀ found, Generates env system hSession mechanism publicTemplate found →
      namedFlag ckaToken publicTemplate false = false ∧
        namedFlag ckaToken privateTemplate false = false
  | .setPIN hSession (some oldPin) (some newPin) =>
    ∀ found, ChangesPin system hSession newPin found →
      RightPin sha256 found.slot found.session.pinOwner oldPin →
      sha256 newPin = found.slot.userPinHash ∧
        (env.tokenWrite.fopen = true → system.storage.tokenFile =
          some (writtenBytes env.tokenWrite (tokenInfoItems found.slot)))
  | _ => True

/-- The calls of `LeavesToken` with a condition. -/
def Call.changesToken : Call → Bool
  | .createObject _ _ _ | .destroyObject _ _ | .setAttributeValue _ _ _
  | .generateKeyPair _ _ _ _ _ _ | .initPIN _ _ | .setPIN _ _ _ => true
  | _ => false

section Calls

variable (sha256 : Sha256) (env : Env) (system : System)

/-- Every other call on a session keeps the token. -/
theorem other_calls_keep_token (call : Call) (hSession : CkSessionHandle)
    (named : call.hSession = some hSession) (quiet : call.changesToken = false) :
    TokenKept system (callStep sha256 env system call).2 := by
  have effect := call_effect sha256 env system call
  generalize (callStep sha256 env system call).2 = after at effect
  have verified (slot : HsmSlot) (userType : CkUserType) (pin : Bytes) :=
    verify_pin_secrets sha256 slot userType pin
  cases effect with
  | unchanged => exact token_kept_same system
  | loginRefused hSession userType pin found session =>
    obtain ⟨present, -, -⟩ := get_session_sound system hSession found session
    obtain ⟨officer, user, -⟩ := verified found.slot userType pin
    exact token_kept_slot system _ _ present (verify_pin_objects _ _ _ _) user officer
  | loggedIn hSession userType pin found session =>
    obtain ⟨present, -, -⟩ := get_session_sound system hSession found session
    obtain ⟨officer, user, -⟩ := verified found.slot userType pin
    exact token_kept_slot system _ _ present (verify_pin_objects _ _ _ _) user officer
  | sessionClosed hSession found session =>
    obtain ⟨present, -, -⟩ := get_session_sound system hSession found session
    exact token_kept_slot system _ _ present rfl rfl rfl
  | sessionUpdated call hSession found updated _ session =>
    obtain ⟨present, -, -⟩ := get_session_sound system hSession found session
    exact token_kept_slot system _ _ present rfl rfl rfl
  | directoriesMade => cases named
  | initialized => cases named
  | finalized => cases named
  | sessionsClosed => cases named
  | tokenReset => cases named
  | sessionOpened => cases named
  | _ => cases quiet

/-- One entry of the object table overwritten: the token is kept exactly when the entry
holds the same token object as before, if any, and the files stay. -/
theorem token_kept_put_iff (after : System) (index : Fin hsmMaxObjects) (entry : Option HsmObject)
    (changed : after.objects = put system.objects index entry)
    (hashes : after.pinHashes = system.pinHashes) :
    TokenKept system after ↔
      entry.filter HsmObject.isToken = (system.objects index).filter HsmObject.isToken ∧
        after.storage = system.storage := by
  have table : after.tokenObjects = system.tokenObjects ↔
      entry.filter HsmObject.isToken = (system.objects index).filter HsmObject.isToken := by
    unfold System.tokenObjects
    rw [changed]
    exact kind_put_iff HsmObject.isToken system.objects index entry
  constructor
  · rintro ⟨objects, -, storage⟩
    exact ⟨table.mp objects, storage⟩
  · rintro ⟨here, storage⟩
    exact ⟨table.mpr here, hashes, storage⟩

theorem some_filter_none_iff (object : HsmObject) :
    (some object).filter HsmObject.isToken = none ↔ object.isToken = false := by
  cases token : object.isToken with
  | false => simp [Option.filter, token]
  | true => simp [Option.filter, token]

variable (hSession : CkSessionHandle)

/-- An accepted creation keeps the token exactly when the new object is no token object. -/
theorem create_object_keeps_token_iff (template : List CkAttribute)
    (counted : ObjectsCounted system) :
    TokenKept system (cCreateObject env system hSession (some template) true).2.2 ↔
      ∀ found, Creates env system hSession found → namedFlag ckaToken template false = false := by
  have admitted := create_object_ok_iff env system counted hSession template
  rcases create_object_cases env system hSession (some template) true with
    ⟨rv, failed, same⟩ | ⟨parsed, found, index, ⟨⟩, -, session, room, free, same⟩
  · rw [same] at admitted ⊢
    refine iff_of_true (token_kept_same system) fun found creates => ?_
    exact absurd (admitted.mpr ⟨found, creates⟩) failed
  · obtain ⟨present, -, -⟩ := get_session_sound system hSession found session
    obtain ⟨vacant, after⟩ := created_entry system hSession found index template
      (env.objectWrite 0) session free
    have token : (createdObject template system.handleCounter).isToken =
        namedFlag ckaToken template false := parse_template_token template {}
    rw [same] at admitted ⊢
    obtain ⟨creator, creates⟩ := admitted.mp rfl
    rw [token_kept_put_iff system _ index (some (createdObject template system.handleCounter))
      after (by rw [System.pinHashes, System.pinHashes, present]; rfl), vacant,
      Option.filter_none, some_filter_none_iff, token]
    constructor
    · rintro ⟨session', -⟩ _ _
      exact session'
    · intro sessionObject
      refine ⟨sessionObject creator creates, ?_⟩
      change (hsmStorageSaveObject (createdObject template system.handleCounter) _ _).2 = _
      rw [hsmStorageSaveObject, token, sessionObject creator creates]
      rfl

/-- A destruction keeps the token exactly when the object, if it is found, is no token
object. -/
theorem destroy_object_keeps_token_iff (hObject : CkObjectHandle) :
    TokenKept system (cDestroyObject env system hSession hObject).2 ↔
      ∀ found index object, hsmGetSession system hSession = .ok found →
        hsmGetObject found.slot hObject = .ok (index, object) → object.isToken = false := by
  rcases destroy_object_cases env system hSession hObject with
    ⟨rv, failed, same⟩ | ⟨found, index, object, session, lookup, same⟩
  · rw [same]
    refine iff_of_true (token_kept_same system) fun found index object session lookup => ?_
    have succeeds := destroy_object_succeeds env system hSession hObject found index object session
      lookup
    rw [same] at succeeds
    exact absurd (Prod.mk.inj succeeds).1 failed
  · obtain ⟨present, -, -⟩ := get_session_sound system hSession found session
    have here := object_found system hSession hObject found index object session lookup
    have before := found_objects system hSession found session
    rw [same, token_kept_put_iff system _ index none (by rw [before]; rfl)
      (by rw [System.pinHashes, System.pinHashes, present]; rfl), here, Option.filter_none,
      eq_comm, some_filter_none_iff]
    constructor
    · rintro ⟨sessionObject, -⟩ found' index' object' session' lookup'
      cases session.symm.trans session'
      cases lookup.symm.trans lookup'
      exact sessionObject
    · intro every
      have sessionObject := every found index object session lookup
      refine ⟨sessionObject, ?_⟩
      change storageWithout env object system.storage = system.storage
      rw [storageWithout, sessionObject]
      rfl

/-- An update keeps the token exactly when the object, if it is found, is no token object or
gets the label it has. -/
theorem set_attribute_value_keeps_token_iff (hObject : CkObjectHandle)
    (template : List CkAttribute) :
    TokenKept system (cSetAttributeValue system hSession hObject (some template)).2 ↔
      ∀ found index object, hsmGetSession system hSession = .ok found →
        hsmGetObject found.slot hObject = .ok (index, object) →
        object.isToken = false ∨ WritesSame object.label (labelsReached template) := by
  by_cases lost : ∀ entries found index object, some template = some entries →
      hsmGetSession system hSession = .ok found →
      hsmGetObject found.slot hObject ≠ .ok (index, object)
  · rw [set_attribute_value_lost system hSession hObject (some template) lost]
    refine iff_of_true (token_kept_same system) fun found index object session located => ?_
    exact absurd located (lost template found index object rfl session)
  · push Not at lost
    obtain ⟨entries, found, index, object, -, session, located⟩ := lost
    obtain ⟨present, -, -⟩ := get_session_sound system hSession found session
    have here := object_found system hSession hObject found index object session located
    obtain ⟨-, written⟩ := set_attribute_value_found system hSession hObject template found index
      object session located
    have hashes : (cSetAttributeValue system hSession hObject (some template)).2.pinHashes =
        system.pinHashes := by
      rw [System.pinHashes, System.pinHashes, present]
      simp only [cSetAttributeValue, session, located]
      rfl
    have storage : (cSetAttributeValue system hSession hObject (some template)).2.storage =
        system.storage := by
      simp only [cSetAttributeValue, session, located]
      rfl
    rw [token_kept_put_iff system _ index _ written hashes, here, and_iff_left storage]
    have kind : (hsmSetAttributeValue object template).2.isToken = object.isToken := by
      rw [set_attribute_value_labels]
    have kept := set_attribute_value_kept_iff template object
    constructor
    · intro same found' index' object' session' located'
      cases session.symm.trans session'
      cases located.symm.trans located'
      cases token : object.isToken with
      | false => exact Or.inl rfl
      | true =>
        rw [token] at kind
        simp only [Option.filter, kind, token, if_true] at same
        exact Or.inr (kept.mp (Option.some.inj same))
    · intro every
      rcases every found index object session located with sessionObject | same
      · rw [sessionObject] at kind
        rw [(some_filter_none_iff _).mpr kind, (some_filter_none_iff _).mpr sessionObject]
      · rw [kept.mpr same]

/-- The halves of a pair are token objects as their templates say. -/
theorem halves_token (mechanism : CkMechanismType)
    (publicTemplate privateTemplate : List CkAttribute) (pubObj privObj : HsmObject)
    (generated : generateHalves env mechanism publicTemplate privateTemplate =
      .ok (pubObj, privObj)) :
    pubObj.isToken = namedFlag ckaToken publicTemplate false ∧
      privObj.isToken = namedFlag ckaToken privateTemplate false := by
  obtain ⟨⟨pubType, pubData, rfl⟩, privType, privData, rfl⟩ :=
    generate_halves_parsed env mechanism publicTemplate privateTemplate pubObj privObj generated
  exact ⟨parse_template_token publicTemplate initialPublicKey,
    parse_template_token privateTemplate initialPrivateKey⟩

/-- An accepted generation keeps the token exactly when neither half is a token object. -/
theorem generate_key_pair_keeps_token_iff (mechanism : CkMechanismType)
    (publicTemplate privateTemplate : List CkAttribute) :
    TokenKept system (cGenerateKeyPair env system hSession (some mechanism) publicTemplate
        privateTemplate true true).2.2 ↔
      ∀ found, Generates env system hSession mechanism publicTemplate found →
        namedFlag ckaToken publicTemplate false = false ∧
          namedFlag ckaToken privateTemplate false = false := by
  have admitted := generate_key_pair_ok_iff env system hSession mechanism publicTemplate
    privateTemplate
  rcases generate_key_pair_cases env system hSession (some mechanism) publicTemplate
      privateTemplate true true with
    ⟨rv, failed, same⟩ | ⟨mechanism', found, pubObj, privObj, pubIdx, privIdx, rest, ⟨⟩, -, -,
      session, user, generated, free, same⟩
  · rw [same] at admitted ⊢
    refine iff_of_true (token_kept_same system) fun found generates => ?_
    exact absurd (admitted.mpr ⟨found, generates⟩) failed
  · obtain ⟨present, -, -⟩ := get_session_sound system hSession found session
    obtain ⟨pubFree, privFree, different, after⟩ := key_pair_entries env system hSession found
      pubIdx privIdx rest pubObj privObj session free
    rw [same] at admitted ⊢
    obtain ⟨generator, generates⟩ := admitted.mp rfl
    obtain ⟨pubToken, privToken⟩ := halves_token env mechanism publicTemplate privateTemplate pubObj
      privObj generated
    generalize pubStored : storedPublicKey pubObj system.handleCounter = pubKey at after
    generalize privStored : storedPrivateKey privObj system.handleCounter = privKey at after
    have pubKind : pubKey.isToken = namedFlag ckaToken publicTemplate false := by
      rw [← pubStored, ← pubToken]
      rfl
    have privKind : privKey.isToken = namedFlag ckaToken privateTemplate false := by
      rw [← privStored, ← privToken]
      rfl
    constructor
    · rintro ⟨objects, -, -⟩ _ _
      have atPub := congrFun objects pubIdx
      have atPriv := congrFun objects privIdx
      unfold System.tokenObjects at atPub atPriv
      rw [after, put_other _ _ _ _ different, put_self, pubFree, Option.filter_none,
        some_filter_none_iff, pubKind] at atPub
      rw [after, put_self, privFree, Option.filter_none, some_filter_none_iff, privKind] at atPriv
      exact ⟨atPub, atPriv⟩
    · intro every
      obtain ⟨pubSession, privSession⟩ := every generator generates
      rw [pubSession] at pubKind
      rw [privSession] at privKind
      refine ⟨?_, ?_, ?_⟩
      · unfold System.tokenObjects
        rw [after]
        refine ((kind_put_iff _ _ privIdx _).mpr ?_).trans ((kind_put_iff _ _ pubIdx _).mpr ?_)
        · rw [put_other _ _ _ _ different.symm, privFree]
          exact (some_filter_none_iff privKey).mpr privKind
        · rw [pubFree]
          exact (some_filter_none_iff pubKey).mpr pubKind
      · rw [System.pinHashes, System.pinHashes, present]
        rfl
      · change (hsmStorageSaveObject (storedPrivateKey privObj system.handleCounter) _
          (hsmStorageSaveObject (storedPublicKey pubObj system.handleCounter) _ _).2).2 = _
        rw [pubStored, privStored, hsmStorageSaveObject, privKind, hsmStorageSaveObject, pubKind]
        rfl

/-- While the security officer is not logged in on the session, a change of PIN keeps the
token exactly when it is refused, or the new PIN has the hash of the old one and the token
file, if it is written, holds the same bytes afterwards. -/
theorem set_pin_keeps_token_iff (oldPin newPin : Bytes)
    (userOnly : ∀ found, hsmGetSession system hSession = .ok found →
      found.session.soLoggedIn = false) :
    TokenKept system (cSetPIN sha256 env system hSession (some oldPin) (some newPin)).2 ↔
      ∀ found, ChangesPin system hSession newPin found →
        RightPin sha256 found.slot found.session.pinOwner oldPin →
        sha256 newPin = found.slot.userPinHash ∧
          (env.tokenWrite.fopen = true → system.storage.tokenFile =
            some (writtenBytes env.tokenWrite (tokenInfoItems found.slot))) := by
  have admitted := set_pin_ok_iff sha256 env system hSession oldPin newPin
  rcases set_pin_cases sha256 env system hSession (some oldPin) (some newPin) with
    ⟨rv, failed, same⟩ |
      ⟨old, new, found, ⟨⟩, ⟨⟩, changes, ⟨rv, failed, -, same⟩ | ⟨verified, same⟩⟩
  · rw [same] at admitted ⊢
    refine iff_of_true (token_kept_same system) fun found changes verified => ?_
    exact absurd (admitted.mpr ⟨found, changes, verified⟩) failed
  · obtain ⟨present, -, -⟩ := get_session_sound system hSession found changes.session
    obtain ⟨officer, user, -⟩ :=
      verify_pin_secrets sha256 found.slot found.session.pinOwner oldPin
    rw [same] at admitted ⊢
    refine iff_of_true ?_ fun found changes verified => ?_
    · exact token_kept_slot system _ _ present (verify_pin_objects _ _ _ _) user officer
    · exact absurd (admitted.mpr ⟨found, changes, verified⟩) failed
  · obtain ⟨present, -, -⟩ := get_session_sound system hSession found changes.session
    obtain ⟨officer, -, -⟩ := verify_pin_secrets sha256 found.slot ckuUser oldPin
    have owner : found.session.pinOwner = ckuUser := by
      rcases changes.loggedIn with user | so
      · exact if_pos user
      · cases (userOnly found changes.session).symm.trans so
    rw [owner] at same verified
    have items := pin_replaced_items sha256 found.slot ckuUser oldPin (sha256 newPin)
    generalize replaced : (hsmVerifyPin sha256 found.slot ckuUser oldPin).2.pinReplaced ckuUser
      (sha256 newPin) = slot at same items
    have sameItems (unchanged : sha256 newPin = found.slot.userPinHash) :
        tokenInfoItems slot = tokenInfoItems found.slot := by
      rw [items, unchanged]
      rfl
    have objects : slot.objects = found.slot.objects := by
      rw [← replaced, pin_replaced_objects, verify_pin_objects]
    have hashes : (slot.userPinHash, slot.soPinHash) = (sha256 newPin, found.slot.soPinHash) := by
      rw [← replaced, ← officer]
      rfl
    rw [same]
    constructor
    · rintro ⟨-, pinHashes, storage⟩ found' changes' -
      cases changes.session.symm.trans changes'.session
      have unchanged : sha256 newPin = found.slot.userPinHash := by
        rw [System.pinHashes, System.pinHashes, present] at pinHashes
        change some (slot.userPinHash, slot.soPinHash) = some _ at pinHashes
        rw [hashes] at pinHashes
        exact (Prod.mk.inj (Option.some.inj pinHashes)).1
      refine ⟨unchanged, fun opened => ?_⟩
      change (hsmStorageSaveTokenInfo slot env.tokenWrite system.storage).2 = _ at storage
      rw [hsmStorageSaveTokenInfo, if_pos opened, sameItems unchanged] at storage
      exact (congrArg Storage.tokenFile storage).symm
    · intro every
      have right := (verify_pin_ok_iff sha256 found.slot ckuUser oldPin).mp verified
      obtain ⟨unchanged, file⟩ := every found changes (by rw [owner]; exact right)
      refine ⟨?_, ?_, ?_⟩
      · funext index
        change (slot.objects index).filter _ = (system.objects index).filter _
        rw [objects, found_objects system hSession found changes.session]
      · rw [System.pinHashes, System.pinHashes, present]
        change some (slot.userPinHash, slot.soPinHash) = some _
        rw [hashes, unchanged]
        rfl
      · change (hsmStorageSaveTokenInfo slot env.tokenWrite system.storage).2 = _
        cases opened : env.tokenWrite.fopen with
        | false => simp [hsmStorageSaveTokenInfo, opened]
        | true => simp [hsmStorageSaveTokenInfo, opened, sameItems unchanged, ← file opened]

end Calls

/-! ## Read-only sessions -/

/-- The security officer is logged in on read-write sessions only. -/
theorem officer_writable (sha256 : Sha256) (system : System) (reached : Reachable sha256 system)
    (place : Fin hsmMaxSessions) (session : HsmSession)
    (entry : system.sessions place = some session) (officer : session.soLoggedIn = true) :
    session.isReadWrite = true := by
  obtain ⟨start, events, booted, rfl⟩ := reached
  have reflected := records_run sha256 noteLogin (LoginReflected sha256) (login_record_rule sha256)
    start events booted noHistories
  have same : (Runs.run (recordStep sha256 noteLogin) (start, noHistories) events).1 =
      Runs.run (step sha256) start events := Runs.traced_run _ _ _ _ _
  rw [same] at reflected
  obtain ⟨-, -, -, -, writable, readWrite, -⟩ := reflected place session entry
  rw [readWrite]
  exact bne_iff_ne.mpr (writable officer)

/-- In every reachable state a call on a read-only session leaves the token objects, the PIN
hashes and the files as they were exactly when it is refused or does not touch them: an
object created or generated is no token object, one destroyed or relabelled neither, or it
gets the label it has; a new PIN has the hash of the old one. -/
theorem read_only_keeps_token_iff (sha256 : Sha256) (env : Env) (system : System) (call : Call)
    (hSession : CkSessionHandle) (found : FoundSession) (reached : Reachable sha256 system)
    (named : call.hSession = some hSession)
    (session : hsmGetSession system hSession = .ok found)
    (readOnly : found.session.isReadWrite = false) :
    TokenKept system (callStep sha256 env system call).2 ↔
      LeavesToken sha256 env system call := by
  have userOnly (found' : FoundSession) (session' : hsmGetSession system hSession = .ok found') :
      found'.session.soLoggedIn = false := by
    cases session.symm.trans session'
    obtain ⟨entry, -⟩ := get_session_entry system hSession found session
    rw [← Bool.not_eq_true]
    intro officer
    cases (officer_writable sha256 system reached _ _ entry officer).symm.trans readOnly
  cases quiet : call.changesToken with
  | false =>
    have free : LeavesToken sha256 env system call := by
      cases call with
      | createObject | destroyObject | setAttributeValue | generateKeyPair | initPIN | setPIN =>
        cases quiet
      | _ => trivial
    exact iff_of_true (other_calls_keep_token sha256 env system call hSession named quiet) free
  | true =>
    cases call with
    | createObject hSession' pTemplate phObject =>
      cases named
      cases pTemplate with
      | none => exact iff_of_true (token_kept_same system) trivial
      | some template =>
        cases phObject with
        | false => exact iff_of_true (token_kept_same system) trivial
        | true =>
          exact create_object_keeps_token_iff env system hSession template
            (objects_counted_reachable sha256 system reached)
    | destroyObject hSession' hObject =>
      cases named
      exact destroy_object_keeps_token_iff env system hSession hObject
    | setAttributeValue hSession' hObject pTemplate =>
      cases named
      cases pTemplate with
      | none => exact iff_of_true (token_kept_same system) trivial
      | some template => exact set_attribute_value_keeps_token_iff system hSession hObject template
    | generateKeyPair hSession' pMechanism publicTemplate privateTemplate phPublicKey
        phPrivateKey =>
      cases named
      cases pMechanism with
      | none => exact iff_of_true (token_kept_same system) trivial
      | some mechanism =>
        cases phPublicKey with
        | false => exact iff_of_true (token_kept_same system) trivial
        | true =>
          cases phPrivateKey with
          | false => exact iff_of_true (token_kept_same system) trivial
          | true =>
            exact generate_key_pair_keeps_token_iff env system hSession mechanism publicTemplate
              privateTemplate
    | initPIN hSession' pPin =>
      cases named
      change TokenKept system (cInitPIN sha256 env system hSession pPin).2 ↔ True
      refine iff_of_true ?_ trivial
      rcases init_pin_cases sha256 env system hSession pPin with
        ⟨rv, -, same⟩ | ⟨pin, officer, -, session', isOfficer, -⟩
      · rw [same]
        exact token_kept_same system
      · cases (userOnly officer session').symm.trans isOfficer
    | setPIN hSession' pOldPin pNewPin =>
      cases named
      cases pOldPin with
      | none => exact iff_of_true (token_kept_same system) trivial
      | some oldPin =>
        cases pNewPin with
        | none => exact iff_of_true (token_kept_same system) trivial
        | some newPin =>
          exact set_pin_keeps_token_iff sha256 env system hSession oldPin newPin userOnly
    | _ => cases quiet

/-- A read-only session on which nobody is logged in. -/
def readOnlyReady : System :=
  Runs.run (step pinSha256) (bootProcess freshStorage)
    [calmly .initializeLibrary,
      calmly (.initToken 0 (some soPin) (some [])),
      calmly (.openSession 0 ckfSerialSession true)]

theorem read_only_ready_reachable : Reachable pinSha256 readOnlyReady := by
  rw [readOnlyReady]
  exact ⟨bootProcess freshStorage, _, rfl, rfl⟩

/-- A session object may be created. -/
theorem session_object_kept :
    TokenKept readOnlyReady
        (callStep pinSha256 (calmEnv 1) readOnlyReady (.createObject 1 (some []) true)).2 ↔
      LeavesToken pinSha256 (calmEnv 1) readOnlyReady (.createObject 1 (some []) true) := by
  have readOnly : (hsmGetSession readOnlyReady 1).toOption.map
      (fun found => found.session.isReadWrite) = some false := by decide +kernel
  cases session : hsmGetSession readOnlyReady 1 with
  | error rv =>
    rw [session] at readOnly
    cases readOnly
  | ok found =>
    rw [session] at readOnly
    exact read_only_keeps_token_iff pinSha256 (calmEnv 1) readOnlyReady
      (.createObject 1 (some []) true) 1 found read_only_ready_reachable rfl session
      (Option.some.inj readOnly)

/-- And so may a token object. -/
theorem token_object_created :
    (readOnlyReady.sessions ⟨0, by decide⟩).map HsmSession.isReadWrite = some false ∧
      ¬ TokenKept readOnlyReady (callStep pinSha256 (calmEnv 1) readOnlyReady
        (.createObject 1 (some [entryOf ckaToken [ckTrue]]) true)).2 := by
  refine ⟨by decide +kernel, fun kept => ?_⟩
  have before : (readOnlyReady.tokenObjects ⟨0, by decide⟩).isSome = false := by decide +kernel
  have after : ((callStep pinSha256 (calmEnv 1) readOnlyReady
      (.createObject 1 (some [entryOf ckaToken [ckTrue]]) true)).2.tokenObjects
      ⟨0, by decide⟩).isSome = true := by decide +kernel
  rw [kept.objects, before] at after
  cases after

end PstHsm
