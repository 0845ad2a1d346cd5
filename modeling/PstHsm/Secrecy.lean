import PstHsm.Projections

/-!
# Private key material stays inside

Erasing the private parts of every key, of what the generators return and of the
key files gives a second process. Each call answers the same on both and leaves
states that still differ only in what was erased, except that the signature of
`C_Sign` is made with the key. Two runs whose generators agree after erasing
therefore answer alike: both answer like the erased run.
-/

namespace PstHsm

open Tables

/-! ## Erasing -/

/-- The public numbers of a generated RSA key. -/
def RsaComponents.erased (key : RsaComponents) : RsaComponents :=
  { key with d := [], p := [], q := [], dmp1 := [], dmq1 := [], iqmp := [] }

/-- The point of a generated EC key. -/
def EcComponents.erased (key : EcComponents) : EcComponents := { key with priv := [] }

/-- The surroundings with generators that give public parts only. What OpenSSL
computes with a private key is fixed arbitrarily. -/
def Env.erased (env : Env) : Env :=
  { env with
    keygenRsa := fun bits => (env.keygenRsa bits).map RsaComponents.erased
    keygenEc := fun curveNid => (env.keygenEc curveNid).map EcComponents.erased
    signer := calmSigner }

/-- The key material without its private components. -/
def HsmKeyData.erased (keyData : HsmKeyData) : HsmKeyData :=
  { rsa := { keyData.rsa with
      privateExponent := [], prime1 := [], prime2 := [], exponent1 := [], exponent2 := [],
      coefficient := [] }
    ec := { keyData.ec with ecPrivate := [] } }

/-- The object without the private components of its key. -/
def HsmObject.erased (object : HsmObject) : HsmObject :=
  { object with keyData := object.keyData.erased }

/-- The slot with its objects erased. -/
def HsmSlot.erased (slot : HsmSlot) : HsmSlot :=
  { slot with objects := mapped HsmObject.erased slot.objects }

/-- The library with its slot erased. -/
def HsmContext.erased (context : HsmContext) : HsmContext :=
  { context with slot := context.slot.erased }

/-- The process without private key material, in memory or in files. -/
def System.erased (system : System) : System :=
  { system with
    gHsmContext := system.gHsmContext.map HsmContext.erased
    storage := { system.storage with keyFiles := ∅ } }

/-- The slot of a session that is found in the erased process. -/
theorem found_slot_erased (found : FoundSession) :
    FoundSession.slot ⟨found.context.erased, found.index, found.session⟩ = found.slot.erased := rfl

/-- Erasing an object twice is erasing it once. -/
@[simp]
theorem object_erased_twice (object : HsmObject) : object.erased.erased = object.erased := rfl

/-- So it is with a table of objects. -/
@[simp]
theorem objects_erased_twice (table : Table hsmMaxObjects HsmObject) :
    mapped HsmObject.erased (mapped HsmObject.erased table) = mapped HsmObject.erased table := by
  funext index
  cases present : table index with
  | none => simp [mapped, present]
  | some object => simp [mapped, present]

/-- So it is with a slot. -/
@[simp]
theorem slot_erased_twice (slot : HsmSlot) : slot.erased.erased = slot.erased := by
  simp [HsmSlot.erased]

/-- So it is with the library. -/
@[simp]
theorem context_erased_twice (context : HsmContext) : context.erased.erased = context.erased := by
  simp [HsmContext.erased]

/-- So it is with a whole process. -/
@[simp]
theorem system_erased_twice (system : System) : system.erased.erased = system.erased := by
  cases present : system.gHsmContext with
  | none => simp [System.erased, present]
  | some context => simp [System.erased, present]

/-- Setting attributes commutes with erasing. -/
theorem set_attribute_value_erased (object : HsmObject) (template : List CkAttribute) :
    hsmSetAttributeValue object.erased template =
      ((hsmSetAttributeValue object template).1,
        (hsmSetAttributeValue object template).2.erased) := by
  induction template generalizing object with
  | nil => rfl
  | cons entry rest inductionHypothesis =>
    by_cases isLabel : entry.type = ckaLabel
    · simp only [hsmSetAttributeValue, isLabel, if_true]
      exact inductionHypothesis { object with label := storeLabel object.label entry }
    · simp only [hsmSetAttributeValue, isLabel, if_false]

/-- Erasing as a projection: no object is left out, and what the calls look at stays. -/
def erasing : Projection where
  object := HsmObject.erased
  objects := mapped HsmObject.erased
  objectCount := id
  objects_twice := objects_erased_twice
  objects_put table index entry := by
    cases entry with
    | none => simp
    | some object => simp
  count_twice _ := rfl
  count_less _ := rfl
  sameType _ := rfl
  sameCanSign _ := rfl
  sameAttributes _ _ := rfl
  sameSetting := set_attribute_value_erased

/-! ## Lookups -/

/-- A session is found in both processes or in neither, with the same error. -/
theorem get_session_erased (system : System) (hSession : CkSessionHandle) :
    (∃ rv, hsmGetSession system hSession = .error rv ∧
        hsmGetSession system.erased hSession = .error rv) ∨
      ∃ found, hsmGetSession system hSession = .ok found ∧
        hsmGetSession system.erased hSession =
          .ok ⟨found.context.erased, found.index, found.session⟩ :=
  erasing.get_session system hSession

/-- Erasing does not disturb the search by handle. -/
theorem same_lookup_erased (slot : HsmSlot) (hObject : CkObjectHandle) :
    erasing.SameLookup slot hObject := by
  have located := find_mapped HsmObject.erased slot.objects
    (fun object => decide (object.handle = hObject))
    (fun object => decide (object.handle = hObject)) (fun object => rfl)
  unfold Projection.SameLookup hsmGetObject
  rw [show (erasing.slot slot).objects = mapped HsmObject.erased slot.objects from rfl, located]
  cases find slot.objects (fun object => decide (object.handle = hObject)) with
  | none => rfl
  | some found => rfl

/-- An object is found in both slots or in neither. -/
theorem get_object_erased (slot : HsmSlot) (hObject : CkObjectHandle) :
    (∃ rv, hsmGetObject slot hObject = .error rv ∧
        hsmGetObject slot.erased hObject = .error rv) ∨
      ∃ index object, hsmGetObject slot hObject = .ok (index, object) ∧
        hsmGetObject slot.erased hObject = .ok (index, object.erased) := by
  have same : hsmGetObject slot.erased hObject = _ := same_lookup_erased slot hObject
  cases lookup : hsmGetObject slot hObject with
  | error rv =>
    rw [lookup] at same
    exact Or.inl ⟨rv, rfl, same⟩
  | ok pair =>
    rw [lookup] at same
    exact Or.inr ⟨pair.1, pair.2, rfl, same⟩

/-! ## One call -/

/-- The two results answer alike and leave states that agree after erasing. -/
def Oblivious (plain erased : Response × System) : Prop :=
  erased.1 = plain.1 ∧ erased.2.erased = plain.2.erased

/-- This is what answering alike means for erasing. -/
theorem oblivious_of_alike {plain erased : Response × System}
    (alike : erasing.Alike plain erased) : Oblivious plain erased := alike

/-- An answer that leaves both processes alone. -/
theorem oblivious_unchanged (system : System) (response : Response) :
    Oblivious (response, system) (response, system.erased) :=
  erasing.alike_unchanged system response

/-- An answer that leaves both with slots that are erased to the same. -/
theorem oblivious_slot (system : System) (context : HsmContext) (slot slot' : HsmSlot)
    (response : Response) (same : slot'.erased = slot.erased) :
    Oblivious (response, system.withSlot context slot)
      (response, system.erased.withSlot context.erased slot') :=
  erasing.alike_slot system context slot slot' response same

/-- An answer that writes the same session back in both. -/
theorem oblivious_session (system : System) (found : FoundSession) (session : HsmSession)
    (response : Response) :
    Oblivious (response, system.withSession found session)
      (response,
        system.erased.withSession ⟨found.context.erased, found.index, found.session⟩ session) :=
  erasing.alike_session system found session response

/-- The token file holds no key material. -/
theorem oblivious_saved_slot (system : System) (env : Env) (context : HsmContext)
    (slot slot' : HsmSlot) (response : Response) (same : slot'.erased = slot.erased) :
    Oblivious (response, system.withSavedSlot env context slot)
      (response, system.erased.withSavedSlot env.erased context.erased slot') := by
  have items : tokenInfoItems slot' = tokenInfoItems slot :=
    show tokenInfoItems slot'.erased = tokenInfoItems slot.erased from congrArg tokenInfoItems same
  refine ⟨rfl, ?_⟩
  simp only [System.withSavedSlot, System.withSlot, System.erased, HsmContext.erased,
    hsmStorageSaveTokenInfo, items, Option.map_some, same]
  cases opened : env.tokenWrite.fopen with
  | false => simp [Env.erased, opened]
  | true => simp [Env.erased, opened]

section Calls

variable (sha256 : Sha256) (env : Env) (system : System)

/-- A PIN is verified without a look at the objects. -/
theorem verify_pin_erased (slot : HsmSlot) (userType : CkUserType) (pin : Bytes) :
    (hsmVerifyPin sha256 slot.erased userType pin).1 = (hsmVerifyPin sha256 slot userType pin).1 ∧
      (hsmVerifyPin sha256 slot.erased userType pin).2 =
        (hsmVerifyPin sha256 slot userType pin).2.erased := by
  have stored (retryCount : Nat) (locked : Bool) :
      slot.erased.storeAttempts userType retryCount locked =
        (slot.storeAttempts userType retryCount locked).erased := by
    unfold HsmSlot.storeAttempts
    split
    · rfl
    · rfl
  have fields : slot.erased.pinFields userType = slot.pinFields userType := rfl
  simp only [hsmVerifyPin, fields, stored]
  repeat' split
  all_goals exact ⟨rfl, rfl⟩

/-- `C_Logout` looks at its session only. -/
theorem logout_oblivious (hSession : CkSessionHandle) :
    Oblivious (callStep sha256 env system (.logout hSession))
      (callStep sha256 env.erased system.erased (.logout hSession)) := by
  rcases get_session_erased system hSession with
    ⟨rv, session, erasedSession⟩ | ⟨found, session, erasedSession⟩
  · simp only [callStep, cLogout, session, erasedSession]
    exact oblivious_unchanged system _
  · simp only [callStep, cLogout, session, erasedSession]
    split
    · exact oblivious_unchanged system _
    · exact oblivious_session system found _ _

/-- `C_Login` looks at the PINs and its session only. -/
theorem login_oblivious (hSession : CkSessionHandle) (userType : CkUserType)
    (pPin : Option Bytes) :
    Oblivious (callStep sha256 env system (.login hSession userType pPin))
      (callStep sha256 env.erased system.erased (.login hSession userType pPin)) := by
  cases pPin with
  | none => exact oblivious_unchanged system _
  | some pin =>
    by_cases unknown : userType ≠ ckuSo ∧ userType ≠ ckuUser
    · simp only [callStep, cLogin, if_pos unknown]
      exact oblivious_unchanged system _
    · rcases get_session_erased system hSession with
        ⟨rv, session, erasedSession⟩ | ⟨found, session, erasedSession⟩
      · simp only [callStep, cLogin, if_neg unknown, session, erasedSession]
        exact oblivious_unchanged system _
      · obtain ⟨verdict, slot⟩ := verify_pin_erased sha256 found.slot userType pin
        simp only [callStep, cLogin, if_neg unknown, session, erasedSession]
        split
        · exact oblivious_unchanged system _
        · split
          · exact oblivious_unchanged system _
          · rw [found_slot_erased found, verdict, slot]
            split
            · exact oblivious_slot system found.context _ _ _ (slot_erased_twice _)
            · apply oblivious_slot
              simp [HsmSlot.erased, Env.erased]

/-- `C_SetPIN` looks at the PINs and its session only. -/
theorem set_pin_oblivious (hSession : CkSessionHandle) (pOldPin pNewPin : Option Bytes) :
    Oblivious (callStep sha256 env system (.setPIN hSession pOldPin pNewPin))
      (callStep sha256 env.erased system.erased (.setPIN hSession pOldPin pNewPin)) := by
  cases pOldPin with
  | none => exact oblivious_unchanged system _
  | some oldPin =>
    cases pNewPin with
    | none => exact oblivious_unchanged system _
    | some newPin =>
      by_cases refused : (newPin.length < hsmMinPinLen || newPin.length > hsmMaxPinLen) = true
      · simp only [callStep, cSetPIN, if_pos refused]
        exact oblivious_unchanged system _
      · have admissible := refused
        simp only [Bool.or_eq_true, decide_eq_true_eq, not_or, not_lt] at admissible
        obtain ⟨longEnough, shortEnough⟩ := admissible
        rcases get_session_erased system hSession with
          ⟨rv, session, erasedSession⟩ | ⟨found, session, erasedSession⟩
        · simp only [callStep, cSetPIN, if_neg refused, session, erasedSession]
          exact oblivious_unchanged system _
        · by_cases nobody : (!found.session.userLoggedIn && !found.session.soLoggedIn) = true
          · simp only [callStep, cSetPIN, if_neg refused, session, erasedSession, if_pos nobody]
            exact oblivious_unchanged system _
          · obtain ⟨verdict, slot⟩ :=
              verify_pin_erased sha256 found.slot found.session.pinOwner oldPin
            by_cases accepted :
                (hsmVerifyPin sha256 found.slot found.session.pinOwner oldPin).1 = .ok
            · have plain := set_pin_replaces sha256 env system hSession oldPin newPin found session
                longEnough shortEnough nobody accepted
              have erased := set_pin_replaces sha256 env.erased system.erased hSession oldPin newPin
                _ erasedSession longEnough shortEnough nobody (verdict.trans accepted)
              simp only [callStep, plain, erased]
              apply oblivious_saved_slot
              rw [found_slot_erased found, slot]
              unfold HsmSlot.pinReplaced
              split
              · simp [HsmSlot.erased]
              · simp [HsmSlot.erased]
            · simp only [callStep, cSetPIN, if_neg refused, session, erasedSession, if_neg nobody]
              rw [found_slot_erased found, verdict, slot]
              simp only [accepted, ne_eq, not_false_eq_true, if_true]
              exact oblivious_slot system found.context _ _ _ (slot_erased_twice _)

/-- `C_InitPIN` looks at its session only. -/
theorem init_pin_oblivious (hSession : CkSessionHandle) (pPin : Option Bytes) :
    Oblivious (callStep sha256 env system (.initPIN hSession pPin))
      (callStep sha256 env.erased system.erased (.initPIN hSession pPin)) := by
  cases pPin with
  | none => exact oblivious_unchanged system _
  | some pin =>
    by_cases refused : (pin.length < hsmMinPinLen || pin.length > hsmMaxPinLen) = true
    · simp only [callStep, cInitPIN, if_pos refused]
      exact oblivious_unchanged system _
    · have admissible := refused
      simp only [Bool.or_eq_true, decide_eq_true_eq, not_or, not_lt] at admissible
      obtain ⟨longEnough, shortEnough⟩ := admissible
      rcases get_session_erased system hSession with
        ⟨rv, session, erasedSession⟩ | ⟨found, session, erasedSession⟩
      · simp only [callStep, cInitPIN, if_neg refused, session, erasedSession]
        exact oblivious_unchanged system _
      · simp only [callStep, cInitPIN, if_neg refused, session, erasedSession,
          set_pin_admissible sha256 _ _ pin longEnough shortEnough]
        split
        · exact oblivious_unchanged system _
        · apply oblivious_saved_slot
          simp [HsmSlot.erased, FoundSession.slot, HsmContext.erased, ckuSo, ckuUser]

/-- `C_InitToken` drops the objects unseen. -/
theorem init_token_oblivious (slotID : CkSlotId) (pPin pLabel : Option Bytes) :
    Oblivious (callStep sha256 env system (.initToken slotID pPin pLabel))
      (callStep sha256 env.erased system.erased (.initToken slotID pPin pLabel)) := by
  cases pPin with
  | none => exact oblivious_unchanged system _
  | some pin =>
    cases pLabel with
    | none => exact oblivious_unchanged system _
    | some label =>
      by_cases refused : (pin.length < hsmMinPinLen || pin.length > hsmMaxPinLen) = true
      · simp only [callStep, cInitToken, if_pos refused]
        exact oblivious_unchanged system _
      · have admissible := refused
        simp only [Bool.or_eq_true, decide_eq_true_eq, not_or, not_lt] at admissible
        obtain ⟨longEnough, shortEnough⟩ := admissible
        cases present : system.gHsmContext with
        | none =>
          have erasedAbsent : system.erased.gHsmContext = none := by
            simp [System.erased, present]
          simp only [callStep, cInitToken, if_neg refused, present, erasedAbsent]
          exact oblivious_unchanged system _
        | some context =>
          have erasedPresent : system.erased.gHsmContext = some context.erased := by
            simp [System.erased, present]
          by_cases valid : slotID < slotCount
          · simp only [callStep,
              init_token_resets sha256 env system slotID pin label context present valid longEnough
                shortEnough,
              init_token_resets sha256 env.erased system.erased slotID pin label context.erased
                erasedPresent valid longEnough shortEnough]
            apply oblivious_saved_slot
            simp [HsmSlot.erased, HsmContext.erased, HsmSlot.reinitialized, HsmSlot.tokenReset,
              HsmSlot.sessionsClosed]
          · simp only [callStep, cInitToken, if_neg refused, present, erasedPresent,
              if_pos (Nat.le_of_not_lt valid)]
            exact oblivious_unchanged system _

/-- Creating the directories does not depend on the key files. -/
theorem storage_init_erased (storage : Storage) :
    hsmStorageInit env.erased { storage with keyFiles := ∅ } =
      ((hsmStorageInit env storage).1,
        { (hsmStorageInit env storage).2 with keyFiles := ∅ }) := by
  unfold hsmStorageInit
  change (if !storage.storageDir && !env.mkdirStorage then _ else _) = _
  split
  · rfl
  · change (if !storage.keyDir && !env.mkdirKeys then _ else _) = _
    simp only
    split
    · rfl
    · rfl

/-- `C_Initialize` loads no object. -/
theorem initialize_oblivious :
    Oblivious (callStep sha256 env system .initializeLibrary)
      (callStep sha256 env.erased system.erased .initializeLibrary) := by
  cases present : system.gHsmContext with
  | some context =>
    have erasedPresent : system.erased.gHsmContext = some context.erased := by
      simp [System.erased, present]
    simp only [callStep, cInitialize, present, erasedPresent]
    exact oblivious_unchanged system _
  | none =>
    have erasedAbsent : system.erased.gHsmContext = none := by
      simp [System.erased, present]
    have made := storage_init_erased env system.storage
    have storageSame : system.erased.storage = { system.storage with keyFiles := ∅ } := rfl
    have memory : env.erased.calloc = env.calloc := rfl
    have readable : env.erased.tokenRead = env.tokenRead := rfl
    simp only [callStep, cInitialize, present, erasedAbsent, storageSame, made, memory]
    split
    · exact ⟨rfl, rfl⟩
    · split
      · exact ⟨rfl, rfl⟩
      · refine ⟨rfl, ?_⟩
        have slot (storage : Storage) :
            hsmInitSlot env.tokenRead { storage with keyFiles := ∅ } =
              hsmInitSlot env.tokenRead storage := rfl
        simp [System.erased, readable, slot]

/-- `C_Finalize` drops the objects unseen. -/
theorem finalize_oblivious (pReserved : Bool) :
    Oblivious (callStep sha256 env system (.finalizeLibrary pReserved))
      (callStep sha256 env.erased system.erased (.finalizeLibrary pReserved)) := by
  cases present : system.gHsmContext with
  | none =>
    have erasedAbsent : system.erased.gHsmContext = none := by
      simp [System.erased, present]
    simp only [callStep, cFinalize, present, erasedAbsent]
    split
    · exact oblivious_unchanged system _
    · exact oblivious_unchanged system _
  | some context =>
    have erasedPresent : system.erased.gHsmContext = some context.erased := by
      simp [System.erased, present]
    simp only [callStep, cFinalize, present, erasedPresent]
    split
    · exact oblivious_unchanged system _
    · exact ⟨rfl, rfl⟩

/-- `C_OpenSession` looks at the sessions only. -/
theorem open_session_oblivious (slotID : CkSlotId) (flags : CkFlags) (phSession : Bool) :
    Oblivious (callStep sha256 env system (.openSession slotID flags phSession))
      (callStep sha256 env.erased system.erased (.openSession slotID flags phSession)) := by
  have memory : env.erased.calloc = env.calloc := rfl
  cases present : system.gHsmContext with
  | none =>
    have erasedAbsent : system.erased.gHsmContext = none := by
      simp [System.erased, present]
    simp only [callStep, cOpenSession, present, erasedAbsent]
    split
    · exact oblivious_unchanged system _
    · exact oblivious_unchanged system _
  | some context =>
    have erasedPresent : system.erased.gHsmContext = some context.erased := by
      simp [System.erased, present]
    have sessions : context.erased.slot.sessions = context.slot.sessions := rfl
    have sessionCount : context.erased.slot.sessionCount = context.slot.sessionCount := rfl
    simp only [callStep, cOpenSession, hsmCreateSession, present, erasedPresent, sessions,
      sessionCount, memory]
    split
    · exact oblivious_unchanged system _
    · split
      · exact oblivious_unchanged system _
      · split
        · exact oblivious_unchanged system _
        · split
          · exact oblivious_unchanged system _
          · split
            · exact oblivious_unchanged system _
            · split
              · exact oblivious_unchanged system _
              · refine ⟨rfl, ?_⟩
                simp [System.withSlot, System.erased, HsmContext.erased, HsmSlot.erased, Env.erased]

/-- `C_CloseSession` looks at the sessions only. -/
theorem close_session_oblivious (hSession : CkSessionHandle) :
    Oblivious (callStep sha256 env system (.closeSession hSession))
      (callStep sha256 env.erased system.erased (.closeSession hSession)) := by
  rcases get_session_erased system hSession with
    ⟨rv, session, erasedSession⟩ | ⟨found, session, erasedSession⟩
  · simp only [callStep, cCloseSession, hsmDestroySession, session, erasedSession]
    exact oblivious_unchanged system _
  · simp only [callStep, cCloseSession, hsmDestroySession, session, erasedSession]
    apply oblivious_slot
    simp [HsmSlot.erased, FoundSession.slot, HsmContext.erased]

/-- `C_CloseAllSessions` looks at the sessions only. -/
theorem close_all_sessions_oblivious (slotID : CkSlotId) :
    Oblivious (callStep sha256 env system (.closeAllSessions slotID))
      (callStep sha256 env.erased system.erased (.closeAllSessions slotID)) := by
  cases present : system.gHsmContext with
  | none =>
    have erasedAbsent : system.erased.gHsmContext = none := by
      simp [System.erased, present]
    simp only [callStep, cCloseAllSessions, present, erasedAbsent]
    exact oblivious_unchanged system _
  | some context =>
    have erasedPresent : system.erased.gHsmContext = some context.erased := by
      simp [System.erased, present]
    simp only [callStep, cCloseAllSessions, present, erasedPresent]
    split
    · exact oblivious_unchanged system _
    · rw [close_sessions_all system context present,
        close_sessions_all system.erased context.erased erasedPresent]
      apply oblivious_slot
      simp [HsmSlot.erased, HsmContext.erased, HsmSlot.sessionsClosed]

/-- The information functions read nothing that is erased. -/
theorem get_info_erased (pInfo : Bool) : cGetInfo system.erased pInfo = cGetInfo system pInfo := by
  cases present : system.gHsmContext with
  | none => simp [cGetInfo, System.erased, present]
  | some context => simp [cGetInfo, System.erased, present]

/-- The slots are listed without a look at the objects. -/
theorem get_slot_list_erased (tokenPresent pSlotList : Bool) (pulCount : Option CkUlong) :
    cGetSlotList system.erased tokenPresent pSlotList pulCount =
      cGetSlotList system tokenPresent pSlotList pulCount := by
  cases present : system.gHsmContext with
  | none => simp [cGetSlotList, System.erased, present]
  | some context =>
    have erasedPresent : system.erased.gHsmContext = some context.erased := by
      simp [System.erased, present]
    simp only [cGetSlotList, present, erasedPresent]
    rfl

/-- The slot is described without a look at the objects. -/
theorem get_slot_info_erased (slotID : CkSlotId) (pInfo : Bool) :
    cGetSlotInfo system.erased slotID pInfo = cGetSlotInfo system slotID pInfo := by
  cases present : system.gHsmContext with
  | none => simp [cGetSlotInfo, System.erased, present]
  | some context =>
    have erasedPresent : system.erased.gHsmContext = some context.erased := by
      simp [System.erased, present]
    simp only [cGetSlotInfo, present, erasedPresent]
    rfl

/-- The token is described without a look at the objects. -/
theorem get_token_info_erased (slotID : CkSlotId) (pInfo : Bool) :
    cGetTokenInfo env.erased system.erased slotID pInfo =
      cGetTokenInfo env system slotID pInfo := by
  cases present : system.gHsmContext with
  | none => simp [cGetTokenInfo, System.erased, present]
  | some context =>
    have erasedPresent : system.erased.gHsmContext = some context.erased := by
      simp [System.erased, present]
    simp only [cGetTokenInfo, present, erasedPresent]
    rfl

/-- The mechanisms are listed without a look at the objects. -/
theorem get_mechanism_list_erased (slotID : CkSlotId) (pMechanismList : Bool)
    (pulCount : Option CkUlong) :
    cGetMechanismList system.erased slotID pMechanismList pulCount =
      cGetMechanismList system slotID pMechanismList pulCount := by
  cases present : system.gHsmContext with
  | none => simp [cGetMechanismList, System.erased, present]
  | some context => simp [cGetMechanismList, System.erased, present]

/-- A mechanism is described without a look at the objects. -/
theorem get_mechanism_info_erased (slotID : CkSlotId) (type : CkMechanismType) (pInfo : Bool) :
    cGetMechanismInfo system.erased slotID type pInfo =
      cGetMechanismInfo system slotID type pInfo := by
  cases present : system.gHsmContext with
  | none => simp [cGetMechanismInfo, System.erased, present]
  | some context => simp [cGetMechanismInfo, System.erased, present]

/-- A session is described without a look at the objects. -/
theorem get_session_info_erased (hSession : CkSessionHandle) (pInfo : Bool) :
    cGetSessionInfo system.erased hSession pInfo = cGetSessionInfo system hSession pInfo := by
  rcases get_session_erased system hSession with
    ⟨rv, session, erasedSession⟩ | ⟨found, session, erasedSession⟩
  · simp only [cGetSessionInfo, session, erasedSession]
  · simp only [cGetSessionInfo, session, erasedSession]

/-- Random bytes are drawn without a look at the objects. -/
theorem generate_random_erased (hSession : CkSessionHandle) (randomData : Bool)
    (ulRandomLen : CkUlong) :
    cGenerateRandom env.erased system.erased hSession randomData ulRandomLen =
      cGenerateRandom env system hSession randomData ulRandomLen := by
  have bytes : env.erased.randBytes = env.randBytes := rfl
  rcases get_session_erased system hSession with
    ⟨rv, session, erasedSession⟩ | ⟨found, session, erasedSession⟩
  · simp only [cGenerateRandom, session, erasedSession]
  · simp only [cGenerateRandom, session, erasedSession, bytes]

/-! ### Objects -/

/-- A search records the same handles. -/
theorem find_objects_erased (slot : HsmSlot) (session : HsmSession) :
    hsmFindObjects slot.erased session = hsmFindObjects slot session := by
  have handles : (live slot.erased.objects).map HsmObject.handle =
      (live slot.objects).map HsmObject.handle := by
    rw [show slot.erased.objects = mapped HsmObject.erased slot.objects from rfl, live_mapped,
      List.map_map]
    rfl
  unfold hsmFindObjects
  rw [List.map_take, List.map_take, handles]

/-- `C_GetAttributeValue` shows no private component. -/
theorem get_attribute_value_oblivious (hSession : CkSessionHandle) (hObject : CkObjectHandle)
    (pTemplate : Option (List CkAttribute)) :
    Oblivious (callStep sha256 env system (.getAttributeValue hSession hObject pTemplate))
      (callStep sha256 env.erased system.erased
        (.getAttributeValue hSession hObject pTemplate)) :=
  oblivious_of_alike (erasing.get_attribute_value sha256 env env.erased system hSession hObject
    pTemplate fun found _ _ => same_lookup_erased found.slot hObject)

/-- `C_SetAttributeValue` changes the label only. -/
theorem set_attribute_value_oblivious (hSession : CkSessionHandle) (hObject : CkObjectHandle)
    (pTemplate : Option (List CkAttribute)) :
    Oblivious (callStep sha256 env system (.setAttributeValue hSession hObject pTemplate))
      (callStep sha256 env.erased system.erased
        (.setAttributeValue hSession hObject pTemplate)) :=
  oblivious_of_alike (erasing.set_attribute_value sha256 env env.erased system hSession hObject
    pTemplate fun found _ _ => same_lookup_erased found.slot hObject)

/-- A search compares no private component. -/
theorem find_objects_init_oblivious (hSession : CkSessionHandle) (template : List CkAttribute) :
    Oblivious (callStep sha256 env system (.findObjectsInit hSession template))
      (callStep sha256 env.erased system.erased (.findObjectsInit hSession template)) :=
  oblivious_of_alike (erasing.find_objects_init sha256 env env.erased system hSession template
    fun found _ _ => find_objects_erased found.slot found.session)

/-- `C_FindObjects` hands out what its session recorded. -/
theorem find_objects_oblivious (hSession : CkSessionHandle) (phObject : Bool)
    (ulMaxObjectCount : CkUlong) (pulObjectCount : Bool) :
    Oblivious
      (callStep sha256 env system (.findObjects hSession phObject ulMaxObjectCount pulObjectCount))
      (callStep sha256 env.erased system.erased
        (.findObjects hSession phObject ulMaxObjectCount pulObjectCount)) :=
  oblivious_of_alike (erasing.find_objects sha256 env env.erased system hSession phObject
    ulMaxObjectCount pulObjectCount)

/-- `C_FindObjectsFinal` ends the search in its session. -/
theorem find_objects_final_oblivious (hSession : CkSessionHandle) :
    Oblivious (callStep sha256 env system (.findObjectsFinal hSession))
      (callStep sha256 env.erased system.erased (.findObjectsFinal hSession)) := by
  rcases get_session_erased system hSession with
    ⟨rv, session, erasedSession⟩ | ⟨found, session, erasedSession⟩
  · simp only [callStep, cFindObjectsFinal, session, erasedSession]
    exact oblivious_unchanged system _
  · simp only [callStep, cFindObjectsFinal, session, erasedSession]
    split
    · exact oblivious_unchanged system _
    · exact oblivious_session system found _ _

/-- `C_DestroyObject` looks for the handle only. -/
theorem destroy_object_oblivious (hSession : CkSessionHandle) (hObject : CkObjectHandle) :
    Oblivious (callStep sha256 env system (.destroyObject hSession hObject))
      (callStep sha256 env.erased system.erased (.destroyObject hSession hObject)) :=
  oblivious_of_alike (erasing.destroy_object sha256 env env.erased system hSession hObject
    fun found _ => same_lookup_erased found.slot hObject)

/-- `C_CreateObject` looks for a free entry only. -/
theorem create_object_oblivious (hSession : CkSessionHandle)
    (pTemplate : Option (List CkAttribute)) (phObject : Bool) :
    Oblivious (callStep sha256 env system (.createObject hSession pTemplate phObject))
      (callStep sha256 env.erased system.erased (.createObject hSession pTemplate phObject)) := by
  have memory : env.erased.calloc = env.calloc := rfl
  cases pTemplate with
  | none => exact oblivious_unchanged system _
  | some template =>
    cases phObject with
    | false => exact oblivious_unchanged system _
    | true =>
      rcases get_session_erased system hSession with
        ⟨rv, session, erasedSession⟩ | ⟨found, session, erasedSession⟩
      · simp only [callStep, cCreateObject, session, erasedSession]
        exact oblivious_unchanged system _
      · have count : (FoundSession.slot
            ⟨found.context.erased, found.index, found.session⟩).objectCount =
            found.slot.objectCount := rfl
        have free : firstFree (FoundSession.slot
            ⟨found.context.erased, found.index, found.session⟩).objects =
            firstFree found.slot.objects := first_free_mapped _ _
        simp only [callStep, cCreateObject, session, erasedSession, hsmCreateObject, count, free,
          memory]
        split
        · exact oblivious_unchanged system _
        · split
          · exact oblivious_unchanged system _
          · split
            · exact oblivious_unchanged system _
            · refine ⟨rfl, ?_⟩
              simp [System.erased, System.withSlot, HsmContext.erased, HsmSlot.erased,
                FoundSession.slot, save_object_frame]

/-- `C_SignInit` looks at the class and the capability of the key. -/
theorem sign_init_oblivious (hSession : CkSessionHandle) (pMechanism : Option CkMechanismType)
    (hKey : CkObjectHandle) :
    Oblivious (callStep sha256 env system (.signInit hSession pMechanism hKey))
      (callStep sha256 env.erased system.erased (.signInit hSession pMechanism hKey)) :=
  oblivious_of_alike (erasing.sign_init sha256 env env.erased system hSession pMechanism hKey
    fun found _ _ _ => same_lookup_erased found.slot hKey)

/-- `C_VerifyInit` looks at the class of the key. -/
theorem verify_init_oblivious (hSession : CkSessionHandle) (pMechanism : Option CkMechanismType)
    (hKey : CkObjectHandle) :
    Oblivious (callStep sha256 env system (.verifyInit hSession pMechanism hKey))
      (callStep sha256 env.erased system.erased (.verifyInit hSession pMechanism hKey)) := by
  cases pMechanism with
  | none => exact oblivious_unchanged system _
  | some mechanism =>
    rcases get_session_erased system hSession with
      ⟨rv, session, erasedSession⟩ | ⟨found, session, erasedSession⟩
    · simp only [callStep, cVerifyInit, session, erasedSession]
      exact oblivious_unchanged system _
    · rcases get_object_erased found.slot hKey with
        ⟨rv, lookup, erasedLookup⟩ | ⟨index, object, lookup, erasedLookup⟩
      · simp only [callStep, cVerifyInit, session, erasedSession, lookup]
        rw [found_slot_erased found, erasedLookup]
        split
        · exact oblivious_unchanged system _
        · exact oblivious_unchanged system _
      · have type : object.erased.type = object.type := rfl
        simp only [callStep, cVerifyInit, session, erasedSession, lookup]
        rw [found_slot_erased found, erasedLookup]
        simp only [type]
        repeat' split
        all_goals first
          | exact oblivious_unchanged system _
          | exact oblivious_session system found _ _

/-- `C_Verify` is not supported for any key. -/
theorem verify_oblivious (hSession : CkSessionHandle) (pData pSignature : Option Bytes) :
    Oblivious (callStep sha256 env system (.verify hSession pData pSignature))
      (callStep sha256 env.erased system.erased (.verify hSession pData pSignature)) := by
  cases pData with
  | none => exact oblivious_unchanged system _
  | some data =>
    cases pSignature with
    | none => exact oblivious_unchanged system _
    | some signature =>
      rcases get_session_erased system hSession with
        ⟨rv, session, erasedSession⟩ | ⟨found, session, erasedSession⟩
      · simp only [callStep, cVerify, session, erasedSession]
        exact oblivious_unchanged system _
      · simp only [callStep, cVerify, session, erasedSession]
        split
        · exact oblivious_unchanged system _
        · rw [found_slot_erased found]
          rcases get_object_erased found.slot found.session.operation.keyHandle with
            ⟨rv, lookup, erasedLookup⟩ | ⟨index, object, lookup, erasedLookup⟩
          · rw [lookup, erasedLookup]
            exact oblivious_session system found _ _
          · rw [lookup, erasedLookup]
            exact oblivious_session system found _ _

/-- Whatever `C_Sign` answers, it leaves the same state. -/
theorem sign_state_erased (hSession : CkSessionHandle) (pData : Option Bytes)
    (pSignature : Bool) (pulSignatureLen : Option CkUlong) :
    (cSign env.erased system.erased hSession pData pSignature pulSignatureLen).2.2.erased =
      (cSign env system hSession pData pSignature pulSignatureLen).2.2.erased := by
  cases pData with
  | none => exact system_erased_twice system
  | some data =>
    cases pulSignatureLen with
    | none => exact system_erased_twice system
    | some signatureLen =>
      rcases get_session_erased system hSession with
        ⟨rv, session, erasedSession⟩ | ⟨found, session, erasedSession⟩
      · simp only [cSign, session, erasedSession]
        exact system_erased_twice system
      · simp only [cSign, session, erasedSession]
        split
        · exact system_erased_twice system
        · rw [found_slot_erased found]
          rcases get_object_erased found.slot found.session.operation.keyHandle with
            ⟨rv, lookup, erasedLookup⟩ | ⟨index, object, lookup, erasedLookup⟩
          · rw [lookup, erasedLookup]
            exact (oblivious_session system found _ ⟨.ok, .nothing⟩).2
          · rw [lookup, erasedLookup]
            exact (oblivious_session system found _ ⟨.ok, .nothing⟩).2

/-! ### Key pairs -/

/-- With the public parts of a key the generators build halves that agree after
erasing, and fail with the same error. -/
theorem generate_halves_erased (mechanism : CkMechanismType)
    (publicTemplate privateTemplate : List CkAttribute) :
    (∃ rv, generateHalves env mechanism publicTemplate privateTemplate = .error rv ∧
        generateHalves env.erased mechanism publicTemplate privateTemplate = .error rv) ∨
      ∃ pubObj privObj pubObj' privObj',
        generateHalves env mechanism publicTemplate privateTemplate = .ok (pubObj, privObj) ∧
        generateHalves env.erased mechanism publicTemplate privateTemplate =
          .ok (pubObj', privObj') ∧
        pubObj'.erased = pubObj.erased ∧ privObj'.erased = privObj.erased := by
  unfold generateHalves
  simp only
  split
  · unfold hsmGenerateKeyPairRsa
    have keygen : env.erased.keygenRsa (requestedModulusBits publicTemplate) =
      (env.keygenRsa (requestedModulusBits publicTemplate)).map RsaComponents.erased := rfl
    split
    · exact Or.inl ⟨_, rfl, rfl⟩
    · rw [keygen]
      cases env.keygenRsa (requestedModulusBits publicTemplate) with
      | none => exact Or.inl ⟨_, rfl, rfl⟩
      | some key => exact Or.inr ⟨_, _, _, _, rfl, rfl, rfl, rfl⟩
  · split
    · unfold hsmGenerateKeyPairEc
      have keygen : env.erased.keygenEc (requestedCurveNid publicTemplate) =
        (env.keygenEc (requestedCurveNid publicTemplate)).map EcComponents.erased := rfl
      split
      · exact Or.inl ⟨_, rfl, rfl⟩
      · rw [keygen]
        cases env.keygenEc (requestedCurveNid publicTemplate) with
        | none => exact Or.inl ⟨_, rfl, rfl⟩
        | some key =>
          have sameMalloc : env.erased.malloc = env.malloc := rfl
          rw [sameMalloc]
          cases getEcParamsFromNid env.malloc (requestedCurveNid publicTemplate) with
          | error rv => exact Or.inl ⟨_, rfl, rfl⟩
          | ok ecParams => exact Or.inr ⟨_, _, _, _, rfl, rfl, rfl, rfl⟩
    · exact Or.inl ⟨_, rfl, rfl⟩

/-- Inserting halves that agree after erasing. -/
theorem insert_key_pair_erased (context : HsmContext) (pubObj privObj pubObj' privObj' : HsmObject)
    (samePub : pubObj'.erased = pubObj.erased) (samePriv : privObj'.erased = privObj.erased) :
    Oblivious
      (⟨(insertKeyPair env system context pubObj privObj).1,
          .keyPair (insertKeyPair env system context pubObj privObj).2.1⟩,
        (insertKeyPair env system context pubObj privObj).2.2)
      (⟨(insertKeyPair env.erased system.erased context.erased pubObj' privObj').1,
          .keyPair (insertKeyPair env.erased system.erased context.erased pubObj' privObj').2.1⟩,
        (insertKeyPair env.erased system.erased context.erased pubObj' privObj').2.2) := by
  have free : freeIndices context.erased.slot.objects = freeIndices context.slot.objects :=
    free_indices_mapped _ _
  have renamed (object object' : HsmObject) (same : object'.erased = object.erased)
      (handle : CkObjectHandle) : ({ object' with handle := handle } : HsmObject).erased =
        ({ object with handle := handle } : HsmObject).erased :=
    congrArg (fun erased : HsmObject => { erased with handle := handle }) same
  unfold insertKeyPair
  dsimp only
  rw [free]
  split
  · refine ⟨rfl, ?_⟩
    simp [System.erased, System.withSlot, HsmContext.erased, HsmSlot.erased, save_object_frame,
      renamed pubObj pubObj' samePub, renamed privObj privObj' samePriv]
  · exact oblivious_unchanged system _

/-- `C_GenerateKeyPair` answers the same whatever private components it is given. -/
theorem generate_key_pair_oblivious (hSession : CkSessionHandle)
    (pMechanism : Option CkMechanismType) (publicTemplate privateTemplate : List CkAttribute)
    (phPublicKey phPrivateKey : Bool) :
    Oblivious
      (callStep sha256 env system (.generateKeyPair hSession pMechanism publicTemplate
        privateTemplate phPublicKey phPrivateKey))
      (callStep sha256 env.erased system.erased (.generateKeyPair hSession pMechanism publicTemplate
        privateTemplate phPublicKey phPrivateKey)) := by
  have memory : env.erased.calloc = env.calloc := rfl
  match pMechanism, phPublicKey, phPrivateKey with
  | none, _, _ => exact oblivious_unchanged system _
  | some _, false, _ => exact oblivious_unchanged system _
  | some _, true, false => exact oblivious_unchanged system _
  | some mechanism, true, true =>
    rcases get_session_erased system hSession with
      ⟨rv, session, erasedSession⟩ | ⟨found, session, erasedSession⟩
    · simp only [callStep, cGenerateKeyPair, session, erasedSession]
      exact oblivious_unchanged system _
    · simp only [callStep, cGenerateKeyPair, session, erasedSession, memory]
      split
      · exact oblivious_unchanged system _
      · split
        · exact oblivious_unchanged system _
        · rcases generate_halves_erased env mechanism publicTemplate privateTemplate with
            ⟨rv, failed, erasedFailed⟩ |
              ⟨pubObj, privObj, pubObj', privObj', generated, erasedGenerated, samePub, samePriv⟩
          · rw [failed, erasedFailed]
            exact oblivious_unchanged system _
          · rw [generated, erasedGenerated]
            have inserted := insert_key_pair_erased env system found.context pubObj privObj pubObj'
              privObj' samePub samePriv
            dsimp only
            generalize insertKeyPair env system found.context pubObj privObj = plain at inserted ⊢
            generalize insertKeyPair env.erased system.erased found.context.erased pubObj'
              privObj' = erased at inserted ⊢
            exact inserted

/-- Every call other than `C_Sign` answers the same on the erased process, and no
call lets the erased process drift away. -/
theorem call_oblivious (call : Call) :
    ((∀ hSession pData pSignature pulSignatureLen,
        call ≠ .sign hSession pData pSignature pulSignatureLen) →
      (callStep sha256 env.erased system.erased call).1 = (callStep sha256 env system call).1) ∧
    (callStep sha256 env.erased system.erased call).2.erased =
      (callStep sha256 env system call).2.erased := by
  have answered {plain erased : Response × System} (oblivious : Oblivious plain erased)
      (named : Prop) : (named → erased.1 = plain.1) ∧ erased.2.erased = plain.2.erased :=
    ⟨fun _ => oblivious.1, oblivious.2⟩
  cases call with
  | sign hSession pData pSignature pulSignatureLen =>
    constructor
    · intro different
      exact absurd rfl (different hSession pData pSignature pulSignatureLen)
    · exact sign_state_erased env system hSession pData pSignature pulSignatureLen
  | initializeLibrary => exact answered (initialize_oblivious sha256 env system) _
  | finalizeLibrary pReserved => exact answered (finalize_oblivious sha256 env system pReserved) _
  | initToken slotID pPin pLabel =>
    exact answered (init_token_oblivious sha256 env system slotID pPin pLabel) _
  | initPIN hSession pPin => exact answered (init_pin_oblivious sha256 env system hSession pPin) _
  | setPIN hSession pOldPin pNewPin =>
    exact answered (set_pin_oblivious sha256 env system hSession pOldPin pNewPin) _
  | openSession slotID flags phSession =>
    exact answered (open_session_oblivious sha256 env system slotID flags phSession) _
  | closeSession hSession => exact answered (close_session_oblivious sha256 env system hSession) _
  | closeAllSessions slotID =>
    exact answered (close_all_sessions_oblivious sha256 env system slotID) _
  | login hSession userType pPin =>
    exact answered (login_oblivious sha256 env system hSession userType pPin) _
  | logout hSession => exact answered (logout_oblivious sha256 env system hSession) _
  | createObject hSession pTemplate phObject =>
    exact answered (create_object_oblivious sha256 env system hSession pTemplate phObject) _
  | destroyObject hSession hObject =>
    exact answered (destroy_object_oblivious sha256 env system hSession hObject) _
  | getAttributeValue hSession hObject pTemplate =>
    exact answered (get_attribute_value_oblivious sha256 env system hSession hObject pTemplate) _
  | setAttributeValue hSession hObject pTemplate =>
    exact answered (set_attribute_value_oblivious sha256 env system hSession hObject pTemplate) _
  | findObjectsInit hSession pTemplate =>
    exact answered (find_objects_init_oblivious sha256 env system hSession pTemplate) _
  | findObjects hSession phObject ulMaxObjectCount pulObjectCount =>
    exact answered (find_objects_oblivious sha256 env system hSession phObject ulMaxObjectCount
      pulObjectCount) _
  | findObjectsFinal hSession =>
    exact answered (find_objects_final_oblivious sha256 env system hSession) _
  | signInit hSession pMechanism hKey =>
    exact answered (sign_init_oblivious sha256 env system hSession pMechanism hKey) _
  | verifyInit hSession pMechanism hKey =>
    exact answered (verify_init_oblivious sha256 env system hSession pMechanism hKey) _
  | verify hSession pData pSignature =>
    exact answered (verify_oblivious sha256 env system hSession pData pSignature) _
  | generateKeyPair hSession pMechanism publicTemplate privateTemplate phPublicKey phPrivateKey =>
    exact answered (generate_key_pair_oblivious sha256 env system hSession pMechanism publicTemplate
      privateTemplate phPublicKey phPrivateKey) _
  | getInfo pInfo =>
    have same := get_info_erased system pInfo
    exact ⟨fun _ => by simp only [callStep, same], system_erased_twice system⟩
  | getFunctionList ppFunctionList => exact answered (oblivious_unchanged system _) _
  | getSlotList tokenPresent pSlotList pulCount =>
    have same := get_slot_list_erased system tokenPresent pSlotList pulCount
    exact ⟨fun _ => by simp only [callStep, same], system_erased_twice system⟩
  | getSlotInfo slotID pInfo =>
    have same := get_slot_info_erased system slotID pInfo
    exact ⟨fun _ => by simp only [callStep, same], system_erased_twice system⟩
  | getTokenInfo slotID pInfo =>
    have same := get_token_info_erased env system slotID pInfo
    exact ⟨fun _ => by simp only [callStep, same], system_erased_twice system⟩
  | getMechanismList slotID pMechanismList pulCount =>
    have same := get_mechanism_list_erased system slotID pMechanismList pulCount
    exact ⟨fun _ => by simp only [callStep, same], system_erased_twice system⟩
  | getMechanismInfo slotID type pInfo =>
    have same := get_mechanism_info_erased system slotID type pInfo
    exact ⟨fun _ => by simp only [callStep, same], system_erased_twice system⟩
  | getSessionInfo hSession pInfo =>
    have same := get_session_info_erased system hSession pInfo
    exact ⟨fun _ => by simp only [callStep, same], system_erased_twice system⟩
  | generateRandom hSession randomData ulRandomLen =>
    have same := generate_random_erased env system hSession randomData ulRandomLen
    exact ⟨fun _ => by simp only [callStep, same], system_erased_twice system⟩
  | seedRandom => exact answered (oblivious_unchanged system _) _
  | notSupported => exact answered (oblivious_unchanged system _) _
  | notParallel => exact answered (oblivious_unchanged system _) _

end Calls

/-! ## Two runs -/

/-- The same call with the same surroundings, except for the private parts of the
keys generated and for the signatures made. -/
def SameButPrivate : Event → Event → Prop
  | .call call env, .call call' env' => call = call' ∧ env.erased = env'.erased
  | .newProcess, .newProcess => True
  | _, _ => False

/-- The call asks for a signature. -/
def Event.isSign : Event → Bool
  | .call (.sign _ _ _ _) _ => true
  | _ => false

/-- One event on two processes that agree after erasing. -/
theorem event_oblivious (sha256 : Sha256) (left right : System) (event event' : Event)
    (same : left.erased = right.erased) (matching : SameButPrivate event event') :
    (event.isSign = false → (step sha256 left event).1 = (step sha256 right event').1) ∧
      (step sha256 left event).2.erased = (step sha256 right event').2.erased := by
  cases event with
  | newProcess =>
    cases event' with
    | call call' env' => exact matching.elim
    | newProcess =>
      have answer (system : System) : (step sha256 system .newProcess).1 = ⟨.ok, .nothing⟩ := rfl
      have booted (system : System) :
          (step sha256 system .newProcess).2.erased = bootProcess system.erased.storage := rfl
      constructor
      · intro _
        rw [answer left, answer right]
      · rw [booted left, booted right, same]
  | call call env =>
    cases event' with
    | newProcess => exact matching.elim
    | call call' env' =>
      obtain ⟨sameCall, surroundings⟩ : call = call' ∧ env.erased = env'.erased := matching
      subst sameCall
      obtain ⟨leftAnswer, leftState⟩ := call_oblivious sha256 env left call
      obtain ⟨rightAnswer, rightState⟩ := call_oblivious sha256 env' right call
      rw [same, surroundings] at leftAnswer leftState
      constructor
      · intro unsigned
        have different : ∀ hSession pData pSignature pulSignatureLen,
            call ≠ .sign hSession pData pSignature pulSignatureLen := by
          rintro hSession pData pSignature pulSignatureLen rfl
          cases unsigned
        exact (leftAnswer different).symm.trans (rightAnswer different)
      · exact leftState.symm.trans rightState

/-- Two runs of the same calls whose generators agree on the public parts of all
keys give the same answers to every call other than `C_Sign`. -/
theorem private_keys_never_answered (sha256 : Sha256) (left right : System)
    (events events' : List Event) (same : left.erased = right.erased)
    (matching : List.Forall₂ SameButPrivate events events') :
    List.Forall₂ (fun event answers => event.isSign = false → answers.1 = answers.2) events
      ((Runs.answers (step sha256) left events).zip (Runs.answers (step sha256) right events')) :=
  (Runs.lockstep (step sha256) (step sha256) (fun left right => left.erased = right.erased)
    SameButPrivate (fun event answer answer' => event.isSign = false → answer = answer')
    (fun left right event event' => event_oblivious sha256 left right event event')
    left right events events' same matching).1

/-- Generate a key pair with the given scalar, read the private half, and sign. -/
def keyPairRun (scalar : UInt8) : List Event :=
  tokenSetUp ++
    [.call (.generateKeyPair 1 (some ckmEcKeyPairGen) [] [] true true) (calmEnv scalar),
      .call (.getAttributeValue 1 (objectHandlePrivateKeyBase + 2)
        (some [⟨ckaKeyType, some (Bytes.littleEndian 8 0), 8⟩])) (calmEnv scalar),
      .call (.signInit 1 (some ckmEcdsa) (objectHandlePrivateKeyBase + 2)) (calmEnv scalar),
      .call (.sign 1 (some [0x6d]) true (some 72)) (calmEnv scalar)]

theorem different_scalars_same_answers :
    List.Forall₂ (fun event answers => event.isSign = false → answers.1 = answers.2)
      (keyPairRun 1)
      ((Runs.answers (step pinSha256) (bootProcess freshStorage) (keyPairRun 1)).zip
        (Runs.answers (step pinSha256) (bootProcess freshStorage) (keyPairRun 2))) := by
  have setUp : List.Forall₂ SameButPrivate tokenSetUp tokenSetUp := by
    refine List.forall₂_same.mpr ?_
    intro event _
    cases event with
    | newProcess => trivial
    | call call env => exact ⟨rfl, rfl⟩
  have use : List.Forall₂ SameButPrivate (keyPairRun 1) (keyPairRun 2) :=
    List.rel_append setUp
      (.cons ⟨rfl, rfl⟩ (.cons ⟨rfl, rfl⟩ (.cons ⟨rfl, rfl⟩ (.cons ⟨rfl, rfl⟩ .nil))))
  exact private_keys_never_answered pinSha256 (bootProcess freshStorage) (bootProcess freshStorage)
    (keyPairRun 1) (keyPairRun 2) rfl use

end PstHsm
