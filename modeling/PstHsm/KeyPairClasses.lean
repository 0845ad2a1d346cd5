import PstHsm.Durability
import PstHsm.KeyPairTemplates

/-!
# The classes of a key pair

The class of each half is set before its template is parsed, and an entry of the
template can overwrite it. Four later places look at it again: the handle generator
takes it from the call, the two initializing functions and the writer of the record
take it from the object. They agree exactly when the last class each template names,
narrowed to the enumeration, is that of the half. What they look at is the object behind
the handle, which is the new one unless a live object before it has come to the same number.
-/

namespace PstHsm

open Tables LastWrites

/-! ## What is expected of a pair -/

/-- The parts of a record that only a private key has. -/
def privateItems (object : HsmObject) : List Bytes :=
  if object.keyType = keyTypeRsa then
    sizedItems object.keyData.rsa.privateExponent ++ sizedItems object.keyData.rsa.prime1 ++
      sizedItems object.keyData.rsa.prime2 ++ sizedItems object.keyData.rsa.exponent1 ++
      sizedItems object.keyData.rsa.exponent2 ++ sizedItems object.keyData.rsa.coefficient
  else if object.keyType = keyTypeEc then sizedItems object.keyData.ec.ecPrivate
  else []

/-- The handle is one of those set aside for the class. -/
def InHandleRange (type : Nat) (handle : CkObjectHandle) : Prop :=
  handleBase type ≤ handle ∧ handle < handleBase type + handleRange

/-- The object behind the handle is the new one, at an entry that was free. -/
def Behind (before after : System) (handle : CkObjectHandle) (object : HsmObject) : Prop :=
  ∀ hSession found, hsmGetSession after hSession = .ok found →
    ∃ index, before.objects index = none ∧ hsmGetObject found.slot handle = .ok (index, object)

/-- The objects behind the handles are the new ones, and a public and a private key to every
function that asks: the initializing functions, the record when it is written whole, and the
ranges of handles while the counter is within them. -/
structure PairClassed (env : Env) (before after : System)
    (handles : CkObjectHandle × CkObjectHandle) (pubObj privObj : HsmObject) : Prop where
  publicBehind : Behind before after handles.1 pubObj
  privateBehind : Behind before after handles.2 privObj
  publicKey : pubObj.type = objTypePublicKey
  privateKey : privObj.type = objTypePrivateKey
  signs : ∀ hSession found mechanism,
    hsmGetSession after hSession = .ok found → found.session.operation.active = false →
    hsmCheckMechanismSupported mechanism = .ok →
    (cSignInit after hSession (some mechanism) handles.2).1 = .ok
  verifies : ∀ hSession found mechanism,
    hsmGetSession after hSession = .ok found → found.session.operation.active = false →
    (cVerifyInit after hSession (some mechanism) handles.1).1 = .ok
  recorded : privObj.isToken = true → (env.objectWrite 1).fopen = true →
    (env.objectWrite 1).Whole (objectItems privObj) →
    ∃ bytes, after.storage.keyFiles.lookup (objectFileName handles.2) = some bytes ∧
      (privateItems privObj).flatten <:+ bytes
  inRange : before.handleCounter + 1 < handleRange →
    InHandleRange pubObj.type handles.1 ∧ InHandleRange privObj.type handles.2

/-- No live object bears a number the counter comes to, before the entry at which the half of
that number is put. -/
def Unshadowed (system : System) : Prop :=
  ∀ pubIdx privIdx rest, freeIndices system.objects = pubIdx :: privIdx :: rest →
    ∀ earlier object, system.objects earlier = some object →
      (earlier < pubIdx → object.handle ≠ handleBase objTypePublicKey + system.handleCounter) ∧
        (earlier < privIdx →
          object.handle ≠ handleBase objTypePrivateKey + advanceCounter system.handleCounter)

/-- An entry of the template gives another class than the half's. -/
def Contradicts (pTemplate : List CkAttribute) (type : Nat) : Prop :=
  ∃ entry ∈ pTemplate, entry.type = ckaClass ∧ entry.readUlong ≠ type

/-- The last class the template names, if any, is narrowed to the half's. -/
def ClassKept (pTemplate : List CkAttribute) (type : Nat) : Prop :=
  ∀ entry, lastEntry ckaClass pTemplate = some entry → entry.readUlong % 2 ^ 32 = type

/-- A template that does not contradict keeps the class. -/
theorem uncontradicted_kept (pTemplate : List CkAttribute) (type : Nat) (small : type < 2 ^ 32)
    (agrees : ¬ Contradicts pTemplate type) : ClassKept pTemplate type := by
  intro entry found
  obtain ⟨member, isClass⟩ := last_entry_sound ckaClass found
  by_contra different
  refine agrees ⟨entry, member, isClass, ?_⟩
  rintro same
  rw [same, Nat.mod_eq_of_lt small] at different
  exact different rfl

/-- A parsed half has its class exactly when its template keeps it. -/
theorem parsed_class_iff (pTemplate : List CkAttribute) (initial : HsmObject) :
    (hsmParseTemplate pTemplate initial).type = initial.type ↔
      ClassKept pTemplate initial.type := by
  rw [parse_template_type, ClassKept]
  cases lastEntry ckaClass pTemplate with
  | none => exact iff_of_true rfl fun _ impossible => absurd impossible.symm (Option.some_ne_none _)
  | some entry =>
    exact ⟨fun same _ found => Option.some.inj found ▸ same, fun kept => kept entry rfl⟩

/-! ## What the functions find -/

/-- A table with two more values: a search by handle ends at the first of them exactly when no
value before it bears the handle. -/
theorem find_beside_iff (table after : Table hsmMaxObjects HsmObject)
    (index other : Fin hsmMaxObjects) (object beside : HsmObject)
    (here : after index = some object) (there : after other = some beside)
    (elsewhere : ∀ tested, tested ∉ [index, other] → after tested = table tested)
    (free : table other = none) (apart : beside.handle ≠ object.handle) :
    find after (fun stored => decide (stored.handle = object.handle)) = some (index, object) ↔
      ∀ earlier stored, table earlier = some stored → earlier < index →
        stored.handle ≠ object.handle := by
  rw [find_some_iff]
  constructor
  · rintro ⟨-, -, below⟩ earlier stored entry lower
    have notOther : earlier ≠ other := by
      rintro rfl
      cases free.symm.trans entry
    have kept := elsewhere earlier (by simp [ne_of_lt lower, notOther])
    exact of_decide_eq_false (below earlier lower stored (kept.trans entry))
  · intro below
    refine ⟨here, decide_eq_true rfl, ?_⟩
    intro earlier lower stored entry
    apply decide_eq_false
    by_cases atOther : earlier = other
    · subst atOther
      obtain rfl := Option.some.inj (there.symm.trans entry)
      exact apart
    · have kept := elsewhere earlier (by simp [ne_of_lt lower, atOther])
      exact below earlier stored (kept.symm.trans entry) lower

/-- So the first of two new objects is behind its handle exactly when no live object before it
bears the handle. -/
theorem behind_iff (before after : System) (index other : Fin hsmMaxObjects)
    (object beside : HsmObject) (here : after.objects index = some object)
    (there : after.objects other = some beside)
    (elsewhere : ∀ tested, tested ∉ [index, other] →
      after.objects tested = before.objects tested)
    (vacant : before.objects index = none) (free : before.objects other = none)
    (apart : beside.handle ≠ object.handle) (hSession : CkSessionHandle) (found : FoundSession)
    (session : hsmGetSession after hSession = .ok found) :
    Behind before after object.handle object ↔
      ∀ earlier stored, before.objects earlier = some stored → earlier < index →
        stored.handle ≠ object.handle := by
  rw [← find_beside_iff before.objects after.objects index other object beside here there
    elsewhere free apart]
  constructor
  · intro behind
    obtain ⟨place, new, lookup⟩ := behind hSession found session
    obtain ⟨entry, -⟩ := get_object_sound found.slot object.handle place object lookup
    rw [← found_objects after hSession found session] at entry
    have atIndex : place = index := by
      by_contra notIndex
      by_cases atOther : place = other
      · subst atOther
        obtain rfl := Option.some.inj (there.symm.trans entry)
        exact apart rfl
      · have kept := elsewhere place (by simp [notIndex, atOther])
        cases (new.symm.trans kept.symm).trans entry
    subst atIndex
    unfold hsmGetObject at lookup
    rw [← found_objects after hSession found session] at lookup
    split at lookup
    · cases lookup
    · rename_i pair located
      rw [located, Except.ok.inj lookup]
  · intro located hOther foundOther sessionOther
    refine ⟨index, vacant, ?_⟩
    unfold hsmGetObject
    rw [← found_objects after hOther foundOther sessionOther, located]

section Lookups

variable (system : System) (hSession : CkSessionHandle) (found : FoundSession)
  (index : Fin hsmMaxObjects) (object : HsmObject) (mechanism : CkMechanismType)

/-- What `C_SignInit` asks of a key. -/
theorem sign_init_accepts (session : hsmGetSession system hSession = .ok found)
    (idle : found.session.operation.active = false)
    (lookup : hsmGetObject found.slot object.handle = .ok (index, object))
    (isPrivateKey : object.type = objTypePrivateKey) (permitted : object.canSign = true)
    (supported : hsmCheckMechanismSupported mechanism = .ok) :
    (cSignInit system hSession (some mechanism) object.handle).1 = .ok := by
  simp [cSignInit, session, idle, lookup, isPrivateKey, permitted, supported]

/-- What `C_VerifyInit` asks of a key. -/
theorem verify_init_accepts (session : hsmGetSession system hSession = .ok found)
    (idle : found.session.operation.active = false)
    (lookup : hsmGetObject found.slot object.handle = .ok (index, object))
    (isPublicKey : object.type = objTypePublicKey) :
    (cVerifyInit system hSession (some mechanism) object.handle).1 = .ok := by
  simp [cVerifyInit, session, idle, lookup, isPublicKey]

end Lookups

/-- The record of a private key ends with its private parts. -/
theorem private_items_suffix (object : HsmObject) (isPrivateKey : object.type = objTypePrivateKey) :
    (privateItems object).flatten <:+ (objectItems object).flatten := by
  have suffix : privateItems object <:+ objectItems object := by
    rw [privateItems, objectItems]
    split
    · rw [rsaKeyItems, if_pos isPrivateKey]
      exact (List.suffix_append _ _).trans (List.suffix_append _ _)
    · split
      · rw [ecKeyItems, if_pos isPrivateKey]
        exact (List.suffix_append _ _).trans (List.suffix_append _ _)
      · exact List.nil_suffix
  obtain ⟨front, whole⟩ := suffix
  rw [← whole, List.flatten_append]
  exact List.suffix_append _ _

/-- The next two handles lie in their ranges while the counter is within them. -/
theorem next_handles_in_range (counter : Nat) (within : counter + 1 < handleRange) :
    InHandleRange objTypePublicKey (hsmGenerateObjectHandle objTypePublicKey counter) ∧
      InHandleRange objTypePrivateKey
        (hsmGenerateObjectHandle objTypePrivateKey (advanceCounter counter)) := by
  have next : advanceCounter counter = counter + 1 := counter_next counter (by omega)
  rw [next]
  exact ⟨⟨Nat.le_add_right _ _, Nat.add_lt_add_left (by omega) _⟩,
    Nat.le_add_right _ _, Nat.add_lt_add_left within _⟩

/-! ## Exactly when the classes agree -/

/-- The numbers of the two halves differ, also where the counter wraps between them. -/
theorem pair_handles_apart (counter : Nat) :
    hsmGenerateObjectHandle objTypePrivateKey (advanceCounter counter) ≠
      hsmGenerateObjectHandle objTypePublicKey counter := by
  change 0x20000000 + (counter + 1) % 2 ^ 32 ≠ 0x10000000 + counter
  omega

/-- Within the range of the generator no live object shadows a new one. -/
theorem issued_unshadowed (system : System) (issued : HandlesIssued system.objectStore)
    (within : system.handleCounter < handleRange) : Unshadowed system := by
  have next := counter_next system.handleCounter (by omega)
  intro pubIdx privIdx rest free earlier object entry
  have old := issued.issued earlier object entry
  refine ⟨fun _ => ?_, fun _ => ?_⟩
  · exact next_handle_fresh system.handleCounter objTypePublicKey issued.started
      (Nat.le_of_lt within) object.handle old
  · rw [next]
    exact next_handle_fresh (system.handleCounter + 1) objTypePrivateKey (by omega) within
      object.handle (issued_later _ _ _ (Nat.le_succ _) old)

section Stored

variable (env : Env) (system : System) (found : FoundSession)
  (pubIdx privIdx : Fin hsmMaxObjects) (pubObj privObj : HsmObject)

/-- The halves stored are behind their handles exactly when no live object shadows them. -/
theorem stored_pair_behind_iff (hSession : CkSessionHandle) (rest : List (Fin hsmMaxObjects))
    (session : hsmGetSession system hSession = .ok found)
    (free : freeIndices found.slot.objects = pubIdx :: privIdx :: rest) :
    (Behind system (system.withKeyPair env found pubIdx privIdx pubObj privObj)
        (storedPublicKey pubObj system.handleCounter).handle
        (storedPublicKey pubObj system.handleCounter) ∧
      Behind system (system.withKeyPair env found pubIdx privIdx pubObj privObj)
        (storedPrivateKey privObj system.handleCounter).handle
        (storedPrivateKey privObj system.handleCounter)) ↔ Unshadowed system := by
  obtain ⟨pubFree, privFree, different, stored⟩ := key_pair_entries env system hSession found
    pubIdx privIdx rest pubObj privObj session free
  obtain ⟨pubEntry, privEntry, elsewhere⟩ := put_pair system.objects pubIdx privIdx
    (some (storedPublicKey pubObj system.handleCounter))
    (some (storedPrivateKey privObj system.handleCounter)) different
  rw [← stored] at pubEntry privEntry elsewhere
  have session' := get_session_kept system
    (system.withKeyPair env found pubIdx privIdx pubObj privObj) hSession found _ session rfl rfl
  have apart := pair_handles_apart system.handleCounter
  have publicHalf := behind_iff system _ pubIdx privIdx _ _ pubEntry privEntry elsewhere pubFree
    privFree apart hSession _ session'
  have privateHalf := behind_iff system _ privIdx pubIdx _ _ privEntry pubEntry
    (fun tested outside => elsewhere tested (by simpa [or_comm] using outside)) privFree pubFree
    (Ne.symm apart) hSession _ session'
  refine (and_congr publicHalf privateHalf).trans ?_
  constructor
  · rintro ⟨publicClear, privateClear⟩ pubIdx' privIdx' rest' free' earlier object entry
    rw [found_objects system hSession found session, free] at free'
    obtain ⟨rfl, later⟩ := List.cons.inj free'
    obtain ⟨rfl, -⟩ := List.cons.inj later
    exact ⟨publicClear earlier object entry, privateClear earlier object entry⟩
  · intro unshadowed
    rw [← found_objects system hSession found session] at free
    exact ⟨fun earlier object entry => (unshadowed _ _ _ free earlier object entry).1,
      fun earlier object entry => (unshadowed _ _ _ free earlier object entry).2⟩

/-- The two halves as they are stored are what is expected of a pair exactly when their
classes are those of a pair and no live object shadows them. -/
theorem stored_pair_classed_iff (hSession : CkSessionHandle) (rest : List (Fin hsmMaxObjects))
    (session : hsmGetSession system hSession = .ok found)
    (free : freeIndices found.slot.objects = pubIdx :: privIdx :: rest)
    (permitted : privObj.canSign = true) :
    PairClassed env system (system.withKeyPair env found pubIdx privIdx pubObj privObj)
        ((storedPublicKey pubObj system.handleCounter).handle,
          (storedPrivateKey privObj system.handleCounter).handle)
        (storedPublicKey pubObj system.handleCounter)
        (storedPrivateKey privObj system.handleCounter) ↔
      (pubObj.type = objTypePublicKey ∧ privObj.type = objTypePrivateKey) ∧
        Unshadowed system := by
  rw [← stored_pair_behind_iff env system found pubIdx privIdx pubObj privObj hSession rest
    session free]
  constructor
  · intro expected
    exact ⟨⟨expected.publicKey, expected.privateKey⟩, expected.publicBehind,
      expected.privateBehind⟩
  · rintro ⟨⟨isPublicKey, isPrivateKey⟩, publicBehind, privateBehind⟩
    refine ⟨publicBehind, privateBehind, isPublicKey, isPrivateKey, ?_, ?_, ?_, ?_⟩
    · intro hOther other mechanism located idle supported
      obtain ⟨index, -, lookup⟩ := privateBehind hOther other located
      exact sign_init_accepts _ hOther other index _ mechanism located idle lookup isPrivateKey
        permitted supported
    · intro hOther other mechanism located idle
      obtain ⟨index, -, lookup⟩ := publicBehind hOther other located
      exact verify_init_accepts _ hOther other index _ mechanism located idle lookup isPublicKey
    · intro token opened whole
      exact ⟨_, saved_record _ _ _ token opened whole, private_items_suffix _ isPrivateKey⟩
    · intro within
      obtain ⟨pubRange, privRange⟩ := next_handles_in_range system.handleCounter within
      change InHandleRange pubObj.type _ ∧ InHandleRange privObj.type _
      rw [isPublicKey, isPrivateKey]
      exact ⟨pubRange, privRange⟩

end Stored

/-- The objects behind the handles are a public and a private key to every function exactly when
both templates keep the classes and no live object shadows the new ones, as none does within the
range of the generator; a call with a contradicting class does not fail, so the classes are
guarded exactly when no entry contradicts them either. -/
theorem pair_classed_iff (env : Env) (system : System) (hSession : CkSessionHandle)
    (pMechanism : Option CkMechanismType) (publicTemplate privateTemplate : List CkAttribute)
    (phPublicKey phPrivateKey : Bool)
    (accepted : (cGenerateKeyPair env system hSession pMechanism publicTemplate privateTemplate
      phPublicKey phPrivateKey).1 = .ok) :
    ∃ handles pubObj privObj after,
      cGenerateKeyPair env system hSession pMechanism publicTemplate privateTemplate phPublicKey
        phPrivateKey = (.ok, some handles, after) ∧
      system.newHalves after = some (pubObj, privObj) ∧
      (PairClassed env system after handles pubObj privObj ↔
        (ClassKept publicTemplate objTypePublicKey ∧
          ClassKept privateTemplate objTypePrivateKey) ∧ Unshadowed system) ∧
      (PairClassed env system after handles pubObj privObj ∧
          ¬ (Contradicts publicTemplate objTypePublicKey ∨
            Contradicts privateTemplate objTypePrivateKey) ↔
        ¬ (Contradicts publicTemplate objTypePublicKey ∨
          Contradicts privateTemplate objTypePrivateKey) ∧ Unshadowed system) ∧
      (HandlesIssued system.objectStore → system.handleCounter < handleRange →
        Unshadowed system) := by
  obtain ⟨mechanism, found, pubObj, privObj, pubIdx, privIdx, rest, -, session, generated, free,
    same⟩ := generate_key_pair_accepted env system hSession pMechanism publicTemplate
      privateTemplate phPublicKey phPrivateKey accepted
  obtain ⟨⟨pubType, pubData, rfl⟩, privType, privData, rfl⟩ :=
    generate_halves_parsed env mechanism publicTemplate privateTemplate _ _ generated
  obtain ⟨-, -, -, signing, -⟩ := parse_template_key privateTemplate initialPrivateKey
  have kept := and_congr (parsed_class_iff publicTemplate initialPublicKey)
    (parsed_class_iff privateTemplate initialPrivateKey)
  have classed := (stored_pair_classed_iff env system found pubIdx privIdx
    ((hsmParseTemplate publicTemplate initialPublicKey).withKey pubType pubData)
    ((hsmParseTemplate privateTemplate initialPrivateKey).withKey privType privData)
    hSession rest session free signing).trans (and_congr_left' kept)
  refine ⟨_, _, _, _, same,
    new_halves_stored env system hSession found pubIdx privIdx rest _ _ session free, classed, ?_,
    issued_unshadowed system⟩
  constructor
  · exact fun both => ⟨both.2, (classed.mp both.1).2⟩
  · rintro ⟨agrees, unshadowed⟩
    refine ⟨classed.mpr ⟨⟨?_, ?_⟩, unshadowed⟩, agrees⟩
    · exact uncontradicted_kept publicTemplate objTypePublicKey (by decide) fun contradicts =>
        agrees (Or.inl contradicts)
    · exact uncontradicted_kept privateTemplate objTypePrivateKey (by decide) fun contradicts =>
        agrees (Or.inr contradicts)

theorem unclassed_templates_classed :
    ∃ handles pubObj privObj after,
      cGenerateKeyPair (calmEnv 1) userReady 1 (some ckmEcKeyPairGen) [] [] true true =
        (.ok, some handles, after) ∧
      userReady.newHalves after = some (pubObj, privObj) ∧
      (PairClassed (calmEnv 1) userReady after handles pubObj privObj ↔
        (ClassKept [] objTypePublicKey ∧ ClassKept [] objTypePrivateKey) ∧
          Unshadowed userReady) ∧
      (PairClassed (calmEnv 1) userReady after handles pubObj privObj ∧
          ¬ (Contradicts [] objTypePublicKey ∨ Contradicts [] objTypePrivateKey) ↔
        ¬ (Contradicts [] objTypePublicKey ∨ Contradicts [] objTypePrivateKey) ∧
          Unshadowed userReady) ∧
      (HandlesIssued userReady.objectStore → userReady.handleCounter < handleRange →
        Unshadowed userReady) :=
  pair_classed_iff (calmEnv 1) userReady 1 (some ckmEcKeyPairGen) [] [] true true
    (by decide +kernel)

/-- A template that calls its half a public key. -/
def publicClass : List CkAttribute := [entryOf ckaClass (Bytes.littleEndian 8 objTypePublicKey)]

/-- The generation of a pair whose private half is called a public key. -/
def misclassedPair : CkRv × Option (CkObjectHandle × CkObjectHandle) × System :=
  cGenerateKeyPair (calmEnv 1) userReady 1 (some ckmEcKeyPairGen) [] publicClass true true

/-- It succeeds, and the key behind the private handle cannot be used to sign. -/
theorem misclassed_pair_generated :
    Contradicts publicClass objTypePrivateKey ∧ misclassedPair.1 = .ok ∧
      (userReady.newHalves misclassedPair.2.2).map (fun halves => halves.2.type) =
        some objTypePublicKey ∧
      misclassedPair.2.1 = some (0x10000001, 0x20000002) ∧
      (cSignInit misclassedPair.2.2 1 (some ckmEcdsa) 0x20000002).1 = .keyTypeInconsistent := by
  refine ⟨⟨_, List.mem_singleton_self _, rfl, ?_⟩, ?_, ?_, ?_, ?_⟩
  all_goals decide +kernel

end PstHsm
