import PstHsm.Isolation
import PstHsm.SessionTable

/-!
# Sessions do not disturb each other

Searches, signature operations, attribute reads, session information, random numbers and
logouts read the objects of the slot and their own session, and write their own session
only. A client that makes such calls on its sessions is answered as if it were alone, as
long as nobody changes the objects: the others may search and sign, log in and out, change
PINs and close their own sessions in between.
-/

namespace PstHsm

open Tables Isolation

/-! ## What a session sees -/

/-- The objects and the session behind a handle, if the library is initialized. -/
def System.sees (system : System) (hSession : CkSessionHandle) :
    Option (Table hsmMaxObjects HsmObject × Option HsmSession) :=
  system.gHsmContext.map fun context =>
    (context.slot.objects,
      (find context.slot.sessions fun session => decide (session.handle = hSession)).map Prod.snd)

/-- What a session sees when its handle is found. -/
theorem sees_found (system : System) (hSession : CkSessionHandle) (found : FoundSession)
    (located : hsmGetSession system hSession = .ok found) :
    system.sees hSession = some (found.slot.objects, some found.session) := by
  rw [hsmGetSession] at located
  split at located
  · cases located
  · rename_i context present
    split at located
    · cases located
    · rename_i index session search
      cases located
      rw [System.sees, present, Option.map_some, search]
      rfl

/-- From states that look the same a session is found in both or in neither. -/
theorem sees_cases (system other : System) (hSession : CkSessionHandle)
    (same : system.sees hSession = other.sees hSession) :
    (∃ rv, hsmGetSession system hSession = .error rv ∧
        hsmGetSession other hSession = .error rv) ∨
      ∃ found found', hsmGetSession system hSession = .ok found ∧
        hsmGetSession other hSession = .ok found' ∧ found'.session = found.session ∧
        found'.slot.objects = found.slot.objects := by
  rw [System.sees, System.sees] at same
  cases present : system.gHsmContext with
  | none =>
    cases present' : other.gHsmContext with
    | none =>
      exact Or.inl ⟨.cryptokiNotInitialized, by rw [hsmGetSession, present],
        by rw [hsmGetSession, present']⟩
    | some context' =>
      rw [present, present'] at same
      cases same
  | some context =>
    cases present' : other.gHsmContext with
    | none =>
      rw [present, present'] at same
      cases same
    | some context' =>
      rw [present, present', Option.map_some, Option.map_some, Option.some.injEq,
        Prod.mk.injEq] at same
      obtain ⟨objects, sessions⟩ := same
      cases search : find context.slot.sessions
          (fun session => decide (session.handle = hSession)) with
      | none =>
        rw [search, Option.map_none, eq_comm, Option.map_eq_none_iff] at sessions
        exact Or.inl ⟨.sessionHandleInvalid, by simp only [hsmGetSession, present, search],
          by simp only [hsmGetSession, present', sessions]⟩
      | some located =>
        rw [search, Option.map_some, eq_comm, Option.map_eq_some_iff] at sessions
        obtain ⟨located', search', session⟩ := sessions
        exact Or.inr ⟨⟨context, located.1, located.2⟩, ⟨context', located'.1, located'.2⟩,
          by simp only [hsmGetSession, present, search],
          by simp only [hsmGetSession, present', search'], session, objects.symm⟩

/-- A session written back under its handle is what its handle sees. -/
theorem sees_written (system : System) (hSession : CkSessionHandle) (found : FoundSession)
    (session : HsmSession) (located : hsmGetSession system hSession = .ok found)
    (handle : session.handle = hSession) :
    (system.withSession found session).sees hSession =
      some (found.slot.objects, some session) :=
  sees_found _ hSession _ (get_session_written system hSession found session located handle)

/-- A change of the slot that a lookup of the handle does not notice is not seen. -/
theorem sees_unnoticed (system after : System) (hSession other : CkSessionHandle)
    (found : FoundSession) (located : hsmGetSession system hSession = .ok found) (slot : HsmSlot)
    (context : after.gHsmContext = some { found.context with slot := slot })
    (sessions : find slot.sessions (fun session => decide (session.handle = other)) =
      find found.slot.sessions fun session => decide (session.handle = other))
    (objects : slot.objects = found.slot.objects) :
    after.sees other = system.sees other := by
  obtain ⟨present, -, -⟩ := get_session_sound system hSession found located
  rw [System.sees, System.sees, context, present, Option.map_some, Option.map_some, objects,
    sessions]
  rfl

/-- The lookup of another handle does not notice what becomes of an entry, as long as its
handle stays. -/
theorem find_elsewhere (system : System) (hSession other : CkSessionHandle)
    (different : other ≠ hSession) (found : FoundSession)
    (located : hsmGetSession system hSession = .ok found) (entry : Option HsmSession)
    (handle : ∀ session, entry = some session → session.handle = hSession) :
    find (put found.slot.sessions found.index entry)
        (fun session => decide (session.handle = other)) =
      find found.slot.sessions fun session => decide (session.handle = other) := by
  obtain ⟨-, occupied, own⟩ := get_session_sound system hSession found located
  have refused (session : HsmSession) (named : session.handle = hSession) :
      (some session).filter (fun session => decide (session.handle = other)) = none := by
    rw [Option.filter_eq_none_iff]
    rintro _ ⟨rfl⟩ accepted
    exact different ((of_decide_eq_true accepted).symm.trans named)
  apply find_congr
  intro index
  by_cases here : index = found.index
  · subst here
    rw [put_self, occupied, refused found.session own]
    cases entry with
    | none => rfl
    | some session => exact refused session (handle session rfl)
  · rw [put_other _ _ _ _ here]

/-! ## Calls on one session -/

/-- The calls that read the objects and their session and write their session only. -/
def Call.keepsToSession : Call → Bool
  | .getSessionInfo _ _ | .logout _ | .getAttributeValue _ _ _ | .findObjectsInit _ _
  | .findObjects _ _ _ _ | .findObjectsFinal _ | .signInit _ _ _ | .sign _ _ _ _
  | .verifyInit _ _ _ | .verify _ _ _ | .generateRandom _ _ _ => true
  | _ => false

/-- The calls that leave the objects and the other sessions alone. -/
def Call.keepsObjects : Call → Bool
  | .initPIN _ _ | .setPIN _ _ _ | .login _ _ _ | .closeSession _ => true
  | .getInfo _ | .getFunctionList _ | .getSlotList _ _ _ | .getSlotInfo _ _ | .getTokenInfo _ _
  | .getMechanismList _ _ _ | .getMechanismInfo _ _ _ | .seedRandom | .notSupported
  | .notParallel => true
  | call => call.keepsToSession

section Steps

variable (sha256 : Sha256) (env : Env)

/-- A call that leaves the objects alone is not seen by other sessions. -/
theorem unseen_elsewhere (system : System) (call : Call) (keeps : call.keepsObjects = true)
    (other : CkSessionHandle) (unnamed : call.hSession ≠ some other) :
    (callStep sha256 env system call).2.sees other = system.sees other := by
  have effect := call_effect sha256 env system call
  have differs (hSession : CkSessionHandle) (named : call.hSession = some hSession) :
      other ≠ hSession := by
    rintro rfl
    exact unnamed named
  generalize (callStep sha256 env system call).2 = after at effect
  cases effect with
  | unchanged => rfl
  | userPinSet hSession pin found located =>
    exact sees_unnoticed system _ hSession other found located _ rfl rfl rfl
  | pinChangeRefused hSession oldPin newPin found located =>
    exact sees_unnoticed system _ hSession other found located _ rfl
      (by rw [verify_pin_sessions]) (verify_pin_objects sha256 _ _ _)
  | pinChanged hSession oldPin newPin found located =>
    refine sees_unnoticed system _ hSession other found located _ rfl ?_ ?_
    · rw [pin_replaced_sessions, verify_pin_sessions]
    · rw [pin_replaced_objects, verify_pin_objects]
  | loginRefused hSession userType pin found located =>
    exact sees_unnoticed system _ hSession other found located _ rfl
      (by rw [verify_pin_sessions]) (verify_pin_objects sha256 _ _ _)
  | loggedIn hSession userType pin found located =>
    refine sees_unnoticed system _ hSession other found located _ rfl ?_
      (verify_pin_objects sha256 _ _ _)
    apply find_elsewhere system hSession other (differs hSession rfl) found located
    rintro _ ⟨rfl⟩
    rw [(logged_in_frame found.session userType env.now).1]
    exact (get_session_sound system hSession found located).2.2
  | sessionClosed hSession found located =>
    refine sees_unnoticed system _ hSession other found located _ rfl ?_ rfl
    apply find_elsewhere system hSession other (differs hSession rfl) found located
    rintro _ ⟨⟩
  | sessionUpdated _ hSession found session named located update =>
    refine sees_unnoticed system _ hSession other found located _ rfl ?_ rfl
    apply find_elsewhere system hSession other (differs hSession named) found located
    rintro _ ⟨rfl⟩
    rw [session_update_handle _ _ _ _ update]
    exact (get_session_sound system hSession found located).2.2
  | _ => cases keeps

/-! ## The calls of one session -/

/-- Two results that answer alike and look the same to a session. -/
def AlikeFor (hSession : CkSessionHandle) (result other : Response × System) : Prop :=
  result.1 = other.1 ∧ result.2.sees hSession = other.2.sees hSession

/-- A lookup depends on the objects only. -/
theorem get_object_objects (slot other : HsmSlot) (objects : other.objects = slot.objects)
    (hObject : CkObjectHandle) : hsmGetObject other hObject = hsmGetObject slot hObject := by
  unfold hsmGetObject
  rw [objects]

/-- And so does a search. -/
theorem find_objects_objects (slot other : HsmSlot) (objects : other.objects = slot.objects)
    (session : HsmSession) : hsmFindObjects other session = hsmFindObjects slot session := by
  unfold hsmFindObjects
  rw [objects]

section Pair

variable (system other : System) (hSession : CkSessionHandle)
  (same : system.sees hSession = other.sees hSession)

section Found

variable (found found' : FoundSession) (located : hsmGetSession system hSession = .ok found)
  (located' : hsmGetSession other hSession = .ok found')
  (objects : found'.slot.objects = found.slot.objects)

include located located' objects

/-- Both write the session back. -/
theorem alike_written (response : Response) (session : HsmSession)
    (handle : session.handle = found.session.handle) :
    AlikeFor hSession (response, system.withSession found session)
      (response, other.withSession found' session) := by
  have own := handle.trans (get_session_sound system hSession found located).2.2
  refine ⟨rfl, ?_⟩
  dsimp only
  rw [sees_written system hSession found session located own,
    sees_written other hSession found' session located' own, objects]

end Found

include same

/-- Both leave everything as it is. -/
theorem alike_kept (response : Response) :
    AlikeFor hSession (response, system) (response, other) := ⟨rfl, same⟩

/-- The session information is that of the session. -/
theorem session_info_alike (pInfo : Bool) :
    AlikeFor hSession (callStep sha256 env system (.getSessionInfo hSession pInfo))
      (callStep sha256 env other (.getSessionInfo hSession pInfo)) := by
  rcases sees_cases system other hSession same with
    ⟨rv, missing, missing'⟩ | ⟨found, found', located, located', session, -⟩
  · simp only [callStep, cGetSessionInfo, missing, missing']
    split
    · exact alike_kept system other hSession same _
    · exact alike_kept system other hSession same _
  · simp only [callStep, cGetSessionInfo, located, located', session]
    split
    · exact alike_kept system other hSession same _
    · exact alike_kept system other hSession same _

/-- A logout changes its session only. -/
theorem logout_alike :
    AlikeFor hSession (callStep sha256 env system (.logout hSession))
      (callStep sha256 env other (.logout hSession)) := by
  rcases sees_cases system other hSession same with
    ⟨rv, missing, missing'⟩ | ⟨found, found', located, located', session, objects⟩
  · simp only [callStep, cLogout, missing, missing']
    exact alike_kept system other hSession same _
  · have written := alike_written system other hSession found found' located located' objects
    simp only [callStep, cLogout, located, located', session]
    split
    · exact alike_kept system other hSession same _
    · exact written _ _ rfl

/-- Attributes are read from the objects. -/
theorem attribute_value_alike (hObject : CkObjectHandle)
    (pTemplate : Option (List CkAttribute)) :
    AlikeFor hSession (callStep sha256 env system (.getAttributeValue hSession hObject pTemplate))
      (callStep sha256 env other (.getAttributeValue hSession hObject pTemplate)) := by
  rcases sees_cases system other hSession same with
    ⟨rv, missing, missing'⟩ | ⟨found, found', located, located', -, objects⟩
  · simp only [callStep, cGetAttributeValue, missing, missing']
    split
    · exact alike_kept system other hSession same _
    · exact alike_kept system other hSession same _
  · have lookup := get_object_objects found.slot found'.slot objects
    simp only [callStep, cGetAttributeValue, located, located', lookup]
    split
    · exact alike_kept system other hSession same _
    · split
      · exact alike_kept system other hSession same _
      · exact alike_kept system other hSession same _

/-- A search looks at the objects and starts in its session. -/
theorem find_objects_init_alike (template : List CkAttribute) :
    AlikeFor hSession (callStep sha256 env system (.findObjectsInit hSession template))
      (callStep sha256 env other (.findObjectsInit hSession template)) := by
  rcases sees_cases system other hSession same with
    ⟨rv, missing, missing'⟩ | ⟨found, found', located, located', session, objects⟩
  · simp only [callStep, cFindObjectsInit, missing, missing']
    exact alike_kept system other hSession same _
  · have search := find_objects_objects found.slot found'.slot objects
    have written := alike_written system other hSession found found' located located' objects
    simp only [callStep, cFindObjectsInit, located, located', session, search]
    split
    · exact alike_kept system other hSession same _
    · have handle := (find_objects_frame found.slot found.session).1
      generalize hsmFindObjects found.slot found.session = searched at handle ⊢
      exact written _ _ handle

/-- What a search has found lies in its session. -/
theorem find_objects_alike (phObject : Bool) (most : CkUlong) (pulObjectCount : Bool) :
    AlikeFor hSession
      (callStep sha256 env system (.findObjects hSession phObject most pulObjectCount))
      (callStep sha256 env other (.findObjects hSession phObject most pulObjectCount)) := by
  rcases sees_cases system other hSession same with
    ⟨rv, missing, missing'⟩ | ⟨found, found', located, located', session, objects⟩
  · simp only [callStep, cFindObjects, missing, missing']
    split
    · exact alike_kept system other hSession same _
    · exact alike_kept system other hSession same _
  · have written := alike_written system other hSession found found' located located' objects
    simp only [callStep, cFindObjects, located, located', session]
    split
    · exact alike_kept system other hSession same _
    · split
      · exact alike_kept system other hSession same _
      · exact written _ _ rfl

/-- A search ends in its session. -/
theorem find_objects_final_alike :
    AlikeFor hSession (callStep sha256 env system (.findObjectsFinal hSession))
      (callStep sha256 env other (.findObjectsFinal hSession)) := by
  rcases sees_cases system other hSession same with
    ⟨rv, missing, missing'⟩ | ⟨found, found', located, located', session, objects⟩
  · simp only [callStep, cFindObjectsFinal, missing, missing']
    exact alike_kept system other hSession same _
  · have written := alike_written system other hSession found found' located located' objects
    simp only [callStep, cFindObjectsFinal, located, located', session]
    split
    · exact alike_kept system other hSession same _
    · exact written _ _ rfl

/-- The key of a signature is looked up among the objects. -/
theorem sign_init_alike (pMechanism : Option CkMechanismType) (hKey : CkObjectHandle) :
    AlikeFor hSession (callStep sha256 env system (.signInit hSession pMechanism hKey))
      (callStep sha256 env other (.signInit hSession pMechanism hKey)) := by
  rcases sees_cases system other hSession same with
    ⟨rv, missing, missing'⟩ | ⟨found, found', located, located', session, objects⟩
  · simp only [callStep, cSignInit, missing, missing']
    split
    · exact alike_kept system other hSession same _
    · exact alike_kept system other hSession same _
  · have lookup := get_object_objects found.slot found'.slot objects
    have written := alike_written system other hSession found found' located located' objects
    simp only [callStep, cSignInit, located, located', session, lookup]
    split
    · exact alike_kept system other hSession same _
    · split
      · exact alike_kept system other hSession same _
      · split
        · exact alike_kept system other hSession same _
        · split
          · exact alike_kept system other hSession same _
          · split
            · exact alike_kept system other hSession same _
            · split
              · exact alike_kept system other hSession same _
              · exact written _ _ rfl

/-- A signature ends its operation in the session. -/
theorem sign_alike (pData : Option Bytes) (pSignature : Bool)
    (pulSignatureLen : Option CkUlong) :
    AlikeFor hSession (callStep sha256 env system (.sign hSession pData pSignature pulSignatureLen))
      (callStep sha256 env other (.sign hSession pData pSignature pulSignatureLen)) := by
  rcases sees_cases system other hSession same with
    ⟨rv, missing, missing'⟩ | ⟨found, found', located, located', session, objects⟩
  · simp only [callStep, cSign, missing, missing']
    split
    · exact alike_kept system other hSession same _
    · exact alike_kept system other hSession same _
  · have lookup := get_object_objects found.slot found'.slot objects
    have written := alike_written system other hSession found found' located located' objects
    simp only [callStep, cSign, located, located', session, lookup]
    split
    · split
      · exact alike_kept system other hSession same _
      · split
        · exact written _ _ rfl
        · exact written _ _ rfl
    · exact alike_kept system other hSession same _

/-- So is the key of a verification. -/
theorem verify_init_alike (pMechanism : Option CkMechanismType) (hKey : CkObjectHandle) :
    AlikeFor hSession (callStep sha256 env system (.verifyInit hSession pMechanism hKey))
      (callStep sha256 env other (.verifyInit hSession pMechanism hKey)) := by
  rcases sees_cases system other hSession same with
    ⟨rv, missing, missing'⟩ | ⟨found, found', located, located', session, objects⟩
  · simp only [callStep, cVerifyInit, missing, missing']
    split
    · exact alike_kept system other hSession same _
    · exact alike_kept system other hSession same _
  · have lookup := get_object_objects found.slot found'.slot objects
    have written := alike_written system other hSession found found' located located' objects
    simp only [callStep, cVerifyInit, located, located', session, lookup]
    split
    · exact alike_kept system other hSession same _
    · split
      · exact alike_kept system other hSession same _
      · split
        · exact alike_kept system other hSession same _
        · split
          · exact alike_kept system other hSession same _
          · exact written _ _ rfl

/-- A verification ends its operation in the session. -/
theorem verify_alike (pData pSignature : Option Bytes) :
    AlikeFor hSession (callStep sha256 env system (.verify hSession pData pSignature))
      (callStep sha256 env other (.verify hSession pData pSignature)) := by
  rcases sees_cases system other hSession same with
    ⟨rv, missing, missing'⟩ | ⟨found, found', located, located', session, objects⟩
  · simp only [callStep, cVerify, missing, missing']
    split
    · exact alike_kept system other hSession same _
    · exact alike_kept system other hSession same _
  · have lookup := get_object_objects found.slot found'.slot objects
    have written := alike_written system other hSession found found' located located' objects
    simp only [callStep, cVerify, located, located', session, lookup]
    split
    · split
      · exact alike_kept system other hSession same _
      · split
        · exact written _ _ rfl
        · exact written _ _ rfl
    · exact alike_kept system other hSession same _

/-- Random numbers only ask whether the session is open. -/
theorem generate_random_alike (randomData : Bool) (ulRandomLen : CkUlong) :
    AlikeFor hSession (callStep sha256 env system (.generateRandom hSession randomData ulRandomLen))
      (callStep sha256 env other (.generateRandom hSession randomData ulRandomLen)) := by
  rcases sees_cases system other hSession same with
    ⟨rv, missing, missing'⟩ | ⟨found, found', located, located', -, -⟩
  · simp only [callStep, cGenerateRandom, missing, missing']
    split
    · exact alike_kept system other hSession same _
    · exact alike_kept system other hSession same _
  · simp only [callStep, cGenerateRandom, located, located']
    split
    · exact alike_kept system other hSession same _
    · split
      · exact alike_kept system other hSession same _
      · exact alike_kept system other hSession same _

/-- A call on the session answers alike wherever the session sees the same, and leaves it
seeing the same. -/
theorem own_call_alike (call : Call) (own : call.keepsToSession = true)
    (named : call.hSession = some hSession) :
    AlikeFor hSession (callStep sha256 env system call) (callStep sha256 env other call) := by
  cases call with
  | getSessionInfo handle pInfo =>
    cases named
    exact session_info_alike sha256 env system other hSession same pInfo
  | logout handle =>
    cases named
    exact logout_alike sha256 env system other hSession same
  | getAttributeValue handle hObject pTemplate =>
    cases named
    exact attribute_value_alike sha256 env system other hSession same hObject pTemplate
  | findObjectsInit handle template =>
    cases named
    exact find_objects_init_alike sha256 env system other hSession same template
  | findObjects handle phObject most pulObjectCount =>
    cases named
    exact find_objects_alike sha256 env system other hSession same phObject most pulObjectCount
  | findObjectsFinal handle =>
    cases named
    exact find_objects_final_alike sha256 env system other hSession same
  | signInit handle pMechanism hKey =>
    cases named
    exact sign_init_alike sha256 env system other hSession same pMechanism hKey
  | sign handle pData pSignature pulSignatureLen =>
    cases named
    exact sign_alike sha256 env system other hSession same pData pSignature pulSignatureLen
  | verifyInit handle pMechanism hKey =>
    cases named
    exact verify_init_alike sha256 env system other hSession same pMechanism hKey
  | verify handle pData pSignature =>
    cases named
    exact verify_alike sha256 env system other hSession same pData pSignature
  | generateRandom handle randomData ulRandomLen =>
    cases named
    exact generate_random_alike sha256 env system other hSession same randomData ulRandomLen
  | _ => cases own

end Pair

end Steps

/-! ## Clients -/

section Clients

variable (sha256 : Sha256) (client : CkSessionHandle → Bool)

/-- The event is a call on a session of the client. -/
def Event.ofClient (client : CkSessionHandle → Bool) : Event → Bool
  | .call made _ => made.hSession.any client
  | .newProcess => false

/-- The states look the same to every session of the client. -/
def SameToClient (system other : System) : Prop :=
  ∀ hSession, client hSession = true → system.sees hSession = other.sees hSession

/-- A call that leaves the objects alone, and keeps to its session if that is one of the
client's. -/
def Quiet (event : Event) : Prop :=
  ∃ call env, event = .call call env ∧ call.keepsObjects = true ∧
    (event.ofClient client = true → call.keepsToSession = true)

/-- The client's sessions see the same at every step. -/
theorem client_isolated :
    Isolated (step sha256) (Event.ofClient client) (SameToClient client) (Quiet client) := by
  constructor
  · rintro system other _ ⟨call, env, rfl, keeps, keepsToo⟩ mine same
    obtain ⟨hSession, named, theirs⟩ : ∃ hSession, call.hSession = some hSession ∧
        client hSession = true := (Option.any_eq_true _ _).mp mine
    obtain ⟨answered, seen⟩ := own_call_alike sha256 env system other hSession
      (same hSession theirs) call (keepsToo mine) named
    refine ⟨answered, fun tested belongs => ?_⟩
    by_cases here : tested = hSession
    · subst here
      exact seen
    · have unnamed : call.hSession ≠ some tested := by
        rw [named]
        rintro ⟨rfl⟩
        exact here rfl
      change (callStep sha256 env system call).2.sees tested =
        (callStep sha256 env other call).2.sees tested
      rw [unseen_elsewhere sha256 env system call keeps tested unnamed,
        unseen_elsewhere sha256 env other call keeps tested unnamed]
      exact same tested belongs
  · rintro system other _ ⟨call, env, rfl, keeps, -⟩ others same tested belongs
    have unnamed : call.hSession ≠ some tested := by
      intro named
      have mine : (Event.call call env).ofClient client = true :=
        (Option.any_eq_true _ _).mpr ⟨tested, named, belongs⟩
      rw [others] at mine
      cases mine
    rw [← same tested belongs]
    exact unseen_elsewhere sha256 env system call keeps tested unnamed

/-- A client searches, signs, verifies, reads attributes and session data, draws random
numbers and logs out on sessions of its own, while others do so on theirs, log in and out,
change PINs and close sessions, in any interleaving and from any state. It gets the answers
that it gets without them, and its sessions end as they do without them. -/
theorem clients_isolated (system : System) (events : List Event)
    (quiet : ∀ event ∈ events, Quiet client event) :
    answersTo (step sha256) (Event.ofClient client) system events =
        Runs.answers (step sha256) system (events.filter (Event.ofClient client)) ∧
      ∀ hSession, client hSession = true →
        (Runs.run (step sha256) system events).sees hSession =
          (Runs.run (step sha256) system (events.filter (Event.ofClient client))).sees hSession :=
  alone (step sha256) (Event.ofClient client) (client_isolated sha256 client) system system events
    (fun _ _ => rfl) quiet

end Clients

/-- A search on one session while another logs in and is closed. -/
def sharedUse : List Event :=
  [calmly (.findObjectsInit 1 []), calmly (.login 2 ckuUser (some otherUserPin)),
    calmly (.findObjects 1 true 10 true), calmly (.closeSession 2)]

theorem search_isolated :
    answersTo (step pinSha256) (Event.ofClient (· == 1)) userReady sharedUse =
      Runs.answers (step pinSha256) userReady
        [calmly (.findObjectsInit 1 []), calmly (.findObjects 1 true 10 true)] := by
  refine (clients_isolated pinSha256 (· == 1) userReady sharedUse ?_).1
  intro event member
  simp only [sharedUse, List.mem_cons, List.not_mem_nil, or_false] at member
  rcases member with rfl | rfl | rfl | rfl
  · exact ⟨_, _, rfl, rfl, fun _ => rfl⟩
  · exact ⟨_, _, rfl, rfl, fun mine => absurd mine Bool.false_ne_true⟩
  · exact ⟨_, _, rfl, rfl, fun _ => rfl⟩
  · exact ⟨_, _, rfl, rfl, fun mine => absurd mine Bool.false_ne_true⟩

end PstHsm
