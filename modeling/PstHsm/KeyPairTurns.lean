import PstHsm.Runs
import PstHsm.Views

/-!
# Key pair generation in turns

`C_GenerateKeyPair` runs in turns with another client. Each section under a mutex is one
turn, and so is each stretch outside the mutexes that touches what another client can
change: the lookup of the session, which keeps a pointer to its record, the check of the
login, the generation, and the section that inserts the pair. The other client logs
sessions out, closes them, closes all of them or initializes the token again, in any order
and between any two of these turns.

A record that is freed while a client still points to it can hold anything, so a turn that
reads it says what it finds. `C_CloseAllSessions` and `C_InitToken` take the lock of the
slot a second time for each open session; whether that succeeds or blocks the client with
the lock taken is part of the turn as well.
-/

namespace PstHsm

open Tables

/-! ## Two clients -/

/-- The arguments of a call of `C_GenerateKeyPair`. -/
structure KeyPairRequest where
  hSession : CkSessionHandle
  pMechanism : Option CkMechanismType
  pPublicKeyTemplate : List CkAttribute
  pPrivateKeyTemplate : List CkAttribute
  phPublicKey : Bool
  phPrivateKey : Bool

/-- How far `C_GenerateKeyPair` has come. Past the lookup it points to the record that
was found at the index. -/
inductive Generator where
  | start
  | looked (mechanism : CkMechanismType) (index : Fin hsmMaxSessions)
  | checked (mechanism : CkMechanismType) (index : Fin hsmMaxSessions)
  | built (index : Fin hsmMaxSessions) (pubObj privObj : HsmObject)
  | returned (rv : CkRv) (handles : Option (CkObjectHandle × CkObjectHandle))

/-- The other client between its turns. -/
inductive OtherClient where
  | idle
  | loggingOut (index : Fin hsmMaxSessions)
  | blocked
  deriving DecidableEq

/-- The process and both clients. -/
structure Race where
  system : System
  generator : Generator
  client : OtherClient

inductive Turn where
  | lookUp
  | check (stale : Bool)
  | build (env : Env)
  | insert (env : Env) (stale : Bool)
  | beginLogout (hSession : CkSessionHandle)
  | endLogout (stale : Bool)
  | closeSession (hSession : CkSessionHandle)
  | closeAllSessions (slotID : CkSlotId) (relock : Bool)
  | initToken (slotID : CkSlotId) (pPin pLabel : Option Bytes) (env : Env) (relock : Bool)

/-! ## The turns of `C_GenerateKeyPair` -/

/-- The arguments are checked and the session is looked up, under no mutex. -/
def KeyPairRequest.lookUp (request : KeyPairRequest) (system : System) : Generator :=
  match request.pMechanism, request.phPublicKey, request.phPrivateKey with
  | some mechanism, true, true =>
    match hsmGetSession system request.hSession with
    | .error rv => .returned rv none
    | .ok found => .looked mechanism found.index
  | _, _, _ => .returned .argumentsBad none

/-- The section under the lock of the session. -/
def checkLogin (system : System) (mechanism : CkMechanismType) (index : Fin hsmMaxSessions)
    (stale : Bool) : Generator :=
  let userLoggedIn :=
    match system.sessions index with
    | none => stale
    | some session => session.userLoggedIn
  if !userLoggedIn then .returned .userNotLoggedIn none else .checked mechanism index

/-- Both halves are allocated and generated, under no mutex. -/
def KeyPairRequest.build (request : KeyPairRequest) (env : Env) (mechanism : CkMechanismType)
    (index : Fin hsmMaxSessions) : Generator :=
  if !env.calloc 0 || !env.calloc 1 then .returned .hostMemory none
  else
    match generateHalves env mechanism request.pPublicKeyTemplate request.pPrivateKeyTemplate with
    | .error rv => .returned rv none
    | .ok (pubObj, privObj) => .built index pubObj privObj

/-- The section under the lock of the slot, whose number is read from the record. A
freed record leads to the slot or nowhere. -/
def insertSection (env : Env) (system : System) (index : Fin hsmMaxSessions) (stale : Bool)
    (pubObj privObj : HsmObject) : Option (Generator × System) :=
  match system.gHsmContext with
  | none => none
  | some context =>
    if (context.slot.sessions index).isSome || stale then
      let (rv, handles, system) := insertKeyPair env system context pubObj privObj
      some (.returned rv handles, system)
    else none

/-! ## The turns of the other client -/

/-- The section of `C_Logout` under the lock of the session that was found at the index. -/
def logoutSection (system : System) (index : Fin hsmMaxSessions) (stale : Bool) :
    CkRv × System :=
  match system.gHsmContext with
  | none => (if stale then .ok else .userNotLoggedIn, system)
  | some context =>
    match context.slot.sessions index with
    | none => (if stale then .ok else .userNotLoggedIn, system)
    | some session =>
      if !session.userLoggedIn && !session.soLoggedIn then (.userNotLoggedIn, system)
      else (.ok, system.withSession ⟨context, index, session⟩ session.loggedOut)

/-- A section that closes every session under the lock of the slot, with what it comes to
if it ends. A refused call does not reach the lock; with a session open the section takes
its own lock again. -/
def Race.closingAll (race : Race) (relock : Bool) (result : CkRv × System) :
    Option CkRv × Race :=
  if result.1 ≠ .ok || relock || count race.system.sessions == 0 then
    (some result.1, { race with system := result.2 })
  else (none, { race with client := .blocked })

/-- One turn, with the return value of the other client's call where it ends one. A turn
that is not due changes nothing. -/
def raceStep (sha256 : Sha256) (request : KeyPairRequest) (race : Race) :
    Turn → Option CkRv × Race
  | .lookUp =>
    match race.generator with
    | .start => (none, { race with generator := request.lookUp race.system })
    | _ => (none, race)
  | .check stale =>
    match race.generator with
    | .looked mechanism index =>
      (none, { race with generator := checkLogin race.system mechanism index stale })
    | _ => (none, race)
  | .build env =>
    match race.generator with
    | .checked mechanism index =>
      (none, { race with generator := request.build env mechanism index })
    | _ => (none, race)
  | .insert env stale =>
    match race.generator with
    | .built index pubObj privObj =>
      if race.client = .blocked then (none, race)
      else
        match insertSection env race.system index stale pubObj privObj with
        | none => (none, race)
        | some (generator, system) => (none, ⟨system, generator, race.client⟩)
    | _ => (none, race)
  | .beginLogout hSession =>
    match race.client with
    | .idle =>
      match hsmGetSession race.system hSession with
      | .error rv => (some rv, race)
      | .ok found => (none, { race with client := .loggingOut found.index })
    | _ => (none, race)
  | .endLogout stale =>
    match race.client with
    | .loggingOut index =>
      let (rv, system) := logoutSection race.system index stale
      (some rv, ⟨system, race.generator, .idle⟩)
    | _ => (none, race)
  | .closeSession hSession =>
    if race.client = .idle then
      let (rv, system) := cCloseSession race.system hSession
      (some rv, { race with system := system })
    else (none, race)
  | .closeAllSessions slotID relock =>
    if race.client = .idle then race.closingAll relock (cCloseAllSessions race.system slotID)
    else (none, race)
  | .initToken slotID pPin pLabel env relock =>
    if race.client = .idle then
      race.closingAll relock (cInitToken sha256 env race.system slotID pPin pLabel)
    else (none, race)

/-! ## Calls without interference -/

section Alone

variable (sha256 : Sha256) (request : KeyPairRequest) (system : System) (client : OtherClient)

/-- A call that has returned takes no further turn. -/
theorem returned_waits (rv : CkRv) (handles : Option (CkObjectHandle × CkObjectHandle))
    (env : Env) (stale : Bool) :
    Runs.run (raceStep sha256 request) ⟨system, .returned rv handles, client⟩
        [.build env, .insert env stale] =
      ⟨system, .returned rv handles, client⟩ := rfl

theorem check_login_live (mechanism : CkMechanismType) (index : Fin hsmMaxSessions)
    (stale : Bool) (session : HsmSession) (present : system.sessions index = some session) :
    checkLogin system mechanism index stale =
      if !session.userLoggedIn then .returned .userNotLoggedIn none
      else .checked mechanism index := by
  rw [checkLogin, present]

theorem insert_section_live (env : Env) (context : HsmContext) (index : Fin hsmMaxSessions)
    (stale : Bool) (pubObj privObj : HsmObject) (session : HsmSession)
    (present : system.gHsmContext = some context)
    (entry : context.slot.sessions index = some session) :
    insertSection env system index stale pubObj privObj =
      some (.returned (insertKeyPair env system context pubObj privObj).1
          (insertKeyPair env system context pubObj privObj).2.1,
        (insertKeyPair env system context pubObj privObj).2.2) := by
  have leads : ((context.slot.sessions index).isSome || stale) = true := by
    rw [entry]
    rfl
  simp only [insertSection, present, if_pos leads]

/-- The turns of a call whose pointers are in place. -/
theorem uninterrupted_request (free : client ≠ .blocked) (env : Env) (stale stale' : Bool)
    (hSession : CkSessionHandle) (mechanism : CkMechanismType)
    (publicTemplate privateTemplate : List CkAttribute) :
    let request : KeyPairRequest :=
      ⟨hSession, some mechanism, publicTemplate, privateTemplate, true, true⟩
    let result := cGenerateKeyPair env system hSession (some mechanism) publicTemplate
      privateTemplate true true
    Runs.run (raceStep sha256 request) ⟨system, .start, client⟩
        [.lookUp, .check stale, .build env, .insert env stale'] =
      ⟨result.2.2, .returned result.1 result.2.1, client⟩ := by
  intro request result
  change Runs.run (raceStep sha256 request) ⟨system, request.lookUp system, client⟩
    [.check stale, .build env, .insert env stale'] = _
  simp only [KeyPairRequest.lookUp, request, result, cGenerateKeyPair]
  cases session : hsmGetSession system hSession with
  | error rv => rfl
  | ok found =>
    obtain ⟨present, entry, -⟩ := get_session_sound system hSession found session
    obtain ⟨lies, -⟩ := get_session_entry system hSession found session
    change Runs.run (raceStep sha256 request)
      ⟨system, checkLogin system mechanism found.index stale, client⟩
      [.build env, .insert env stale'] = _
    rw [check_login_live system mechanism found.index stale found.session lies]
    simp only
    split
    · exact returned_waits sha256 request system client _ _ env stale'
    · change Runs.run (raceStep sha256 request)
        ⟨system, request.build env mechanism found.index, client⟩ [.insert env stale'] = _
      rw [KeyPairRequest.build]
      split
      · rfl
      · simp only [request]
        cases generateHalves env mechanism publicTemplate privateTemplate with
        | error rv => rfl
        | ok halves =>
          obtain ⟨pubObj, privObj⟩ := halves
          simp only [Runs.run, raceStep, if_neg free,
            insert_section_live system env found.context found.index stale' pubObj privObj
              found.session present entry]

/-- The turns of the generation, one after the other, are `C_GenerateKeyPair`. -/
theorem uninterrupted_key_pair (free : client ≠ .blocked) (env : Env) (stale stale' : Bool) :
    let result := cGenerateKeyPair env system request.hSession request.pMechanism
      request.pPublicKeyTemplate request.pPrivateKeyTemplate request.phPublicKey
      request.phPrivateKey
    Runs.run (raceStep sha256 request) ⟨system, .start, client⟩
        [.lookUp, .check stale, .build env, .insert env stale'] =
      ⟨result.2.2, .returned result.1 result.2.1, client⟩ := by
  obtain ⟨hSession, pMechanism, publicTemplate, privateTemplate, phPublicKey, phPrivateKey⟩ :=
    request
  cases pMechanism with
  | none => rfl
  | some mechanism =>
    cases phPublicKey with
    | false => rfl
    | true =>
      cases phPrivateKey with
      | false => rfl
      | true =>
        exact uninterrupted_request sha256 system client free env stale stale' hSession mechanism
          publicTemplate privateTemplate

/-- The turns of a logout, one after the other, are `C_Logout`. -/
theorem uninterrupted_logout (generator : Generator) (hSession : CkSessionHandle)
    (stale : Bool) :
    Runs.run (raceStep sha256 request) ⟨system, generator, .idle⟩
        [.beginLogout hSession, .endLogout stale] =
        ⟨(cLogout system hSession).2, generator, .idle⟩ ∧
      (Runs.answers (raceStep sha256 request) ⟨system, generator, .idle⟩
        [.beginLogout hSession, .endLogout stale]).reduceOption =
        [(cLogout system hSession).1] := by
  simp only [Runs.run, Runs.answers, raceStep, cLogout]
  cases session : hsmGetSession system hSession with
  | error rv => exact ⟨rfl, rfl⟩
  | ok found =>
    obtain ⟨present, entry, -⟩ := get_session_sound system hSession found session
    have stored : found.context.slot.sessions found.index = some found.session := entry
    simp only [logoutSection, present, stored]
    split
    · exact ⟨trivial, rfl⟩
    · exact ⟨trivial, rfl⟩

end Alone

end PstHsm
