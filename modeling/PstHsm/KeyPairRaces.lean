import PstHsm.Admission
import PstHsm.KeyPairTurns
import PstHsm.LockDiscipline

/-!
# A key pair generated beside a logout

`C_GenerateKeyPair` checks the login in one section and inserts the pair in another, and
keeps only a pointer to the session between the two. A record beside the race says whether
the other client has logged out or closed that session since its lookup. Until then the
entry of the session table is the one looked up, and past the check its user is logged in;
afterwards nobody is, since nobody logs in during the race.
-/

namespace PstHsm

open Tables

/-! ## What the insertion relies on -/

/-- The record a call of `C_GenerateKeyPair` points to. -/
def Generator.index : Generator → Option (Fin hsmMaxSessions)
  | .looked _ index | .checked _ index | .built index _ _ => some index
  | .start | .returned _ _ => none

/-- The session lives at the index with its user logged in. -/
def UserIn (system : System) (hSession : CkSessionHandle) (index : Fin hsmMaxSessions) : Prop :=
  ∃ session, system.sessions index = some session ∧ session.handle = hSession ∧
    session.userLoggedIn = true

/-- A turn that inserts the pair finds the session that was looked up, still with its user
logged in. -/
def InsertionAuthorised (sha256 : Sha256) (request : KeyPairRequest) (race : Race)
    (turn : Turn) : Prop :=
  ∀ index pubObj privObj handles, race.generator = .built index pubObj privObj →
    (raceStep sha256 request race turn).2.generator = .returned .ok handles →
    UserIn race.system request.hSession index

/-- The turn inserts the pair: it is due, the lock of the slot is free, the record leads to
the slot and two entries are free. -/
def Inserts (race : Race) (turn : Turn) : Prop :=
  ∃ env stale index pubObj privObj context, turn = .insert env stale ∧
    race.generator = .built index pubObj privObj ∧ race.client ≠ .blocked ∧
    race.system.gHsmContext = some context ∧
    ((context.slot.sessions index).isSome || stale) = true ∧
    2 ≤ (freeIndices context.slot.objects).length

/-- The turn logs out or closes the session at the index. -/
def Turn.Ends (race : Race) (index : Fin hsmMaxSessions) : Turn → Prop
  | .endLogout _ => race.client = .loggingOut index
  | .closeSession hSession => race.client = .idle ∧
    ∃ found, hsmGetSession race.system hSession = .ok found ∧ found.index = index
  | .closeAllSessions slotID relock => race.client = .idle ∧ relock = true ∧
    (Call.closeAllSessions slotID).closesUnderLock
  | .initToken slotID pPin pLabel _ relock => race.client = .idle ∧ relock = true ∧
    (Call.initToken slotID pPin pLabel).closesUnderLock
  | _ => False

/-- Whether the session that `C_GenerateKeyPair` points to has been logged out or closed
since its lookup. -/
def noteEnd (race : Race) (ended : Prop) (turn : Turn) : Prop :=
  ∃ index, race.generator.index = some index ∧ (ended ∨ turn.Ends race index)

/-- The race with that record beside it. -/
def watchedStep (sha256 : Sha256) (request : KeyPairRequest) :
    Race × Prop → Turn → Option CkRv × Race × Prop :=
  Runs.traced (raceStep sha256 request) noteEnd

/-- The pair is inserted only if the session has not been logged out or closed since its
lookup. -/
def InsertsInTime (pair : Race × Prop) (turn : Turn) : Prop :=
  Inserts pair.1 turn → ¬ pair.2

/-! ## The session table under the other client -/

section OneTurn

variable (sha256 : Sha256) (request : KeyPairRequest) (race : Race)

/-- Nobody is logged in as the user at the entry, whatever record it holds. -/
def UserOut (system : System) (index : Fin hsmMaxSessions) : Prop :=
  ∀ session, system.sessions index = some session → session.userLoggedIn = false

theorem user_out_absent (system : System) (index : Fin hsmMaxSessions)
    (absent : system.sessions index = none) : UserOut system index := by
  intro session present
  cases absent.symm.trans present

theorem user_out_not_in (system : System) (hSession : CkSessionHandle)
    (index : Fin hsmMaxSessions) (out : UserOut system index) : ¬ UserIn system hSession index := by
  rintro ⟨session, present, -, user⟩
  cases (out session present).symm.trans user

/-- The section of `C_Logout` logs the user out where it points and touches nothing else. -/
theorem logout_section_entry (system : System) (target index : Fin hsmMaxSessions)
    (stale : Bool) :
    (target = index → UserOut (logoutSection system target stale).2 index) ∧
      (target ≠ index →
        (logoutSection system target stale).2.sessions index = system.sessions index) := by
  rw [logoutSection]
  split
  · rename_i absent
    refine ⟨fun _ => user_out_absent _ _ ?_, fun _ => rfl⟩
    rw [sessions_absent system absent]
    rfl
  · rename_i context present
    split
    · rename_i free
      refine ⟨?_, fun _ => rfl⟩
      rintro rfl
      apply user_out_absent
      rw [sessions_present system context present]
      exact free
    · rename_i session entry
      split
      · rename_i nobody
        refine ⟨?_, fun _ => rfl⟩
        rintro rfl stored lies
        rw [sessions_present system context present, entry] at lies
        obtain rfl := Option.some.inj lies
        simpa using (Bool.and_eq_true_iff.mp nobody).1
      · have changed : (system.withSession ⟨context, target, session⟩ session.loggedOut).sessions =
            put context.slot.sessions target (some session.loggedOut) := rfl
        constructor
        · rintro rfl stored lies
          rw [changed, put_self] at lies
          obtain rfl := Option.some.inj lies
          rfl
        · intro elsewhere
          rw [changed, put_other _ _ _ _ (Ne.symm elsewhere),
            sessions_present system context present]

/-- `C_CloseSession` frees the entry it finds and touches nothing else. -/
theorem close_session_entry (system : System) (hSession : CkSessionHandle)
    (index : Fin hsmMaxSessions) :
    ((∃ found, hsmGetSession system hSession = .ok found ∧ found.index = index) →
        (cCloseSession system hSession).2.sessions index = none) ∧
      ((¬ ∃ found, hsmGetSession system hSession = .ok found ∧ found.index = index) →
        (cCloseSession system hSession).2.sessions index = system.sessions index) := by
  cases session : hsmGetSession system hSession with
  | error rv =>
    have same : (cCloseSession system hSession).2 = system := by
      simp only [cCloseSession, hsmDestroySession, session]
    rw [same]
    refine ⟨?_, fun _ => rfl⟩
    rintro ⟨found, impossible, -⟩
    cases impossible
  | ok found =>
    obtain ⟨present, -, -⟩ := get_session_sound system hSession found session
    have closed : (cCloseSession system hSession).2.sessions =
        put found.slot.sessions found.index none := by
      simp only [cCloseSession, hsmDestroySession, session]
      rfl
    rw [closed]
    constructor
    · rintro ⟨other, same, rfl⟩
      obtain rfl := Except.ok.inj same
      exact put_self _ _ _
    · intro missed
      have elsewhere : index ≠ found.index := by
        rintro rfl
        exact missed ⟨found, rfl, rfl⟩
      rw [put_other _ _ _ _ elsewhere, sessions_present system found.context present]
      rfl

/-- A call that closes all sessions is refused and changes nothing, or runs the loop. -/
inductive ClosesAll (system : System) (call : Call) : CkRv × System → Prop
  | refused (rv : CkRv) (failed : rv ≠ .ok)
      (idle : call.closesUnderLock → system.gHsmContext = none) :
      ClosesAll system call (rv, system)
  | emptied (after : System) (closes : call.closesUnderLock) (vacant : after.sessions = empty) :
      ClosesAll system call (.ok, after)

theorem close_all_call_closes (system : System) (slotID : CkSlotId) :
    ClosesAll system (.closeAllSessions slotID) (cCloseAllSessions system slotID) := by
  rw [cCloseAllSessions]
  split
  · rename_i absent
    exact .refused _ CkRv.noConfusion (fun _ => absent)
  · rename_i context present
    split
    · rename_i invalid
      refine .refused _ CkRv.noConfusion ?_
      intro valid
      exact absurd valid (Nat.not_lt_of_le invalid)
    · rename_i valid
      rw [close_sessions_all system context present]
      exact .emptied _ (Nat.lt_of_not_le valid) rfl

theorem init_token_call_closes (env : Env) (system : System) (slotID : CkSlotId)
    (pPin pLabel : Option Bytes) :
    ClosesAll system (.initToken slotID pPin pLabel)
      (cInitToken sha256 env system slotID pPin pLabel) := by
  rcases init_token_cases sha256 env system slotID pPin pLabel with
    ⟨rv, failed, same⟩ | ⟨pin, label, context, rfl, rfl, present, valid, longEnough, shortEnough,
      same⟩
  · rw [same]
    refine .refused rv failed ?_
    intro closes
    cases present : system.gHsmContext with
    | none => rfl
    | some context =>
      exfalso
      cases pPin with
      | none => exact closes
      | some pin =>
        cases pLabel with
        | none => exact closes
        | some label =>
          obtain ⟨longEnough, shortEnough, valid⟩ := closes
          rw [init_token_resets sha256 env system slotID pin label context present valid longEnough
            shortEnough] at same
          exact failed (congrArg Prod.fst same).symm
  · rw [same]
    exact .emptied _ ⟨longEnough, shortEnough, valid⟩ rfl

/-- A closing section empties the table if its lock can be taken again, and otherwise
leaves it alone. -/
theorem closing_all_entry (relock : Bool) (call : Call) (result : CkRv × System)
    (closes : ClosesAll race.system call result) (index : Fin hsmMaxSessions) :
    (relock = true ∧ call.closesUnderLock →
        (race.closingAll relock result).2.system.sessions index = none) ∧
      (¬ (relock = true ∧ call.closesUnderLock) →
        (race.closingAll relock result).2.system.sessions index =
          race.system.sessions index) := by
  cases closes with
  | refused rv failed idle =>
    have same : (race.closingAll relock (rv, race.system)).2.system = race.system := by
      simp [Race.closingAll, failed]
    rw [same]
    refine ⟨?_, fun _ => rfl⟩
    rintro ⟨-, closing⟩
    rw [sessions_absent race.system (idle closing)]
    rfl
  | emptied after closing vacant =>
    cases relock with
    | true =>
      have ends : (race.closingAll true (.ok, after)).2.system = after := by
        simp [Race.closingAll]
      rw [ends, vacant]
      exact ⟨fun _ => rfl, fun kept => absurd ⟨rfl, closing⟩ kept⟩
    | false =>
      refine ⟨fun impossible => Bool.noConfusion impossible.1, fun _ => ?_⟩
      by_cases nothing : count race.system.sessions = 0
      · have ends : (race.closingAll false (.ok, after)).2.system = after := by
          simp [Race.closingAll, nothing]
        rw [ends, vacant, (count_zero_iff race.system.sessions).mp nothing]
      · have stuck : (race.closingAll false (.ok, after)).2.system = race.system := by
          simp [Race.closingAll, nothing]
        rw [stuck]

/-- The turns that a call of `C_GenerateKeyPair` takes. -/
def Turn.generates : Turn → Bool
  | .lookUp | .check _ | .build _ | .insert _ _ => true
  | _ => false

/-- The other client's turn ends the session at the index or leaves its record alone. -/
theorem client_turn_entry (turn : Turn) (other : turn.generates = false)
    (index : Fin hsmMaxSessions) :
    (turn.Ends race index → UserOut (raceStep sha256 request race turn).2.system index) ∧
      (¬ turn.Ends race index →
        (raceStep sha256 request race turn).2.system.sessions index =
          race.system.sessions index) := by
  have skipped (quiet : ¬ race.client = .idle) (ends : Prop) (idle : ends → race.client = .idle) :
      (ends → UserOut race.system index) ∧
        (¬ ends → race.system.sessions index = race.system.sessions index) :=
    ⟨fun ended => absurd (idle ended) quiet, fun _ => rfl⟩
  have taken (idle : race.client = .idle) (after : System) (ends : Prop)
      (out : ends → UserOut after index)
      (kept : ¬ ends → after.sessions index = race.system.sessions index) :
      (race.client = .idle ∧ ends → UserOut after index) ∧
        (¬ (race.client = .idle ∧ ends) → after.sessions index = race.system.sessions index) :=
    ⟨fun ended => out ended.2, fun missed => kept (fun ended => missed ⟨idle, ended⟩)⟩
  cases turn with
  | lookUp | check stale | build env | insert env stale => cases other
  | beginLogout hSession =>
    refine ⟨False.elim, fun _ => ?_⟩
    rw [raceStep]
    split
    · split
      · rfl
      · rfl
    · rfl
  | endLogout stale =>
    rw [raceStep, Turn.Ends]
    split
    · rename_i target pointed
      obtain ⟨out, kept⟩ := logout_section_entry race.system target index stale
      rw [pointed]
      exact ⟨fun ended => out (OtherClient.loggingOut.inj ended),
        fun missed => kept (fun same => missed (congrArg _ same))⟩
    · rename_i pointless
      exact ⟨fun ended => absurd ended (pointless index), fun _ => rfl⟩
  | closeSession hSession =>
    rw [raceStep, Turn.Ends]
    split
    · rename_i idle
      obtain ⟨out, kept⟩ := close_session_entry race.system hSession index
      exact taken idle _ _ (fun ended => user_out_absent _ _ (out ended)) kept
    · rename_i busy
      exact skipped busy _ (fun ended => ended.1)
  | closeAllSessions slotID relock =>
    rw [raceStep, Turn.Ends]
    split
    · rename_i idle
      obtain ⟨out, kept⟩ := closing_all_entry race relock _ _
        (close_all_call_closes race.system slotID) index
      exact taken idle _ _ (fun ended => user_out_absent _ _ (out ended)) kept
    · rename_i busy
      exact skipped busy _ (fun ended => ended.1)
  | initToken slotID pPin pLabel env relock =>
    rw [raceStep, Turn.Ends]
    split
    · rename_i idle
      obtain ⟨out, kept⟩ := closing_all_entry race relock _ _
        (init_token_call_closes sha256 env race.system slotID pPin pLabel) index
      exact taken idle _ _ (fun ended => user_out_absent _ _ (out ended)) kept
    · rename_i busy
      exact skipped busy _ (fun ended => ended.1)

/-- The other client leaves the progress of `C_GenerateKeyPair` alone. -/
theorem client_turn_generator (turn : Turn) (other : turn.generates = false) :
    (raceStep sha256 request race turn).2.generator = race.generator := by
  have closing (relock : Bool) (result : CkRv × System) :
      (race.closingAll relock result).2.generator = race.generator := by
    rw [Race.closingAll]
    split
    · rfl
    · rfl
  cases turn with
  | lookUp | check stale | build env | insert env stale => cases other
  | beginLogout hSession =>
    rw [raceStep]
    split
    · split
      · rfl
      · rfl
    · rfl
  | endLogout stale =>
    rw [raceStep]
    split
    · rfl
    · rfl
  | closeSession hSession =>
    rw [raceStep]
    split
    · rfl
    · rfl
  | closeAllSessions slotID relock =>
    rw [raceStep]
    split
    · exact closing relock _
    · rfl
  | initToken slotID pPin pLabel env relock =>
    rw [raceStep]
    split
    · exact closing relock _
    · rfl

/-! ## The turns of the generation -/

/-- How one turn moves a call of `C_GenerateKeyPair` on. -/
inductive Advance (request : KeyPairRequest) (system : System) : Generator → Generator → Prop
  | waits (generator : Generator) : Advance request system generator generator
  | returns (generator : Generator) (rv : CkRv)
      (handles : Option (CkObjectHandle × CkObjectHandle)) :
      Advance request system generator (.returned rv handles)
  | looks (mechanism : CkMechanismType) (found : FoundSession)
      (session : hsmGetSession system request.hSession = .ok found) :
      Advance request system .start (.looked mechanism found.index)
  | checks (mechanism : CkMechanismType) (index : Fin hsmMaxSessions)
      (user : ∀ session, system.sessions index = some session → session.userLoggedIn = true) :
      Advance request system (.looked mechanism index) (.checked mechanism index)
  | builds (mechanism : CkMechanismType) (index : Fin hsmMaxSessions) (pubObj privObj : HsmObject) :
      Advance request system (.checked mechanism index) (.built index pubObj privObj)

theorem look_up_advance (system : System) :
    Advance request system .start (request.lookUp system) := by
  rw [KeyPairRequest.lookUp]
  split
  · split
    · exact .returns _ _ _
    · rename_i found session
      exact .looks _ found session
  · exact .returns _ _ _

theorem check_login_advance (system : System) (mechanism : CkMechanismType)
    (index : Fin hsmMaxSessions) (stale : Bool) :
    Advance request system (.looked mechanism index) (checkLogin system mechanism index stale) := by
  rw [checkLogin]
  cases entry : system.sessions index with
  | none =>
    cases stale with
    | false => exact .returns _ _ _
    | true =>
      refine .checks mechanism index ?_
      intro session present
      cases entry.symm.trans present
  | some session =>
    cases user : session.userLoggedIn with
    | false =>
      simp only [user]
      exact .returns _ _ _
    | true =>
      simp only [user]
      refine .checks mechanism index ?_
      intro stored present
      obtain rfl := Option.some.inj (entry.symm.trans present)
      exact user

theorem build_advance (env : Env) (system : System) (mechanism : CkMechanismType)
    (index : Fin hsmMaxSessions) :
    Advance request system (.checked mechanism index) (request.build env mechanism index) := by
  rw [KeyPairRequest.build]
  split
  · exact .returns _ _ _
  · split
    · exact .returns _ _ _
    · exact .builds mechanism index _ _

/-- The inserting section runs where the record leads to the slot. -/
theorem insert_section_runs (env : Env) (system : System) (index : Fin hsmMaxSessions)
    (stale : Bool) (pubObj privObj : HsmObject) (generator : Generator) (after : System)
    (runs : insertSection env system index stale pubObj privObj = some (generator, after)) :
    ∃ context, system.gHsmContext = some context ∧
      ((context.slot.sessions index).isSome || stale) = true ∧
      generator = .returned (insertKeyPair env system context pubObj privObj).1
        (insertKeyPair env system context pubObj privObj).2.1 ∧
      after = (insertKeyPair env system context pubObj privObj).2.2 := by
  rw [insertSection] at runs
  split at runs
  · cases runs
  · rename_i context present
    split at runs
    · rename_i leads
      refine ⟨context, present, leads, ?_⟩
      generalize insertKeyPair env system context pubObj privObj = inserted at runs ⊢
      cases runs
      exact ⟨rfl, rfl⟩
    · cases runs

theorem insert_key_pair_sessions (env : Env) (system : System) (context : HsmContext)
    (present : system.gHsmContext = some context) (pubObj privObj : HsmObject) :
    (insertKeyPair env system context pubObj privObj).2.2.sessions = system.sessions := by
  rw [sessions_present system context present]
  unfold insertKeyPair
  simp only
  split
  · rfl
  · exact sessions_present system context present

/-- A turn of the generation moves it on, and leaves the sessions alone. -/
theorem generation_turn (turn : Turn) (own : turn.generates = true) :
    Advance request race.system race.generator (raceStep sha256 request race turn).2.generator ∧
      (raceStep sha256 request race turn).2.system.sessions = race.system.sessions := by
  cases turn with
  | lookUp =>
    rw [raceStep]
    split
    · rename_i starting
      rw [starting]
      exact ⟨look_up_advance request race.system, rfl⟩
    · exact ⟨.waits _, rfl⟩
  | check stale =>
    rw [raceStep]
    split
    · rename_i mechanism index looked
      rw [looked]
      exact ⟨check_login_advance request race.system mechanism index stale, rfl⟩
    · exact ⟨.waits _, rfl⟩
  | build env =>
    rw [raceStep]
    split
    · rename_i mechanism index checked
      rw [checked]
      exact ⟨build_advance request env race.system mechanism index, rfl⟩
    · exact ⟨.waits _, rfl⟩
  | insert env stale =>
    rw [raceStep]
    split
    · rename_i index pubObj privObj built
      split
      · exact ⟨.waits _, rfl⟩
      · split
        · exact ⟨.waits _, rfl⟩
        · rename_i generator after runs
          obtain ⟨context, present, -, returned, left⟩ :=
            insert_section_runs env race.system index stale pubObj privObj generator after runs
          have sessions : after.sessions = race.system.sessions := by
            rw [left]
            exact insert_key_pair_sessions env race.system context present pubObj privObj
          exact ⟨returned ▸ .returns _ _ _, sessions⟩
    · exact ⟨.waits _, rfl⟩
  | _ => cases own

/-- A call that has built its pair returns success exactly on a turn that inserts it. -/
theorem inserts_iff (turn : Turn) (index : Fin hsmMaxSessions) (pubObj privObj : HsmObject)
    (built : race.generator = .built index pubObj privObj) :
    (∃ handles, (raceStep sha256 request race turn).2.generator = .returned .ok handles) ↔
      Inserts race turn := by
  have waiting (handles : Option (CkObjectHandle × CkObjectHandle)) :
      race.generator ≠ .returned .ok handles := by
    rw [built]
    exact Generator.noConfusion
  constructor
  · rintro ⟨handles, returned⟩
    cases turn with
    | insert env stale =>
      rw [raceStep, built] at returned
      simp only at returned
      split at returned
      · exact absurd returned (waiting handles)
      · rename_i free
        split at returned
        · exact absurd returned (waiting handles)
        · rename_i generator after runs
          obtain rfl : generator = .returned .ok handles := returned
          obtain ⟨context, present, leads, same, -⟩ :=
            insert_section_runs env race.system index stale pubObj privObj _ after runs
          obtain ⟨accepted, -⟩ := Generator.returned.inj same
          exact ⟨env, stale, index, pubObj, privObj, context, rfl, built, free, present, leads,
            (insert_key_pair_ok_iff env race.system context pubObj privObj).mp accepted.symm⟩
    | lookUp =>
      rw [raceStep, built] at returned
      exact absurd returned (waiting handles)
    | check stale =>
      rw [raceStep, built] at returned
      exact absurd returned (waiting handles)
    | build env =>
      rw [raceStep, built] at returned
      exact absurd returned (waiting handles)
    | _ =>
      rw [client_turn_generator sha256 request race _ rfl] at returned
      exact absurd returned (waiting handles)
  · rintro ⟨env, stale, index', pubObj', privObj', context, rfl, built', free, present, leads, room⟩
    have accepted := (insert_key_pair_ok_iff env race.system context pubObj' privObj').mpr room
    refine ⟨(insertKeyPair env race.system context pubObj' privObj').2.1, ?_⟩
    rw [raceStep, built']
    simp only [if_neg free, insertSection, present, if_pos leads, accepted]

/-! ## The race -/

/-- The record a call has found its user logged in on. -/
def Generator.admitted : Generator → Option (Fin hsmMaxSessions)
  | .checked _ index | .built index _ _ => some index
  | _ => none

/-- Until its end the record is the one looked up, and past the check its user is logged
in; after its end nobody is. -/
structure Watched (pair : Race × Prop) : Prop where
  found : ∀ index, pair.1.generator.index = some index → ¬ pair.2 →
    ∃ session, pair.1.system.sessions index = some session ∧ session.handle = request.hSession
  ended : ∀ index, pair.1.generator.index = some index → pair.2 → UserOut pair.1.system index
  admitted : ∀ index, pair.1.generator.admitted = some index → ¬ pair.2 →
    UserIn pair.1.system request.hSession index

theorem admitted_index (generator : Generator) (index : Fin hsmMaxSessions)
    (admitted : generator.admitted = some index) : generator.index = some index := by
  cases generator with
  | start | looked | returned => cases admitted
  | checked | built => exact admitted

/-- The other client's turns keep the watch. -/
theorem watched_client (ended : Prop) (turn : Turn) (other : turn.generates = false)
    (watched : Watched request (race, ended)) :
    Watched request (watchedStep sha256 request (race, ended) turn).2 := by
  have generator := client_turn_generator sha256 request race turn other
  have quiet (index : Fin hsmMaxSessions) (here : race.generator.index = some index)
      (unended : ¬ noteEnd race ended turn) : ¬ ended ∧
        (raceStep sha256 request race turn).2.system.sessions index =
          race.system.sessions index := by
    refine ⟨fun before => unended ⟨index, here, Or.inl before⟩, ?_⟩
    apply (client_turn_entry sha256 request race turn other index).2
    exact fun ends => unended ⟨index, here, Or.inr ends⟩
  constructor
  · intro index here unended
    change (raceStep sha256 request race turn).2.generator.index = some index at here
    rw [generator] at here
    obtain ⟨before, same⟩ := quiet index here unended
    obtain ⟨session, present, named⟩ := watched.found index here before
    exact ⟨session, same.trans present, named⟩
  · intro index here nowEnded
    change (raceStep sha256 request race turn).2.generator.index = some index at here
    rw [generator] at here
    obtain ⟨index', here', since⟩ := nowEnded
    obtain rfl := Option.some.inj (here.symm.trans here')
    obtain ⟨out, kept⟩ := client_turn_entry sha256 request race turn other index
    by_cases ends : turn.Ends race index
    · exact out ends
    · intro session present
      have before : ended := since.resolve_right ends
      exact watched.ended index here before session ((kept ends).symm.trans present)
  · intro index admitted unended
    change (raceStep sha256 request race turn).2.generator.admitted = some index at admitted
    rw [generator] at admitted
    obtain ⟨before, same⟩ := quiet index (admitted_index _ _ admitted) unended
    obtain ⟨session, present, named, user⟩ := watched.admitted index admitted before
    exact ⟨session, same.trans present, named, user⟩

/-- A call points to the record it pointed to before the turn, or to one it has just
found. -/
theorem advance_index (system : System) (before after : Generator)
    (advance : Advance request system before after) (index : Fin hsmMaxSessions)
    (here : after.index = some index) :
    before.index = some index ∨ before = .start ∧
      ∃ session, system.sessions index = some session ∧ session.handle = request.hSession := by
  cases advance with
  | waits => exact Or.inl here
  | returns => cases here
  | looks mechanism found session =>
    obtain rfl := Option.some.inj here
    obtain ⟨entry, named⟩ := get_session_entry system request.hSession found session
    exact Or.inr ⟨rfl, found.session, entry, named⟩
  | checks => exact Or.inl here
  | builds => exact Or.inl here

/-- A call is past its check on a record if it was so before the turn, or if the turn has
found no user missing there. -/
theorem advance_admitted (system : System) (before after : Generator)
    (advance : Advance request system before after) (index : Fin hsmMaxSessions)
    (admitted : after.admitted = some index) :
    before.admitted = some index ∨ before.index = some index ∧
      ∀ session, system.sessions index = some session → session.userLoggedIn = true := by
  cases advance with
  | waits => exact Or.inl admitted
  | returns => cases admitted
  | looks => cases admitted
  | checks mechanism index' user =>
    obtain rfl := Option.some.inj admitted
    exact Or.inr ⟨rfl, user⟩
  | builds => exact Or.inl admitted

/-- The generation's own turns keep the watch. -/
theorem watched_generation (ended : Prop) (turn : Turn) (own : turn.generates = true)
    (watched : Watched request (race, ended)) :
    Watched request (watchedStep sha256 request (race, ended) turn).2 := by
  obtain ⟨advance, sessions⟩ := generation_turn sha256 request race turn own
  have endless (index : Fin hsmMaxSessions) : ¬ turn.Ends race index := by
    cases turn with
    | lookUp | check | build | insert => exact id
    | _ => cases own
  have carried (index : Fin hsmMaxSessions) (here : race.generator.index = some index) :
      noteEnd race ended turn ↔ ended := by
    constructor
    · rintro ⟨index', -, since⟩
      exact since.resolve_right (endless index')
    · exact fun before => ⟨index, here, Or.inl before⟩
  constructor
  · intro index here unended
    obtain ⟨session, present, named⟩ : ∃ session, race.system.sessions index = some session ∧
        session.handle = request.hSession := by
      rcases advance_index request race.system _ _ advance index here with before | ⟨-, found⟩
      · exact watched.found index before (fun ends => unended ((carried index before).mpr ends))
      · exact found
    exact ⟨session, (congrFun sessions index).trans present, named⟩
  · intro index here nowEnded
    rcases advance_index request race.system _ _ advance index here with before | ⟨starting, -⟩
    · intro session present
      exact watched.ended index before ((carried index before).mp nowEnded) session
        ((congrFun sessions index).symm.trans present)
    · obtain ⟨index', pointed, -⟩ := nowEnded
      rw [starting] at pointed
      cases pointed
  · intro index admitted unended
    obtain ⟨session, present, named, user⟩ : UserIn race.system request.hSession index := by
      rcases advance_admitted request race.system _ _ advance index admitted with
        before | ⟨before, user⟩
      · apply watched.admitted index before
        exact fun ends => unended ((carried index (admitted_index _ _ before)).mpr ends)
      · obtain ⟨session, present, named⟩ := watched.found index before
          (fun ends => unended ((carried index before).mpr ends))
        exact ⟨session, present, named, user session present⟩
    exact ⟨session, (congrFun sessions index).trans present, named, user⟩

/-- Under the watch an insertion is authorised exactly when it comes in time. -/
theorem authorised_iff_in_time (ended : Prop) (turn : Turn)
    (watched : Watched request (race, ended)) :
    InsertionAuthorised sha256 request race turn ↔ InsertsInTime (race, ended) turn := by
  constructor
  · intro authorised inserts nowEnded
    have due := inserts
    obtain ⟨-, -, index, pubObj, privObj, -, -, built, -⟩ := due
    obtain ⟨handles, returned⟩ :=
      (inserts_iff sha256 request race turn index pubObj privObj built).mpr inserts
    apply user_out_not_in race.system request.hSession index
    · exact watched.ended index (congrArg Generator.index built) nowEnded
    · exact authorised index pubObj privObj handles built returned
  · intro inTime index pubObj privObj handles built returned
    have inserts :=
      (inserts_iff sha256 request race turn index pubObj privObj built).mp ⟨handles, returned⟩
    exact watched.admitted index (congrArg Generator.admitted built) (inTime inserts)

end OneTurn

/-- In every order of the turns of a call of `C_GenerateKeyPair` and of another client that
logs out and closes, a pair is inserted only on a live session with its user logged in
exactly when no pair is inserted after the session that was looked up has been logged out or
closed. -/
theorem insertion_authorised_iff (sha256 : Sha256) (request : KeyPairRequest) (system : System)
    (client : OtherClient) (turns : List Turn) :
    Runs.EveryStep (raceStep sha256 request) (InsertionAuthorised sha256 request)
        ⟨system, .start, client⟩ turns ↔
      Runs.EveryStep (watchedStep sha256 request) InsertsInTime (⟨system, .start, client⟩, False)
        turns := by
  apply Runs.every_step_traced_iff (raceStep sha256 request) noteEnd (Watched request)
  · rintro ⟨race, ended⟩ turn watched
    cases own : turn.generates with
    | false => exact watched_client sha256 request race ended turn own watched
    | true => exact watched_generation sha256 request race ended turn own watched
  · rintro ⟨race, ended⟩ turn watched
    exact authorised_iff_in_time sha256 request race ended turn watched
  · constructor
    · intro index here
      cases here
    · intro index here
      cases here
    · intro index admitted
      cases admitted

/-- The record of a pair that waits for its insertion. -/
def Generator.waiting : Generator → Option (Fin hsmMaxSessions)
  | .built index _ _ => some index
  | _ => none

def Generator.succeeded : Generator → Bool
  | .returned rv _ => rv == .ok
  | _ => false

/-- A pair that goes in where no user is logged in is not authorised. -/
theorem unauthorised_insertion (sha256 : Sha256) (request : KeyPairRequest) (race : Race)
    (turn : Turn) (index : Fin hsmMaxSessions) (waiting : race.generator.waiting = some index)
    (succeeded : (raceStep sha256 request race turn).2.generator.succeeded = true)
    (out : (race.system.sessions index).map HsmSession.userLoggedIn = some false) :
    ¬ InsertionAuthorised sha256 request race turn := by
  intro authorised
  cases built : race.generator with
  | built index' pubObj privObj =>
    rw [built] at waiting
    obtain rfl := Option.some.inj waiting
    cases returned : (raceStep sha256 request race turn).2.generator with
    | returned rv handles =>
      rw [returned] at succeeded
      obtain rfl : rv = .ok := eq_of_beq succeeded
      obtain ⟨session, present, -, user⟩ := authorised _ pubObj privObj handles built returned
      rw [present, Option.map_some, user] at out
      cases out
    | start | looked | checked | built =>
      rw [returned] at succeeded
      cases succeeded
  | start | looked | checked | returned =>
    rw [built] at waiting
    cases waiting

/-- An EC pair requested on session 1. -/
def requestedPair : KeyPairRequest := ⟨1, some ckmEcKeyPairGen, [], [], true, true⟩

/-- The user logs out between the check and the insertion. -/
def logoutDuringGeneration : List Turn :=
  [.lookUp, .check false, .build (calmEnv 1), .beginLogout 1, .endLogout false]

/-- The pair is inserted although the user has logged out. -/
theorem pair_inserted_after_logout :
    ¬ Runs.EveryStep (raceStep pinSha256 requestedPair)
        (InsertionAuthorised pinSha256 requestedPair) ⟨userReady, .start, .idle⟩
        (logoutDuringGeneration ++ [.insert (calmEnv 1) false]) := by
  intro every
  obtain ⟨-, last, -⟩ := (Runs.every_step_append _ _ _ logoutDuringGeneration _).mp every
  revert last
  apply unauthorised_insertion pinSha256 requestedPair _ _ ⟨0, by decide⟩
  · decide +kernel
  · decide +kernel
  · decide +kernel

end PstHsm
