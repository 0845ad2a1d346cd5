import PstHsm.SessionRecords

/-!
# The login state of a session

Beside each entry of the session table a history is kept: the flags the session was
opened with, and the successful logins and logouts made on it, the newest first. A
login is noted with the PIN supplied and the PIN fields as they were. The history
is taken from calls and answers; the entry a call is made on is found as the library
finds it.

Two login flags, the read-write bit and the state field are all determined by the
history, in every run. Sessions are identified by their entry, so no bound on the
number of openings is needed.
-/

namespace PstHsm

open Tables

/-! ## Histories -/

inductive LoginEvent where
  | login (userType : CkUserType) (pin : Bytes) (fields : PinFields)
  | logout

/-- What was done to one session since it was opened. -/
structure SessionHistory where
  flags : CkFlags
  logins : List LoginEvent

/-- The last successful login or logout was a login of the given user type. -/
def SessionHistory.LastLogin (history : SessionHistory) (userType : CkUserType) : Prop :=
  ∃ pin fields, history.logins.head? = some (.login userType pin fields)

/-- What a call notes about the logins of the session it is made on. -/
def System.loginNoted (system : System) (call : Call) : Option LoginEvent :=
  match call, system.gHsmContext with
  | .login _ userType (some pin), some context =>
    some (.login userType pin (context.slot.pinFields userType))
  | .logout _, some _ => some .logout
  | _, _ => none

/-- A successful opening starts a history at an entry that was empty; a successful login
or logout extends that of the session it was made on. -/
def noteLogin (system : System) (place : Fin hsmMaxSessions) (call : Call) (response : Response)
    (history : SessionHistory) : SessionHistory :=
  if response.rv ≠ .ok then history
  else
    match call with
    | .openSession _ flags _ => if (system.sessions place).isNone then ⟨flags, []⟩ else history
    | call =>
      if system.actsOn call = some place then
        { history with logins := (system.loginNoted call).toList ++ history.logins }
      else history

/-- The process with the histories of its sessions. -/
def loginStep (sha256 : Sha256) : System × (Fin hsmMaxSessions → SessionHistory) → Event →
    Response × System × (Fin hsmMaxSessions → SessionHistory) :=
  recordStep sha256 noteLogin

/-- Before any call nothing has been noted. -/
def noHistories : Fin hsmMaxSessions → SessionHistory := fun _ => ⟨0, []⟩

/-! ## What the fields of a session say -/

/-- The state that the login flags and the read-write bit determine. -/
def determinedState (soLoggedIn userLoggedIn isReadWrite : Bool) : HsmSessionState :=
  if soLoggedIn then .rwSo
  else if userLoggedIn then if isReadWrite then .rwUser else .roUser
  else if isReadWrite then .rwPublic
  else .roPublic

/-- The fields of a session agree with its history and with each other. -/
structure LoginReflected (sha256 : Sha256) (session : HsmSession) (history : SessionHistory) :
    Prop where
  officer : session.soLoggedIn = true ↔ history.LastLogin ckuSo
  user : session.userLoggedIn = true ↔ history.LastLogin ckuUser
  accepted : ∀ userType pin fields, history.logins.head? = some (.login userType pin fields) →
    fields.initialized = true ∧ fields.locked = false ∧ sha256 pin = fields.storedHash
  exclusive : ¬ (session.soLoggedIn = true ∧ session.userLoggedIn = true)
  writable : session.soLoggedIn = true → history.flags &&& ckfRwSession ≠ 0
  readWrite : session.isReadWrite = (history.flags &&& ckfRwSession != 0)
  state : session.state =
    determinedState session.soLoggedIn session.userLoggedIn session.isReadWrite

/-- The switch of `C_GetSessionInfo` has a case for every determined state. -/
theorem determined_state_valid (soLoggedIn userLoggedIn isReadWrite : Bool) :
    determinedState soLoggedIn userLoggedIn isReadWrite ≠ .invalid := by
  cases soLoggedIn <;> cases userLoggedIn <;> cases isReadWrite <;>
    exact HsmSessionState.noConfusion

section Sessions

variable (sha256 : Sha256)

/-- A session just opened under its flags. -/
theorem fresh_session_reflected (handle : CkSessionHandle) (flags : CkFlags) (now : Nat) :
    LoginReflected sha256 (freshSession handle flags now) ⟨flags, []⟩ := by
  refine ⟨?_, ?_, ?_, ?_, ?_, rfl, rfl⟩
  · refine iff_of_false Bool.false_ne_true ?_
    rintro ⟨pin, fields, last⟩
    cases last
  · refine iff_of_false Bool.false_ne_true ?_
    rintro ⟨pin, fields, last⟩
    cases last
  · intro userType pin fields last
    cases last
  · rintro ⟨officer, -⟩
    cases officer
  · intro officer
    cases officer

/-- A session on which a PIN was just accepted. -/
theorem logged_in_reflected (session : HsmSession) (history : SessionHistory)
    (userType : CkUserType) (pin : Bytes) (fields : PinFields) (now : Nat)
    (known : userType = ckuSo ∨ userType = ckuUser)
    (fresh : session.userLoggedIn = false ∧ session.soLoggedIn = false)
    (writable : userType = ckuSo → session.isReadWrite = true)
    (accepted : fields.initialized = true ∧ fields.locked = false ∧
      sha256 pin = fields.storedHash)
    (reflected : LoginReflected sha256 session history) :
    LoginReflected sha256 (session.loggedIn userType now)
      { history with logins := .login userType pin fields :: history.logins } := by
  have distinct : ckuUser ≠ ckuSo := by decide
  have last (tested : CkUserType) :
      SessionHistory.LastLogin
        { history with logins := .login userType pin fields :: history.logins } tested ↔
        tested = userType := by
    constructor
    · rintro ⟨_, _, same⟩
      cases same
      rfl
    · rintro rfl
      exact ⟨pin, fields, rfl⟩
  have noted (userType' : CkUserType) (pin' : Bytes) (fields' : PinFields)
      (head : (LoginEvent.login userType pin fields :: history.logins).head? =
        some (.login userType' pin' fields')) :
      fields'.initialized = true ∧ fields'.locked = false ∧ sha256 pin' = fields'.storedHash := by
    cases head
    exact accepted
  obtain ⟨userOut, officerOut⟩ := fresh
  rcases known with rfl | rfl
  · have readWrite := writable rfl
    refine ⟨?_, ?_, noted, ?_, ?_, ?_, ?_⟩
    · exact iff_of_true (by simp [HsmSession.loggedIn]) ((last ckuSo).mpr rfl)
    · refine iff_of_false ?_ fun same => distinct ((last ckuUser).mp same)
      simp [HsmSession.loggedIn, userOut]
    · simp [HsmSession.loggedIn, userOut]
    · intro _
      have flags := reflected.readWrite
      rw [readWrite] at flags
      simpa using flags.symm
    · simpa [HsmSession.loggedIn] using reflected.readWrite
    · simp [HsmSession.loggedIn, determinedState]
  · refine ⟨?_, ?_, noted, ?_, ?_, ?_, ?_⟩
    · refine iff_of_false ?_ fun same => distinct ((last ckuSo).mp same).symm
      simp [HsmSession.loggedIn, distinct, officerOut]
    · exact iff_of_true (by simp [HsmSession.loggedIn, distinct]) ((last ckuUser).mpr rfl)
    · simp [HsmSession.loggedIn, distinct, officerOut]
    · simp [HsmSession.loggedIn, distinct, officerOut]
    · simpa [HsmSession.loggedIn, distinct] using reflected.readWrite
    · simp [HsmSession.loggedIn, distinct, determinedState, officerOut]

/-- A session just logged out. -/
theorem logged_out_reflected (session : HsmSession) (history : SessionHistory)
    (reflected : LoginReflected sha256 session history) :
    LoginReflected sha256 session.loggedOut
      { history with logins := .logout :: history.logins } := by
  have nobody (userType : CkUserType) :
      ¬ SessionHistory.LastLogin { history with logins := .logout :: history.logins } userType := by
    rintro ⟨pin, fields, last⟩
    cases last
  refine ⟨?_, ?_, ?_, ?_, ?_, reflected.readWrite, ?_⟩
  · exact iff_of_false Bool.false_ne_true (nobody ckuSo)
  · exact iff_of_false Bool.false_ne_true (nobody ckuUser)
  · intro userType pin fields last
    cases last
  · rintro ⟨officer, -⟩
    cases officer
  · intro officer
    cases officer
  · rfl

/-- Changes of a session other than a logout leave the login fields alone. -/
theorem update_reflected (slot : HsmSlot) (session after : HsmSession) (call : Call)
    (history : SessionHistory) (update : SessionUpdate slot session call after)
    (other : ∀ hSession, call ≠ .logout hSession)
    (reflected : LoginReflected sha256 session history) :
    LoginReflected sha256 after history := by
  have same (changed : HsmSession) (so : changed.soLoggedIn = session.soLoggedIn)
      (user : changed.userLoggedIn = session.userLoggedIn)
      (readWrite : changed.isReadWrite = session.isReadWrite)
      (state : changed.state = session.state) : LoginReflected sha256 changed history := by
    obtain ⟨officerHistory, userHistory, accepted, exclusive, writable, bit, determined⟩ :=
      reflected
    rw [← so] at officerHistory exclusive writable determined
    rw [← user] at userHistory exclusive determined
    rw [← readWrite] at bit determined
    rw [← state] at determined
    exact ⟨officerHistory, userHistory, accepted, exclusive, writable, bit, determined⟩
  cases update with
  | loggedOut hSession => exact absurd rfl (other hSession)
  | searchStarted hSession template idle =>
    apply same
    all_goals simp [hsmFindObjects]
  | _ =>
    apply same
    all_goals rfl

end Sessions

/-! ## One call -/

section Calls

variable (sha256 : Sha256) (env : Env) (system : System)

/-- The calls that start a session or log somebody in or out. -/
def Call.changesLogin : Call → Bool
  | .openSession _ _ _ | .login _ _ _ | .logout _ => true
  | _ => false

variable (place : Fin hsmMaxSessions) (call : Call) (response : Response)
  (history : SessionHistory)

theorem login_refused (refused : response.rv ≠ .ok) :
    noteLogin system place call response history = history := by
  rw [noteLogin.eq_def, if_pos refused]

/-- A call made on another entry adds nothing to the history of a live session. -/
theorem login_elsewhere (present : system.sessions place ≠ none)
    (elsewhere : system.actsOn call ≠ some place) :
    noteLogin system place call response history = history := by
  unfold noteLogin
  split
  · rfl
  · split
    · exact if_neg fun free => present (Option.isNone_iff_eq_none.mp free)
    · exact if_neg elsewhere

/-- Other calls add nothing to any history. -/
theorem login_quiet (quiet : call.changesLogin = false) :
    noteLogin system place call response history = history := by
  have nothing : system.loginNoted call = none := by
    unfold System.loginNoted
    split
    · cases quiet
    · cases quiet
    · rfl
  unfold noteLogin
  split
  · rfl
  · split
    · cases quiet
    · rw [nothing]
      exact ite_self history

/-- A call made on a session keeps its fields reflecting its history. -/
theorem acted_reflected (hSession : CkSessionHandle) (found : FoundSession)
    (session : HsmSession) (named : call.hSession = some hSession)
    (located : hsmGetSession system hSession = .ok found)
    (present : (callStep sha256 env system call).2.sessions found.index = some session)
    (reflected : LoginReflected sha256 found.session history) :
    LoginReflected sha256 session
      (noteLogin system found.index call (callStep sha256 env system call).1 history) := by
  obtain ⟨there, -, -⟩ := get_session_sound system hSession found located
  have entry := (get_session_entry system hSession found located).1
  have acts := acts_on_found system call hSession found named located
  cases quiet : call.changesLogin with
  | true =>
    cases call with
    | openSession slotID flags phSession => cases named
    | login hSession userType pPin =>
      obtain rfl := Option.some.inj named
      rcases login_cases sha256 env system hSession userType pPin with
        ⟨rv, failed, same⟩ | ⟨pin, stored, rfl, login, outcome⟩
      · simp only [callStep, same] at present ⊢
        rw [login_refused system _ _ _ history failed]
        cases entry.symm.trans present
        exact reflected
      · cases located.symm.trans login.session
        rcases outcome with ⟨rv, failed, -, same⟩ | ⟨accepted, same⟩
        · simp only [callStep, same] at present ⊢
          rw [login_refused system _ _ _ history failed]
          rw [sessions_with_slot, verify_pin_sessions] at present
          rw [sessions_present system found.context there] at entry
          cases entry.symm.trans present
          exact reflected
        · simp only [callStep, same] at present ⊢
          rw [written_back system found _ _ session rfl present]
          have noted : noteLogin system found.index (.login hSession userType (some pin))
              ⟨.ok, .nothing⟩ history =
              { history with
                logins := .login userType pin (found.slot.pinFields userType) ::
                  history.logins } := by
            simp [noteLogin, acts, System.loginNoted, there, FoundSession.slot]
          rw [noted]
          exact logged_in_reflected sha256 _ _ userType pin _ env.now login.known login.fresh
            login.writable (verify_pin_accepts sha256 found.slot userType pin accepted) reflected
    | logout hSession =>
      obtain rfl := Option.some.inj named
      rcases logout_cases system hSession with ⟨rv, failed, same⟩ | ⟨stored, again, same⟩
      · simp only [callStep, same] at present ⊢
        rw [login_refused system _ _ _ history failed]
        cases entry.symm.trans present
        exact reflected
      · cases located.symm.trans again
        simp only [callStep, same] at present ⊢
        rw [written_back system found (found.slotWith found.session.loggedOut) _ session rfl
          present]
        have noted : noteLogin system found.index (.logout hSession) ⟨.ok, .nothing⟩ history =
            { history with logins := .logout :: history.logins } := by
          simp [noteLogin, acts, System.loginNoted, there]
        rw [noted]
        exact logged_out_reflected sha256 found.session history reflected
    | _ => cases quiet
  | false =>
    rw [login_quiet system _ call _ history quiet]
    have change := session_change sha256 env system call found.index found.session session entry
      present
    cases change with
    | kept => exact reflected
    | loggedIn userType pin context again fresh => cases quiet
    | updated call context after again _ update =>
      apply update_reflected sha256 context.slot found.session session call history update
      · rintro hSession rfl
        cases quiet
      · exact reflected

end Calls

/-! ## Runs -/

/-- The rule for login histories. -/
theorem login_record_rule (sha256 : Sha256) :
    RecordRule sha256 noteLogin (LoginReflected sha256) := by
  constructor
  · intro system place slotID flags response now history succeeded vacant
    have started : noteLogin system place (.openSession slotID flags true) response history =
        ⟨flags, []⟩ := by
      simp [noteLogin, succeeded, vacant]
    rw [started]
    exact fresh_session_reflected sha256 _ flags now
  · exact login_elsewhere
  · intro env system call hSession found session history
    exact acted_reflected sha256 env system call history hSession found session

/-- In every run the fields of every live session are those its own history determines,
`C_GetSessionInfo` finds a state its switch knows, and a call made on one session leaves
every other session as it is. -/
theorem login_state_reflects_history (sha256 : Sha256) (system : System) (events : List Event)
    (booted : Booted system) :
    AllSessions (LoginReflected sha256) (Runs.run (loginStep sha256) (system, noHistories) events).1
        (Runs.run (loginStep sha256) (system, noHistories) events).2 ∧
      (∀ hSession found,
        hsmGetSession (Runs.run (loginStep sha256) (system, noHistories) events).1 hSession =
          .ok found → found.session.state ≠ .invalid) ∧
      ∀ env call hSession place session, call.hSession = some hSession →
        (Runs.run (loginStep sha256) (system, noHistories) events).1.sessions place =
          some session →
        (Runs.run (loginStep sha256) (system, noHistories) events).1.actsOn call ≠ some place →
        (callStep sha256 env (Runs.run (loginStep sha256) (system, noHistories) events).1
          call).2.sessions place = some session := by
  have reflected := records_run sha256 noteLogin (LoginReflected sha256)
    (login_record_rule sha256) system events booted noHistories
  refine ⟨reflected, ?_, ?_⟩
  · intro hSession found located
    rw [(reflected _ _ (get_session_entry _ hSession found located).1).state]
    exact determined_state_valid _ _ _
  · intro env call hSession place session named present elsewhere
    rcases session_untouched sha256 env _ call place session present elsewhere with
      same | ⟨nobody, -⟩
    · exact same
    · cases named.symm.trans nobody

/-- Logging the security officer in and out and the user in. -/
theorem token_set_up_reflected :
    AllSessions (LoginReflected pinSha256)
      (Runs.run (loginStep pinSha256) (bootProcess freshStorage, noHistories) tokenSetUp).1
      (Runs.run (loginStep pinSha256) (bootProcess freshStorage, noHistories) tokenSetUp).2 :=
  (login_state_reflects_history pinSha256 (bootProcess freshStorage) tokenSetUp rfl).1

end PstHsm
