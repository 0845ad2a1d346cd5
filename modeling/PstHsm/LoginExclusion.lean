import PstHsm.LoginState

/-!
# The security officer beside the user

`C_Login` looks at the session it is called on and at no other, so that the security
officer can be logged in on one session while the user is on another, and can then
replace the user's PIN. Over a run the two are never in together exactly when nobody logs
in while the other is in; within one session they never are.
-/

namespace PstHsm

open Tables

/-- The login flag for a user type. -/
def HsmSession.isIn (session : HsmSession) (userType : CkUserType) : Bool :=
  if userType = ckuSo then session.soLoggedIn else session.userLoggedIn

/-- The user type that a login excludes. -/
def otherUserType (userType : CkUserType) : CkUserType :=
  if userType = ckuSo then ckuUser else ckuSo

/-- No live session is logged in as the security officer while one is as the user. -/
def LoginsExclusive (system : System) : Prop :=
  ∀ place place' session session', system.sessions place = some session →
    system.sessions place' = some session' →
    ¬ (session.soLoggedIn = true ∧ session'.userLoggedIn = true)

/-- No live session is logged in as the given user type. -/
def NobodyIn (system : System) (userType : CkUserType) : Prop :=
  ∀ place session, system.sessions place = some session → session.isIn userType = false

/-- `C_InitPIN` succeeds only while no user is logged in. -/
def PinSetAlone (sha256 : Sha256) (system : System) (event : Event) : Prop :=
  ∀ hSession pPin env, event = .call (.initPIN hSession pPin) env →
    (step sha256 system event).1.rv = .ok → NobodyIn system ckuUser

/-- A login that passes the checks of `C_Login` is made while nobody is logged in as the
other user type. -/
def LogsInAlone (sha256 : Sha256) (system : System) (event : Event) : Prop :=
  ∀ hSession userType pin env, event = .call (.login hSession userType (some pin)) env →
    ∀ found, LogsIn system hSession userType found →
      (hsmVerifyPin sha256 found.slot userType pin).1 = .ok →
      NobodyIn system (otherUserType userType)

/-! ## Where a login comes from -/

section OneCall

variable (sha256 : Sha256) (env : Env) (system : System)

theorem logged_in_flags (session : HsmSession) (userType tested : CkUserType) (now : Nat)
    (known : userType = ckuSo ∨ userType = ckuUser)
    (knownTested : tested = ckuSo ∨ tested = ckuUser)
    (fresh : session.userLoggedIn = false ∧ session.soLoggedIn = false) :
    (session.loggedIn userType now).isIn tested = true ↔ tested = userType := by
  obtain ⟨user, officer⟩ := fresh
  have distinct : ckuUser ≠ ckuSo := by decide
  rcases known with rfl | rfl
  · rcases knownTested with rfl | rfl
    · simp [HsmSession.isIn, HsmSession.loggedIn]
    · simp [HsmSession.isIn, HsmSession.loggedIn, distinct, user]
  · rcases knownTested with rfl | rfl
    · simp [HsmSession.isIn, HsmSession.loggedIn, distinct, officer, distinct.symm]
    · simp [HsmSession.isIn, HsmSession.loggedIn, distinct]

/-- A session that is logged in after a call was so before it, or the call was an accepted
login of that user type. -/
theorem login_origin (call : Call) (tested : CkUserType)
    (knownTested : tested = ckuSo ∨ tested = ckuUser) (place : Fin hsmMaxSessions)
    (session : HsmSession)
    (present : (callStep sha256 env system call).2.sessions place = some session)
    (isIn : session.isIn tested = true) :
    (∃ before, system.sessions place = some before ∧ before.isIn tested = true) ∨
      ∃ hSession pin found, call = .login hSession tested (some pin) ∧
        LogsIn system hSession tested found ∧
        (hsmVerifyPin sha256 found.slot tested pin).1 = .ok := by
  have out (flags : HsmSession) (user : flags.userLoggedIn = false)
      (officer : flags.soLoggedIn = false) : flags.isIn tested = false := by
    rw [HsmSession.isIn, user, officer]
    exact ite_self false
  by_cases login : ∃ hSession userType pPin, call = .login hSession userType pPin
  · obtain ⟨hSession, userType, pPin, rfl⟩ := login
    change (cLogin sha256 env system hSession userType pPin).2.sessions place = _ at present
    rcases login_cases sha256 env system hSession userType pPin with
      ⟨rv, -, same⟩ | ⟨pin, found, rfl, login, ⟨rv, -, -, same⟩ | ⟨accepted, same⟩⟩
    · rw [same] at present
      exact Or.inl ⟨session, present, isIn⟩
    · obtain ⟨there, -, -⟩ := get_session_sound system hSession found login.session
      rw [same, sessions_with_slot, verify_pin_sessions] at present
      exact Or.inl ⟨session, by rw [sessions_present system _ there]; exact present, isIn⟩
    · obtain ⟨there, -, -⟩ := get_session_sound system hSession found login.session
      rw [same] at present
      change put found.slot.sessions found.index _ place = some session at present
      by_cases here : place = found.index
      · rw [here, put_self] at present
        obtain rfl := Option.some.inj present
        obtain rfl := (logged_in_flags found.session userType tested env.now login.known
          knownTested login.fresh).mp isIn
        exact Or.inr ⟨hSession, pin, found, rfl, login, accepted⟩
      · rw [put_other _ _ _ _ here] at present
        exact Or.inl ⟨session, by rw [sessions_present system _ there]; exact present, isIn⟩
  · left
    have fate := session_fate sha256 env system call place
    rw [present] at fate
    generalize becomes : some session = entry at fate
    cases fate with
    | kept => exact ⟨session, becomes.symm, isIn⟩
    | removed => cases becomes
    | opened slotID flags free =>
      obtain rfl := Option.some.inj becomes
      cases (out _ rfl rfl).symm.trans isIn
    | loggedIn userType pin context stored located fresh => exact absurd ⟨_, _, _, rfl⟩ login
    | updated call context stored after located named update =>
      obtain rfl := Option.some.inj becomes
      obtain ⟨entry, -⟩ := get_session_entry system _ _ located
      refine ⟨stored, entry, ?_⟩
      cases update with
      | loggedOut hSession => cases (out stored.loggedOut rfl rfl).symm.trans isIn
      | searchStarted hSession template idle =>
        simpa [HsmSession.isIn, hsmFindObjects] using isIn
      | _ => exact isIn

/-- An accepted login shows in the session it was made on. -/
theorem login_shows (hSession : CkSessionHandle) (userType : CkUserType) (pin : Bytes)
    (found : FoundSession) (login : LogsIn system hSession userType found)
    (accepted : (hsmVerifyPin sha256 found.slot userType pin).1 = .ok) :
    (callStep sha256 env system (.login hSession userType (some pin))).2.sessions =
      put system.sessions found.index (some (found.session.loggedIn userType env.now)) := by
  obtain ⟨session, known, fresh, writable⟩ := login
  obtain ⟨there, -, -⟩ := get_session_sound system hSession found session
  have valid : ¬ (userType ≠ ckuSo ∧ userType ≠ ckuUser) := fun neither =>
    known.elim neither.1 neither.2
  have nobody : ¬ (found.session.userLoggedIn || found.session.soLoggedIn) = true := by
    rw [fresh.1, fresh.2]
    exact Bool.false_ne_true
  have open' : ¬ (userType = ckuSo ∧ (!found.session.isReadWrite) = true) := by
    rintro ⟨so, closed⟩
    rw [writable so] at closed
    cases closed
  rw [sessions_present system _ there]
  simp only [callStep, cLogin, if_neg valid, session, if_neg nobody, if_neg open', accepted,
    ne_eq, not_true_eq_false, if_false, verify_pin_sessions]
  rfl

end OneCall

/-! ## One step -/

section OneStep

variable (sha256 : Sha256) (system : System) (event : Event)

/-- Logins made alone keep the two apart. -/
theorem exclusive_step (exclusive : LoginsExclusive system)
    (alone : LogsInAlone sha256 system event) :
    LoginsExclusive (step sha256 system event).2 := by
  cases event with
  | newProcess =>
    intro place place' session session' present
    cases present
  | call call env =>
    intro place place' session session' present present' ⟨officer, user⟩
    rcases login_origin sha256 env system call ckuSo (Or.inl rfl) place session present officer with
      ⟨before, entry, was⟩ | ⟨hSession, pin, found, rfl, login, accepted⟩
    · rcases login_origin sha256 env system call ckuUser (Or.inr rfl) place' session' present'
        user with ⟨before', entry', was'⟩ | ⟨hSession, pin, found, rfl, login, accepted⟩
      · exact exclusive place place' before before' entry entry' ⟨was, was'⟩
      · have nobody := alone hSession ckuUser pin env rfl found login accepted place before entry
        cases nobody.symm.trans was
    · rcases login_origin sha256 env system _ ckuUser (Or.inr rfl) place' session' present'
        user with ⟨before', entry', was'⟩ | ⟨hSession', pin', found', same, -, -⟩
      · have nobody := alone hSession ckuSo pin env rfl found login accepted place' before' entry'
        cases nobody.symm.trans was'
      · cases same

/-- Where the two are apart after a step, nobody has logged in beside the other. -/
theorem alone_of_exclusive (exclusive : LoginsExclusive (step sha256 system event).2) :
    LogsInAlone sha256 system event := by
  rintro hSession userType pin env rfl found login accepted place session entry
  have distinct : ckuUser ≠ ckuSo := by decide
  obtain ⟨located, -⟩ := get_session_entry system hSession found login.session
  rw [← Bool.not_eq_true]
  intro isIn
  have shows := login_shows sha256 env system hSession userType pin found login accepted
  have apart : place ≠ found.index := by
    rintro rfl
    cases located.symm.trans entry
    obtain ⟨user, officer⟩ := login.fresh
    rw [HsmSession.isIn, user, officer, ite_self] at isIn
    cases isIn
  have here : (callStep sha256 env system (.login hSession userType (some pin))).2.sessions
      found.index = some (found.session.loggedIn userType env.now) := by
    rw [shows, put_self]
  have there : (callStep sha256 env system (.login hSession userType (some pin))).2.sessions
      place = some session := by
    rw [shows, put_other _ _ _ _ apart]
    exact entry
  have entered := (logged_in_flags found.session userType userType env.now login.known login.known
    login.fresh).mpr rfl
  rcases login.known with rfl | rfl
  · exact exclusive found.index place _ session here there ⟨entered, isIn⟩
  · exact exclusive place found.index session _ there here ⟨isIn, entered⟩

/-- While the two are apart the user's PIN is set for no logged-in user. -/
theorem pin_set_alone (exclusive : LoginsExclusive system) :
    PinSetAlone sha256 system event := by
  rintro hSession pPin env rfl succeeded place session entry
  change (cInitPIN sha256 env system hSession pPin).1 = .ok at succeeded
  rcases init_pin_cases sha256 env system hSession pPin with
    ⟨rv, failed, same⟩ | ⟨pin, found, -, located, officer, -⟩
  · rw [same] at succeeded
    exact absurd succeeded failed
  · obtain ⟨there, -⟩ := get_session_entry system hSession found located
    rw [← Bool.not_eq_true]
    intro user
    exact exclusive found.index place found.session session there entry ⟨officer, user⟩

end OneStep

/-! ## Runs -/

/-- From a state in which the two are apart they stay apart, and no PIN is set beside a
logged-in user, exactly when every login is made alone. -/
theorem exclusive_run_iff (sha256 : Sha256) (system : System) (events : List Event)
    (initially : LoginsExclusive system) :
    (Runs.Throughout (step sha256) LoginsExclusive system events ∧
        Runs.EveryStep (step sha256) (PinSetAlone sha256) system events) ↔
      Runs.EveryStep (step sha256) (LogsInAlone sha256) system events := by
  induction events generalizing system with
  | nil => exact iff_of_true ⟨initially, trivial⟩ trivial
  | cons event rest inductionHypothesis =>
    constructor
    · rintro ⟨⟨-, later⟩, -, pinsLater⟩
      have next := Runs.throughout_prefix (step sha256) LoginsExclusive _ [] rest later
      exact ⟨alone_of_exclusive sha256 system event next,
        (inductionHypothesis _ next).mp ⟨later, pinsLater⟩⟩
    · rintro ⟨alone, later⟩
      have next := exclusive_step sha256 system event initially alone
      obtain ⟨always, pins⟩ := (inductionHypothesis _ next).mpr later
      exact ⟨⟨initially, always⟩, pin_set_alone sha256 system event initially, pins⟩

/-- In every run of a process the security officer and the user are never logged in
together, and the user's PIN is never set beside a logged-in user, exactly when every login
is made while nobody is logged in as the other user type. -/
theorem logins_exclusive_iff (sha256 : Sha256) (system : System) (events : List Event)
    (booted : Booted system) :
    (Runs.Throughout (step sha256) LoginsExclusive system events ∧
        Runs.EveryStep (step sha256) (PinSetAlone sha256) system events) ↔
      Runs.EveryStep (step sha256) (LogsInAlone sha256) system events := by
  apply exclusive_run_iff sha256 system events
  rw [booted]
  intro place place' session session' present
  cases present

theorem blank_process_exclusive :
    (Runs.Throughout (step pinSha256) LoginsExclusive (bootProcess freshStorage) tokenSetUp ∧
        Runs.EveryStep (step pinSha256) (PinSetAlone pinSha256) (bootProcess freshStorage)
          tokenSetUp) ↔
      Runs.EveryStep (step pinSha256) (LogsInAlone pinSha256) (bootProcess freshStorage)
        tokenSetUp :=
  logins_exclusive_iff pinSha256 (bootProcess freshStorage) tokenSetUp rfl

/-- The security officer logs in on a second session while the user is logged in on the
first. -/
def officerBesideUser : List Event :=
  tokenSetUp ++
    [calmly (.openSession 0 (ckfSerialSession ||| ckfRwSession) true),
      calmly (.login 2 ckuSo (some soPin))]

/-- Both are in, and the user's PIN can be replaced under the user. -/
theorem officer_joins_user :
    ¬ Runs.Throughout (step pinSha256) LoginsExclusive (bootProcess freshStorage)
        officerBesideUser ∧
      ¬ PinSetAlone pinSha256
        (Runs.run (step pinSha256) (bootProcess freshStorage) officerBesideUser)
        (calmly (.initPIN 2 (some otherUserPin))) := by
  have officer : ((Runs.run (step pinSha256) (bootProcess freshStorage)
      officerBesideUser).sessions ⟨1, by decide⟩).map HsmSession.soLoggedIn = some true := by
    decide +kernel
  have user : ((Runs.run (step pinSha256) (bootProcess freshStorage)
      officerBesideUser).sessions ⟨0, by decide⟩).map HsmSession.userLoggedIn = some true := by
    decide +kernel
  have accepted : (step pinSha256
      (Runs.run (step pinSha256) (bootProcess freshStorage) officerBesideUser)
      (calmly (.initPIN 2 (some otherUserPin)))).1.rv = .ok := by
    decide +kernel
  obtain ⟨session, present, so⟩ := Option.map_eq_some_iff.mp officer
  obtain ⟨session', present', us⟩ := Option.map_eq_some_iff.mp user
  constructor
  · intro always
    exact Runs.throughout_last _ _ _ _ always _ _ session session' present present' ⟨so, us⟩
  · intro alone
    cases (alone 2 _ _ rfl accepted _ session' present').symm.trans us

end PstHsm
