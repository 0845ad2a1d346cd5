import PstHsm.PinMachine

/-!
# Attempts across restarts

The token file keeps the PIN hashes but neither the retry counters nor the
locks, so `C_Initialize` always starts with three attempts. A restart therefore
keeps the remaining attempts exactly when none was used. A tally of the wrong
guesses that survives restarts shows what follows: it stays within three in
every run whose restarts, and whose unauthorised token resets, find all attempts
left.
-/

namespace PstHsm

open AttemptLimit

/-! ## One restart -/

/-- `C_Finalize` and `C_Initialize`, in the same process or in a new one. -/
def restart (inNewProcess : Bool) (env : Env) : List Event :=
  if inNewProcess then
    [.call (.finalizeLibrary false) env, .newProcess, .call .initializeLibrary env]
  else [.call (.finalizeLibrary false) env, .call .initializeLibrary env]

/-- The lock and the remaining attempts of both user types are the same. -/
def SameAttempts (before after : HsmSlot) : Prop :=
  ∀ userType, (after.pinFields userType).locked = (before.pinFields userType).locked ∧
    (after.pinFields userType).retryCount = (before.pinFields userType).retryCount

/-- Every restart from here that succeeds keeps the lock and the attempts. -/
def RestartKeepsAttempts (sha256 : Sha256) (system : System) : Prop :=
  ∀ inNewProcess env before after, system.gHsmContext = some before →
    (Runs.run (step sha256) system (restart inNewProcess env)).gHsmContext = some after →
    SameAttempts before.slot after.slot

/-- No attempt of either user type has been used. -/
def AttemptsUnused (system : System) : Prop :=
  ∀ context ∈ system.gHsmContext,
    context.slot.soPinRetryCount = hsmPinRetryCount ∧
      context.slot.userPinRetryCount = hsmPinRetryCount

instance (system : System) : Decidable (AttemptsUnused system) :=
  inferInstanceAs (Decidable (∀ context ∈ system.gHsmContext, _))

/-- An event that ends the period leaves the library uninitialized. -/
theorem period_ends (sha256 : Sha256) (system : System) (event : Event)
    (ends : event.endsPeriod = true) : (step sha256 system event).2.gHsmContext = none := by
  cases event with
  | newProcess => rfl
  | call call env =>
    cases call with
    | finalizeLibrary pReserved =>
      obtain rfl : pReserved = false := by simpa [Event.endsPeriod] using ends
      exact finalize_ends sha256 env system
    | _ => cases ends

/-- Every reachable initialized slot represents some machine. -/
theorem reachable_represents (sha256 : Sha256) (system : System)
    (reached : Reachable sha256 system) (context : HsmContext)
    (present : system.gHsmContext = some context) :
    ∃ machine, PinsRepresent context.slot machine := by
  have always : ∀ context, system.gHsmContext = some context →
      ∃ machine, PinsRepresent context.slot machine := by
    apply Runs.invariant_reachable (step sha256) Booted
      (fun system => ∀ context, system.gHsmContext = some context →
        ∃ machine, PinsRepresent context.slot machine) _ _ system reached
    · intro started booted context present
      rw [booted] at present
      cases present
    · intro before event represented context afterwards
      cases present : before.gHsmContext with
      | some earlier =>
        obtain ⟨machine, represents⟩ := represented earlier present
        cases continues : event.endsPeriod with
        | false =>
          obtain ⟨⟨after, there, shown⟩, -⟩ :=
            event_agrees sha256 before machine event earlier present represents continues
          obtain rfl := Option.some.inj (there.symm.trans afterwards)
          exact ⟨_, shown⟩
        | true =>
          rw [period_ends sha256 before event continues] at afterwards
          cases afterwards
      | none =>
        cases event with
        | newProcess => cases afterwards
        | call call env =>
          obtain ⟨fopen, storage, same, -⟩ :=
            absent_initializes sha256 env before call context present afterwards
          rw [same]
          exact ⟨_, init_slot_represents fopen storage⟩
  exact always context present

/-- A restart leads to a slot just initialized. -/
theorem restart_initializes (sha256 : Sha256) (inNewProcess : Bool) (env : Env)
    (system : System) (after : HsmContext)
    (afterwards :
      (Runs.run (step sha256) system (restart inNewProcess env)).gHsmContext = some after) :
    ∃ fopen storage, after.slot = hsmInitSlot fopen storage := by
  cases inNewProcess with
  | true =>
    obtain ⟨fopen, storage, same, -⟩ := absent_initializes sha256 env _ _ after rfl afterwards
    exact ⟨fopen, storage, same⟩
  | false =>
    obtain ⟨fopen, storage, same, -⟩ :=
      absent_initializes sha256 env _ _ after (finalize_ends sha256 env system) afterwards
    exact ⟨fopen, storage, same⟩

/-- A slot just initialized has all attempts and no lock. -/
theorem init_slot_attempts (fopen : Bool) (storage : Storage) (userType : CkUserType) :
    ((hsmInitSlot fopen storage).pinFields userType).locked = false ∧
      ((hsmInitSlot fopen storage).pinFields userType).retryCount = hsmPinRetryCount := by
  rw [hsmInitSlot, hsmStorageLoadTokenInfo, HsmSlot.pinFields]
  split
  · split
    · exact ⟨rfl, rfl⟩
    · exact ⟨rfl, rfl⟩
  · split
    · exact ⟨rfl, rfl⟩
    · exact ⟨rfl, rfl⟩

/-- A restart can succeed whatever the state before it. -/
theorem restart_possible (sha256 : Sha256) (system : System) :
    ∃ after, (Runs.run (step sha256) system (restart true (calmEnv 1))).gHsmContext =
      some after := by
  refine ⟨hsmInitContext (hsmInitSlot true (hsmStorageInit (calmEnv 1)
    (callStep sha256 (calmEnv 1) system (.finalizeLibrary false)).2.storage).2), ?_⟩
  simp [restart, Runs.run, step, callStep, cInitialize, bootProcess, hsmStorageInit, calmEnv]

/-- From a reachable state, restarts keep the attempts exactly when none was used. -/
theorem restart_keeps_attempts_iff (sha256 : Sha256) (system : System)
    (reached : Reachable sha256 system) :
    RestartKeepsAttempts sha256 system ↔ AttemptsUnused system := by
  constructor
  · intro keeps context present
    obtain ⟨after, afterwards⟩ := restart_possible sha256 system
    obtain ⟨fopen, storage, same⟩ :=
      restart_initializes sha256 true (calmEnv 1) system after afterwards
    have kept := keeps true (calmEnv 1) context after present afterwards
    rw [same] at kept
    constructor
    · have so := (kept ckuSo).2
      rw [(init_slot_attempts _ storage ckuSo).2] at so
      exact so.symm
    · have user := (kept ckuUser).2
      rw [(init_slot_attempts _ storage ckuUser).2] at user
      exact user.symm
  · intro unused inNewProcess env before after present afterwards userType
    obtain ⟨fopen, storage, same⟩ :=
      restart_initializes sha256 inNewProcess env system after afterwards
    obtain ⟨machine, represents⟩ := reachable_represents sha256 system reached before present
    have left : (before.slot.pinFields userType).retryCount = hsmPinRetryCount := by
      obtain ⟨so, user⟩ := unused before present
      rw [HsmSlot.pinFields]
      split
      · exact so
      · exact user
    have free : (before.slot.pinFields userType).locked = false := by
      by_contra locked
      have none_left := (represents userType).exhausted.mp (by simpa using locked)
      rw [left] at none_left
      cases none_left
    obtain ⟨locked, attempts⟩ := init_slot_attempts _ storage userType
    rw [same, locked, attempts, left, free]
    exact ⟨rfl, rfl⟩

/-! ## The tally -/

/-- The wrong guesses evaluated since the last correct guess or authorised reset,
for each user type. Restarts do not touch it. -/
structure Tally where
  so : Nat
  user : Nat
  deriving DecidableEq

/-- The count a user type selects. -/
def Tally.count (tally : Tally) (userType : CkUserType) : Nat :=
  if userType = ckuSo then tally.so else tally.user

/-- Replace the count a user type selects. -/
def Tally.withCount (tally : Tally) (userType : CkUserType) (count : Nat) : Tally :=
  if userType = ckuSo then { tally with so := count } else { tally with user := count }

/-- A guess is evaluated when a PIN is set and not locked; then the right one
clears the count and a wrong one adds to it. -/
def Tally.guessed (tally : Tally) (fields : PinFields) (userType : CkUserType)
    (digest : Buffer 32) : Tally :=
  if fields.initialized && !fields.locked then
    tally.withCount userType (if digest = fields.storedHash then 0 else tally.count userType + 1)
  else tally

/-- The tally after an event. A token reset without authority clears nothing. -/
def Tally.next (sha256 : Sha256) (system : System) (tally : Tally) (event : Event) : Tally :=
  match system.gHsmContext with
  | none => tally
  | some context =>
    match pinAction sha256 system event with
    | .idle => tally
    | .guess userType digest =>
      tally.guessed (context.slot.pinFields userType) userType digest
    | .change userType old _ => tally.guessed (context.slot.pinFields userType) userType old
    | .resetToken _ => if takesOver sha256 system event then tally else ⟨0, 0⟩
    | .setUser _ => { tally with user := 0 }

/-- The process with its tally. -/
def talliedStep (sha256 : Sha256) : System × Tally → Event → Response × System × Tally :=
  Runs.traced (step sha256) fun system tally event => tally.next sha256 system event

/-- At most three wrong guesses of each user type are on the tally. -/
def WithinAttempts (pair : System × Tally) : Prop :=
  pair.2.so ≤ hsmPinRetryCount ∧ pair.2.user ≤ hsmPinRetryCount

instance (pair : System × Tally) : Decidable (WithinAttempts pair) :=
  inferInstanceAs (Decidable (_ ∧ _))

/-- The event gives attempts back without a correct guess or an authorised reset. -/
def givesBack (sha256 : Sha256) (system : System) (event : Event) : Bool :=
  event.endsPeriod || takesOver sha256 system event

/-- Attempts are given back only where none was used. -/
def GivesBackUnused (sha256 : Sha256) (pair : System × Tally) (event : Event) : Prop :=
  givesBack sha256 pair.1 event = true → AttemptsUnused pair.1

instance (sha256 : Sha256) (pair : System × Tally) (event : Event) :
    Decidable (GivesBackUnused sha256 pair event) :=
  inferInstanceAs (Decidable (_ → _))

/-- No count of the tally is above the wrong guesses of the machine. -/
def Tally.Below (tally : Tally) (machine : PinMachine) : Prop :=
  ∀ userType, tally.count userType ≤ (machine.holder userType).wrong

/-- The tally is below a machine that the slot represents, and empty while the
library is not initialized. -/
def TallyBounded (pair : System × Tally) : Prop :=
  match pair.1.gHsmContext with
  | none => pair.2 = ⟨0, 0⟩
  | some context => ∃ machine, PinsRepresent context.slot machine ∧ pair.2.Below machine

/-- A bounded tally is within the attempts. -/
theorem bounded_within (pair : System × Tally) (bounded : TallyBounded pair) :
    WithinAttempts pair := by
  rw [TallyBounded] at bounded
  split at bounded
  · rw [WithinAttempts, bounded]
    exact ⟨Nat.zero_le _, Nat.zero_le _⟩
  · obtain ⟨machine, -, below⟩ := bounded
    exact ⟨(below ckuSo).trans machine.so.bounded, (below ckuUser).trans machine.user.bounded⟩

theorem with_count_count (tally : Tally) (userType tested : CkUserType) (count : Nat) :
    (tally.withCount userType count).count tested =
      if (userType = ckuSo ↔ tested = ckuSo) then count else tally.count tested := by
  by_cases so : userType = ckuSo
  · by_cases testedSo : tested = ckuSo
    · simp [Tally.withCount, Tally.count, so, testedSo]
    · simp [Tally.withCount, Tally.count, so, testedSo]
  · by_cases testedSo : tested = ckuSo
    · simp [Tally.withCount, Tally.count, so, testedSo]
    · simp [Tally.withCount, Tally.count, so, testedSo]

/-- A record is unchanged by a guess that its fields do not evaluate; otherwise the
guess counts on the record what it counts on the tally. -/
theorem guess_counts (fields : PinFields) (record : PinRecord) (digest : Buffer 32)
    (represents : fields.Represents record) :
    ((fields.initialized && !fields.locked) = false → (record.guess digest).2 = record) ∧
      ((fields.initialized && !fields.locked) = true →
        (record.guess digest).2.wrong =
          if digest = fields.storedHash then 0 else record.wrong + 1) := by
  obtain ⟨secret, attempts, exhausted⟩ := represents
  cases initialized : fields.initialized with
  | false =>
    have unset : record.secret = none := by simp [secret, initialized]
    rw [guess_unset record digest unset]
    exact ⟨fun _ => rfl, nofun⟩
  | true =>
    have stored : record.secret = some fields.storedHash := by simp [secret, initialized]
    cases locked : fields.locked with
    | true =>
      have none_left := exhausted.mp locked
      have full : record.wrong = hsmPinRetryCount := by omega
      rw [guess_locked record digest fields.storedHash stored full]
      exact ⟨fun _ => rfl, nofun⟩
    | false =>
      have room : record.wrong ≠ hsmPinRetryCount := by
        intro full
        have none_left : fields.retryCount = 0 := by omega
        rw [exhausted.mpr none_left] at locked
        cases locked
      refine ⟨nofun, fun _ => ?_⟩
      by_cases same : digest = fields.storedHash
      · rw [if_pos same, same, guess_right record fields.storedHash stored room]
      · rw [if_neg same]
        exact (guess_wrong record digest fields.storedHash stored room same).2

/-- A guess keeps the tally below the machine. -/
theorem guessed_below (tally : Tally) (slot : HsmSlot) (machine : PinMachine)
    (userType : CkUserType) (digest : Buffer 32) (represents : PinsRepresent slot machine)
    (below : tally.Below machine) :
    (tally.guessed (slot.pinFields userType) userType digest).Below
      (machine.withHolder userType ((machine.holder userType).guess digest).2) := by
  obtain ⟨skipped, counted⟩ :=
    guess_counts (slot.pinFields userType) (machine.holder userType) digest (represents userType)
  intro tested
  rw [with_holder_holder]
  rw [Tally.guessed]
  by_cases selected : userType = ckuSo ↔ tested = ckuSo
  · have holders := (pin_fields_congr slot machine userType tested selected).2
    rw [if_pos selected]
    split
    · rename_i evaluated
      rw [with_count_count, if_pos selected, counted evaluated]
      split
      · exact Nat.le_refl 0
      · exact Nat.succ_le_succ (below userType)
    · rename_i evaluated
      rw [skipped (by simpa using evaluated), holders]
      exact below tested
  · rw [if_neg selected]
    split
    · rw [with_count_count, if_neg selected]
      exact below tested
    · exact below tested

/-- Setting a new secret after an accepted guess counts no more than the guess. -/
theorem change_below (tally : Tally) (machine : PinMachine) (userType : CkUserType)
    (old new : Buffer 32)
    (below : tally.Below (machine.withHolder userType ((machine.holder userType).guess old).2))
    (accepted : ((machine.holder userType).guess old).1 = .accepted →
      ((machine.holder userType).guess old).2.wrong = 0) :
    tally.Below (machine.act (.change userType old new)).2 := by
  intro tested
  have shown := below tested
  rw [act_change]
  rw [with_holder_holder] at shown ⊢
  by_cases selected : userType = ckuSo ↔ tested = ckuSo
  · rw [if_pos selected] at shown ⊢
    split
    · rename_i told
      rw [accepted told] at shown
      exact shown
    · exact shown
  · rw [if_neg selected] at shown ⊢
    exact shown

/-- An accepted guess leaves nothing counted. -/
theorem accepted_clears (record : PinRecord) (digest : Buffer 32)
    (accepted : (record.guess digest).1 = .accepted) : (record.guess digest).2.wrong = 0 := by
  obtain ⟨stored, room⟩ := (guess_accepted_iff record digest).mp accepted
  rw [guess_right record digest stored room]

/-- With all attempts unused the represented machine has counted nothing, and
neither has the tally below it. -/
theorem unused_empty_tally (slot : HsmSlot) (machine : PinMachine) (tally : Tally)
    (represents : PinsRepresent slot machine) (below : tally.Below machine)
    (so : slot.soPinRetryCount = hsmPinRetryCount)
    (user : slot.userPinRetryCount = hsmPinRetryCount) : tally = ⟨0, 0⟩ := by
  obtain ⟨officer, holder⟩ := (pins_represent_iff slot machine).mp represents
  have soAttempts : slot.soPinRetryCount + machine.so.wrong = hsmPinRetryCount := officer.attempts
  have userAttempts : slot.userPinRetryCount + machine.user.wrong = hsmPinRetryCount :=
    holder.attempts
  have soBelow : tally.so ≤ machine.so.wrong := below ckuSo
  have userBelow : tally.user ≤ machine.user.wrong := below ckuUser
  obtain ⟨soCount, userCount⟩ := tally
  have soZero : soCount = 0 := by simp only at soBelow; omega
  have userZero : userCount = 0 := by simp only at userBelow; omega
  rw [soZero, userZero]

/-- An empty tally is below every machine. -/
theorem empty_tally_below (machine : PinMachine) : (⟨0, 0⟩ : Tally).Below machine := by
  intro userType
  rw [Tally.count]
  split
  · exact Nat.zero_le _
  · exact Nat.zero_le _

/-- Within a period the tally follows the machine's move. -/
theorem next_below (sha256 : Sha256) (system : System) (tally : Tally) (event : Event)
    (context : HsmContext) (machine : PinMachine) (present : system.gHsmContext = some context)
    (represents : PinsRepresent context.slot machine) (below : tally.Below machine)
    (guarded : GivesBackUnused sha256 (system, tally) event) :
    (tally.next sha256 system event).Below (machine.act (pinAction sha256 system event)).2 := by
  rw [Tally.next]
  rw [present]
  cases action : pinAction sha256 system event with
  | idle => exact below
  | guess userType digest =>
    exact guessed_below tally context.slot machine userType digest represents below
  | change userType old new =>
    apply change_below _ machine userType old new
    · exact guessed_below tally context.slot machine userType old represents below
    · exact accepted_clears (machine.holder userType) old
  | resetToken digest =>
    simp only
    split
    · rename_i takes
      have unused := guarded (by simp [givesBack, takes]) context present
      rw [unused_empty_tally context.slot machine tally represents below unused.1 unused.2]
      exact empty_tally_below _
    · exact empty_tally_below _
  | setUser digest =>
    intro userType
    have shown := below userType
    rw [Tally.count, PinMachine.holder] at shown ⊢
    split at shown
    · rename_i so
      simp only [so, if_true]
      exact shown
    · rename_i so
      simp only [so, if_false]
      exact Nat.zero_le _

/-- One event that gives attempts back only where none was used keeps the tally
bounded. -/
theorem tally_bounded_step (sha256 : Sha256) (pair : System × Tally) (event : Event)
    (bounded : TallyBounded pair) (guarded : GivesBackUnused sha256 pair event) :
    TallyBounded (talliedStep sha256 pair event).2 := by
  obtain ⟨system, tally⟩ := pair
  rw [TallyBounded] at bounded
  simp only at bounded
  rw [TallyBounded, talliedStep, Runs.traced]
  simp only
  cases present : system.gHsmContext with
  | none =>
    rw [present] at bounded
    simp only at bounded
    have stays : tally.next sha256 system event = tally := by
      rw [Tally.next]
      rw [present]
    rw [stays, bounded]
    split
    · rfl
    · rename_i after afterwards
      cases event with
      | newProcess => cases afterwards
      | call call env =>
        obtain ⟨fopen, storage, same, -⟩ :=
          absent_initializes sha256 env system call after present afterwards
        rw [same]
        exact ⟨_, init_slot_represents fopen storage, empty_tally_below _⟩
  | some context =>
    rw [present] at bounded
    simp only at bounded
    obtain ⟨machine, represents, below⟩ := bounded
    have next := next_below sha256 system tally event context machine present represents below
      guarded
    cases continues : event.endsPeriod with
    | true =>
      rw [period_ends sha256 system event continues]
      simp only
      have unused := guarded (by simp [givesBack, continues]) context present
      have idle : pinAction sha256 system event = .idle := by
        cases event with
        | newProcess => rfl
        | call call env =>
          cases call with
          | finalizeLibrary pReserved => rfl
          | _ => cases continues
      have stays : tally.next sha256 system event = tally := by
        rw [Tally.next]
        rw [present, idle]
      rw [stays]
      exact unused_empty_tally context.slot machine tally represents below unused.1 unused.2
    | false =>
      obtain ⟨⟨after, there, shown⟩, -⟩ :=
        event_agrees sha256 system machine event context present represents continues
      rw [there]
      exact ⟨_, shown, next⟩

/-- From every state that a run reaches, restarts keep the attempts exactly when
none was used; and in every run that gives attempts back only where none was
used, at most three wrong guesses of each user type are ever on the tally. -/
theorem attempts_survive_restarts (sha256 : Sha256) (system : System) (events : List Event)
    (booted : Booted system) :
    (RestartKeepsAttempts sha256 (Runs.run (step sha256) system events) ↔
        AttemptsUnused (Runs.run (step sha256) system events)) ∧
      (Runs.EveryStep (talliedStep sha256) (GivesBackUnused sha256) (system, ⟨0, 0⟩) events →
        WithinAttempts (Runs.run (talliedStep sha256) (system, ⟨0, 0⟩) events)) := by
  constructor
  · apply restart_keeps_attempts_iff
    exact ⟨system, events, booted, rfl⟩
  · intro guarded
    apply bounded_within
    apply Runs.invariant_run (talliedStep sha256) TallyBounded (GivesBackUnused sha256) _ _ _ _
      guarded
    · intro pair event
      exact tally_bounded_step sha256 pair event
    · rw [booted]
      rfl

/-- A wrong guess, the right PIN, and a restart with all attempts left. -/
def unusedRestart : List Event :=
  tokenSetUp ++
    [calmly (.logout 1),
      calmly (.login 1 ckuUser (some otherUserPin)),
      calmly (.login 1 ckuUser (some userPin))] ++
    restart true (calmEnv 1)

theorem unused_restart_within_attempts :
    (RestartKeepsAttempts pinSha256
          (Runs.run (step pinSha256) (bootProcess freshStorage) unusedRestart) ↔
        AttemptsUnused (Runs.run (step pinSha256) (bootProcess freshStorage) unusedRestart)) ∧
      WithinAttempts
        (Runs.run (talliedStep pinSha256) (bootProcess freshStorage, ⟨0, 0⟩) unusedRestart) := by
  obtain ⟨kept, within⟩ :=
    attempts_survive_restarts pinSha256 (bootProcess freshStorage) unusedRestart rfl
  exact ⟨kept, within (by decide +kernel)⟩

/-- Three wrong guesses lock the user's PIN. -/
def lockedUser : List Event :=
  tokenSetUp ++
    [calmly (.logout 1),
      calmly (.login 1 ckuUser (some otherUserPin)),
      calmly (.login 1 ckuUser (some otherUserPin)),
      calmly (.login 1 ckuUser (some otherUserPin))]

/-- After a restart a fourth wrong guess is evaluated. -/
def fourthGuess : List Event :=
  lockedUser ++ restart true (calmEnv 1) ++
    [calmly (.openSession 0 (ckfSerialSession ||| ckfRwSession) true),
      calmly (.login 1 ckuUser (some otherUserPin))]

theorem restart_unlocks_user :
    Booted (bootProcess freshStorage) ∧
      ¬ RestartKeepsAttempts pinSha256
        (Runs.run (step pinSha256) (bootProcess freshStorage) lockedUser) ∧
      ¬ WithinAttempts
        (Runs.run (talliedStep pinSha256) (bootProcess freshStorage, ⟨0, 0⟩) fourthGuess) := by
  refine ⟨rfl, ?_, by decide +kernel⟩
  intro keeps
  have reached : Reachable pinSha256
      (Runs.run (step pinSha256) (bootProcess freshStorage) lockedUser) :=
    ⟨bootProcess freshStorage, lockedUser, rfl, rfl⟩
  have unused := (restart_keeps_attempts_iff pinSha256 _ reached).mp keeps
  exact absurd unused (by decide +kernel)

end PstHsm
