import PstHsm.ThreadedTables

/-!
# Racing guesses

Threads that guess a PIN at the same time get no more guesses than one thread. Their calls make
the moves of the abstract machine one after the other, and for every guess that is accepted, and
for every PIN that is set, at most two are told that they were wrong, and two more at the start.
-/

namespace PstHsm

open Tables CriticalSections AttemptLimit

variable (sha256 : Sha256)

/-! ## The sections in their calls -/

section Calls

variable (env : Env) (system : System) (hSession : CkSessionHandle) (found : FoundSession)
variable (located : hsmGetSession system hSession = .ok found)

include located

/-- `C_Login` is its section, and then its session. -/
theorem login_section_in_call (cameBy : CameBy) (userType : CkUserType) (pPin : Bytes)
    (known : userType = ckuSo ∨ userType = ckuUser)
    (nobody : (found.session.userLoggedIn || found.session.soLoggedIn) = false)
    (readWrite : userType = ckuSo → found.session.isReadWrite = true) :
    ∃ slot, (SlotCall.login cameBy userType pPin).inOneStep sha256 system =
        (((cLogin sha256 env system hSession userType (some pPin)).1, []),
          system.withSlot found.context slot) ∧
      (cLogin sha256 env system hSession userType (some pPin)).2 =
        system.withSlot found.context
          (if (cLogin sha256 env system hSession userType (some pPin)).1 = .ok then
            { slot with
              sessions := put slot.sessions found.index
                (some (found.session.loggedIn userType env.now)) }
          else slot) := by
  have present := (get_session_sound system hSession found located).1
  have types : ¬ (userType ≠ ckuSo ∧ userType ≠ ckuUser) := by
    rintro ⟨notSo, notUser⟩
    rcases known with so | user
    · exact notSo so
    · exact notUser user
  have allowed : ¬ (userType = ckuSo ∧ (!found.session.isReadWrite) = true) := by
    rintro ⟨so, readOnly⟩
    rw [readWrite so] at readOnly
    cases readOnly
  refine ⟨(hsmVerifyPin sha256 found.slot userType pPin).2, ?_⟩
  unfold SlotCall.inOneStep cLogin
  simp only [present, if_neg types, located, nobody, Bool.false_eq_true, if_false, if_neg allowed]
  by_cases accepted : (hsmVerifyPin sha256 found.slot userType pPin).1 = .ok
  · have here : (hsmVerifyPin sha256 found.context.slot userType pPin).1 = .ok := accepted
    simp only [accepted, here, ne_eq, not_true_eq_false, if_false, if_true]
    exact ⟨rfl, trivial⟩
  · simp only [accepted, ne_eq, not_false_eq_true, if_true, if_false]
    exact ⟨rfl, trivial⟩

/-- `C_SetPIN` is its section. -/
theorem change_pin_section_in_call (pOldPin : Bytes) (pNewPin : NewPin)
    (somebody : ¬ (!found.session.userLoggedIn && !found.session.soLoggedIn) = true) :
    (SlotCall.changePin (found.index, found.session) pOldPin pNewPin env).inOneStep sha256 system =
      (((cSetPIN sha256 env system hSession (some pOldPin) (some pNewPin)).1, []),
        (cSetPIN sha256 env system hSession (some pOldPin) (some pNewPin)).2) := by
  have present := (get_session_sound system hSession found located).1
  obtain ⟨longEnough, shortEnough⟩ := pNewPin.property
  unfold SlotCall.inOneStep
  by_cases accepted : (hsmVerifyPin sha256 found.slot found.session.pinOwner pOldPin).1 = .ok
  · have here : (hsmVerifyPin sha256 found.context.slot found.session.pinOwner pOldPin).1 = .ok :=
      accepted
    rw [set_pin_replaces sha256 env system hSession pOldPin pNewPin found located longEnough
      shortEnough somebody accepted]
    simp only [present, here, ne_eq, not_true_eq_false, if_false]
    rfl
  · have here : (hsmVerifyPin sha256 found.context.slot found.session.pinOwner pOldPin).1 ≠ .ok :=
      accepted
    have inRange : ¬ (pNewPin.val.length < hsmMinPinLen ||
        pNewPin.val.length > hsmMaxPinLen) = true := by
      simp only [Bool.or_eq_true, decide_eq_true_eq]
      omega
    simp only [present, cSetPIN, if_neg inRange, located, if_neg somebody, accepted, here, ne_eq,
      not_false_eq_true, if_true]
    rfl

/-- `C_InitPIN` is its section. -/
theorem init_pin_section_in_call (cameBy : CameBy) (pPin : NewPin)
    (officer : found.session.soLoggedIn = true) :
    (SlotCall.initPin cameBy pPin env).inOneStep sha256 system =
      (((cInitPIN sha256 env system hSession (some pPin)).1, []),
        (cInitPIN sha256 env system hSession (some pPin)).2) := by
  have present := (get_session_sound system hSession found located).1
  obtain ⟨longEnough, shortEnough⟩ := pPin.property
  have inRange : ¬ (pPin.val.length < hsmMinPinLen || pPin.val.length > hsmMaxPinLen) = true := by
    simp only [Bool.or_eq_true, decide_eq_true_eq]
    omega
  have known : ¬ (!found.session.soLoggedIn) = true := by
    rw [officer]
    exact Bool.false_ne_true
  unfold SlotCall.inOneStep
  simp only [present, cInitPIN, if_neg inRange, located, if_neg known,
    set_pin_admissible sha256 _ _ pPin.val longEnough shortEnough, ne_eq, not_true_eq_false,
    if_false]
  rfl

end Calls

/-! ## One call on the machine -/

/-- What a call asks of the machine. -/
def SlotCall.pinAction : SlotCall → PinAction
  | .login _ userType pPin => .guess userType (sha256 pPin)
  | .changePin cameBy pOldPin pNewPin _ =>
    .change cameBy.2.pinOwner (sha256 pOldPin) (sha256 pNewPin)
  | .initPin _ pPin _ => .setUser (sha256 pPin)
  | _ => .idle

/-- The move that a call makes. -/
def SlotCall.onMachine (call : SlotCall) (machine : PinMachine) : Option Verdict × PinMachine :=
  machine.act (call.pinAction sha256)

/-- The slot of the process represents the machine. -/
def ProcessRepresents (system : System) (machine : PinMachine) : Prop :=
  ∃ context, system.gHsmContext = some context ∧ PinsRepresent context.slot machine

/-- A call about a PIN returns the verdict of the machine, or succeeds where there is none. -/
def AnsweredBy (call : SlotCall) (answer : SlotAnswer) (verdict : Option Verdict) : Prop :=
  call.onPins = true → answer.1 = verdict.elim .ok verdictRv

/-- A call that is about no PIN asks nothing. -/
theorem quiet_call_idle (call : SlotCall) (quiet : call.onPins = false) :
    call.pinAction sha256 = .idle := by
  cases call with
  | login cameBy userType pPin => cases quiet
  | changePin cameBy pOldPin pNewPin env => cases quiet
  | initPin cameBy pPin env => cases quiet
  | _ => rfl

/-- What a call does in the process its move does on the machine. -/
theorem effect_represents (system after : System) (call : SlotCall) (answer : SlotAnswer)
    (machine : PinMachine) (effect : SlotEffect sha256 system call answer after)
    (represented : ProcessRepresents system machine) :
    ProcessRepresents after (call.onMachine sha256 machine).2 ∧
      AnsweredBy call answer (call.onMachine sha256 machine).1 := by
  obtain ⟨before, there, pins⟩ := represented
  have silent (now : HsmContext) (presentNow : after.gHsmContext = some now)
      (same : SamePins before.slot now.slot) (quiet : call.onPins = false) :
      ProcessRepresents after (call.onMachine sha256 machine).2 ∧
        AnsweredBy call answer (call.onMachine sha256 machine).1 := by
    rw [SlotCall.onMachine, quiet_call_idle sha256 call quiet]
    refine ⟨⟨now, presentNow, same_pins_represent _ _ machine same pins⟩, ?_⟩
    intro asks
    rw [quiet] at asks
    cases asks
  cases effect with
  | nothing _ rv quiet =>
    rcases quiet with absent | quiet
    · rw [there] at absent
      cases absent
    · exact silent before there (fun _ => rfl) quiet
  | sessionCreated flags env context index session present free =>
    cases there.symm.trans present
    exact silent _ rfl (fun _ => rfl) rfl
  | sessionDestroyed hSession context index session present entry =>
    cases there.symm.trans present
    exact silent _ rfl (fun _ => rfl) rfl
  | objectCreated cameBy template env context place object type storage present free =>
    cases there.symm.trans present
    exact silent _ rfl (fun _ => rfl) rfl
  | objectDestroyed cameBy hObject env context place object storage present entry =>
    cases there.symm.trans present
    exact silent _ rfl (fun _ => rfl) rfl
  | pairInserted cameBy pubObj privObj env context pubIdx privIdx pub priv storage present pubFree
      privFree different =>
    cases there.symm.trans present
    exact silent _ rfl (fun _ => rfl) rfl
  | guessed cameBy userType pPin context present =>
    cases there.symm.trans present
    obtain ⟨rv, after, -⟩ := verify_pin_represents sha256 before.slot machine userType pPin pins
    exact ⟨⟨_, rfl, after⟩, fun _ => rv⟩
  | changeRefused cameBy pOldPin pNewPin env context present refused =>
    cases there.symm.trans present
    obtain ⟨rv, after, -⟩ :=
      verify_pin_represents sha256 before.slot machine cameBy.2.pinOwner pOldPin pins
    have unaccepted : ((machine.holder cameBy.2.pinOwner).guess (sha256 pOldPin)).1 ≠
        .accepted := by
      intro accepted
      rw [accepted] at rv
      exact refused rv
    rw [SlotCall.onMachine, SlotCall.pinAction, act_change, if_neg unaccepted]
    exact ⟨⟨_, rfl, after⟩, fun _ => rv⟩
  | pinChanged cameBy pOldPin pNewPin env context storage present accepted =>
    cases there.symm.trans present
    obtain ⟨rv, -, -⟩ :=
      verify_pin_represents sha256 before.slot machine cameBy.2.pinOwner pOldPin pins
    have verdict : ((machine.holder cameBy.2.pinOwner).guess (sha256 pOldPin)).1 = .accepted :=
      verdict_accepted _ (rv.symm.trans accepted)
    rw [SlotCall.onMachine, SlotCall.pinAction, act_change, if_pos verdict, verdict]
    refine ⟨⟨_, rfl, ?_⟩, fun _ => rfl⟩
    exact verified_pin_replaced_represents sha256 before.slot machine cameBy.2.pinOwner pOldPin
      (sha256 pNewPin) pins accepted
  | userPinSet cameBy pPin env context storage present =>
    cases there.symm.trans present
    exact ⟨⟨_, rfl, user_pin_set_represents before.slot machine (sha256 pPin) pins⟩, fun _ => rfl⟩

/-! ## What is told -/

/-- The call is about the PIN that a user type selects. -/
def SlotCall.concerns (owner : CkUserType) : SlotCall → Bool
  | .login _ userType _ => decide (userType = ckuSo ↔ owner = ckuSo)
  | .changePin cameBy _ _ _ => decide (cameBy.2.pinOwner = ckuSo ↔ owner = ckuSo)
  | .initPin _ _ _ => decide (owner ≠ ckuSo)
  | _ => false

section Told

variable {κ : Type} (owner : CkUserType)

/-- A guess at the PIN was told to be wrong. -/
def toldWrong (entry : κ × SlotCall × SlotAnswer) : Bool :=
  entry.2.1.concerns owner && decide (entry.2.2.1 = .pinIncorrect)

/-- The PIN was guessed, changed or set. -/
def succeeded (entry : κ × SlotCall × SlotAnswer) : Bool :=
  entry.2.1.concerns owner && decide (entry.2.2.1 = .ok)

/-- Only the verdict on a wrong guess with attempts left reads as a PIN that is incorrect. -/
theorem verdict_wrong_iff (verdict : Verdict) :
    verdictRv verdict = .pinIncorrect ↔ verdict = .wrong := by
  cases verdict with
  | _ => decide

/-- Only an accepted guess reads as a success. -/
theorem verdict_accepted_iff (verdict : Verdict) :
    verdictRv verdict = .ok ↔ verdict = .accepted := by
  cases verdict with
  | _ => decide

/-- A guess at the record of one user type, which is told its verdict, spends from that record. -/
theorem holder_spends (machine : PinMachine) (userType : CkUserType) (after : PinRecord)
    (verdict : Verdict) (rv : CkRv) (answered : rv = verdictRv verdict)
    (spends : (if verdict = .wrong then 1 else 0) + (machine.holder userType).spent ≤
      (if verdict = .accepted then hsmPinRetryCount - 1 else 0) + after.spent) :
    (if (decide (userType = ckuSo ↔ owner = ckuSo) && decide (rv = .pinIncorrect)) = true
        then 1 else 0) + (machine.holder owner).spent ≤
      (if (decide (userType = ckuSo ↔ owner = ckuSo) && decide (rv = .ok)) = true
        then hsmPinRetryCount - 1 else 0) +
          ((machine.withHolder userType after).holder owner).spent := by
  rw [with_holder_holder]
  by_cases same : userType = ckuSo ↔ owner = ckuSo
  · have holder : machine.holder owner = machine.holder userType := by
      simp only [PinMachine.holder, same]
    rw [holder, if_pos same, answered]
    simpa only [same, decide_true, Bool.true_and, decide_eq_true_eq, verdict_wrong_iff,
      verdict_accepted_iff] using spends
  · rw [if_neg same]
    simp only [same, decide_false, Bool.false_and, Bool.false_eq_true, if_false]
    exact Nat.le_refl _

/-- A call that is told that its guess was wrong has spent it, and only one that succeeds gives
back what was spent. -/
theorem move_spends (thread : κ) (call : SlotCall) (answer : SlotAnswer) (machine : PinMachine)
    (answered : AnsweredBy call answer (call.onMachine sha256 machine).1) :
    (if toldWrong owner (thread, call, answer) then 1 else 0) + (machine.holder owner).spent ≤
      (if succeeded owner (thread, call, answer) then hsmPinRetryCount - 1 else 0) +
        ((call.onMachine sha256 machine).2.holder owner).spent := by
  have quiet (silent : call.onPins = false) (elsewhere : call.concerns owner = false) :
      (if toldWrong owner (thread, call, answer) then 1 else 0) + (machine.holder owner).spent ≤
        (if succeeded owner (thread, call, answer) then hsmPinRetryCount - 1 else 0) +
          ((call.onMachine sha256 machine).2.holder owner).spent := by
    rw [SlotCall.onMachine, quiet_call_idle sha256 call silent]
    simp only [toldWrong, succeeded, elsewhere, Bool.false_and, Bool.false_eq_true, if_false]
    exact Nat.le_refl _
  cases call with
  | login cameBy userType pPin =>
    exact holder_spends owner machine userType _ _ answer.1 (answered rfl)
      (guess_spends (machine.holder userType) (sha256 pPin))
  | changePin cameBy pOldPin pNewPin env =>
    exact holder_spends owner machine cameBy.2.pinOwner _ _ answer.1 (answered rfl)
      (change_spends (machine.holder cameBy.2.pinOwner) (sha256 pOldPin) (sha256 pNewPin))
  | initPin cameBy pPin env =>
    have told : answer.1 = .ok := answered rfl
    have bounded := spent_bounded machine.user
    by_cases officer : owner = ckuSo
    · simp only [toldWrong, succeeded, SlotCall.concerns, officer, ne_eq, not_true_eq_false,
        decide_false, Bool.false_and, Bool.false_eq_true, if_false, PinMachine.holder, if_true]
      exact Nat.le_refl _
    · simp only [toldWrong, succeeded, SlotCall.concerns, officer, ne_eq, not_false_eq_true,
        decide_true, Bool.true_and, told, reduceCtorEq, decide_false, Bool.false_eq_true,
        if_false, if_true, PinMachine.holder, SlotCall.onMachine, SlotCall.pinAction,
        PinMachine.act, set_spent]
      omega
  | _ => exact quiet rfl rfl

end Told

/-! ## Every interleaving -/

section Guesses

variable {κ : Type}

/-- One call after another makes one move after another. -/
theorem serial_represents (start : System) (machine : PinMachine)
    (represented : ProcessRepresents start machine) (entries : List (κ × SlotCall)) :
    ProcessRepresents (serially (SlotCall.inOneStep sha256) start entries).1
        (serially (SlotCall.onMachine sha256) machine entries).1 ∧
      List.Forall₂ (Alike AnsweredBy) (serially (SlotCall.inOneStep sha256) start entries).2
        (serially (SlotCall.onMachine sha256) machine entries).2 := by
  apply serially_related _ _ ProcessRepresents AnsweredBy _ start machine represented
  intro call system machine represented
  exact effect_represents sha256 _ _ call _ machine (step_effect sha256 call system) represented

/-- What was told to be wrong along a serial run was given back, or is spent in the end. -/
theorem serial_spends (owner : CkUserType) (start : System) (machine : PinMachine)
    (represented : ProcessRepresents start machine) (entries : List (κ × SlotCall)) :
    (serially (SlotCall.inOneStep sha256) start entries).2.countP (toldWrong owner) ≤
      (hsmPinRetryCount - 1) *
          (serially (SlotCall.inOneStep sha256) start entries).2.countP (succeeded owner) +
        ((serially (SlotCall.onMachine sha256) machine entries).1.holder owner).spent := by
  induction entries using List.reverseRecOn with
  | nil => exact Nat.zero_le _
  | append_singleton before entry inductionHypothesis =>
    obtain ⟨representedBefore, -⟩ := serial_represents sha256 start machine represented before
    have effect := step_effect sha256 entry.2 (serially (SlotCall.inOneStep sha256) start before).1
    obtain ⟨-, answered⟩ :=
      effect_represents sha256 _ _ entry.2 _ _ effect representedBefore
    have spends := move_spends sha256 owner entry.1 entry.2 _ _ answered
    rw [serially_snoc, serially_snoc, serve, serve]
    simp only [List.countP_append, List.countP_singleton, Nat.mul_add, mul_ite, Nat.mul_one,
      Nat.mul_zero]
    omega

end Guesses

/-- The user's PIN has a length that is accepted. -/
theorem user_pin_fits : hsmMinPinLen ≤ userPin.length ∧ userPin.length ≤ hsmMaxPinLen := by decide

/-- Two threads open a session each, one sets the user's PIN, and then both guess it wrongly at
the same time, twice. -/
def racingGuesses : List (Happening Bool SlotCall) :=
  [.call false (.createSession ckfSerialSession (calmEnv 1)),
    .call true (.createSession ckfSerialSession (calmEnv 1))] ++ alternately 27 ++
  [.call false (.initPin (openedAs 1 firstEntry) ⟨userPin, user_pin_fits⟩ (calmEnv 1))] ++
  alternately 12 ++
  [.call false (.login (openedAs 1 firstEntry) ckuUser otherUserPin),
    .call true (.login (openedAs 2 secondEntry) ckuUser otherUserPin)] ++ alternately 26 ++
  [.call false (.login (openedAs 1 firstEntry) ckuUser otherUserPin),
    .call true (.login (openedAs 2 secondEntry) ckuUser otherUserPin)] ++ alternately 26

/-- Nobody closes a session. -/
theorem racing_guesses_stay : SessionsStay pinSha256 lostSession blankMemory racingGuesses := by
  decide +kernel

/-- A fresh machine represents what was loaded. -/
theorem blank_represents :
    ProcessRepresents blankMemory.system (.loaded (hsmInitSlot true freshStorage)) :=
  ⟨_, rfl, init_slot_represents true freshStorage⟩

section Guesses

variable {κ : Type} [DecidableEq κ] (astray : SlotProgram SlotAnswer)

/-- However threads take turns, their calls make the moves of the machine one after the other, in
the order in which they gave up the lock of the slot: every call about a PIN is answered with the
verdict, and whenever the lock is free the slot represents the machine. No session is closed that
another call came in by before that call has the lock. -/
theorem racing_pins_refine (start : SlotMemory) (machine : PinMachine)
    (represented : ProcessRepresents start.system machine)
    (happenings : List (Happening κ SlotCall))
    (stay : SessionsStay sha256 astray start happenings) :
    let threads := interleaved sha256 astray start happenings
    let moves := serially (SlotCall.onMachine sha256) machine threads.served
    (∀ thread, List.Forall₂ (Alike AnsweredBy)
      (threads.returned.filter (·.1 = thread) ++ threads.inFlight thread)
      (moves.2.filter (·.1 = thread))) ∧
    (threads.owner .slotLock = none → ProcessRepresents threads.memory.system moves.1) := by
  intro threads moves
  have orderly := interleaved_orderly sha256 astray start happenings stay
  obtain ⟨representedNow, alike⟩ :=
    serial_represents sha256 start.system machine represented threads.served
  rw [serial_in_one_step] at representedNow alike
  constructor
  · intro thread
    rw [← orderly.answers thread]
    exact alike_filter AnsweredBy _ _ alike fun other => decide (other = thread)
  · intro free
    rw [(orderly.free free).2]
    exact representedNow

theorem racing_pins_refine_guesses :
    (interleaved pinSha256 lostSession blankMemory racingGuesses).owner .slotLock = none ∧
      ProcessRepresents (interleaved pinSha256 lostSession blankMemory racingGuesses).memory.system
        (serially (SlotCall.onMachine pinSha256) (.loaded (hsmInitSlot true freshStorage))
          (interleaved pinSha256 lostSession blankMemory racingGuesses).served).1 :=
  have free :
      (interleaved pinSha256 lostSession blankMemory racingGuesses).owner .slotLock = none := by
    decide +kernel
  ⟨free, (racing_pins_refine pinSha256 lostSession blankMemory _ blank_represents racingGuesses
    racing_guesses_stay).2 free⟩

/-- However threads take turns, no more than two guesses at a PIN are told to be wrong for each
time that it was guessed, changed or set, and two more at the start. No session is closed that
another call came in by before that call has the lock. -/
theorem racing_guesses_limited (start : SlotMemory) (machine : PinMachine)
    (represented : ProcessRepresents start.system machine)
    (happenings : List (Happening κ SlotCall))
    (stay : SessionsStay sha256 astray start happenings) (owner : CkUserType) :
    (interleaved sha256 astray start happenings).returned.countP (toldWrong owner) ≤
      (hsmPinRetryCount - 1) *
        ((servedAnswers sha256 astray start happenings).countP (succeeded owner) + 1) := by
  have spends := serial_spends sha256 owner start.system machine represented
    (interleaved sha256 astray start happenings).served
  have bounded := spent_bounded ((serially (SlotCall.onMachine sha256) machine
    (interleaved sha256 astray start happenings).served).1.holder owner)
  have told := (returned_of_served sha256 astray start happenings stay).countP_le (toldWrong owner)
  rw [servedAnswers] at told ⊢
  rw [Nat.mul_add, Nat.mul_one]
  omega

end Guesses

theorem racing_guesses_limited_guesses :
    (interleaved pinSha256 lostSession blankMemory racingGuesses).returned.countP
        (toldWrong ckuUser) = 2 ∧
      (interleaved pinSha256 lostSession blankMemory racingGuesses).returned.countP
        (toldWrong ckuUser) ≤ (hsmPinRetryCount - 1) *
          ((servedAnswers pinSha256 lostSession blankMemory racingGuesses).countP
            (succeeded ckuUser) + 1) :=
  ⟨by decide +kernel, racing_guesses_limited pinSha256 lostSession blankMemory _ blank_represents
    racingGuesses racing_guesses_stay ckuUser⟩

end PstHsm
