import PstHsm.ServedConnections

/-!
# What the server can ever send

No request opens a session, so five responses are all that the server sends until it
finalizes the library: two reports and three refusals, and no random byte. Once a signal has
cleared the flag every connection gets at most one response more.
-/

namespace PstHsm

namespace NetworkServer

open Deliveries Frames

/-! ## What is ever sent -/

/-- What `C_GetInfo` reports. -/
def serverInfo : CkInfo where
  cryptokiVersion := (2, 40)
  manufacturerID := textField 32 manufacturerId
  flags := 0
  libraryDescription := textField 32 "PST HSM PKCS#11 Library".toUTF8.toList
  libraryVersion := (1, 0)

/-- The answers of an initialized library without sessions: the information, the one slot, and
three refusals without a payload. -/
def possibleAnswers : List (CkRv × Bytes) :=
  [(.ok, infoBytes serverInfo),
    (.ok, Bytes.littleEndian sizeofCkUlong 1 ++ slotBytes [0] 1),
    (.sessionHandleInvalid, []), (.functionFailed, []), (.functionNotSupported, [])]

/-- An answer as it is sent. -/
def responseTo (answer : CkRv × Bytes) : Bytes :=
  responseHeader answer.1 answer.2.length ++ answer.2

section Initialized

variable {system : System} (untouched : LibraryUntouched system)
  (initialized : system.gHsmContext.isSome = true)

include initialized in
/-- The information is always given. -/
theorem info_given : cGetInfo system true = (.ok, some serverInfo) := by
  obtain ⟨context, present⟩ := Option.isSome_iff_exists.mp initialized
  rw [cGetInfo, Bool.not_true, if_neg Bool.false_ne_true, present]
  rfl

/-- A token is always there. -/
theorem init_slot_present (fopen : Bool) (storage : Storage) :
    (hsmInitSlot fopen storage).tokenPresent = true := by
  rw [hsmInitSlot, hsmStorageLoadTokenInfo]
  split <;> rfl

include untouched initialized

/-- So the one slot is listed whatever is asked. -/
theorem slot_listed (tokenPresent : Bool) :
    cGetSlotList system tokenPresent true (some 10) = (.ok, some ([0], 1)) := by
  obtain ⟨context, present⟩ := Option.isSome_iff_exists.mp initialized
  obtain ⟨fopen, storage, rfl⟩ := untouched context present
  have there : (hsmInitContext (hsmInitSlot fopen storage)).slot.tokenPresent = true :=
    init_slot_present _ storage
  simp only [cGetSlotList, present, there, Bool.or_true, if_true, Bool.not_true,
    Bool.false_eq_true, if_false]
  rfl

/-- No handle is valid. -/
theorem session_invalid (hSession : CkSessionHandle) :
    hsmGetSession system hSession = .error .sessionHandleInvalid := by
  obtain ⟨context, present⟩ := Option.isSome_iff_exists.mp initialized
  obtain ⟨rv, refused⟩ := no_session_refused (untouched_no_session untouched) hSession
  rw [refused]
  simp only [hsmGetSession, present] at refused
  split at refused
  · exact refused.symm
  · cases refused

/-- Whatever is asked, the answer is one of the possible ones. -/
theorem dispatch_possible (env : Env) (cmd : UInt8) (buffer response : Memory) :
    ((dispatch env system cmd buffer response).rv, answerBytes env system cmd buffer) ∈
      possibleAnswers := by
  rw [dispatch, answerBytes]
  by_cases info : cmd = cmdGetInfo
  · rw [if_pos info, if_pos info, info_given initialized]
    exact List.mem_cons_self
  rw [if_neg info, if_neg info]
  by_cases slots : cmd = cmdGetSlotList
  · rw [if_pos slots, if_pos slots]
    generalize buffer ⟨5, payload_begins⟩ = tokenPresent
    dsimp only
    rw [slot_listed untouched initialized]
    exact List.mem_cons_of_mem _ List.mem_cons_self
  rw [if_neg slots, if_neg slots]
  by_cases asked : cmd = cmdGenerateRandom
  · rw [if_pos asked, if_pos asked]
    dsimp only
    by_cases bounded : requestedLength buffer ≤ bufferSize - 100
    · have random : cGenerateRandom env system (requestedSession buffer) true
          (requestedLength buffer) = (.sessionHandleInvalid, none) := by
        simp only [cGenerateRandom, Bool.not_true, Bool.false_eq_true, if_false,
          session_invalid untouched initialized]
      have failed : CkRv.sessionHandleInvalid ≠ .ok := CkRv.noConfusion
      rw [if_pos bounded, if_pos bounded, random]
      dsimp only
      rw [if_neg failed, if_neg failed]
      simp [possibleAnswers]
    · rw [if_neg bounded, if_neg bounded]
      simp [possibleAnswers]
  · rw [if_neg asked, if_neg asked]
    simp [possibleAnswers]

/-- Whatever is in the two arrays, what a request is sent is one of the possible answers. -/
theorem sent_possible (env : Env) (length : Nat) (buffer response : Memory) :
    (serve env system length buffer response).sent ∈ possibleAnswers.map responseTo := by
  -- No random byte is needed, so the generator may as well have none to give.
  let silent : Env := { env with randBytes := fun _ => none }
  have delivers : DeliversAll silent := by
    intro amount bytes delivered
    cases delivered
  have unused := untouched_no_session untouched
  have alike : (serve env system length buffer response).sent =
      (serve silent system length buffer response).sent := by
    simp only [serve, Round.sent, dispatch_without_session unused env silent]
  have served : (serve silent system length buffer response).Served := ⟨response, rfl⟩
  obtain ⟨sent, payloadLength, -⟩ := served_round _ served
  have payload := produced_answer _ served delivers
  rw [alike, sent]
  refine List.mem_map.mpr ⟨_, dispatch_possible untouched initialized silent
    (buffer ⟨0, by decide⟩) buffer response, ?_⟩
  rw [responseTo, written, Round.frame, ← payloadLength, payload]
  rfl

/-- One turn sends nothing but possible answers. -/
theorem turn_possible (env : Env) (running : Bool) (locals : ClientLocals)
    (socket : Line UInt8) :
    ∀ response ∈ ((clientReader env system running).turn locals socket).1,
      response ∈ possibleAnswers.map responseTo := by
  intro response member
  simp only [Reader.turn, clientReader] at member
  split at member
  · cases member
  · split at member
    · simp only [ClientLocals.accept] at member
      split at member
      · cases member
      · cases member
      · cases member
      · rw [List.mem_singleton.mp member]
        exact sent_possible untouched initialized env _ _ _
      · cases member
    · cases member

end Initialized

/-- `C_Initialize` leaves the files alone. -/
theorem initialize_files (env : Env) (system : System) :
    (cInitialize env system).2.storage.tokenFile = system.storage.tokenFile ∧
      (cInitialize env system).2.storage.keyFiles = system.storage.keyFiles := by
  have files := storage_init_files env system.storage
  unfold cInitialize
  split
  · exact ⟨rfl, rfl⟩
  · dsimp only
    split
    · exact files
    · split
      · exact files
      · exact files

/-- So does `C_Finalize`. -/
theorem finalize_files (system : System) :
    (cFinalize system false).2.storage = system.storage := by
  simp only [cFinalize, Bool.false_eq_true, if_false]
  cases system.gHsmContext with
  | none => rfl
  | some context => rfl

/-- Only possible answers were sent, unless the library is finalized, and the files are those of
the storage. -/
structure Server.Modest (storage : Storage) (server : Server) : Prop where
  sent : server.system.gHsmContext.isSome = true →
    ∀ thread ∈ server.threads, ∀ response ∈ thread.sent,
      response ∈ possibleAnswers.map responseTo
  tokenFile : server.system.storage.tokenFile = storage.tokenFile
  keyFiles : server.system.storage.keyFiles = storage.keyFiles

/-- A turn of the main thread leaves the server modest. -/
theorem main_turn_modest (storage : Storage) (server : Server) (env : Env) (listens : Bool)
    (accepted : Accepted) (sound : server.Sound) (modest : server.Modest storage) :
    (server.mainTurn env listens accepted).Modest storage := by
  have same := modest
  obtain ⟨sent, tokenFile, keyFiles⟩ := modest
  unfold Server.mainTurn
  split
  · rename_i starting
    obtain ⟨token, keys⟩ := initialize_files env server.system
    have alone := sound.unconnected (by rw [starting]; rfl)
    have nothing (initialized : (cInitialize env server.system).2.gHsmContext.isSome = true) :
        ∀ thread ∈ server.threads, ∀ response ∈ thread.sent,
          response ∈ possibleAnswers.map responseTo := by
      rw [alone]
      intro thread member
      cases member
    dsimp only
    split
    · exact ⟨nothing, token.trans tokenFile, keys.trans keyFiles⟩
    · split
      · exact ⟨nothing, token.trans tokenFile, keys.trans keyFiles⟩
      · exact ⟨nothing, token.trans tokenFile, keys.trans keyFiles⟩
  · exact ⟨sent, tokenFile, keyFiles⟩
  · exact ⟨sent, tokenFile, keyFiles⟩
  · split
    · refine ⟨?_, tokenFile, keyFiles⟩
      intro initialized thread member response sentNow
      rcases List.mem_append.mp member with before | new
      · exact sent initialized thread before response sentNow
      · rw [List.mem_singleton.mp new] at sentNow
        cases sentNow
    · exact ⟨sent, tokenFile, keyFiles⟩
    · exact ⟨sent, tokenFile, keyFiles⟩
  · have files := finalize_files server.system
    refine ⟨?_, ?_, ?_⟩
    · intro initialized
      rw [finalize_absent server.system] at initialized
      cases initialized
    · rw [files]
      exact tokenFile
    · rw [files]
      exact keyFiles
  · exact ⟨sent, tokenFile, keyFiles⟩
  · exact same
  · exact same

/-- So does what happens to a thread that sends nothing else. -/
theorem on_thread_modest (storage : Storage) (server : Server) (index : Nat)
    (change : ClientThread → ClientThread) (modest : server.Modest storage)
    (kept : server.system.gHsmContext.isSome = true →
      ∀ thread ∈ server.threads, ∀ response ∈ (change thread).sent,
        response ∈ thread.sent ∨ response ∈ possibleAnswers.map responseTo) :
    (server.onThread index change).Modest storage := by
  obtain ⟨-, library, -, -⟩ := on_thread_kept server index change
  refine ⟨?_, ?_, ?_⟩
  · intro initialized thread member response sent
    rw [library] at initialized
    rcases on_thread_member server index change thread member with before | ⟨before, there, rfl⟩
    · exact modest.sent initialized thread before response sent
    · rcases kept initialized before there response sent with earlier | possible
      · exact modest.sent initialized before there response earlier
      · exact possible
  · rw [library]
    exact modest.tokenFile
  · rw [library]
    exact modest.keyFiles

/-- The end of the process sends nothing. -/
theorem kill_modest (storage : Storage) (server : Server) (modest : server.Modest storage) :
    server.kill.Modest storage := by
  unfold Server.kill
  split
  · exact modest
  · exact ⟨modest.sent, modest.tokenFile, modest.keyFiles⟩

/-- A read that is cut short sends nothing. -/
theorem cut_short_sent (thread : ClientThread) : thread.cutShort.sent = thread.sent := by
  simp only [ClientThread.cutShort]
  split
  · rfl
  · split <;> rfl

/-- Nothing that happens makes the process answer otherwise. -/
theorem next_modest (storage : Storage) (server : Server) (happening : Happening)
    (sound : server.Sound) (modest : server.Modest storage) :
    (server.next happening).Modest storage := by
  cases happening with
  | mainTurn env listens accepted =>
    exact main_turn_modest storage server env listens accepted sound modest
  | clientTurn index env sends =>
    apply on_thread_modest storage server index _ modest
    intro initialized thread _ response sent
    cases sends with
    | false => exact Or.inl sent
    | true =>
      rcases List.mem_append.mp sent with earlier | new
      · exact Or.inl earlier
      · exact Or.inr (turn_possible sound.library initialized env _ _ _ response new)
  | arrival index piece =>
    exact on_thread_modest storage server index _ modest fun _ _ _ _ sent => Or.inl sent
  | hangUp index =>
    exact on_thread_modest storage server index _ modest fun _ _ _ _ sent => Or.inl sent
  | signal taker =>
    have cleared : Server.Modest storage { server with running := false } :=
      ⟨modest.sent, modest.tokenFile, modest.keyFiles⟩
    rw [Server.next]
    split
    · cases taker with
      | none => exact cleared
      | some index =>
        apply on_thread_modest storage _ index _ cleared
        intro _ thread _ response sent
        rw [cut_short_sent] at sent
        exact Or.inl sent
    · exact kill_modest storage server modest
  | kill => exact kill_modest storage server modest

/-- Whatever the clients send, and however the process runs, the server answers with one of
five responses until it finalizes the library, and what is stored of the token stays as it
was to the end. -/
theorem five_responses (storage : Storage) (happenings : List Happening) :
    let server := (launched storage).after happenings
    (server.system.gHsmContext.isSome = true →
      ∀ thread ∈ server.threads, ∀ response ∈ thread.sent,
        response ∈ possibleAnswers.map responseTo) ∧
    server.system.storage.tokenFile = storage.tokenFile ∧
    server.system.storage.keyFiles = storage.keyFiles := by
  have initially : (launched storage).Modest storage := by
    refine ⟨?_, rfl, rfl⟩
    intro initialized
    cases initialized
  have holds : ((launched storage).after happenings).Sound ∧
      ((launched storage).after happenings).Modest storage :=
    List.foldlRecOn happenings Server.next
      (motive := fun now => now.Sound ∧ now.Modest storage) ⟨launched_sound storage, initially⟩
      fun now held happening _ =>
        ⟨next_sound now happening held.1, next_modest storage now happening held.1 held.2⟩
  exact ⟨holds.2.sent, holds.2.tokenFile, holds.2.keyFiles⟩

theorem five_responses_piecewise :
    ∀ thread ∈ ((launched freshStorage).after piecewiseRequest).threads,
      ∀ response ∈ thread.sent, response ∈ possibleAnswers.map responseTo :=
  (five_responses freshStorage piecewiseRequest).1 rfl

/-! ## After a signal -/

/-- The thread is past the test of the flag, so a response may still be sent. -/
def ClientLocals.owed (locals : ClientLocals) : Nat :=
  match locals.point with
  | .header | .body | .processing => 1
  | .loopTest | .done => 0

/-- A connection may still be accepted. -/
def MainPoint.owed (main : MainPoint) : Nat :=
  match main with
  | .accepting => 1
  | _ => 0

/-- A header that was read leaves at most one response to send. -/
theorem header_read_owed (locals : ClientLocals) (received : Bytes) :
    (locals.headerRead received).owed ≤ 1 := by
  unfold ClientLocals.headerRead
  split
  · exact Nat.zero_le 1
  · dsimp only
    split
    · exact Nat.zero_le 1
    · split
      · exact Nat.le_refl 1
      · exact Nat.le_refl 1

/-- So does a body. -/
theorem body_read_owed (locals : ClientLocals) (received : Bytes) :
    (locals.bodyRead received).owed ≤ 1 := by
  unfold ClientLocals.bodyRead
  dsimp only
  split
  · exact Nat.zero_le 1
  · exact Nat.le_refl 1

/-- Once the flag is cleared, what a thread has sent and still may send never grows. -/
theorem turn_owed (env : Env) (system : System) (sends : Bool) (thread : ClientThread) :
    (thread.turn env system false sends).sent.length +
        (thread.turn env system false sends).locals.owed ≤
      thread.sent.length + thread.locals.owed := by
  have bounded (received : Bytes) :
      (thread.locals.accept env system false received).1.length +
        (thread.locals.accept env system false received).2.owed ≤ thread.locals.owed := by
    unfold ClientLocals.accept
    split
    · exact Nat.zero_le _
    · rename_i header
      have one : thread.locals.owed = 1 := by simp only [ClientLocals.owed, header]
      rw [one, List.length_nil, Nat.zero_add]
      exact header_read_owed thread.locals received
    · rename_i body
      have one : thread.locals.owed = 1 := by simp only [ClientLocals.owed, body]
      rw [one, List.length_nil, Nat.zero_add]
      exact body_read_owed thread.locals received
    · rename_i processing
      have one : thread.locals.owed = 1 := by simp only [ClientLocals.owed, processing]
      rw [one]
      exact Nat.le_refl 1
    · exact Nat.le_of_eq (Nat.zero_add _)
  have turned : ((clientReader env system false).turn thread.locals thread.socket).1.length +
      ((clientReader env system false).turn thread.locals thread.socket).2.1.owed ≤
        thread.locals.owed := by
    simp only [Reader.turn, clientReader]
    split
    · exact Nat.le_of_eq (Nat.zero_add _)
    · split
      · rename_i amount _ _
        exact bounded (thread.socket.unread.take amount)
      · exact Nat.le_of_eq (Nat.zero_add _)
  cases sends with
  | false =>
    exact Nat.add_le_add_left (Nat.le_trans (Nat.le_add_left _ _) turned) _
  | true =>
    simp only [ClientThread.turn, if_true, List.length_append, Nat.add_assoc]
    exact Nat.add_le_add_left turned _

/-- A signal that cuts a read short adds nothing to it. -/
theorem cut_short_owed (thread : ClientThread) :
    thread.cutShort.sent.length + thread.cutShort.locals.owed ≤
      thread.sent.length + thread.locals.owed := by
  rw [cut_short_sent]
  refine Nat.add_le_add_left ?_ _
  simp only [ClientThread.cutShort]
  split
  · exact Nat.le_refl _
  · split
    · exact Nat.le_refl _
    · dsimp only
      split
      · rename_i header
        have one : thread.locals.owed = 1 := by simp only [ClientLocals.owed, header]
        rw [one]
        exact header_read_owed _ _
      · rename_i body
        have one : thread.locals.owed = 1 := by simp only [ClientLocals.owed, body]
        rw [one]
        exact body_read_owed _ _
      · exact Nat.le_refl _

/-- How much the connection with this number may have sent: one response more than it had,
or nothing if it was not there. -/
def allowance (earlier : List ClientThread) (index : Nat) : Nat :=
  match earlier[index]? with
  | some thread => thread.sent.length + 1
  | none => 0

/-- What holds from the signal on. -/
structure Server.Winding (earlier : List ClientThread) (server : Server) : Prop where
  cleared : server.running = false
  serving : server.main.serving = true
  older : earlier.length ≤ server.threads.length
  accepted : server.threads.length + server.main.owed ≤ earlier.length + 1
  sent : ∀ index thread, server.threads[index]? = some thread →
    thread.sent.length + thread.locals.owed ≤ allowance earlier index

/-- A turn of the main thread keeps to the bounds after a signal. -/
theorem main_turn_winding (earlier : List ClientThread) (server : Server) (env : Env)
    (listens : Bool) (accepted : Accepted) (winding : server.Winding earlier) :
    (server.mainTurn env listens accepted).Winding earlier := by
  obtain ⟨cleared, serving, older, room, sent⟩ := winding
  unfold Server.mainTurn
  split
  · rename_i starting
    rw [starting] at serving
    cases serving
  · rename_i listening
    rw [listening] at serving
    cases serving
  · rw [cleared]
    refine ⟨rfl, rfl, older, ?_, sent⟩
    exact Nat.le_trans (Nat.le_add_right _ _) room
  · rename_i accepting
    have last : server.threads.length ≤ earlier.length := by
      rw [accepting] at room
      exact Nat.le_of_succ_le_succ room
    split
    · refine ⟨cleared, rfl, ?_, ?_, ?_⟩
      · rw [List.length_append]
        exact Nat.le_trans older (Nat.le_add_right _ _)
      · rw [List.length_append]
        exact Nat.succ_le_succ last
      · intro index thread present
        rcases Nat.lt_or_ge index server.threads.length with before | new
        · dsimp only at present
          rw [List.getElem?_append_left before] at present
          exact sent index thread present
        · dsimp only at present
          rw [List.getElem?_append_right new] at present
          have fresh := List.mem_singleton.mp (List.mem_of_getElem? present)
          rw [fresh]
          exact Nat.zero_le _
    · exact ⟨cleared, rfl, older, Nat.le_trans (Nat.le_add_right _ _) room, sent⟩
    · exact ⟨cleared, rfl, older, Nat.le_trans (Nat.le_add_right _ _) room, sent⟩
  · exact ⟨cleared, rfl, older, Nat.le_trans (Nat.le_add_right _ _) room, sent⟩
  · exact ⟨cleared, rfl, older, Nat.le_trans (Nat.le_add_right _ _) room, sent⟩
  · exact ⟨cleared, serving, older, room, sent⟩
  · exact ⟨cleared, serving, older, room, sent⟩

/-- The end of the process adds nothing. -/
theorem kill_winding (earlier : List ClientThread) (server : Server)
    (winding : server.Winding earlier) : server.kill.Winding earlier := by
  obtain ⟨cleared, serving, older, room, sent⟩ := winding
  unfold Server.kill
  split
  · exact ⟨cleared, serving, older, room, sent⟩
  · exact ⟨cleared, rfl, older, Nat.le_trans (Nat.le_add_right _ _) room, sent⟩

/-- So does a change of one thread that owes no more than before. -/
theorem on_thread_winding (earlier : List ClientThread) (server : Server) (index : Nat)
    (change : ClientThread → ClientThread) (winding : server.Winding earlier)
    (bounded : ∀ thread, (change thread).sent.length + (change thread).locals.owed ≤
      thread.sent.length + thread.locals.owed) :
    (server.onThread index change).Winding earlier := by
  obtain ⟨cleared, serving, older, room, sent⟩ := winding
  unfold Server.onThread
  split
  · exact ⟨cleared, serving, older, room, sent⟩
  · refine ⟨cleared, serving, ?_, ?_, ?_⟩
    · rw [List.length_modify]
      exact older
    · rw [List.length_modify]
      exact room
    · intro place thread present
      dsimp only at present
      rw [List.getElem?_modify] at present
      obtain ⟨before, found, changed⟩ := Option.map_eq_some_iff.mp present
      have bound := sent place before found
      split at changed
      · rw [← changed]
        exact Nat.le_trans (bounded before) bound
      · rw [← changed]
        exact bound

/-- And so does anything else that happens. -/
theorem next_winding (earlier : List ClientThread) (server : Server) (happening : Happening)
    (winding : server.Winding earlier) : (server.next happening).Winding earlier := by
  cases happening with
  | mainTurn env listens accepted =>
    exact main_turn_winding earlier server env listens accepted winding
  | clientTurn index env sends =>
    apply on_thread_winding earlier server index _ winding
    intro thread
    rw [winding.cleared]
    exact turn_owed env server.system sends thread
  | arrival index piece =>
    exact on_thread_winding earlier server index _ winding fun _ => Nat.le_refl _
  | hangUp index =>
    exact on_thread_winding earlier server index _ winding fun _ => Nat.le_refl _
  | signal taker =>
    have cleared : Server.Winding earlier { server with running := false } :=
      ⟨rfl, winding.serving, winding.older, winding.accepted, winding.sent⟩
    rw [Server.next]
    split
    · cases taker with
      | none => exact cleared
      | some index => exact on_thread_winding earlier _ index _ cleared cut_short_owed
    · exact kill_winding earlier server winding
  | kill => exact kill_winding earlier server winding

/-- After a signal at most one more connection is accepted, which gets no response at all,
and every other connection gets at most one response more, whatever happens from then on. -/
theorem signal_winds_down (server : Server) (serving : server.main.serving = true)
    (taker : Option Nat) (happenings : List Happening) :
    let final := server.after (.signal taker :: happenings)
    final.threads.length ≤ server.threads.length + 1 ∧
      ∀ (index : Nat) (thread : ClientThread), final.threads[index]? = some thread →
        thread.sent.length ≤ allowance server.threads index := by
  have handled : server.main.handlesSignals = true := by
    cases point : server.main with
    | starting =>
      rw [point] at serving
      cases serving
    | _ => rfl
  have cleared : Server.Winding server.threads { server with running := false } := by
    refine ⟨rfl, serving, Nat.le_refl _, ?_, ?_⟩
    · have one : server.main.owed ≤ 1 := by
        unfold MainPoint.owed
        split
        · exact Nat.le_refl 1
        · exact Nat.zero_le 1
      exact Nat.add_le_add_left one _
    · intro index thread present
      have one : thread.locals.owed ≤ 1 := by
        unfold ClientLocals.owed
        split
        · exact Nat.le_refl 1
        · exact Nat.le_refl 1
        · exact Nat.le_refl 1
        · exact Nat.zero_le 1
        · exact Nat.zero_le 1
      rw [allowance, present]
      exact Nat.add_le_add_left one _
  have initially : (server.next (.signal taker)).Winding server.threads := by
    rw [Server.next, if_pos handled]
    cases taker with
    | none => exact cleared
    | some index => exact on_thread_winding server.threads _ index _ cleared cut_short_owed
  have winding : (server.after (.signal taker :: happenings)).Winding server.threads :=
    List.foldlRecOn happenings Server.next initially
      fun now held happening _ => next_winding server.threads now happening held
  refine ⟨Nat.le_trans (Nat.le_add_right _ _) winding.accepted, ?_⟩
  intro index thread present
  exact Nat.le_trans (Nat.le_add_right _ _) (winding.sent index thread present)

theorem connected_winds_down :
    ((launched freshStorage).after
      (oneConnected ++ .signal (some 0) :: piecewiseRequest)).threads.length ≤ 2 := by
  rw [Server.after, List.foldl_append]
  exact (signal_winds_down ((launched freshStorage).after oneConnected) rfl (some 0)
    piecewiseRequest).1

end NetworkServer

end PstHsm
