import PstHsm.Responses
import PstHsm.ServerProcess

/-!
# What the server's clients get

However the bytes of the connections arrive in pieces, and however the threads interleave,
each connection is answered as `handle_client` answers its whole stream when nothing else
happens: as long as no signal cuts a read short, and every response goes out. The server's
process never opens a session, so the library is the same for every request until it is
finalized.
-/

namespace PstHsm

namespace NetworkServer

open Regions Loops Deliveries Frames Tables

/-! ## A library without sessions -/

/-- No handle leads to a session. -/
def NoSession (system : System) : Prop :=
  ∀ hSession, ¬ ∃ found, hsmGetSession system hSession = .ok found

/-- Where no session is open every handle is refused. -/
theorem no_session_refused {system : System} (unused : NoSession system)
    (hSession : CkSessionHandle) : ∃ rv, hsmGetSession system hSession = .error rv := by
  cases located : hsmGetSession system hSession with
  | error rv => exact ⟨rv, rfl⟩
  | ok found => exact absurd ⟨found, located⟩ (unused hSession)

/-- Without a session nothing that surrounds a library call makes a difference. -/
theorem dispatch_without_session {system : System} (unused : NoSession system) (env other : Env)
    (cmd : UInt8) (buffer response : Memory) :
    dispatch env system cmd buffer response = dispatch other system cmd buffer response := by
  obtain ⟨rv, refused⟩ := no_session_refused unused (requestedSession buffer)
  have alike : cGenerateRandom env system (requestedSession buffer) true (requestedLength buffer) =
      cGenerateRandom other system (requestedSession buffer) true (requestedLength buffer) := by
    simp only [cGenerateRandom, refused]
  simp only [dispatch, alike]

/-- Without a session the surroundings make no difference to a thread. -/
theorem reader_without_session {system : System} (unused : NoSession system) (env other : Env)
    (running : Bool) : clientReader env system running = clientReader other system running := by
  have accepts : ClientLocals.accept env system running =
      ClientLocals.accept other system running := by
    funext locals received
    unfold ClientLocals.accept serve
    simp only [dispatch_without_session unused env other]
    rfl
  rw [clientReader, clientReader, accepts]

/-! ## One connection's whole stream -/

section Whole

variable (env : Env) (system : System)

/-- The surroundings that never change. -/
def steady : Surroundings := fun _ => (env, system)

/-- The responses of `handle_client` to a stream. -/
def responsesTo (connection : Connection) : List Bytes :=
  (handleClient (steady env system) connection).map Round.sent

/-- A connection that stops is sent nothing more. -/
theorem responses_end {connection : Connection}
    (stopped : pass (steady env system) connection = none) :
    responsesTo env system connection = [] := by
  rw [responsesTo, handle_client_ends stopped]
  rfl

/-- A connection that goes on is sent a response first. -/
theorem responses_serve {connection after : Connection} {round : Round}
    (passed : pass (steady env system) connection = some (round, after)) :
    responsesTo env system connection = round.sent :: responsesTo env system after := by
  rw [responsesTo, handle_client_serves passed]
  rfl

/-- The thread where it tests the flag, with the rest of a connection to read. -/
def atLoopTest (connection : Connection) (length : Nat) : ClientLocals :=
  ⟨.loopTest, connection.buffer, connection.response, length⟩

/-- A thread that is done reads nothing. -/
theorem reads_done (buffer response : Memory) (length : Nat) (stream : Bytes) :
    (clientReader env system true).Reads ⟨.done, buffer, response, length⟩ stream [] :=
  .stops _ _ rfl

/-- A thread that has its command sends a response and goes on. -/
theorem reads_processing (buffer response : Memory) (length : Nat) (stream : Bytes)
    (later : List Bytes)
    (rest : (clientReader env system true).Reads
      ⟨.loopTest, buffer, (serve env system length buffer response).outcome.response, length⟩
      stream later) :
    (clientReader env system true).Reads ⟨.processing, buffer, response, length⟩ stream
      ((serve env system length buffer response).sent :: later) :=
  .goes _ _ 0 later rfl rest

/-- The body is read whole, or the thread is done. -/
theorem reads_body (buffer response : Memory) (length : Nat) (stream : Bytes) (items : List Bytes)
    (rest : if (stream.take length).length ≠ length then items = []
      else (clientReader env system true).Reads
        ⟨.processing, write buffer 5 (stream.take length), response, length⟩
        (stream.drop length) items) :
    (clientReader env system true).Reads ⟨.body, buffer, response, length⟩ stream items := by
  have goes := fun later => @Reader.Reads.goes _ _ _ (clientReader env system true)
    ⟨.body, buffer, response, length⟩ stream length later rfl
  simp only [clientReader, ClientLocals.accept, ClientLocals.bodyRead] at goes rest ⊢
  split at rest
  · rename_i cut
    rw [rest]
    simpa only [if_pos cut, List.nil_append] using
      goes [] (by rw [if_pos cut]; exact reads_done env system _ _ _ _)
  · rename_i whole
    simpa only [if_neg whole, List.nil_append] using
      goes items (by rw [if_neg whole]; exact rest)

/-- After a header that states an admitted length, the body. -/
theorem reads_header (buffer response : Memory) (length : Nat) (stream : Bytes)
    (items : List Bytes) (filled : Memory) (point : ClientPoint)
    (filling : write buffer 0 (stream.take 5) = filled)
    (next : (if lengthField filled > 0 then ClientPoint.body else .processing) = point)
    (arrived : stream.take 5 ≠ []) (admitted : ¬ lengthField filled > bufferSize - 5)
    (rest : (clientReader env system true).Reads ⟨point, filled, response, lengthField filled⟩
      (stream.drop 5) items) :
    (clientReader env system true).Reads ⟨.header, buffer, response, length⟩ stream items := by
  have goes := @Reader.Reads.goes _ _ _ (clientReader env system true)
    ⟨.header, buffer, response, length⟩ stream 5 items rfl
  simp only [clientReader, ClientLocals.accept, ClientLocals.headerRead, if_neg arrived, filling,
    if_neg admitted] at goes rest ⊢
  by_cases payload : lengthField filled > 0
  · rw [if_pos payload] at goes next
    rw [← next] at rest
    exact goes rest
  · rw [if_neg payload] at goes next
    rw [← next] at rest
    exact goes rest

/-- Without a header, or with one that states too much, the thread is done. -/
theorem reads_no_header (buffer response : Memory) (length : Nat) (stream : Bytes)
    (refused : stream.take 5 = [] ∨
      lengthField (write buffer 0 (stream.take 5)) > bufferSize - 5) :
    (clientReader env system true).Reads ⟨.header, buffer, response, length⟩ stream [] := by
  have goes := @Reader.Reads.goes _ _ _ (clientReader env system true)
    ⟨.header, buffer, response, length⟩ stream 5 [] rfl
  simp only [clientReader, ClientLocals.accept, ClientLocals.headerRead] at goes ⊢
  by_cases none_left : stream.take 5 = []
  · simp only [if_pos none_left, List.append_nil] at goes
    exact goes (reads_done env system _ _ _ _)
  · have excess := refused.resolve_left none_left
    simp only [if_neg none_left, if_pos excess, List.append_nil] at goes
    exact goes (reads_done env system _ _ _ _)

/-- The array after a header. -/
def headed (connection : Connection) : Memory :=
  write connection.buffer 0 (connection.incoming.take 5)

/-- The body that the header states, as far as it has arrived. -/
def statedBody (connection : Connection) : Bytes :=
  (connection.incoming.drop 5).take (lengthField (headed connection))

/-- The round of a pass that goes on. -/
def steadyRound (connection : Connection) : Round :=
  serve env system (lengthField (headed connection))
    (write (headed connection) 5 (statedBody connection)) connection.response

/-- What is left after it. -/
def steadyRest (connection : Connection) : Connection where
  buffer := write (headed connection) 5 (statedBody connection)
  response := (steadyRound env system connection).outcome.response
  incoming := (connection.incoming.drop 5).drop (lengthField (headed connection))
  passes := connection.passes + 1

/-- The header states a length within bounds, and the body is there. -/
structure Goes (connection : Connection) : Prop where
  arrived : connection.incoming.take 5 ≠ []
  admitted : ¬ lengthField (headed connection) > bufferSize - 5
  complete : ¬ (0 < lengthField (headed connection) ∧
    (statedBody connection).length ≠ lengthField (headed connection))

/-- One turn of the loop that goes on. -/
theorem pass_goes {connection : Connection} (goes : Goes connection) :
    pass (steady env system) connection =
      some (steadyRound env system connection, steadyRest env system connection) := by
  unfold pass recv
  dsimp only
  rw [if_neg goes.arrived]
  refine (if_neg goes.admitted).trans ?_
  exact if_neg goes.complete

/-- One turn of the loop that does not. -/
theorem pass_stops {connection : Connection} (stops : ¬ Goes connection) :
    pass (steady env system) connection = none := by
  unfold pass recv
  dsimp only
  by_cases arrived : connection.incoming.take 5 = []
  · rw [if_pos arrived]
  · rw [if_neg arrived]
    by_cases admitted : lengthField (headed connection) > bufferSize - 5
    · exact if_pos admitted
    · refine (if_neg admitted).trans (if_pos ?_)
      by_contra complete
      exact stops ⟨arrived, admitted, complete⟩

/-- What the thread reads when the pass goes on. -/
theorem reads_goes_on (connection : Connection) (length : Nat) (later : List Bytes)
    (goes : Goes connection)
    (rest : ∀ length, (clientReader env system true).Reads
      (atLoopTest (steadyRest env system connection) length)
      (steadyRest env system connection).incoming later) :
    (clientReader env system true).Reads (atLoopTest connection length) connection.incoming
      ((steadyRound env system connection).sent :: later) := by
  refine .goes _ _ 0 _ rfl ?_
  by_cases payload : lengthField (headed connection) > 0
  · have whole : ¬ (statedBody connection).length ≠ lengthField (headed connection) :=
      fun cut => goes.complete ⟨payload, cut⟩
    refine reads_header env system _ _ length connection.incoming _ (headed connection) .body rfl
      (if_pos payload) goes.arrived goes.admitted ?_
    apply reads_body
    rw [statedBody] at whole
    rw [if_neg whole]
    exact reads_processing env system _ _ _ _ _ (rest _)
  · have nothing : statedBody connection = [] := by
      rw [statedBody, Nat.eq_zero_of_not_pos payload, List.take_zero]
    refine reads_header env system _ _ length connection.incoming _ (headed connection)
      .processing rfl (if_neg payload) goes.arrived goes.admitted ?_
    have later_read := rest (lengthField (headed connection))
    rw [atLoopTest, steadyRest, steadyRound, nothing, write_nil,
      Nat.eq_zero_of_not_pos payload, List.drop_zero] at later_read
    rw [steadyRound, nothing, write_nil, Nat.eq_zero_of_not_pos payload]
    exact reads_processing env system _ _ _ _ _ later_read

/-- What the thread reads when the pass does not go on. -/
theorem reads_stopped (connection : Connection) (length : Nat) (stops : ¬ Goes connection) :
    (clientReader env system true).Reads (atLoopTest connection length) connection.incoming
      [] := by
  refine .goes _ _ 0 _ rfl ?_
  by_cases refused : connection.incoming.take 5 = [] ∨
    lengthField (headed connection) > bufferSize - 5
  · exact reads_no_header env system _ _ length connection.incoming refused
  · rw [not_or] at refused
    have cut : 0 < lengthField (headed connection) ∧
        (statedBody connection).length ≠ lengthField (headed connection) := by
      by_contra complete
      exact stops ⟨refused.1, refused.2, complete⟩
    refine reads_header env system _ _ length connection.incoming _ (headed connection) .body rfl
      (if_pos cut.1) refused.1 refused.2 ?_
    apply reads_body
    have short := cut.2
    rw [statedBody] at short
    rw [if_pos short]

/-- A thread whose flag stays set reads a whole stream as `handle_client` does. -/
theorem client_reads (connection : Connection) (length : Nat) :
    (clientReader env system true).Reads (atLoopTest connection length) connection.incoming
      (responsesTo env system connection) := by
  induction connection using (clientLoop (steady env system)).passes generalizing length with
  | stopped connection stopped =>
    have ends : pass (steady env system) connection = none := stopped
    rw [responses_end env system ends]
    apply reads_stopped
    intro goes
    rw [pass_goes env system goes] at ends
    cases ends
  | passed connection round after taken inductionHypothesis =>
    have passes : pass (steady env system) connection = some (round, after) := taken
    have goes : Goes connection := by
      by_contra stops
      rw [pass_stops env system stops] at passes
      cases passes
    rw [pass_goes env system goes] at passes
    cases passes
    rw [responses_serve env system (pass_goes env system goes)]
    exact reads_goes_on env system connection length _ goes inductionHypothesis

end Whole

/-! ## All connections of the process -/

/-- The thread has sent what it would have sent by now with all of its stream, and goes on
as it would then. -/
def ClientThread.OnCourse (env : Env) (system : System) (thread : ClientThread) : Prop :=
  (clientReader env system true).Follows (ClientThread.started thread.initial).locals
    thread.locals thread.socket thread.sent

section Course

variable (env : Env) (system : System) (thread : ClientThread)

/-- A thread that was just started is on course. -/
theorem started_on_course (initial : Memory × Memory) :
    (ClientThread.started initial).OnCourse env system :=
  (clientReader env system true).follows_start _

/-- Bytes that arrive leave it on course. -/
theorem on_course_arrive (piece : Bytes) (course : thread.OnCourse env system) :
    ClientThread.OnCourse env system { thread with socket := thread.socket.arrive piece } :=
  Reader.follows_arrive _ course piece

/-- So does the end of its stream. -/
theorem on_course_close (course : thread.OnCourse env system) :
    ClientThread.OnCourse env system { thread with socket := thread.socket.close } :=
  Reader.follows_close _ course

/-- And so does its own turn. -/
theorem on_course_turn (course : thread.OnCourse env system) :
    (thread.turn env system true true).OnCourse env system := Reader.follows_turn _ course

end Course

/-! ## Runs of the process -/

/-- The process after what happens to it. -/
def Server.after (server : Server) (happenings : List Happening) : Server :=
  happenings.foldl Server.next server

/-- The library is not initialized, or just as `C_Initialize` leaves it. -/
def LibraryUntouched (system : System) : Prop :=
  ∀ context, system.gHsmContext = some context →
    ∃ fopen storage, context = hsmInitContext (hsmInitSlot fopen storage)

/-- Over the network no session is ever opened. -/
theorem untouched_no_session {system : System} (untouched : LibraryUntouched system) :
    NoSession system := by
  intro hSession
  have unused : system.sessions = empty := by
    cases present : system.gHsmContext with
    | none => exact sessions_absent system present
    | some context =>
      obtain ⟨fopen, storage, rfl⟩ := untouched context present
      rw [sessions_present _ _ present]
      exact (init_slot_tables _ storage).1
  rw [get_session_iff, unused]
  exact carries_empty HsmSession.handle hSession

/-- The server is past the point where it sets the flag. -/
def MainPoint.serving (main : MainPoint) : Bool :=
  match main with
  | .starting | .listening => false
  | _ => true

/-- What holds of the process at every moment. -/
structure Server.Sound (server : Server) : Prop where
  library : LibraryUntouched server.system
  unstarted : server.main = .starting → server.system.gHsmContext = none
  unconnected : server.main.serving = false → server.threads = []

/-- The server starts soundly. -/
theorem launched_sound (storage : Storage) : (launched storage).Sound where
  library context present := by cases present
  unstarted _ := rfl
  unconnected _ := rfl

/-- A library just initialized has not been touched. -/
theorem initialize_untouched (env : Env) (system : System) (absent : system.gHsmContext = none) :
    LibraryUntouched (cInitialize env system).2 := by
  intro context present
  unfold cInitialize at present
  rw [absent] at present
  dsimp only at present
  split at present
  · cases present
  · split at present
    · cases present
    · exact ⟨_, _, (Option.some.inj present).symm⟩

/-- `C_Finalize` leaves the library uninitialized. -/
theorem finalize_absent (system : System) : (cFinalize system false).2.gHsmContext = none := by
  simp only [cFinalize, Bool.false_eq_true, if_false]
  cases present : system.gHsmContext with
  | none => exact present
  | some context => rfl

/-- The main thread changes the library only before the first connection and, with
`C_Finalize`, after the last. -/
theorem main_turn_sound (server : Server) (env : Env) (listens : Bool) (accepted : Accepted)
    (sound : server.Sound) : (server.mainTurn env listens accepted).Sound := by
  unfold Server.mainTurn
  split
  · rename_i starting
    have initialized := initialize_untouched env server.system (sound.unstarted starting)
    have alone := sound.unconnected (by rw [starting]; rfl)
    dsimp only
    split
    · exact ⟨initialized, MainPoint.noConfusion, fun _ => alone⟩
    · split
      · exact ⟨initialized, MainPoint.noConfusion, fun _ => alone⟩
      · exact ⟨initialized, MainPoint.noConfusion, fun _ => alone⟩
  · rename_i listening
    have alone := sound.unconnected (by rw [listening]; rfl)
    exact ⟨sound.library, MainPoint.noConfusion, fun _ => alone⟩
  · cases server.running with
    | true => exact ⟨sound.library, MainPoint.noConfusion, Bool.noConfusion⟩
    | false => exact ⟨sound.library, MainPoint.noConfusion, Bool.noConfusion⟩
  · split
    · exact ⟨sound.library, MainPoint.noConfusion, Bool.noConfusion⟩
    · exact ⟨sound.library, MainPoint.noConfusion, Bool.noConfusion⟩
    · exact ⟨sound.library, MainPoint.noConfusion, Bool.noConfusion⟩
  · refine ⟨?_, MainPoint.noConfusion, Bool.noConfusion⟩
    intro context present
    cases (finalize_absent server.system).symm.trans present
  · exact ⟨sound.library, MainPoint.noConfusion, Bool.noConfusion⟩
  · exact sound
  · exact sound

/-- Where one connection changes, it or one before the change was there. -/
theorem on_thread_member (server : Server) (index : Nat) (change : ClientThread → ClientThread)
    (thread : ClientThread) (member : thread ∈ (server.onThread index change).threads) :
    thread ∈ server.threads ∨ ∃ before ∈ server.threads, thread = change before := by
  unfold Server.onThread at member
  split at member
  · exact Or.inl member
  · obtain ⟨place, found⟩ := List.mem_iff_getElem?.mp member
    dsimp only at found
    rw [List.getElem?_modify] at found
    obtain ⟨before, present, changed⟩ := Option.map_eq_some_iff.mp found
    have there := List.mem_of_getElem? present
    split at changed
    · exact Or.inr ⟨before, there, changed.symm⟩
    · exact Or.inl (changed ▸ there)

/-- A change of one connection leaves the library and the main thread alone. -/
theorem on_thread_kept (server : Server) (index : Nat) (change : ClientThread → ClientThread) :
    (server.onThread index change).main = server.main ∧
      (server.onThread index change).system = server.system ∧
      (server.onThread index change).running = server.running ∧
      (server.onThread index change).threads.length = server.threads.length := by
  unfold Server.onThread
  split
  · exact ⟨rfl, rfl, rfl, rfl⟩
  · exact ⟨rfl, rfl, rfl, List.length_modify _ _ _⟩

/-- What happens to a thread leaves the server sound. -/
theorem on_thread_sound (server : Server) (index : Nat) (change : ClientThread → ClientThread)
    (sound : server.Sound) : (server.onThread index change).Sound := by
  obtain ⟨main, library, -, amount⟩ := on_thread_kept server index change
  refine ⟨?_, ?_, ?_⟩
  · rw [library]
    exact sound.library
  · rw [main, library]
    exact sound.unstarted
  · rw [main, ← List.length_eq_zero_iff, amount, List.length_eq_zero_iff]
    exact sound.unconnected

/-- So does its end. -/
theorem kill_sound (server : Server) (sound : server.Sound) : server.kill.Sound := by
  unfold Server.kill
  split
  · exact sound
  · exact ⟨sound.library, MainPoint.noConfusion, Bool.noConfusion⟩

/-- And so does everything that can happen. -/
theorem next_sound (server : Server) (happening : Happening) (sound : server.Sound) :
    (server.next happening).Sound := by
  cases happening with
  | mainTurn env listens accepted => exact main_turn_sound server env listens accepted sound
  | clientTurn index env sends => exact on_thread_sound server index _ sound
  | arrival index piece => exact on_thread_sound server index _ sound
  | hangUp index => exact on_thread_sound server index _ sound
  | signal taker =>
    have cleared : Server.Sound { server with running := false } :=
      ⟨sound.library, sound.unstarted, sound.unconnected⟩
    rw [Server.next]
    split
    · cases taker with
      | none => exact cleared
      | some index => exact on_thread_sound _ index _ cleared
    · exact kill_sound server sound
  | kill => exact kill_sound server sound

/-! ## Undisturbed runs -/

/-- No signal is caught, and what is sent goes out. -/
def Happening.undisturbed : Happening → Bool
  | .clientTurn _ _ sends => sends
  | .signal _ => false
  | _ => true

/-- While nothing disturbs the process its connections are on course, and the flag is set from
the accept loop to the end. -/
structure Server.OnCourse (server : Server) : Prop where
  sound : server.Sound
  running : server.main.serving = true → server.main.over = false → server.running = true
  course : ∀ env, ∀ thread ∈ server.threads, server.system.gHsmContext.isSome = true →
    thread.OnCourse env server.system

/-- The server starts on course. -/
theorem launched_on_course (storage : Storage) : (launched storage).OnCourse where
  sound := launched_sound storage
  running serving := by cases serving
  course env thread member := by cases member

/-- The main thread's turns keep the connections on course. -/
theorem main_turn_on_course (server : Server) (env : Env) (listens : Bool) (accepted : Accepted)
    (onCourse : server.OnCourse) : (server.mainTurn env listens accepted).OnCourse := by
  have sound := main_turn_sound server env listens accepted onCourse.sound
  refine ⟨sound, ?_, ?_⟩
  · obtain ⟨-, running, -⟩ := onCourse
    cases point : server.main with
    | starting =>
      intro serving ongoing
      simp only [Server.mainTurn, point] at serving ongoing
      split at serving
      · rename_i failed
        rw [if_pos failed] at ongoing
        cases ongoing
      · split at serving
        · rename_i succeeded deaf
          rw [if_neg succeeded, if_pos deaf] at ongoing
          cases ongoing
        · cases serving
    | listening => simp [Server.mainTurn, point]
    | stopped => simp [Server.mainTurn, point, MainPoint.over]
    | returned code => simp [Server.mainTurn, point, MainPoint.over]
    | killed => simp [Server.mainTurn, point, MainPoint.over]
    | accepting =>
      have set := running (by rw [point]; rfl) (by rw [point]; rfl)
      intro _ _
      cases accepted <;> simpa [Server.mainTurn, point] using set
    | _ =>
      have set := running (by rw [point]; rfl) (by rw [point]; rfl)
      intro _ _
      simpa [Server.mainTurn, point] using set
  · intro other thread member initialized
    cases point : server.main with
    | starting =>
      have alone := onCourse.sound.unconnected (by rw [point]; rfl)
      have none_left : (server.mainTurn env listens accepted).threads = [] := by
        simp only [Server.mainTurn, point]
        split
        · exact alone
        · split
          · exact alone
          · exact alone
      rw [none_left] at member
      cases member
    | closing =>
      have finalized : (server.mainTurn env listens accepted).system.gHsmContext = none := by
        simp only [Server.mainTurn, point]
        exact finalize_absent server.system
      rw [finalized] at initialized
      cases initialized
    | accepting =>
      have library : (server.mainTurn env listens accepted).system = server.system := by
        cases accepted <;> simp [Server.mainTurn, point]
      rw [library] at initialized ⊢
      cases accepted with
      | connection initial =>
        simp only [Server.mainTurn, point] at member
        rcases List.mem_append.mp member with before | new
        · exact onCourse.course other thread before initialized
        · rw [List.mem_singleton.mp new]
          exact started_on_course other _ initial
      | interrupted =>
        simp only [Server.mainTurn, point] at member
        exact onCourse.course other thread member initialized
      | failed =>
        simp only [Server.mainTurn, point] at member
        exact onCourse.course other thread member initialized
    | _ =>
      simp only [Server.mainTurn, point] at member initialized ⊢
      exact onCourse.course other thread member initialized

/-- A connection that stays on course keeps them all on course. -/
theorem on_thread_on_course (server : Server) (index : Nat)
    (change : ClientThread → ClientThread) (onCourse : server.OnCourse)
    (kept : ∀ env, ∀ thread ∈ server.threads, server.running = true →
      thread.OnCourse env server.system → (change thread).OnCourse env server.system) :
    (server.onThread index change).OnCourse := by
  obtain ⟨main, library, running, -⟩ := on_thread_kept server index change
  refine ⟨on_thread_sound server index change onCourse.sound, ?_, ?_⟩
  · rw [main, running]
    exact onCourse.running
  · intro env thread member initialized
    rw [library] at initialized ⊢
    cases ended : server.main.over with
    | true =>
      rw [Server.onThread, if_pos ended] at member
      exact onCourse.course env thread member initialized
    | false =>
      rcases on_thread_member server index change thread member with
        before | ⟨before, there, rfl⟩
      · exact onCourse.course env thread before initialized
      · have serving : server.main.serving = true := by
          by_contra early
          have alone := onCourse.sound.unconnected (Bool.eq_false_of_not_eq_true early)
          rw [alone] at there
          cases there
        exact kept env before there (onCourse.running serving ended)
          (onCourse.course env before there initialized)

/-- The end of the process leaves its connections as they are. -/
theorem kill_on_course (server : Server) (onCourse : server.OnCourse) : server.kill.OnCourse := by
  refine ⟨kill_sound server onCourse.sound, ?_, ?_⟩
  · unfold Server.kill
    split
    · exact onCourse.running
    · intro _ ongoing
      cases ongoing
  · unfold Server.kill
    split
    · exact onCourse.course
    · exact onCourse.course

/-- What does not disturb the process keeps its connections on course. -/
theorem next_on_course (server : Server) (happening : Happening)
    (undisturbed : happening.undisturbed = true) (onCourse : server.OnCourse) :
    (server.next happening).OnCourse := by
  cases happening with
  | mainTurn env listens accepted =>
    exact main_turn_on_course server env listens accepted onCourse
  | clientTurn index env sends =>
    apply on_thread_on_course server index _ onCourse
    intro other thread _ running course
    have sent : sends = true := undisturbed
    have unused := untouched_no_session onCourse.sound.library
    have turned : thread.turn env server.system server.running sends =
        thread.turn other server.system true true := by
      rw [running, sent, ClientThread.turn, ClientThread.turn,
        reader_without_session unused env other]
    rw [turned]
    exact on_course_turn other _ thread course
  | arrival index piece =>
    apply on_thread_on_course server index _ onCourse
    intro env thread _ _ course
    exact on_course_arrive env _ thread piece course
  | hangUp index =>
    apply on_thread_on_course server index _ onCourse
    intro env thread _ _ course
    exact on_course_close env _ thread course
  | signal taker => cases undisturbed
  | kill => exact kill_on_course server onCourse

/-- In a run that no signal and no failing `send` disturbs, and until the library is finalized,
every connection has been sent the first responses of `handle_client` to all the bytes that have
arrived on it, however these came in pieces and whatever the other connections did; and all of
them when its thread is done. -/
theorem connections_served (storage : Storage) (happenings : List Happening)
    (undisturbed : ∀ happening ∈ happenings, happening.undisturbed = true) (index : Nat)
    (thread : ClientThread)
    (present : ((launched storage).after happenings).threads[index]? = some thread)
    (initialized : ((launched storage).after happenings).system.gHsmContext.isSome = true)
    (env : Env) :
    let server := (launched storage).after happenings
    let responses := responsesTo env server.system
      (accepted thread.initial.1 thread.initial.2 thread.socket.arrived)
    thread.sent <+: responses ∧ (thread.locals.point = .done → thread.sent = responses) := by
  have onCourse : ((launched storage).after happenings).OnCourse :=
    List.foldlRecOn happenings Server.next (launched_on_course storage)
      fun now holds happening member => next_on_course now happening
        (undisturbed happening member) holds
  have follows := onCourse.course env thread (List.mem_of_getElem? present) initialized
  have whole := client_reads env ((launched storage).after happenings).system
    (accepted thread.initial.1 thread.initial.2 thread.socket.arrived) 0
  refine ⟨Reader.follows_begins _ follows whole, ?_⟩
  intro done
  apply Reader.follows_stopped _ follows whole
  simp only [clientReader, ClientLocals.demand, done]

/-- The server starts and accepts a connection. -/
def oneConnected : List Happening :=
  let main : Happening := .mainTurn (calmEnv 1) true (.connection (fun _ => 0, fun _ => 0))
  [main, main, main, main]

/-- A request for the information that arrives in two pieces, with turns of its thread between
them and after them. -/
def piecewiseRequest : List Happening :=
  let turn : Happening := .clientTurn 0 (calmEnv 1) true
  oneConnected ++ [.arrival 0 [cmdGetInfo, 0], turn, turn, .arrival 0 [0, 0, 0], turn, turn,
    .hangUp 0, turn, turn]

theorem piecewise_request_served :
    ∃ thread, ((launched freshStorage).after piecewiseRequest).threads[0]? = some thread ∧
      thread.sent = responsesTo (calmEnv 1) ((launched freshStorage).after piecewiseRequest).system
        (accepted (fun _ => 0) (fun _ => 0) [cmdGetInfo, 0, 0, 0, 0]) :=
  ⟨_, rfl, (connections_served freshStorage piecewiseRequest (by decide) 0 _ rfl rfl
    (calmEnv 1)).2 rfl⟩

end NetworkServer

end PstHsm
