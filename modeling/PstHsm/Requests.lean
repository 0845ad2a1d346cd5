import PstHsm.NetworkServer
import PstHsm.Frames

/-!
# The frames of a request stream

A request frame is a command byte, a four-byte length, most significant byte first, and
that many payload bytes. The loop of the server is compared with splitting these frames
off the stream. The two agree on every complete frame; they part only when the stream
ends inside a header, because the missing bytes are then taken from the header before.
-/

namespace PstHsm

namespace NetworkServer

open Regions Loops Frames

/-- Both directions have headers of five bytes. -/
theorem header_nonempty : 0 < 5 := by decide

/-- The request format: five header bytes, of which the last four state the length. -/
def requestFormat : Format UInt8 where
  headerSize := 5
  positive := header_nonempty
  lengthOf header :=
    let length := Bytes.ofBigEndian (header.drop 1)
    if length ≤ bufferSize - 5 then some length else none

/-- A stated length is the number in the last four bytes, and within bounds. -/
theorem length_stated {header : Bytes} {length : Nat}
    (stated : requestFormat.lengthOf header = some length) :
    length = Bytes.ofBigEndian (header.drop 1) ∧ length ≤ bufferSize - 5 := by
  simp only [requestFormat] at stated
  split at stated
  · rename_i bounded
    have same := Option.some.inj stated
    rw [← same]
    exact ⟨rfl, bounded⟩
  · cases stated

/-- The command and the payload of a frame. -/
def request (frame : Frame UInt8) : UInt8 × Bytes := (frame.1.headD 0, frame.2)

/-- The requests that a stream consists of. -/
def completeRequests (stream : Bytes) : List (UInt8 × Bytes) :=
  (requestFormat.frames stream).map request

/-- The request that a round serves. -/
def Round.request (round : Round) : UInt8 × Bytes := (round.cmd, round.payload)

/-! ## One pass and the array -/

/-- The five header bytes of the request array. -/
theorem header_bytes (buffer : Memory) :
    read buffer 0 5 = [buffer ⟨0, by decide⟩, buffer ⟨1, by decide⟩, buffer ⟨2, by decide⟩,
      buffer ⟨3, by decide⟩, buffer ⟨4, by decide⟩] := by
  have length : [buffer ⟨0, by decide⟩, buffer ⟨1, by decide⟩, buffer ⟨2, by decide⟩,
    buffer ⟨3, by decide⟩, buffer ⟨4, by decide⟩].length = 5 := rfl
  apply read_eq (by decide) length
  intro index inside
  rcases index with _ | _ | _ | _ | _ | index
  · rfl
  · rfl
  · rfl
  · rfl
  · rfl
  · omega

/-- Shifting four bytes into place and joining them gives the number they denote. -/
theorem joined_bytes (first second third fourth : UInt8) :
    first.toNat <<< 24 ||| second.toNat <<< 16 ||| third.toNat <<< 8 ||| fourth.toNat =
      Bytes.ofBigEndian [first, second, third, fourth] := by
  have secondLow := second.toNat_lt
  have thirdLow := third.toNat_lt
  have fourthLow := fourth.toNat_lt
  have two : first.toNat <<< 24 ||| second.toNat <<< 16 =
      (first.toNat * 256 + second.toNat) <<< 16 := by
    rw [← Nat.shiftLeft_add_eq_or_of_lt (by rw [Nat.shiftLeft_eq]; omega)]
    simp only [Nat.shiftLeft_eq]
    omega
  have three : (first.toNat * 256 + second.toNat) <<< 16 ||| third.toNat <<< 8 =
      ((first.toNat * 256 + second.toNat) * 256 + third.toNat) <<< 8 := by
    rw [← Nat.shiftLeft_add_eq_or_of_lt (by rw [Nat.shiftLeft_eq]; omega)]
    simp only [Nat.shiftLeft_eq]
    omega
  rw [two, three, ← Nat.shiftLeft_add_eq_or_of_lt (by omega)]
  simp only [Nat.shiftLeft_eq, Bytes.ofBigEndian, Bytes.ofLittleEndian, List.reverse_cons,
    List.reverse_nil, List.nil_append, List.cons_append]
  omega

/-- The length field is the number in the last four header bytes. -/
theorem length_field_read (buffer : Memory) :
    lengthField buffer = Bytes.ofBigEndian ((read buffer 0 5).drop 1) := by
  rw [header_bytes, lengthField, joined_bytes]
  rfl

/-- The command is the first header byte. -/
theorem command_read (buffer : Memory) : buffer ⟨0, by decide⟩ = (read buffer 0 5).headD 0 := by
  rw [header_bytes]
  rfl

/-- The header the array holds after a read that brought only its first bytes. -/
def completedHeader (buffer : Memory) (cut : Bytes) : Bytes :=
  cut ++ (read buffer 0 5).drop cut.length

theorem completed_header_read (buffer : Memory) (cut : Bytes) (short : cut.length ≤ 5) :
    read (write buffer 0 cut) 0 5 = completedHeader buffer cut := by
  have whole : (completedHeader buffer cut).length ≤ 5 := by
    rw [completedHeader, List.length_append, List.length_drop,
      read_length buffer 0 5 (by decide)]
    omega
  rw [read_overlaid buffer 0 5 cut (by decide) (by simp only [bufferSize]; omega)]
  exact List.take_of_length_le whole

/-- A whole header replaces all five bytes. -/
theorem completed_header_whole (buffer : Memory) (header : Bytes) (whole : header.length = 5) :
    completedHeader buffer header = header := by
  have nothing : (read buffer 0 5).drop header.length = [] := by
    rw [List.drop_eq_nil_iff, read_length buffer 0 5 (by decide), whole]
  rw [completedHeader, nothing, List.append_nil]

/-- The array after a header and a body were received. -/
def received (buffer : Memory) (header body : Bytes) : Memory :=
  write (write buffer 0 header) 5 body

/-- The body is written behind the header. -/
theorem received_header (buffer : Memory) (header body : Bytes) (short : header.length ≤ 5) :
    read (received buffer header body) 0 5 = completedHeader buffer header := by
  rw [received, read_apart _ 5 0 5 body (by decide) (Or.inl (by decide)),
    completed_header_read buffer header short]

theorem received_body (buffer : Memory) (header body : Bytes)
    (fits : body.length ≤ bufferSize - 5) :
    read (received buffer header body) 5 body.length = body := by
  have within : 5 + body.length ≤ bufferSize := by
    simp only [bufferSize] at *
    omega
  rw [received, read_written _ 5 body within]

/-- The round and the connection after a pass that received the given bytes. -/
def passed (surroundings : Surroundings) (connection : Connection) (header body rest : Bytes) :
    Round × Connection :=
  let (env, system) := surroundings connection.passes
  let buffer := received connection.buffer header body
  let round := serve env system body.length buffer connection.response
  (round,
    { buffer := buffer
      response := round.outcome.response
      incoming := rest
      passes := connection.passes + 1 })

/-- What a pass does is decided by the header it completes: it goes on only if that
states a length within bounds and so many bytes follow. -/
theorem pass_by_header (surroundings : Surroundings) (connection : Connection)
    (arriving : connection.incoming ≠ []) :
    pass surroundings connection =
      match requestFormat.lengthOf
        (completedHeader connection.buffer (connection.incoming.take 5)) with
      | none => none
      | some length =>
        let body := connection.incoming.drop 5
        if body.length < length then none
        else some (passed surroundings connection (connection.incoming.take 5)
          (body.take length) (body.drop length)) := by
  have short : (connection.incoming.take 5).length ≤ 5 := by
    rw [List.length_take]
    omega
  have nonempty : connection.incoming.take 5 ≠ [] := by
    rw [Ne, List.take_eq_nil_iff]
    rintro (zero | none_left)
    · cases zero
    · exact arriving none_left
  rw [← completed_header_read connection.buffer _ short]
  simp only [pass, recv, nonempty, if_false, length_field_read, requestFormat]
  generalize stated :
    Bytes.ofBigEndian ((read (write connection.buffer 0 (connection.incoming.take 5)) 0 5).drop 1) =
      length
  by_cases bounded : length ≤ bufferSize - 5
  · rw [if_neg (Nat.not_lt.mpr bounded), if_pos bounded]
    by_cases complete : length ≤ (connection.incoming.drop 5).length
    · have whole : ((connection.incoming.drop 5).take length).length = length := by
        rw [List.length_take]
        omega
      rw [if_neg (fun cut => cut.2 whole)]
      dsimp only
      rw [if_neg (Nat.not_lt.mpr complete)]
      simp only [passed, received, whole]
    · have cut : 0 < length ∧ ((connection.incoming.drop 5).take length).length ≠ length := by
        rw [List.length_take]
        omega
      rw [if_pos cut]
      dsimp only
      rw [if_pos (Nat.not_le.mp complete)]
  · rw [if_pos (Nat.not_le.mp bounded), if_neg bounded]

theorem pass_at_end (surroundings : Surroundings) (connection : Connection)
    (ended : connection.incoming = []) : pass surroundings connection = none := by
  simp [pass, recv, ended]

/-- Every pass that goes on has received some bytes in this way. -/
theorem pass_taken {surroundings : Surroundings} {connection after : Connection} {round : Round}
    (taken : pass surroundings connection = some (round, after)) :
    ∃ header body rest, (round, after) = passed surroundings connection header body rest := by
  by_cases ended : connection.incoming = []
  · rw [pass_at_end surroundings connection ended] at taken
    cases taken
  · rw [pass_by_header surroundings connection ended] at taken
    split at taken
    · cases taken
    · dsimp only at taken
      split at taken
      · cases taken
      · exact ⟨_, _, _, (Option.some.inj taken).symm⟩

/-- A complete frame is received as it is. -/
theorem pass_frame (surroundings : Surroundings) (connection : Connection)
    {frame : Frame UInt8} {after : Bytes}
    (taken : requestFormat.split connection.incoming = some (frame, after)) :
    pass surroundings connection = some (passed surroundings connection frame.1 frame.2 after) := by
  obtain ⟨⟨whole, stated⟩, stream⟩ := requestFormat.split_sound taken
  have size : frame.1.length = 5 := whole
  rw [written, List.append_assoc] at stream
  have front : connection.incoming.take 5 = frame.1 := by rw [stream, List.take_left' size]
  have back : connection.incoming.drop 5 = frame.2 ++ after := by
    rw [stream, List.drop_left' size]
  have arriving : connection.incoming ≠ [] := by
    intro ended
    rw [ended, List.take_nil] at front
    rw [← front] at size
    cases size
  have complete : ¬ (frame.2 ++ after).length < frame.2.length := by
    rw [List.length_append]
    omega
  rw [pass_by_header surroundings connection arriving, front, back,
    completed_header_whole _ _ size, stated]
  dsimp only
  rw [if_neg complete, List.take_left, List.drop_left]

/-- Where no complete frame is left, the loop goes on only over a cut header that the
array completes to one that states no payload. -/
theorem pass_no_frame (surroundings : Surroundings) (connection : Connection)
    (none_left : requestFormat.split connection.incoming = none) :
    pass surroundings connection =
      if 0 < connection.incoming.length ∧ connection.incoming.length < 5 ∧
          requestFormat.lengthOf (completedHeader connection.buffer connection.incoming) = some 0
      then some (passed surroundings connection connection.incoming [] [])
      else none := by
  by_cases ended : connection.incoming = []
  · rw [pass_at_end surroundings connection ended, if_neg]
    rintro ⟨positive, _⟩
    rw [ended] at positive
    exact Nat.lt_irrefl 0 positive
  · have positive : 0 < connection.incoming.length := List.length_pos_iff.mpr ended
    rw [pass_by_header surroundings connection ended]
    rcases Nat.lt_or_ge connection.incoming.length 5 with cut | whole
    · -- Nothing follows a cut header, so only an empty body is complete.
      rw [List.take_of_length_le (Nat.le_of_lt cut), List.drop_eq_nil_of_le (Nat.le_of_lt cut)]
      cases requestFormat.lengthOf (completedHeader connection.buffer connection.incoming) with
      | none => simp
      | some length =>
        rcases Nat.eq_zero_or_pos length with rfl | some_body
        · simp [positive, cut]
        · have stated : some length ≠ some 0 := by
            intro same
            cases same
            exact Nat.lt_irrefl 0 some_body
          simp [some_body, stated]
    · have size : (connection.incoming.take 5).length = 5 := by
        rw [List.length_take]
        omega
      have bounds : ¬ (0 < connection.incoming.length ∧ connection.incoming.length < 5 ∧
          requestFormat.lengthOf (completedHeader connection.buffer connection.incoming) =
            some 0) := by
        rintro ⟨_, cut, _⟩
        exact Nat.not_lt.mpr whole cut
      rw [completed_header_whole _ _ size, if_neg bounds]
      cases stated : requestFormat.lengthOf (connection.incoming.take 5) with
      | none => rfl
      | some length =>
        have missing : (connection.incoming.drop 5).length < length :=
          requestFormat.split_none none_left whole stated
        dsimp only
        rw [if_pos missing]

/-! ## The whole stream -/

/-- The header the array holds once the complete frames were received: that of the last
one, or what the array held at first. -/
def lastHeader (buffer : Memory) (stream : Bytes) : Bytes :=
  ((requestFormat.frames stream).getLast?.map Prod.fst).getD (read buffer 0 5)

/-- The stream ends one to four bytes into a header, and the bytes of the header before
complete it to one that states an empty payload. -/
def CutHeaderCompleted (buffer : Memory) (stream : Bytes) : Prop :=
  let cut := requestFormat.rest stream
  0 < cut.length ∧ cut.length < 5 ∧
    requestFormat.lengthOf (cut ++ (lastHeader buffer stream).drop cut.length) = some 0

instance (buffer : Memory) (stream : Bytes) : Decidable (CutHeaderCompleted buffer stream) :=
  inferInstanceAs (Decidable (_ ∧ _ ∧ _))

theorem last_header_none (buffer : Memory) (stream : Bytes)
    (none_left : requestFormat.split stream = none) :
    lastHeader buffer stream = read buffer 0 5 := by
  rw [lastHeader, requestFormat.frames_none none_left, List.getLast?_nil, Option.map_none,
    Option.getD_none]

/-- The array remembers the header of a frame for the stream behind it. -/
theorem last_header_split (buffer : Memory) {frame : Frame UInt8} {stream after : Bytes}
    (taken : requestFormat.split stream = some (frame, after)) :
    lastHeader (received buffer frame.1 frame.2) after = lastHeader buffer stream := by
  obtain ⟨⟨size, _⟩, _⟩ := requestFormat.split_sound taken
  have whole : frame.1.length = 5 := size
  rw [lastHeader, lastHeader, requestFormat.frames_split taken,
    received_header buffer frame.1 frame.2 (Nat.le_of_eq whole),
    completed_header_whole buffer frame.1 whole, List.getLast?_cons]
  cases (requestFormat.frames after).getLast? with
  | none => simp only [Option.getD_none, Option.map_none, Option.map_some, Option.getD_some]
  | some last => simp only [Option.map_some, Option.getD_some]

theorem cut_header_split (buffer : Memory) {frame : Frame UInt8} {stream after : Bytes}
    (taken : requestFormat.split stream = some (frame, after)) :
    CutHeaderCompleted (received buffer frame.1 frame.2) after ↔
      CutHeaderCompleted buffer stream := by
  rw [CutHeaderCompleted, CutHeaderCompleted, last_header_split buffer taken,
    requestFormat.rest_split taken]

/-- A round serves the request whose bytes it received. -/
theorem passed_request (surroundings : Surroundings) (connection : Connection)
    (header body rest : Bytes) (short : header.length ≤ 5) (arrived : header ≠ [])
    (fits : body.length ≤ bufferSize - 5) :
    (passed surroundings connection header body rest).1.request = (header.headD 0, body) := by
  have command : (passed surroundings connection header body rest).1.cmd = header.headD 0 := by
    have read := command_read (received connection.buffer header body)
    rw [received_header _ _ _ short, completedHeader] at read
    refine read.trans ?_
    cases header with
    | nil => exact absurd rfl arrived
    | cons first others => simp only [List.cons_append, List.headD_cons]
  have payload : (passed surroundings connection header body rest).1.payload = body :=
    received_body connection.buffer header body fits
  rw [Round.request, command, payload]

/-- The loop serves the complete requests of the stream in order, and one more where the
array completes a cut header. -/
theorem requests_served (surroundings : Surroundings) (connection : Connection) :
    (handleClient surroundings connection).map Round.request =
      completeRequests connection.incoming ++
        if CutHeaderCompleted connection.buffer connection.incoming then
          [((requestFormat.rest connection.incoming).headD 0, [])]
        else [] := by
  induction streamed : connection.incoming using requestFormat.reader.passes
    generalizing connection with
  | stopped stream stopped =>
    subst streamed
    have cut : CutHeaderCompleted connection.buffer connection.incoming ↔
        0 < connection.incoming.length ∧ connection.incoming.length < 5 ∧
          requestFormat.lengthOf (completedHeader connection.buffer connection.incoming) =
            some 0 := by
      rw [CutHeaderCompleted, last_header_none _ _ stopped, requestFormat.rest_none stopped,
        completedHeader]
    have step := pass_no_frame surroundings connection stopped
    rw [completeRequests, requestFormat.frames_none stopped, requestFormat.rest_none stopped,
      List.map_nil, List.nil_append]
    by_cases completed : CutHeaderCompleted connection.buffer connection.incoming
    · rw [if_pos (cut.mp completed)] at step
      have ends := pass_at_end surroundings
        (passed surroundings connection connection.incoming [] []).2 rfl
      rw [if_pos completed, handle_client_serves step, handle_client_ends ends, List.map_cons,
        List.map_nil,
        passed_request surroundings connection connection.incoming [] []
          (Nat.le_of_lt (cut.mp completed).2.1)
          (List.length_pos_iff.mp (cut.mp completed).1) (Nat.zero_le _)]
    · rw [if_neg (fun taken => completed (cut.mpr taken))] at step
      rw [if_neg completed, handle_client_ends step, List.map_nil]
  | passed stream frame after taken induction =>
    subst streamed
    have taken : requestFormat.split connection.incoming = some (frame, after) := taken
    obtain ⟨⟨whole, stated⟩, _⟩ := requestFormat.split_sound taken
    have size : frame.1.length = 5 := whole
    have arrived : frame.1 ≠ [] := by
      intro nothing
      rw [nothing] at size
      cases size
    have later := induction (passed surroundings connection frame.1 frame.2 after).2 rfl
    have buffered : (passed surroundings connection frame.1 frame.2 after).2.buffer =
        received connection.buffer frame.1 frame.2 := rfl
    rw [handle_client_serves (pass_frame surroundings connection taken), List.map_cons,
      passed_request surroundings connection frame.1 frame.2 after (Nat.le_of_eq size) arrived
        (length_stated stated).2]
    rw [later, buffered, completeRequests, completeRequests, requestFormat.frames_split taken,
      requestFormat.rest_split taken, List.map_cons, List.cons_append, request]
    by_cases completed : CutHeaderCompleted connection.buffer connection.incoming
    · rw [if_pos completed, if_pos ((cut_header_split _ taken).mpr completed)]
    · rw [if_neg completed,
        if_neg (fun later => completed ((cut_header_split _ taken).mp later))]

/-- A completed cut header is served on top of the complete requests. -/
theorem cut_header_differs (surroundings : Surroundings) (connection : Connection)
    (completed : CutHeaderCompleted connection.buffer connection.incoming) :
    (handleClient surroundings connection).map Round.request ≠
      completeRequests connection.incoming := by
  rw [requests_served, if_pos completed]
  intro same
  have longer := congrArg List.length same
  rw [List.length_append, List.length_singleton] at longer
  omega

/-- Exactly the complete requests of a stream are served, unless it ends inside a header
that the array completes to a request without a payload. -/
theorem requests_exact_iff (surroundings : Surroundings) (buffer response : Memory)
    (stream : Bytes) :
    (handleClient surroundings (accepted buffer response stream)).map Round.request =
        completeRequests stream ↔
      ¬ CutHeaderCompleted buffer stream := by
  constructor
  · intro same completed
    exact cut_header_differs surroundings (accepted buffer response stream) completed same
  · intro whole
    have none_cut : ¬ CutHeaderCompleted (accepted buffer response stream).buffer
        (accepted buffer response stream).incoming := whole
    rw [requests_served, if_neg none_cut, List.append_nil]
    rfl

/-- One whole request, and the command byte of another. -/
def cutStream : Bytes := [cmdGetInfo, 0, 0, 0, 0, cmdGetInfo]

/-- The single byte is served as a second request. -/
theorem cut_request_served :
    (handleClient (fun _ => (calmEnv 1, blankToken))
        (accepted (fun _ => 0) (fun _ => 0) cutStream)).map Round.request ≠
      completeRequests cutStream := by
  have whole : requestFormat.split cutStream =
      some (([cmdGetInfo, 0, 0, 0, 0], []), [cmdGetInfo]) := by decide
  have cut : requestFormat.split [cmdGetInfo] = none := by decide
  have completed : CutHeaderCompleted (fun _ => 0) cutStream := by
    rw [← cut_header_split _ whole, CutHeaderCompleted, requestFormat.rest_none cut,
      last_header_none _ _ cut, received_header _ _ _ (by decide),
      completed_header_whole _ _ (by decide)]
    decide
  exact cut_header_differs (fun _ => (calmEnv 1, blankToken))
    (accepted (fun _ => 0) (fun _ => 0) cutStream) completed

end NetworkServer

end PstHsm
