import PstHsm.Requests

/-!
# The fields a request reads

A command reads its arguments at fixed places of the request array, whatever the length
of its payload. Of the array only the sixteen bytes behind the header matter for the
call; each frame overlays its payload on them, and what it does not cover stays from the
frames before. A request depends on itself alone exactly when its payload covers the
fields its command reads, or already states a length for which no call is made.
-/

namespace PstHsm

namespace NetworkServer

open Regions Loops Frames

/-! ## Written requests -/

/-- A request as a client writes it: the length field can state its payload. -/
structure RequestFrame where
  cmd : UInt8
  payload : Bytes
  fits : payload.length ≤ bufferSize - 5

namespace RequestFrame

/-- The request as a frame of the format. -/
def frame (request : RequestFrame) : Frame UInt8 :=
  (request.cmd :: Bytes.bigEndian 4 request.payload.length, request.payload)

/-- The request as it goes over the connection. -/
def bytes (request : RequestFrame) : Bytes := written request.frame

/-- A request is a frame that the format can carry. -/
theorem frame_carries (request : RequestFrame) : requestFormat.Carries request.frame := by
  have fits := request.fits
  have small : request.payload.length < 256 ^ 4 := by
    simp only [bufferSize] at fits
    omega
  have read : Bytes.ofBigEndian (Bytes.bigEndian 4 request.payload.length) =
      request.payload.length := Bytes.big_endian_read 4 _ small
  refine ⟨?_, ?_⟩
  · rw [frame, List.length_cons, Bytes.big_endian_length]
    rfl
  · simp only [requestFormat, frame, List.drop_succ_cons, List.drop_zero, read, if_pos fits]

/-- A request is split off what follows it. -/
theorem split_bytes (request : RequestFrame) (tail : Bytes) :
    requestFormat.split (request.bytes ++ tail) = some (request.frame, tail) :=
  requestFormat.split_written request.frame_carries tail

end RequestFrame

/-- What clients write is what the stream consists of. -/
theorem written_requests_complete (requests : List RequestFrame) :
    completeRequests (requests.flatMap RequestFrame.bytes) =
      requests.map fun request => (request.cmd, request.payload) := by
  induction requests with
  | nil => rw [List.flatMap_nil, completeRequests, requestFormat.frames_none
      requestFormat.split_nil, List.map_nil, List.map_nil]
  | cons request later induction =>
    rw [completeRequests] at induction
    rw [List.flatMap_cons, completeRequests, requestFormat.frames_split (request.split_bytes _),
      List.map_cons, induction, List.map_cons]
    rfl

/-- Every complete frame is one that a client can write. -/
theorem frame_written (frame : Frame UInt8) (carries : requestFormat.Carries frame) :
    ∃ request : RequestFrame, request.frame = frame := by
  obtain ⟨header, payload⟩ := frame
  obtain ⟨size, stated⟩ := carries
  obtain ⟨length, fits⟩ := length_stated stated
  cases header with
  | nil => cases size
  | cons cmd field =>
    have four : field.length = 4 := Nat.succ.inj size
    have kept := Bytes.big_endian_written field
    rw [four] at kept
    have same : Bytes.bigEndian 4 payload.length = field := by
      rw [length]
      exact kept
    refine ⟨⟨cmd, payload, fits⟩, ?_⟩
    rw [RequestFrame.frame, same]

/-- Frames that the format can carry are requests. -/
theorem frames_from_requests (sequence : List (Frame UInt8))
    (carry : ∀ frame ∈ sequence, requestFormat.Carries frame) :
    ∃ requests : List RequestFrame, requests.map RequestFrame.frame = sequence := by
  induction sequence with
  | nil => exact ⟨[], rfl⟩
  | cons frame others induction =>
    obtain ⟨request, first⟩ := frame_written frame (carry frame List.mem_cons_self)
    obtain ⟨requests, later⟩ :=
      induction fun other member => carry other (List.mem_cons_of_mem frame member)
    exact ⟨request :: requests, by rw [List.map_cons, first, later]⟩

/-- Every stream is a sequence of written requests, and a rest at which no complete one
begins. -/
theorem stream_from_requests (stream : Bytes) :
    ∃ requests : List RequestFrame,
      stream = requests.flatMap RequestFrame.bytes ++ requestFormat.rest stream ∧
        requestFormat.split (requestFormat.rest stream) = none := by
  obtain ⟨requests, same⟩ := frames_from_requests _ (requestFormat.frames_carry stream)
  have whole := requestFormat.frames_whole stream
  rw [← same, List.flatMap_map] at whole
  exact ⟨requests, whole.symm, requestFormat.reader.last_next stream⟩

/-! ## The bytes behind the header -/

/-- The sixteen bytes in which every command has its fields. -/
def fields (buffer : Memory) : Bytes := read buffer 5 16

/-- A payload laid over the bytes of the frames before. -/
def overlaid (payload left : Bytes) : Bytes := (payload ++ left.drop payload.length).take 16

/-- What a sequence of requests leaves there. -/
def fieldsAfter (earlier : List RequestFrame) (left : Bytes) : Bytes :=
  earlier.foldl (fun left request => overlaid request.payload left) left

/-- The first of several requests overlays the fields first. -/
theorem fields_after_cons (first : RequestFrame) (later : List RequestFrame) (left : Bytes) :
    fieldsAfter (first :: later) left = fieldsAfter later (overlaid first.payload left) := rfl

/-- What is received overlays the fields with the body. -/
theorem fields_received (buffer : Memory) (header body : Bytes) (short : header.length ≤ 5)
    (fits : body.length ≤ bufferSize - 5) :
    fields (received buffer header body) = overlaid body (fields buffer) := by
  have within : 5 + body.length ≤ bufferSize := by
    simp only [bufferSize] at *
    omega
  rw [fields, received, read_overlaid _ 5 16 body (by decide) within,
    read_apart buffer 0 5 16 header (by decide) (Or.inr (by omega))]
  rfl

/-- The call that a command makes of these bytes. -/
def callFor (cmd : UInt8) (fields : Bytes) : Option LibraryCall :=
  if cmd = cmdGetInfo then some .getInfo
  else if cmd = cmdGetSlotList then some (.getSlotList (fields.headD 0) 10)
  else if cmd = cmdGenerateRandom then
    let dataLen := Bytes.ofLittleEndian (fields.drop 8)
    if dataLen ≤ bufferSize - 100 then
      some (.generateRandom (Bytes.ofLittleEndian (fields.take 8)) dataLen)
    else none
  else none

/-- The first field byte is the one behind the header. -/
theorem first_field (buffer : Memory) : buffer ⟨5, by decide⟩ = (fields buffer).headD 0 := by
  rw [fields, read_add buffer 5 1 15 (by decide), read_one buffer 5 (by decide)]
  rfl

/-- The session handle is in the first eight field bytes. -/
theorem requested_session_field (buffer : Memory) :
    requestedSession buffer = Bytes.ofLittleEndian ((fields buffer).take 8) := by
  rw [fields, read_take buffer 5 8 8 (by decide)]
  rfl

/-- The length is in those behind them. -/
theorem requested_length_field (buffer : Memory) :
    requestedLength buffer = Bytes.ofLittleEndian ((fields buffer).drop 8) := by
  rw [fields, read_drop buffer 5 8 8 (by decide)]
  rfl

/-- The dispatch makes that call, in whatever state the library is. -/
theorem dispatch_call (env : Env) (system : System) (cmd : UInt8) (buffer response : Memory) :
    (dispatch env system cmd buffer response).call = callFor cmd (fields buffer) := by
  rw [dispatch, callFor, ← first_field, ← requested_session_field, ← requested_length_field]
  split
  · dsimp only
    split <;> rfl
  · split
    · dsimp only
      split <;> rfl
    · split
      · dsimp only
        split
        · split <;> rfl
        · rfl
      · rfl

/-! ## The call behind earlier traffic -/

/-- How a connection begins: the library at each pass and the content of the arrays. -/
structure Link where
  surroundings : Surroundings
  buffer : Memory
  response : Memory

/-- The call made for a request that follows earlier ones on a connection. -/
def callAfter (link : Link) (earlier : List RequestFrame) (request : RequestFrame)
    (tail : Bytes) : Option (Option LibraryCall) :=
  let stream := earlier.flatMap RequestFrame.bytes ++ (request.bytes ++ tail)
  let rounds := handleClient link.surroundings (accepted link.buffer link.response stream)
  (rounds[earlier.length]?).map fun round => round.outcome.call

/-- A written request is served, and what follows it is served after it. -/
theorem request_served (surroundings : Surroundings) (connection : Connection)
    (request : RequestFrame) (tail : Bytes) (next : connection.incoming = request.bytes ++ tail) :
    handleClient surroundings connection =
      (passed surroundings connection request.frame.1 request.payload tail).1 ::
        handleClient surroundings
          (passed surroundings connection request.frame.1 request.payload tail).2 := by
  have taken : requestFormat.split connection.incoming = some (request.frame, tail) := by
    rw [next, request.split_bytes]
  exact handle_client_serves (pass_frame surroundings connection taken)

/-- The command of a written request arrives. -/
theorem request_command (buffer : Memory) (request : RequestFrame) :
    received buffer request.frame.1 request.payload ⟨0, by decide⟩ = request.cmd := by
  have header : request.frame.1.length = 5 := request.frame_carries.1
  have read := command_read (received buffer request.frame.1 request.payload)
  rw [received_header _ _ _ (Nat.le_of_eq header), completed_header_whole _ _ header] at read
  exact read

/-- Its payload overlays the bytes behind the header. -/
theorem request_fields (buffer : Memory) (request : RequestFrame) :
    fields (received buffer request.frame.1 request.payload) =
      overlaid request.payload (fields buffer) :=
  fields_received buffer _ _ (Nat.le_of_eq request.frame_carries.1) request.fits

/-- The call of a round is the one for the code and the fields received. -/
theorem passed_call (surroundings : Surroundings) (connection : Connection)
    (header body rest : Bytes) :
    (passed surroundings connection header body rest).1.outcome.call =
      callFor (received connection.buffer header body ⟨0, by decide⟩)
        (fields (received connection.buffer header body)) := by
  simp only [passed, serve]
  exact dispatch_call _ _ _ _ _

/-- The bytes behind the header evolve as the payloads overlay them. -/
theorem call_behind (surroundings : Surroundings) (request : RequestFrame) (tail : Bytes)
    (earlier : List RequestFrame) (connection : Connection)
    (stream : connection.incoming =
      earlier.flatMap RequestFrame.bytes ++ (request.bytes ++ tail)) :
    ((handleClient surroundings connection)[earlier.length]?).map
        (fun round => round.outcome.call) =
      some (callFor request.cmd
        (overlaid request.payload (fieldsAfter earlier (fields connection.buffer)))) := by
  induction earlier generalizing connection with
  | nil =>
    rw [List.flatMap_nil, List.nil_append] at stream
    rw [request_served surroundings connection request tail stream, List.length_nil,
      List.getElem?_cons_zero, Option.map_some, passed_call, request_command,
      request_fields, fieldsAfter, List.foldl_nil]
  | cons first later induction =>
    rw [List.flatMap_cons, List.append_assoc] at stream
    have behind := induction
      (passed surroundings connection first.frame.1 first.payload
        (later.flatMap RequestFrame.bytes ++ (request.bytes ++ tail))).2 rfl
    have left : fields (passed surroundings connection first.frame.1 first.payload
        (later.flatMap RequestFrame.bytes ++ (request.bytes ++ tail))).2.buffer =
          overlaid first.payload (fields connection.buffer) :=
      request_fields connection.buffer first
    rw [request_served surroundings connection first _ stream, List.length_cons,
      List.getElem?_cons_succ, behind, left, fields_after_cons]

/-- The call is that of the payload over what the earlier payloads left. -/
theorem call_after_fields (link : Link) (earlier : List RequestFrame) (request : RequestFrame)
    (tail : Bytes) :
    callAfter link earlier request tail =
      some (callFor request.cmd
        (overlaid request.payload (fieldsAfter earlier (fields link.buffer)))) :=
  call_behind link.surroundings request tail earlier
    (accepted link.buffer link.response
      (earlier.flatMap RequestFrame.bytes ++ (request.bytes ++ tail))) rfl

/-- The payload covers the fields that its command reads, or states a length that is
refused whatever the missing bytes are. -/
def SelfContained (request : RequestFrame) : Prop :=
  (request.cmd = cmdGetSlotList → 1 ≤ request.payload.length) ∧
    (request.cmd = cmdGenerateRandom →
      16 ≤ request.payload.length ∨
        bufferSize - 100 < Bytes.ofLittleEndian (request.payload.drop 8))

/-- Bytes behind the payload can only make the stated length larger. -/
theorem length_at_least (payload left : Bytes) (short : payload.length ≤ 16) :
    Bytes.ofLittleEndian (payload.drop 8) ≤
      Bytes.ofLittleEndian ((overlaid payload left).drop 8) := by
  rw [overlaid, List.take_append, List.take_of_length_le short, List.drop_append,
    Bytes.little_endian_append]
  exact Nat.le_add_right _ _

/-- A payload that covers all fields decides them. -/
theorem overlaid_whole (payload left : Bytes) (covers : 16 ≤ payload.length) :
    overlaid payload left = payload.take 16 := by
  rw [overlaid, List.take_append_of_le_length covers]

/-- A payload that is not empty brings the first field byte. -/
theorem overlaid_first (payload left : Bytes) (covers : 1 ≤ payload.length) :
    (overlaid payload left).headD 0 = payload.headD 0 := by
  cases payload with
  | nil => cases covers
  | cons first others => rfl

/-- The call of a self-contained request does not depend on what it overlays. -/
theorem self_contained_call (request : RequestFrame) (contained : SelfContained request)
    (left other : Bytes) :
    callFor request.cmd (overlaid request.payload left) =
      callFor request.cmd (overlaid request.payload other) := by
  obtain ⟨slotList, generateRandom⟩ := contained
  unfold callFor
  split
  · rfl
  · split
    · rename_i command
      rw [overlaid_first _ _ (slotList command), overlaid_first _ _ (slotList command)]
    · split
      · rename_i command
        rcases Nat.lt_or_ge request.payload.length 16 with short | covers
        · have refused := (generateRandom command).resolve_left (Nat.not_le.mpr short)
          have stays (left : Bytes) : ¬ Bytes.ofLittleEndian
              ((overlaid request.payload left).drop 8) ≤ bufferSize - 100 := by
            have least := length_at_least request.payload left (Nat.le_of_lt short)
            omega
          dsimp only
          rw [if_neg (stays left), if_neg (stays other)]
        · rw [overlaid_whole _ _ covers, overlaid_whole _ _ covers]
      · rfl

/-! ## Traffic that shows through -/

/-- Sixteen bytes, all zero but the first and the last. -/
def markedBytes (mark : UInt8) : Bytes := mark :: List.replicate 14 0 ++ [mark]

/-- A harmless request that leaves these bytes behind. -/
def markingRequest (mark : UInt8) : RequestFrame where
  cmd := cmdGetInfo
  payload := markedBytes mark
  fits := by
    rw [markedBytes, List.length_append, List.length_cons, List.length_replicate,
      List.length_singleton]
    decide

/-- What the marking request leaves are the marked bytes. -/
theorem marked_fields (mark : UInt8) (left : Bytes) :
    fieldsAfter [markingRequest mark] left = markedBytes mark :=
  overlaid_whole (markedBytes mark) left (by simp [markedBytes])

/-- Behind a short payload the last of these bytes is the highest of the length. -/
theorem marked_length (payload : Bytes) (mark : UInt8) (short : payload.length ≤ 15) :
    Bytes.ofLittleEndian ((overlaid payload (markedBytes mark)).drop 8) =
      Bytes.ofLittleEndian (payload.drop 8) + 256 ^ 7 * mark.toNat := by
  let front : Bytes := mark :: List.replicate 14 0
  have frontLength : front.length = 15 := by simp [front]
  have behind : (markedBytes mark).drop payload.length = front.drop payload.length ++ [mark] :=
    List.drop_append_of_le_length (short.trans (Nat.le_of_eq frontLength.symm))
  have joined : (payload ++ front.drop payload.length).length = 15 := by
    rw [List.length_append, List.length_drop, frontLength]
    omega
  have whole : overlaid payload (markedBytes mark) =
      (payload ++ front.drop payload.length) ++ [mark] := by
    rw [overlaid, behind, ← List.append_assoc]
    exact List.take_of_length_le (by rw [List.length_append, joined, List.length_singleton])
  -- Only the first byte of the front is not zero, and it is not among the last eight.
  have zeros : (front.drop payload.length).drop (8 - payload.length) =
      List.replicate (15 - (payload.length + (8 - payload.length))) 0 := by
    obtain ⟨amount, later⟩ : ∃ amount, payload.length + (8 - payload.length) = amount + 1 :=
      ⟨payload.length + (8 - payload.length) - 1, by omega⟩
    rw [List.drop_drop, later, List.drop_succ_cons, List.drop_replicate]
    congr 1
    omega
  have low : Bytes.ofLittleEndian ((payload ++ front.drop payload.length).drop 8) =
      Bytes.ofLittleEndian (payload.drop 8) := by
    rw [List.drop_append, zeros, Bytes.little_endian_append, Bytes.little_endian_zeros,
      Nat.mul_zero, Nat.add_zero]
  have seven : ((payload ++ front.drop payload.length).drop 8).length = 7 := by
    rw [List.length_drop, joined]
  rw [whole, List.drop_append_of_le_length (by omega), Bytes.little_endian_append, low, seven,
    Bytes.ofLittleEndian, Bytes.ofLittleEndian, Nat.mul_zero, Nat.add_zero]

/-- A request for the slots without a payload reads the byte marked before it. -/
theorem slot_list_uncovered (request : RequestFrame) (command : request.cmd = cmdGetSlotList)
    (uncovered : request.payload = []) (mark : UInt8) :
    callFor request.cmd (overlaid request.payload (markedBytes mark)) =
      some (.getSlotList mark 10) := by
  have first : (overlaid request.payload (markedBytes mark)).headD 0 = mark := by
    rw [uncovered]
    rfl
  have other : ¬ cmdGetSlotList = cmdGetInfo := by decide
  rw [callFor, command, if_neg other, if_pos rfl, first]

/-- The two numbers of a request for random bytes are read from the fields. -/
theorem generate_random_fields (fields : Bytes) :
    callFor cmdGenerateRandom fields =
      if Bytes.ofLittleEndian (fields.drop 8) ≤ bufferSize - 100 then
        some (.generateRandom (Bytes.ofLittleEndian (fields.take 8))
          (Bytes.ofLittleEndian (fields.drop 8)))
      else none := by
  have notInfo : ¬ cmdGenerateRandom = cmdGetInfo := by decide
  have notSlots : ¬ cmdGenerateRandom = cmdGetSlotList := by decide
  rw [callFor, if_neg notInfo, if_neg notSlots, if_pos rfl]

/-- A request makes the same call behind all earlier traffic exactly when it is
self-contained: any two connections, any two sequences of earlier requests, and the
library in any state at every pass. -/
theorem request_isolated_iff (link other : Link) (request : RequestFrame)
    (tail otherTail : Bytes) :
    (∀ earlier otherEarlier : List RequestFrame,
      callAfter link earlier request tail = callAfter other otherEarlier request otherTail) ↔
      SelfContained request := by
  constructor
  · intro isolated
    have marks (mark otherMark : UInt8) :
        callFor request.cmd (overlaid request.payload (markedBytes mark)) =
          callFor request.cmd (overlaid request.payload (markedBytes otherMark)) := by
      have same := isolated [markingRequest mark] [markingRequest otherMark]
      rw [call_after_fields, call_after_fields, marked_fields, marked_fields] at same
      exact Option.some.inj same
    refine ⟨fun command => ?_, fun command => ?_⟩
    · by_contra uncovered
      have nothing : request.payload = [] := List.length_eq_zero_iff.mp (by omega)
      have same := marks 0 1
      rw [slot_list_uncovered request command nothing,
        slot_list_uncovered request command nothing] at same
      cases same
    · by_contra uncovered
      obtain ⟨short, stated⟩ := not_or.mp uncovered
      have same := marks 0 1
      have plain := marked_length request.payload 0 (by omega)
      have marked := marked_length request.payload 1 (by omega)
      have byteZero : (0 : UInt8).toNat = 0 := rfl
      have byteOne : (1 : UInt8).toNat = 1 := rfl
      rw [byteZero] at plain
      rw [byteOne] at marked
      have served : Bytes.ofLittleEndian
          ((overlaid request.payload (markedBytes 0)).drop 8) ≤ bufferSize - 100 := by
        omega
      have refused : ¬ Bytes.ofLittleEndian
          ((overlaid request.payload (markedBytes 1)).drop 8) ≤ bufferSize - 100 := by
        simp only [bufferSize]
        omega
      rw [command, generate_random_fields, generate_random_fields, if_pos served,
        if_neg refused] at same
      cases same
  · intro contained earlier otherEarlier
    rw [call_after_fields, call_after_fields]
    exact congrArg some (self_contained_call request contained _ _)

/-- A request for random bytes with its session and length. -/
def randomRequest : RequestFrame where
  cmd := cmdGenerateRandom
  payload := Bytes.littleEndian 8 1 ++ Bytes.littleEndian 8 16
  fits := by decide

/-- The same command without a payload. -/
def emptyRandomRequest : RequestFrame where
  cmd := cmdGenerateRandom
  payload := []
  fits := by decide

/-- A connection whose arrays start out as zeros. -/
def clearedLink : Link where
  surroundings _ := (calmEnv 1, blankToken)
  buffer _ := 0
  response _ := 0

/-- An empty request takes over the session and the length of the one before. -/
theorem empty_request_inherits :
    callAfter clearedLink [randomRequest] emptyRandomRequest [] =
        some (some (.generateRandom 1 16)) ∧
      callAfter clearedLink [] emptyRandomRequest [] ≠
        callAfter clearedLink [randomRequest] emptyRandomRequest [] := by
  have fresh : fields clearedLink.buffer = List.replicate 16 0 := read_filled 0 5 16 (by decide)
  have inherited : callAfter clearedLink [randomRequest] emptyRandomRequest [] =
      some (some (.generateRandom 1 16)) := by
    rw [call_after_fields, fields_after_cons, fresh]
    decide
  have alone : callAfter clearedLink [] emptyRandomRequest [] =
      some (some (.generateRandom 0 0)) := by
    rw [call_after_fields, fresh]
    decide
  refine ⟨inherited, ?_⟩
  rw [inherited, alone]
  decide

end NetworkServer

end PstHsm
