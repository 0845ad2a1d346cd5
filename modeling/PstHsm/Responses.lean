import PstHsm.RequestFields
import PstHsm.SessionTable

/-!
# The responses as a stream

A response is the return value in four bytes, the lowest byte of the payload's length,
and the payload, which is what the library answered. A peer that splits the stream by
these headers recovers what was produced exactly as long as every payload is shorter than
256 bytes. Only random bytes can be more, and only for a session that is open.
-/

namespace PstHsm

namespace NetworkServer

open Regions Loops Frames Tables

/-- The response format: five header bytes, of which the last states the length. -/
def responseFormat : Format UInt8 where
  headerSize := 5
  positive := header_nonempty
  lengthOf header := some (header.getD 4 0).toNat

/-- The return value and the payload in a frame. -/
def responded (frame : Frame UInt8) : CkUlong × Bytes :=
  (Bytes.ofBigEndian (frame.1.take 4), frame.2)

/-- The responses in a stream, if it consists of complete ones. -/
def decodedResponses (stream : Bytes) : Option (List (CkUlong × Bytes)) :=
  if responseFormat.rest stream = [] then some ((responseFormat.frames stream).map responded)
  else none

/-- The bytes that a connection sends. -/
def sentStream (rounds : List Round) : Bytes := rounds.flatMap Round.sent

/-- The stream is split back into what was produced, and each header states the length of
the payload that follows it and the return value. -/
def Decodable (rounds : List Round) : Prop :=
  decodedResponses (sentStream rounds) = some (rounds.map Round.produced) ∧
    ∀ round ∈ rounds,
      responseFormat.lengthOf (round.sent.take 5) = some (round.sent.drop 5).length ∧
        Bytes.ofBigEndian (round.sent.take 4) = round.outcome.rv.code

/-! ## What one request leaves -/

theorem code_fits (rv : CkRv) : rv.code < 256 ^ 4 := by
  cases rv <;> decide

/-- The first four header bytes are the return value. -/
theorem header_code (rv : CkRv) (responseLen : Nat) :
    Bytes.ofBigEndian ((responseHeader rv responseLen).take 4) = rv.code := by
  have bytes : (responseHeader rv responseLen).take 4 = Bytes.bigEndian 4 rv.code := by
    simp only [responseHeader, List.take_succ_cons, List.take_zero, Bytes.bigEndian,
      Bytes.littleEndian, List.reverse_cons, List.reverse_nil, List.nil_append,
      List.cons_append, Nat.shiftRight_eq_div_pow, Nat.div_div_eq_div_mul]
  rw [bytes, Bytes.big_endian_read 4 rv.code (code_fits rv)]

/-- The last header byte states a length below 256 and no other. -/
theorem header_length_iff (rv : CkRv) (responseLen : Nat) :
    responseFormat.lengthOf (responseHeader rv responseLen) = some responseLen ↔
      responseLen < 256 := by
  have stated : responseFormat.lengthOf (responseHeader rv responseLen) =
      some (responseLen % 256) := by
    simp only [responseFormat, responseHeader, List.getD_cons_succ, List.getD_cons_zero,
      UInt8.toNat_ofNat']
  rw [stated, Option.some.injEq]
  omega

/-- The random bytes requested exceed what the header can state, and the library
delivers them: the length passes the server's own check, the session is open, and the
generator does not fail. -/
def LongRandom (env : Env) (system : System) (cmd : UInt8) (buffer : Memory) : Prop :=
  cmd = cmdGenerateRandom ∧ 256 ≤ requestedLength buffer ∧
    requestedLength buffer ≤ bufferSize - 100 ∧
    (∃ found, hsmGetSession system (requestedSession buffer) = .ok found) ∧
    (env.randBytes (cInt (requestedLength buffer))).isSome

/-- `C_GenerateRandom` succeeds on an open session unless the generator fails. -/
theorem generate_random_ok_iff (env : Env) (system : System) (hSession : CkSessionHandle)
    (amount : CkUlong) :
    (cGenerateRandom env system hSession true amount).1 = .ok ↔
      (∃ found, hsmGetSession system hSession = .ok found) ∧
        (env.randBytes (cInt amount)).isSome := by
  rw [cGenerateRandom, Bool.not_true, if_neg Bool.false_ne_true]
  cases session : hsmGetSession system hSession with
  | error rv =>
    have refused := get_session_refused system hSession rv session
    refine iff_of_false refused ?_
    rintro ⟨⟨found, opened⟩, _⟩
    cases opened
  | ok found =>
    cases delivered : env.randBytes (cInt amount) with
    | none =>
      refine iff_of_false CkRv.noConfusion ?_
      rintro ⟨_, impossible⟩
      cases impossible
    | some bytes => exact iff_of_true rfl ⟨⟨found, rfl⟩, rfl⟩

/-- The list of slots has at most one entry. -/
theorem slot_list_short (system : System) (tokenPresent : Bool)
    (listed : (cGetSlotList system tokenPresent true (some 10)).1 = .ok) :
    sizeofCkUlong +
      (((cGetSlotList system tokenPresent true (some 10)).2).getD ([], 10)).2 * sizeofCkUlong <
        256 := by
  rw [cGetSlotList] at listed ⊢
  cases present : system.gHsmContext with
  | none =>
    rw [present] at listed
    cases listed
  | some context =>
    by_cases shown : (!tokenPresent || context.slot.tokenPresent) = true
    · simp [shown, sizeofCkUlong]
    · simp [shown, sizeofCkUlong]

/-- A command other than `CMD_GENERATE_RANDOM` answers with few bytes. -/
theorem short_not_long {env : Env} {system : System} {cmd : UInt8} {buffer : Memory}
    {responseLen : Nat} (short : responseLen < 256) (other : cmd ≠ cmdGenerateRandom) :
    responseLen ≤ bufferSize - 100 ∧
      (256 ≤ responseLen ↔ LongRandom env system cmd buffer) := by
  refine ⟨?_, iff_of_false (Nat.not_le.mpr short) (fun long => other long.1)⟩
  simp only [bufferSize]
  omega

/-- A response stays within its array, and needs more than a byte for its length only
for long random data. -/
theorem dispatch_length (env : Env) (system : System) (cmd : UInt8) (buffer response : Memory) :
    (dispatch env system cmd buffer response).responseLen ≤ bufferSize - 100 ∧
      (256 ≤ (dispatch env system cmd buffer response).responseLen ↔
        LongRandom env system cmd buffer) := by
  rw [dispatch]
  split
  · rename_i command
    have other : cmd ≠ cmdGenerateRandom := by
      rw [command]
      decide
    dsimp only
    split
    · exact short_not_long (by decide : sizeofCkInfo < 256) other
    · exact short_not_long (Nat.succ_pos 255) other
  · split
    · rename_i command
      have other : cmd ≠ cmdGenerateRandom := by
        rw [command]
        decide
      dsimp only
      split
      · rename_i listed
        exact short_not_long (slot_list_short system _ listed) other
      · exact short_not_long (Nat.succ_pos 255) other
    · split
      · rename_i command
        dsimp only
        have answered := generate_random_ok_iff env system (requestedSession buffer)
          (requestedLength buffer)
        split
        · rename_i bounded
          split
          · rename_i delivered
            have possible := answered.mp delivered
            exact ⟨bounded, fun long => ⟨command, long, bounded, possible⟩, fun long => long.2.1⟩
          · rename_i refused
            refine ⟨Nat.zero_le _, iff_of_false (Nat.not_succ_le_zero 255) ?_⟩
            rintro ⟨_, _, _, possible⟩
            exact refused (answered.mpr possible)
        · rename_i exceeding
          refine ⟨Nat.zero_le _, iff_of_false (Nat.not_succ_le_zero 255) ?_⟩
          rintro ⟨_, _, bounded, _⟩
          exact exceeding bounded
      · rename_i other
        exact short_not_long (Nat.succ_pos 255) other

/-! ## The bytes of a round -/

/-- A round as the server makes it. -/
def Round.Served (round : Round) : Prop :=
  ∃ response, round = serve round.env round.system round.length round.buffer response

theorem rounds_served (surroundings : Surroundings) (connection : Connection) :
    ∀ round ∈ handleClient surroundings connection, round.Served := by
  refine (clientLoop surroundings).items_hold (fun _ => True) ?_ connection trivial
  intro before round after _ taken
  obtain ⟨header, body, rest, made⟩ := pass_taken taken
  obtain ⟨rfl, rfl⟩ := Prod.mk.inj made
  exact ⟨⟨before.response, rfl⟩, trivial⟩

/-- Each round finds the library as it is at some pass. -/
theorem rounds_surrounded (surroundings : Surroundings) (connection : Connection) :
    ∀ round ∈ handleClient surroundings connection,
      ∃ passes, round.system = (surroundings passes).2 := by
  refine (clientLoop surroundings).items_hold (fun _ => True) ?_ connection trivial
  intro before round after _ taken
  obtain ⟨header, body, rest, made⟩ := pass_taken taken
  obtain ⟨rfl, rfl⟩ := Prod.mk.inj made
  exact ⟨⟨before.passes, rfl⟩, trivial⟩

/-- The response as a frame: what is sent before the payload, and the payload. -/
def Round.frame (round : Round) : Frame UInt8 :=
  (responseHeader round.outcome.rv round.outcome.responseLen, round.produced.2)

/-- The outcome of a served round: that of the dispatch, with the header in place. -/
theorem served_outcome (round : Round) (served : round.Served) :
    ∃ response, round.outcome =
      { dispatch round.env round.system round.cmd round.buffer response with
        response := write (dispatch round.env round.system round.cmd round.buffer response).response
          0 (responseHeader (dispatch round.env round.system round.cmd round.buffer response).rv
            (dispatch round.env round.system round.cmd round.buffer response).responseLen) } := by
  obtain ⟨response, made⟩ := served
  refine ⟨response, ?_⟩
  have command : round.cmd = round.buffer ⟨0, by decide⟩ := congrArg Round.cmd made
  rw [command]
  exact congrArg Round.outcome made

/-- What a served round sends, and how long its payload is. -/
theorem served_round (round : Round) (served : round.Served) :
    round.sent = written round.frame ∧
      round.produced.2.length = round.outcome.responseLen ∧
      (256 ≤ round.outcome.responseLen ↔
        LongRandom round.env round.system round.cmd round.buffer) := by
  obtain ⟨response, outcome⟩ := served_outcome round served
  obtain ⟨bounded, long⟩ :=
    dispatch_length round.env round.system round.cmd round.buffer response
  have rv := congrArg Outcome.rv outcome
  have array := congrArg Outcome.response outcome
  have length := congrArg Outcome.responseLen outcome
  dsimp only at rv array length
  rw [← length] at bounded long
  have within : 5 + round.outcome.responseLen ≤ bufferSize := by
    simp only [bufferSize] at *
    omega
  refine ⟨?_, read_length _ 5 _ within, long⟩
  have header : read round.outcome.response 0 5 =
      responseHeader round.outcome.rv round.outcome.responseLen := by
    rw [array, ← rv, ← length]
    exact read_written _ 0 _ (Nat.le_of_ble_eq_true rfl)
  rw [Round.sent, read_add _ 0 5 _ (by omega), header]
  rfl

/-! ## What the payload is -/

theorem payload_begins : 5 < bufferSize := by decide

/-- The payload that the library's answer amounts to: nothing unless it succeeds. -/
def answerBytes (env : Env) (system : System) (cmd : UInt8) (buffer : Memory) : Bytes :=
  if cmd = cmdGetInfo then
    let (rv, info) := cGetInfo system true
    if rv = .ok then (info.map infoBytes).getD [] else []
  else if cmd = cmdGetSlotList then
    let (rv, listed) := cGetSlotList system (buffer ⟨5, payload_begins⟩ ≠ 0) true (some 10)
    if rv = .ok then
      let (slots, count) := listed.getD ([], 10)
      Bytes.littleEndian sizeofCkUlong count ++ slotBytes slots count
    else []
  else if cmd = cmdGenerateRandom then
    if requestedLength buffer ≤ bufferSize - 100 then
      let (rv, bytes) :=
        cGenerateRandom env system (requestedSession buffer) true (requestedLength buffer)
      if rv = .ok then bytes.getD [] else []
    else []
  else []

/-- The structure has its size in memory. -/
theorem info_bytes_length (info : CkInfo) : (infoBytes info).length = sizeofCkInfo := by
  simp [infoBytes, sizeofCkInfo]

/-- `C_GetInfo` fills the structure whenever it succeeds. -/
theorem info_answered (system : System) (answered : (cGetInfo system true).1 = .ok) :
    (((cGetInfo system true).2.map infoBytes).getD []).length = sizeofCkInfo := by
  rw [cGetInfo, Bool.not_true, if_neg Bool.false_ne_true] at answered ⊢
  cases present : system.gHsmContext with
  | none =>
    rw [present] at answered
    cases answered
  | some context => exact info_bytes_length _

theorem slot_bytes_length (slots : List CkSlotId) (count : CkUlong) :
    (slotBytes slots count).length = count * sizeofCkUlong := by
  simp [slotBytes, Bytes.memory]

/-- A payload copied behind the header is read back. -/
theorem payload_read (response : Memory) (payload : Bytes) (responseLen : Nat)
    (length : payload.length = responseLen) (within : responseLen ≤ bufferSize - 100) :
    read (write response 5 payload) 5 responseLen = payload := by
  rw [← length] at within ⊢
  exact read_written response 5 payload (by simp only [bufferSize] at *; omega)

/-- Only as many bytes are copied as the generator delivers. -/
theorem random_read (response : Memory) (bytes : Bytes) (amount : Nat)
    (length : bytes.length = amount) (bounded : amount ≤ bufferSize - 100) :
    read (write response 5 (bytes.take amount)) 5 amount = bytes := by
  rw [List.take_of_length_le (Nat.le_of_eq length)]
  exact payload_read response bytes amount length bounded

/-- The count and the slots, copied one behind the other, are read as one. -/
theorem slots_read (response : Memory) (slots : List CkSlotId) (count : CkUlong)
    (few : sizeofCkUlong + count * sizeofCkUlong < 256) :
    read (write (write response 5 (Bytes.littleEndian sizeofCkUlong count)) (5 + sizeofCkUlong)
        (slotBytes slots count)) 5 (sizeofCkUlong + count * sizeofCkUlong) =
      Bytes.littleEndian sizeofCkUlong count ++ slotBytes slots count := by
  have first := Bytes.little_endian_length sizeofCkUlong count
  have second := slot_bytes_length slots count
  generalize Bytes.littleEndian sizeofCkUlong count = counted at *
  generalize slotBytes slots count = listed at *
  rw [← second, ← first] at few ⊢
  have within : 5 + (counted.length + listed.length) ≤ bufferSize := by
    simp only [bufferSize]
    omega
  rw [read_add _ 5 counted.length listed.length within,
    read_apart _ (5 + counted.length) 5 counted.length listed (by omega)
      (Or.inl (Nat.le_refl _)),
    read_written response 5 counted (by omega),
    read_written _ (5 + counted.length) listed (by omega)]

/-- `RAND_bytes` delivers as many bytes as it is asked for. -/
def DeliversAll (env : Env) : Prop :=
  ∀ amount bytes, env.randBytes amount = some bytes → bytes.length = amount.toNat

/-- Lengths that pass the server's check are not narrowed. -/
theorem admitted_length (amount : Nat) (bounded : amount ≤ bufferSize - 100) :
    (cInt amount).toNat = amount := by
  have admitted : amount ≤ 65436 := bounded
  have positive : ¬ cInt amount < 0 := by
    rw [c_int_negative_iff]
    omega
  rw [c_int_low amount positive, Nat.mod_eq_of_lt (by omega)]

theorem random_answered (env : Env) (system : System) (hSession : CkSessionHandle)
    (amount : CkUlong) (delivers : DeliversAll env) (bounded : amount ≤ bufferSize - 100)
    (answered : (cGenerateRandom env system hSession true amount).1 = .ok) :
    ((cGenerateRandom env system hSession true amount).2.getD []).length = amount := by
  rw [cGenerateRandom, Bool.not_true, if_neg Bool.false_ne_true] at answered ⊢
  cases session : hsmGetSession system hSession with
  | error rv =>
    rw [session] at answered
    exact absurd answered (get_session_refused system hSession rv session)
  | ok found =>
    cases delivered : env.randBytes (cInt amount) with
    | none =>
      rw [session] at answered
      dsimp only at answered
      rw [delivered] at answered
      cases answered
    | some bytes => exact (delivers _ bytes delivered).trans (admitted_length amount bounded)

/-- The dispatch leaves the library's answer behind the response header. -/
theorem dispatch_payload (env : Env) (system : System) (cmd : UInt8) (buffer response : Memory)
    (delivers : DeliversAll env) :
    read (dispatch env system cmd buffer response).response 5
        (dispatch env system cmd buffer response).responseLen =
      answerBytes env system cmd buffer := by
  have nothing : read response 5 0 = [] :=
    List.length_eq_zero_iff.mp (read_length _ 5 0 (by decide))
  rw [dispatch, answerBytes]
  split
  · dsimp only
    split
    · rename_i answered
      exact payload_read response _ sizeofCkInfo (info_answered system answered) (by decide)
    · exact nothing
  · split
    · dsimp only
      split
      · rename_i listed
        exact slots_read response _ _ (slot_list_short system _ listed)
      · exact nothing
    · split
      · dsimp only
        split
        · rename_i bounded
          split
          · rename_i answered
            exact random_read response _ _
              (random_answered env system _ _ delivers bounded answered) bounded
          · exact nothing
        · exact nothing
      · exact nothing

/-- What a round produces is the library's answer: the response header is written beside
the payload, not over it. -/
theorem produced_answer (round : Round) (served : round.Served)
    (delivers : DeliversAll round.env) :
    round.produced.2 = answerBytes round.env round.system round.cmd round.buffer := by
  obtain ⟨response, outcome⟩ := served_outcome round served
  obtain ⟨bounded, _⟩ := dispatch_length round.env round.system round.cmd round.buffer response
  have array := congrArg Outcome.response outcome
  have length := congrArg Outcome.responseLen outcome
  dsimp only at array length
  rw [Round.produced, array, length]
  have within : 5 + (dispatch round.env round.system round.cmd round.buffer response).responseLen ≤
      bufferSize := by
    simp only [bufferSize] at *
    omega
  exact (read_apart _ 0 5 _ _ within (Or.inr (Nat.le_of_ble_eq_true rfl))).trans
    (dispatch_payload round.env round.system round.cmd round.buffer response delivers)

/-! ## The whole stream -/

theorem sent_stream_written (rounds : List Round) (served : ∀ round ∈ rounds, round.Served) :
    sentStream rounds = (rounds.map Round.frame).flatMap written := by
  rw [sentStream, List.flatMap_map]
  exact List.flatMap_congr fun round member => (served_round round (served round member)).1

/-- The frame of a round carries its length exactly when the payload is short. -/
theorem frame_carries_iff (round : Round) (served : round.Served) :
    responseFormat.Carries round.frame ↔ round.outcome.responseLen < 256 := by
  obtain ⟨_, length, _⟩ := served_round round served
  have header := header_length_iff round.outcome.rv round.outcome.responseLen
  constructor
  · rintro ⟨_, stated⟩
    rw [Round.frame, length] at stated
    exact header.mp stated
  · intro short
    refine ⟨rfl, ?_⟩
    rw [Round.frame, length]
    exact header.mpr short

/-- What a peer recovers has no payload of 256 bytes or more. -/
theorem decoded_short {stream : Bytes} {responses : List (CkUlong × Bytes)}
    (decoded : decodedResponses stream = some responses) :
    ∀ response ∈ responses, response.2.length < 256 := by
  rw [decodedResponses] at decoded
  split at decoded
  · intro response member
    rw [← Option.some.inj decoded] at member
    obtain ⟨frame, present, rfl⟩ := List.mem_map.mp member
    obtain ⟨_, stated⟩ := responseFormat.frames_carry stream frame present
    rw [responded, ← Option.some.inj stated]
    exact (frame.1.getD 4 0).toNat_lt
  · cases decoded

/-- Responses that are all short are recovered as produced. -/
theorem short_decoded (rounds : List Round) (served : ∀ round ∈ rounds, round.Served)
    (short : ∀ round ∈ rounds, round.outcome.responseLen < 256) :
    decodedResponses (sentStream rounds) = some (rounds.map Round.produced) := by
  have carry : ∀ frame ∈ rounds.map Round.frame, responseFormat.Carries frame := by
    intro frame member
    obtain ⟨round, present, rfl⟩ := List.mem_map.mp member
    exact (frame_carries_iff round (served round present)).mpr (short round present)
  obtain ⟨split, nothing⟩ := (responseFormat.frames_written_iff _).mpr carry
  have pairs (round : Round) : responded round.frame = round.produced := by
    rw [responded, Round.frame, header_code]
    rfl
  rw [decodedResponses, sent_stream_written rounds served, if_pos nothing, split, List.map_map]
  exact congrArg some (List.map_congr_left fun round _ => pairs round)

theorem decodable_iff_short (rounds : List Round) (served : ∀ round ∈ rounds, round.Served) :
    Decodable rounds ↔ ∀ round ∈ rounds, round.outcome.responseLen < 256 := by
  constructor
  · rintro ⟨decoded, _⟩ round member
    have short := decoded_short decoded round.produced (List.mem_map_of_mem member)
    rwa [(served_round round (served round member)).2.1] at short
  · intro short
    refine ⟨short_decoded rounds served short, ?_⟩
    intro round member
    obtain ⟨sent, _, _⟩ := served_round round (served round member)
    obtain ⟨size, stated⟩ :=
      (frame_carries_iff round (served round member)).mpr (short round member)
    have five : round.frame.1.length = 5 := size
    have header : round.sent.take 5 = round.frame.1 := by
      rw [sent, written, List.take_left' five]
    have payload : round.sent.drop 5 = round.frame.2 := by
      rw [sent, written, List.drop_left' five]
    have front : round.sent.take 4 = round.frame.1.take 4 := by
      rw [← header, List.take_take]
      rfl
    rw [header, payload, front]
    exact ⟨stated, header_code _ _⟩

/-- The responses of a connection are decodable exactly when no request obtains 256 random
bytes or more. -/
theorem responses_decodable_iff (surroundings : Surroundings) (connection : Connection) :
    Decodable (handleClient surroundings connection) ↔
      ∀ round ∈ handleClient surroundings connection,
        ¬ LongRandom round.env round.system round.cmd round.buffer := by
  have served := rounds_served surroundings connection
  rw [decodable_iff_short _ served]
  refine forall₂_congr fun round member => ?_
  rw [← (served_round round (served round member)).2.2, Nat.not_le]

/-! ## A long answer -/

/-- A token with one session open. -/
def sessionOpened : System :=
  Runs.run (step pinSha256) (bootProcess freshStorage) (tokenSetUp.take 3)

/-- A request for 256 random bytes on that session. -/
def longRequest : RequestFrame where
  cmd := cmdGenerateRandom
  payload := Bytes.littleEndian 8 1 ++ Bytes.littleEndian 8 256
  fits := by decide

/-- The header of its response states no payload at all. -/
theorem long_answer_undecodable :
    ¬ Decodable (handleClient (fun _ => (calmEnv 1, sessionOpened))
      (accepted (fun _ => 0) (fun _ => 0) longRequest.bytes)) := by
  let surroundings : Surroundings := fun _ => (calmEnv 1, sessionOpened)
  let connection := accepted (fun _ => 0) (fun _ => 0) longRequest.bytes
  have stream : connection.incoming = longRequest.bytes ++ [] := (List.append_nil _).symm
  let buffer := received (fun _ => 0) longRequest.frame.1 longRequest.payload
  have whole : fields buffer = longRequest.payload := by
    rw [request_fields, overlaid_whole _ _ (by decide)]
    rfl
  have session : requestedSession buffer = 1 := by
    rw [requested_session_field, whole]
    rfl
  have amount : requestedLength buffer = 256 := by
    rw [requested_length_field, whole]
    rfl
  have delivered : (cGenerateRandom (calmEnv 1) sessionOpened 1 true 256).1 = .ok := by
    decide +kernel
  have long : LongRandom (calmEnv 1) sessionOpened (buffer ⟨0, by decide⟩) buffer := by
    rw [LongRandom, amount, session]
    exact ⟨request_command _ longRequest, by decide, by decide,
      (generate_random_ok_iff _ _ _ _).mp delivered⟩
  have served := rounds_served surroundings connection
  rw [request_served surroundings connection longRequest [] stream] at served
  change ¬ Decodable (handleClient surroundings connection)
  rw [request_served surroundings connection longRequest [] stream, decodable_iff_short _ served]
  intro short
  have first := short _ List.mem_cons_self
  have answer := (served_round _ (served _ List.mem_cons_self)).2.2.mpr long
  exact Nat.not_le.mpr first answer

/-! ## The server's own process -/

/-- The dispatch answers what the library does. -/
theorem library_call_answered (sha256 : Sha256) (env : Env) (system : System) (cmd : UInt8)
    (buffer response : Memory) (outcome : Outcome) (call : LibraryCall)
    (dispatched : dispatch env system cmd buffer response = outcome)
    (made : outcome.call = some call) :
    (callStep sha256 env system call.toCall).1.rv = outcome.rv := by
  rw [dispatch] at dispatched
  split at dispatched
  · dsimp only at dispatched
    split at dispatched
    · cases dispatched
      cases made
      rfl
    · cases dispatched
      cases made
      rfl
  · split at dispatched
    · dsimp only at dispatched
      split at dispatched
      · cases dispatched
        cases made
        rfl
      · cases dispatched
        cases made
        rfl
    · split at dispatched
      · dsimp only at dispatched
        split at dispatched
        · split at dispatched
          · cases dispatched
            cases made
            rfl
          · cases dispatched
            cases made
            rfl
        · cases dispatched
          cases made
      · cases dispatched
        cases made

/-- No call the server makes changes the token. -/
theorem library_call_keeps (sha256 : Sha256) (env : Env) (system : System) (call : LibraryCall) :
    (callStep sha256 env system call.toCall).2 = system := by
  cases call with
  | getInfo => rfl
  | getSlotList tokenPresent count => rfl
  | generateRandom hSession dataLen => rfl

/-- The event of a call the server makes. -/
def libraryEvent (served : LibraryCall × Env) : Event := .call served.1.toCall served.2

theorem library_calls_keep (sha256 : Sha256) (system : System)
    (served : List (LibraryCall × Env)) :
    Runs.run (step sha256) system (served.map libraryEvent) = system := by
  induction served with
  | nil => rfl
  | cons first later induction =>
    rw [List.map_cons, Runs.run, libraryEvent, step, library_call_keeps, induction]

/-- A library just initialized has no session. -/
theorem initialized_no_session (env : Env) (storage : Storage) (hSession : CkSessionHandle) :
    ¬ ∃ found, hsmGetSession (cInitialize env (bootProcess storage)).2 hSession = .ok found := by
  have unused : (cInitialize env (bootProcess storage)).2.sessions = empty := by
    cases present : (cInitialize env (bootProcess storage)).2.gHsmContext with
    | none => exact sessions_absent _ present
    | some context =>
      obtain ⟨fopen, loaded, slot, _⟩ :=
        absent_initializes pinSha256 env (bootProcess storage) .initializeLibrary context rfl
          present
      rw [sessions_present _ context present, slot]
      exact (init_slot_tables fopen loaded).1
  rw [get_session_iff, unused]
  exact carries_empty HsmSession.handle hSession

/-- In the server's own process no connection can open a session, so whatever its clients
have requested before, every connection's responses are decodable. -/
theorem server_process_decodable (sha256 : Sha256) (env : Env) (storage : Storage)
    (served : Nat → List (LibraryCall × Env)) (surroundings : Surroundings)
    (connection : Connection)
    (process : ∀ passes, (surroundings passes).2 =
      Runs.run (step sha256) (cInitialize env (bootProcess storage)).2
        ((served passes).map libraryEvent)) :
    Decodable (handleClient surroundings connection) := by
  have rounds := rounds_served surroundings connection
  rw [decodable_iff_short _ rounds]
  intro round member
  obtain ⟨passes, found⟩ := rounds_surrounded surroundings connection round member
  rw [process passes, library_calls_keep] at found
  by_contra exceeding
  have long := (served_round round (rounds round member)).2.2.mp (Nat.not_lt.mp exceeding)
  rw [found] at long
  exact initialized_no_session env storage _ long.2.2.2.1

end NetworkServer

end PstHsm
