import PstHsm.Api
import PstHsm.Regions
import PstHsm.Loops

/-!
# The network server

`handle_client` of `network_server.c`: one connection, from the bytes that arrive on it
to the bytes sent back. The two arrays of the C function live through the whole loop and
are never cleared, so both start with arbitrary content here and carry over from one
pass to the next. Other connections and processes may change the token between two
passes, so each pass finds the library in a state and surroundings of its own.

The peer may close its end at any byte; otherwise the network does not fail, and the
server is not asked to stop.
-/

namespace PstHsm

namespace NetworkServer

open Regions Loops

/-- `BUFFER_SIZE`. -/
def bufferSize : Nat := 65536

/-- One of the two arrays. -/
abbrev Memory := Region UInt8 bufferSize

def cmdGetInfo : UInt8 := 0x03
def cmdGetSlotList : UInt8 := 0x04
def cmdGenerateRandom : UInt8 := 0x15

/-- The length field of a request header: `buffer[1]` to `buffer[4]`, shifted into
place and joined. -/
def lengthField (buffer : Memory) : Nat :=
  (buffer ⟨1, by decide⟩).toNat <<< 24 ||| (buffer ⟨2, by decide⟩).toNat <<< 16 |||
    (buffer ⟨3, by decide⟩).toNat <<< 8 ||| (buffer ⟨4, by decide⟩).toNat

/-! ## The library call of a request -/

/-- The call that a request leads to, with the arguments as the server passes them. -/
inductive LibraryCall where
  | getInfo
  | getSlotList (tokenPresent : UInt8) (count : CkUlong)
  | generateRandom (hSession : CkSessionHandle) (dataLen : CkUlong)
  deriving DecidableEq

/-- The call as the library's interface has it: every pointer is set. -/
def LibraryCall.toCall : LibraryCall → Call
  | .getInfo => .getInfo true
  | .getSlotList tokenPresent count => .getSlotList (tokenPresent ≠ 0) true (some count)
  | .generateRandom hSession dataLen => .generateRandom hSession true dataLen

/-- What the dispatch leaves: the call it made, if any, the return value, the response
array and the number of payload bytes in it. -/
structure Outcome where
  call : Option LibraryCall
  rv : CkRv
  response : Memory
  responseLen : Nat

def sizeofCkUlong : Nat := 8
def sizeofCkInfo : Nat := 88

/-- `CK_INFO` in memory. Six bytes of padding precede the flags and six follow the last
member; `C_GetInfo` has cleared both. -/
def infoBytes (info : CkInfo) : Bytes :=
  [UInt8.ofNat info.cryptokiVersion.1, UInt8.ofNat info.cryptokiVersion.2] ++
    info.manufacturerID.toList ++ List.replicate 6 0 ++ Bytes.littleEndian 8 info.flags ++
    info.libraryDescription.toList ++
    [UInt8.ofNat info.libraryVersion.1, UInt8.ofNat info.libraryVersion.2] ++
    List.replicate 6 0

/-- The first entries of the array of slot numbers in memory. -/
def slotBytes (slots : List CkSlotId) (count : CkUlong) : Bytes :=
  Bytes.memory (slots.flatMap (Bytes.littleEndian sizeofCkUlong)) (count * sizeofCkUlong)

/-- The session handle that `CMD_GENERATE_RANDOM` reads. -/
def requestedSession (buffer : Memory) : CkSessionHandle :=
  Bytes.ofLittleEndian (read buffer 5 sizeofCkUlong)

/-- The length that `CMD_GENERATE_RANDOM` reads. -/
def requestedLength (buffer : Memory) : CkUlong :=
  Bytes.ofLittleEndian (read buffer (5 + sizeofCkUlong) sizeofCkUlong)

/-- The switch over the command codes. `RAND_bytes` writes as many bytes as it was
asked for. -/
def dispatch (env : Env) (system : System) (cmd : UInt8) (buffer response : Memory) : Outcome :=
  if cmd = cmdGetInfo then
    let call := some .getInfo
    let (rv, info) := cGetInfo system true
    if rv = .ok then
      ⟨call, rv, write response 5 ((info.map infoBytes).getD []), sizeofCkInfo⟩
    else ⟨call, rv, response, 0⟩
  else if cmd = cmdGetSlotList then
    let tokenPresent := buffer ⟨5, by decide⟩
    let call := some (.getSlotList tokenPresent 10)
    let (rv, listed) := cGetSlotList system (tokenPresent ≠ 0) true (some 10)
    if rv = .ok then
      let (slots, count) := listed.getD ([], 10)
      let counted := write response 5 (Bytes.littleEndian sizeofCkUlong count)
      ⟨call, rv, write counted (5 + sizeofCkUlong) (slotBytes slots count),
        sizeofCkUlong + count * sizeofCkUlong⟩
    else ⟨call, rv, response, 0⟩
  else if cmd = cmdGenerateRandom then
    let hSession := requestedSession buffer
    let dataLen := requestedLength buffer
    if dataLen ≤ bufferSize - 100 then
      let call := some (.generateRandom hSession dataLen)
      let (rv, bytes) := cGenerateRandom env system hSession true dataLen
      if rv = .ok then ⟨call, rv, write response 5 ((bytes.getD []).take dataLen), dataLen⟩
      else ⟨call, rv, response, 0⟩
    else ⟨none, .functionFailed, response, 0⟩
  else ⟨none, .functionNotSupported, response, 0⟩

/-- The five bytes before the payload: the return value, most significant byte first,
and the lowest byte of the payload's length. -/
def responseHeader (rv : CkRv) (responseLen : Nat) : Bytes :=
  [UInt8.ofNat (rv.code >>> 24), UInt8.ofNat (rv.code >>> 16), UInt8.ofNat (rv.code >>> 8),
    UInt8.ofNat rv.code, UInt8.ofNat responseLen]

/-! ## The loop -/

/-- `recv` with `MSG_WAITALL`: the bytes asked for, or all there are before the end of
the stream, and what then remains. -/
def recv (incoming : Bytes) (amount : Nat) : Bytes × Bytes :=
  (incoming.take amount, incoming.drop amount)

/-- The library's state and surroundings at each pass of the loop. -/
abbrev Surroundings := Nat → Env × System

/-- The two arrays, the bytes yet to arrive and the number of passes made. -/
structure Connection where
  buffer : Memory
  response : Memory
  incoming : Bytes
  passes : Nat

/-- One request served: the state and surroundings of the library, the command, the
length field, the request array at the dispatch, and the outcome with the response header
in place. -/
structure Round where
  env : Env
  system : System
  cmd : UInt8
  length : Nat
  buffer : Memory
  outcome : Outcome

/-- The payload of the request. -/
def Round.payload (round : Round) : Bytes := read round.buffer 5 round.length

/-- The bytes sent. -/
def Round.sent (round : Round) : Bytes :=
  read round.outcome.response 0 (5 + round.outcome.responseLen)

/-- The return value and the payload of the response. -/
def Round.produced (round : Round) : CkUlong × Bytes :=
  (round.outcome.rv.code, read round.outcome.response 5 round.outcome.responseLen)

/-- The round for a request that is in the request array. -/
def serve (env : Env) (system : System) (length : Nat) (buffer response : Memory) : Round :=
  let cmd := buffer ⟨0, by decide⟩
  let outcome := dispatch env system cmd buffer response
  { env := env
    system := system
    cmd := cmd
    length := length
    buffer := buffer
    outcome := { outcome with
      response := write outcome.response 0 (responseHeader outcome.rv outcome.responseLen) } }

/-- One pass of the loop, or nothing where the loop breaks. -/
def pass (surroundings : Surroundings) (connection : Connection) : Option (Round × Connection) :=
  let (header, incoming) := recv connection.incoming 5
  -- Only an empty read breaks here: a cut header is completed by what the array holds.
  if header = [] then none
  else
    let buffer := write connection.buffer 0 header
    let length := lengthField buffer
    if length > bufferSize - 5 then none
    else
      let (body, incoming) := recv incoming length
      if 0 < length ∧ body.length ≠ length then none
      else
        let buffer := write buffer 5 body
        let (env, system) := surroundings connection.passes
        let round := serve env system length buffer connection.response
        some (round,
          { buffer := buffer
            response := round.outcome.response
            incoming := incoming
            passes := connection.passes + 1 })

/-- A round takes something from the stream. -/
theorem pass_consumes {surroundings : Surroundings} {connection after : Connection}
    {round : Round} (passed : pass surroundings connection = some (round, after)) :
    after.incoming.length < connection.incoming.length := by
  unfold pass recv at passed
  dsimp only at passed
  split at passed
  · cases passed
  · rename_i received
    have some_left : connection.incoming.length ≠ 0 := by
      intro none_left
      exact received (by rw [List.eq_nil_of_length_eq_zero none_left, List.take_nil])
    split at passed
    · cases passed
    · split at passed
      · cases passed
      · cases passed
        simp only [List.length_drop]
        omega

/-- The loop of `handle_client`. Every pass takes at least one byte. -/
def clientLoop (surroundings : Surroundings) : Loop Connection Round where
  next := pass surroundings
  measure := fun connection => connection.incoming.length
  lowers := pass_consumes

/-- A connection just accepted, on which the stream will arrive. -/
def accepted (buffer response : Memory) (stream : Bytes) : Connection :=
  { buffer := buffer
    response := response
    incoming := stream
    passes := 0 }

/-- `handle_client`: the requests it serves, in order. -/
def handleClient (surroundings : Surroundings) (connection : Connection) : List Round :=
  (clientLoop surroundings).items connection

/-- Without another round the connection is done. -/
theorem handle_client_ends {surroundings : Surroundings} {connection : Connection}
    (stopped : pass surroundings connection = none) : handleClient surroundings connection = [] :=
  (clientLoop surroundings).items_stopped stopped

/-- A round is followed by what is served after it. -/
theorem handle_client_serves {surroundings : Surroundings} {connection : Connection}
    {served : Round × Connection} (passed : pass surroundings connection = some served) :
    handleClient surroundings connection = served.1 :: handleClient surroundings served.2 :=
  (clientLoop surroundings).items_passed passed

end NetworkServer

end PstHsm
