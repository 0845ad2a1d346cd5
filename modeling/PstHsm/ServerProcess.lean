import PstHsm.Deliveries
import PstHsm.NetworkServer

/-!
# The server process

`network_server_start` of `network_server.c` with all its connections: the main thread that
initializes the library, accepts connections and finalizes the library, one thread for each
connection, the flag that the signal handler clears, and the bytes that arrive on each
connection in pieces. A thread runs from one blocking call, test of the flag or library
call to the next without another in between; between these points anything can happen
elsewhere.

The thread that takes a shutdown signal is left with what has arrived of the read it waits
in. Any other signal ends the process, as SIGPIPE does when a response is sent to a peer that
has closed the connection; so does a shutdown signal before the handlers are installed.
`malloc` and `pthread_create` succeed, and `send` sends everything or nothing.

A library call is one step, and so is `C_Finalize`. In the source nothing keeps the two apart,
so a response that is sent after the main thread has called `C_Finalize` may be another than
here, or none.
-/

namespace PstHsm

namespace NetworkServer

open Regions Deliveries

/-! ## The thread of a connection -/

/-- Where the thread stands in `handle_client`: before the test of the flag, in the first
`recv`, in the second, before the library call, or done. -/
inductive ClientPoint where
  | loopTest
  | header
  | body
  | processing
  | done
  deriving DecidableEq

/-- The thread's variables. `length` is set once the header is there. -/
structure ClientLocals where
  point : ClientPoint
  buffer : Memory
  response : Memory
  length : Nat

/-- What the thread's next read asks for. A test of the flag and a library call ask for
nothing and do not wait. -/
def ClientLocals.demand (locals : ClientLocals) : Option Nat :=
  match locals.point with
  | .loopTest => some 0
  | .header => some 5
  | .body => some locals.length
  | .processing => some 0
  | .done => none

/-- What the thread does with the bytes that the first `recv` returned. -/
def ClientLocals.headerRead (locals : ClientLocals) (received : Bytes) : ClientLocals :=
  if received = [] then { locals with point := .done }
  else
    let buffer := write locals.buffer 0 received
    let length := lengthField buffer
    let read := { locals with buffer := buffer, length := length }
    if length > bufferSize - 5 then { read with point := .done }
    else if length > 0 then { read with point := .body }
    else { read with point := .processing }

/-- What it does with those that the second returned. -/
def ClientLocals.bodyRead (locals : ClientLocals) (received : Bytes) : ClientLocals :=
  let read := { locals with buffer := write locals.buffer 5 received }
  if received.length ≠ locals.length then { read with point := .done }
  else { read with point := .processing }

/-- What the thread does with the bytes it got, up to the next point, and the responses it
sends on the way. -/
def ClientLocals.accept (env : Env) (system : System) (running : Bool) (locals : ClientLocals)
    (received : Bytes) : List Bytes × ClientLocals :=
  match locals.point with
  | .loopTest => ([], { locals with point := if running then .header else .done })
  | .header => ([], locals.headerRead received)
  | .body => ([], locals.bodyRead received)
  | .processing =>
    let round := serve env system locals.length locals.buffer locals.response
    ([round.sent], { locals with point := .loopTest, response := round.outcome.response })
  | .done => ([], locals)

/-- `handle_client` as a reader of the bytes that arrive. -/
def clientReader (env : Env) (system : System) (running : Bool) :
    Reader ClientLocals UInt8 Bytes where
  demand := ClientLocals.demand
  accept := ClientLocals.accept env system running

/-- A connection: the thread, its socket, what was sent, and what the two arrays held
before anything was read into them. -/
structure ClientThread where
  initial : Memory × Memory
  locals : ClientLocals
  socket : Line UInt8
  sent : List Bytes

/-- A connection just accepted. -/
def ClientThread.started (initial : Memory × Memory) : ClientThread where
  initial := initial
  locals := ⟨.loopTest, initial.1, initial.2, 0⟩
  socket := Line.fresh
  sent := []

/-- The thread goes on to its next point, unless it waits for bytes. What it sends on the way
goes out or is lost. -/
def ClientThread.turn (env : Env) (system : System) (running sends : Bool)
    (thread : ClientThread) : ClientThread :=
  let (sent, locals, socket) := (clientReader env system running).turn thread.locals thread.socket
  { thread with
    locals := locals
    socket := socket
    sent := if sends then thread.sent ++ sent else thread.sent }

/-- The thread takes a signal. A `recv` that has got some bytes returns them, short of
`MSG_WAITALL`; one that has got none goes on waiting. -/
def ClientThread.cutShort (thread : ClientThread) : ClientThread :=
  let received := thread.socket.unread
  match thread.locals.demand with
  | none => thread
  | some amount =>
    if received = [] ∨ thread.socket.ready amount = true then thread
    else
      { thread with
        locals :=
          match thread.locals.point with
          | .header => thread.locals.headerRead received
          | .body => thread.locals.bodyRead received
          | _ => thread.locals
        socket := thread.socket.advance amount }

/-! ## The main thread -/

/-- Where the main thread stands in `network_server_start`: before `C_Initialize`, after the
handlers are installed, before the test of the flag, in `accept`, after the loop, after
`C_Finalize`, returned, or ended by a signal. -/
inductive MainPoint where
  | starting
  | listening
  | loopTest
  | accepting
  | closing
  | stopped
  | returned (code : Nat)
  | killed
  deriving DecidableEq

/-- How `accept` comes out. A connection brings the arrays of its thread, with whatever they
hold. -/
inductive Accepted where
  | connection (initial : Memory × Memory)
  | interrupted
  | failed

/-- The process. -/
structure Server where
  main : MainPoint
  running : Bool
  system : System
  threads : List ClientThread

/-- What the process meets: the surroundings of `C_Initialize`, whether the socket can be
made, bound and listened on, how `accept` comes out, which thread goes on, what surrounds
its library call and whether its `send` goes through, bytes and ends of streams that arrive,
shutdown signals with the connection, if any, whose thread takes them, and signals that end
the process. -/
inductive Happening where
  | mainTurn (env : Env) (listens : Bool) (accepted : Accepted)
  | clientTurn (index : Nat) (env : Env) (sends : Bool)
  | arrival (index : Nat) (piece : Bytes)
  | hangUp (index : Nat)
  | signal (taker : Option Nat)
  | kill

/-- The main thread goes on to its next point. -/
def Server.mainTurn (server : Server) (env : Env) (listens : Bool) (accepted : Accepted) : Server :=
  match server.main with
  | .starting =>
    let (rv, system) := cInitialize env server.system
    if rv ≠ .ok then { server with main := .returned 1, system := system }
    else if !listens then { server with main := .returned 1, system := system }
    else { server with main := .listening, system := system }
  | .listening => { server with main := .loopTest, running := true }
  | .loopTest => { server with main := if server.running then .accepting else .closing }
  | .accepting =>
    match accepted with
    | .connection initial =>
      { server with
        main := .loopTest
        threads := server.threads ++ [ClientThread.started initial] }
    | .interrupted => { server with main := .loopTest }
    | .failed => { server with main := .closing }
  | .closing => { server with main := .stopped, system := (cFinalize server.system false).2 }
  | .stopped => { server with main := .returned 0 }
  | .returned _ | .killed => server

/-- The process has ended, and its threads with it. -/
def MainPoint.over : MainPoint → Bool
  | .returned _ | .killed => true
  | _ => false

/-- The handlers are installed. -/
def MainPoint.handlesSignals : MainPoint → Bool
  | .starting => false
  | _ => true

/-- The process ends, if it has not ended yet. -/
def Server.kill (server : Server) : Server :=
  if server.main.over then server else { server with main := .killed }

/-- Change one connection, while the process runs. -/
def Server.onThread (server : Server) (index : Nat) (change : ClientThread → ClientThread) :
    Server :=
  if server.main.over then server
  else { server with threads := server.threads.modify index change }

/-- One step of the process. -/
def Server.next (server : Server) : Happening → Server
  | .mainTurn env listens accepted => server.mainTurn env listens accepted
  | .clientTurn index env sends =>
    server.onThread index (ClientThread.turn env server.system server.running sends)
  | .arrival index piece =>
    server.onThread index fun thread => { thread with socket := thread.socket.arrive piece }
  | .hangUp index =>
    server.onThread index fun thread => { thread with socket := thread.socket.close }
  | .signal taker =>
    if server.main.handlesSignals then
      let cleared := { server with running := false }
      match taker with
      | none => cleared
      | some index => cleared.onThread index ClientThread.cutShort
    else server.kill
  | .kill => server.kill

/-- The process at its start, over the given storage. -/
def launched (storage : Storage) : Server where
  main := .starting
  running := false
  system := bootProcess storage
  threads := []

end NetworkServer

end PstHsm
