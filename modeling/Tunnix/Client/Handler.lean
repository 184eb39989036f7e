import Tunnix.Protocol
import Tunnix.Library.Utf8
import Tunnix.Client.Relay
import Mathlib.Data.Finset.Basic

namespace Tunnix.Handler

/-- An acknowledgement is an empty `Data` message. -/
def isAck : Except String (Option Message) → Bool
  | .ok (some (.data _ [])) => true
  | _ => false

/-- `send_connect` returns what the client got of the server's answer. The server may have sent its
acknowledgement although the client got something else, since a response can be lost. -/
structure ConnectOutcome where
  returned : Except String (Option Message)
  acknowledged : Bool
  honest : isAck returned = true → acknowledged = true

/-- The surroundings decide how each step of a handler ends. -/
structure Environment where
  connect : ConnectOutcome
  /-- A write of these bytes to the app's socket succeeds. -/
  writes : Bytes → Bool
  /-- The POST of a handler's own `Data` message succeeds. -/
  posts : Bool
  /-- The relay's read half takes the app's bytes in reads of these sizes. -/
  reads : List Nat
  upload : ClientRelay.Upload

/-- A handler works on the app's socket, the connection counter and the tunnel. The last three
fields record which ids it registered, what it gave to `send_message`, and which ids it relayed. -/
structure World where
  input : Bytes
  written : Bytes
  counter : ConnId
  channels : Finset ConnId
  registered : List ConnId
  sent : List Message
  relayed : List ConnId

/-- A handler begins with an accepted connection, whatever others have registered. -/
def World.start (input : Bytes) (counter : ConnId) (channels : Finset ConnId) : World where
  input
  written := []
  counter
  channels
  registered := []
  sent := []
  relayed := []

/-- A handler that fails keeps what it has done so far. -/
abbrev HandlerM := EStateM String World

/-- `read_exact` takes the next bytes of the app's stream, and fails at its end. -/
def readExact (count : Nat) : HandlerM Bytes := fun world =>
  if count ≤ world.input.length then
    .ok (world.input.take count) { world with input := world.input.drop count }
  else .error "early eof" { world with input := [] }

/-- `write_all` writes to the app's socket. -/
def writeAll (env : Environment) (bytes : Bytes) : HandlerM Unit := fun world =>
  if env.writes bytes then .ok () { world with written := world.written ++ bytes }
  else .error "write error" world

def nextConnId : HandlerM ConnId := fun world =>
  .ok world.counter { world with counter := world.counter + 1 }

def registerConnection (connId : ConnId) : HandlerM Unit := fun world =>
  .ok () { world with
    channels := insert connId world.channels
    registered := world.registered ++ [connId] }

def unregisterConnection (connId : ConnId) : HandlerM Unit := fun world =>
  .ok () { world with channels := world.channels.erase connId }

def sendConnect (env : Environment) (message : Message) :
    HandlerM (Except String (Option Message)) := fun world =>
  .ok env.connect.returned { world with sent := world.sent ++ [message] }

def sendMessage (env : Environment) (message : Message) : HandlerM Unit := fun world =>
  if env.posts then .ok () { world with sent := world.sent ++ [message] }
  else .error "server error" { world with sent := world.sent ++ [message] }

/-- Each read takes at least one byte and at most as many as the buffer holds. -/
def chunks : List Nat → Bytes → List Bytes
  | [], _ => []
  | _ :: _, [] => []
  | size :: sizes, byte :: rest =>
      let count := min size (ClientRelay.bufferSize - 1)
      (byte :: rest.take count) :: chunks sizes (rest.drop count)

/-- The read half tells the server how the upload has ended. -/
def farewell (connId : ConnId) : ClientRelay.Upload → List Message
  | .eof => [.close connId]
  | .failed | .stopped .localFailure => [.abort connId]
  | .stopped .serverReported => []

/-- The relay forwards the rest of the app's stream and unregisters its connection at its end. -/
def relay (env : Environment) (connId : ConnId) : HandlerM Unit := fun world =>
  unregisterConnection connId { world with
    sent := world.sent ++ (chunks env.reads world.input).map (.data connId) ++
      farewell connId env.upload
    relayed := world.relayed ++ [connId] }

/-- Each handler connects its target in the same way. It refuses the app when the target cannot be
reached, and otherwise it opens the connection and relays. -/
def connectThrough (env : Environment) (host : String) (port : UInt16) (refusal : Bytes)
    (opening : ConnId → HandlerM Unit) : HandlerM Unit := do
  let connId ← nextConnId
  registerConnection connId
  match ← sendConnect env (.connect connId host port) with
  | .ok (some (.data _ [])) =>
      opening connId
      relay env connId
  -- An error, an unexpected answer, an empty body and a failed POST differ in their logs alone.
  | _ =>
      writeAll env refusal
      unregisterConnection connId

end Tunnix.Handler
