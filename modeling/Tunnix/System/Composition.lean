import Tunnix.Library.Source
import Tunnix.Client.Relay
import Tunnix.Server.TcpRelay

namespace Tunnix.Composition

/-- The client's read half has one POST on its way, held by the server's handler, or answered. -/
inductive Post where
  | idle
  | sent (message : Message)
  | handled
  | answered
deriving DecidableEq, Repr

/-- The state joins both relays of one connection, what the app and the target send, the one
POST of the read half, and how many of the queued messages the client has dispatched. -/
structure State where
  client : ClientRelay.State
  server : TcpRelay.State
  app : Source
  target : Source
  post : Post
  dispatched : Nat
deriving DecidableEq

/-- Both relays start after the server has acknowledged the `Connect`. -/
def start : State where
  client := ClientRelay.start
  server := TcpRelay.start
  app := .fresh
  target := .fresh
  post := .idle
  dispatched := 0

/-- The app and the target send and close, the relays move, and messages travel. -/
inductive Action where
  | appSends (bytes : Bytes)
  | appCloses
  | targetSends (bytes : Bytes)
  | targetCloses
  | client (action : ClientRelay.Action)
  | server (action : TcpRelay.Action)
  | arrive
  | arriveAbort
  | dispatch
deriving DecidableEq, Repr

/-- These actions of the client's relay are enabled while no POST and no socket call fails. -/
def State.permitsClient (state : State) : ClientRelay.Action → Bool
  | .readApp chunk => chunk.isPrefixOf state.app.left
  | .readEof => state.app.left.isEmpty && state.app.closed
  | .sent true | .closed true => state.post = .answered
  | .readStop | .takeEvent | .takeUpload | .writeSome _ | .shutdown true | .finish => true
  | .event _ | .dropChannel | .readError | .sent false | .closed false | .writeFails
  | .shutdown false => false

/-- These actions of the server's relay are enabled while no socket call and no delivery fails
and no watchdog fires. -/
def State.permitsServer (state : State) : TcpRelay.Action → Bool
  | .readTarget chunk => chunk.isPrefixOf state.target.left
  | .readEof => state.target.left.isEmpty && state.target.closed
  | .enqueue index => index = 0 && state.post = .handled
  | .takeAbort | .delivered true | .settle | .reported true | .releaseUnsent | .takeData
  | .writeSome _ | .releaseFailed | .failureReported true | .cleanup => true
  | .handleData _ | .forget _ | .handleClose | .handleAbort | .loseWriter | .loseAbort
  | .readFails _ | .clientLost | .delivered false | .reported false | .watchdog | .writeFails _
  | .failureReported false => false

/-- A read from the app is posted, and an answered POST is done. -/
def State.afterClient (state : State) (connId : ConnId) (action : ClientRelay.Action)
    (client : ClientRelay.State) : State :=
  match action with
  | .readApp chunk =>
      { state with client, app := state.app.take chunk, post := .sent (.data connId chunk) }
  | .readEof => { state with client, post := .sent (.close connId) }
  | .sent _ | .closed _ => { state with client, post := .idle }
  | _ => { state with client }

/-- A read from the target takes its bytes, and an admitted chunk answers its POST. -/
def State.afterServer (state : State) (action : TcpRelay.Action) (server : TcpRelay.State) :
    State :=
  match action with
  | .readTarget chunk => { state with server, target := state.target.take chunk }
  | .enqueue _ => { state with server, post := .answered }
  | _ => { state with server }

/-- `handle_send` holds a `Data` until the writer takes it and answers a `Close` at once. -/
def State.handle (state : State) : Message → Option State
  | .data _ data =>
      (TcpRelay.step state.server (.handleData data)).map fun server =>
        { state with server, post := if state.server.registered then .handled else .answered }
  | .close _ =>
      (TcpRelay.step state.server .handleClose).map fun server =>
        { state with server, post := .answered }
  | _ => none

/-- The dispatch loop hands a message to a registered connection and ignores any other. -/
def State.dispatch (state : State) (connId : ConnId) (message : Message) : Option State :=
  match message.event connId with
  | some event =>
      if state.client.registered then
        (ClientRelay.step connId state.client (.event event)).map fun client =>
          { state with client, dispatched := state.dispatched + 1 }
      else some { state with dispatched := state.dispatched + 1 }
  | none => some { state with dispatched := state.dispatched + 1 }

/-- The composition moves by one action, or refuses one that its state does not allow. -/
def step (connId : ConnId) (state : State) : Action → Option State
  | .appSends bytes =>
      if state.app.closed then none else some { state with app := state.app.write bytes }
  | .appCloses => some { state with app := state.app.close }
  | .targetSends bytes =>
      if state.target.closed then none else some { state with target := state.target.write bytes }
  | .targetCloses => some { state with target := state.target.close }
  | .client action =>
      if state.permitsClient action then
        (ClientRelay.step connId state.client action).map (state.afterClient connId action)
      else none
  | .server action =>
      if state.permitsServer action then
        (TcpRelay.step state.server action).map (state.afterServer action)
      else none
  | .arrive =>
      match state.post with
      | .sent message => state.handle message
      | _ => none
  -- The detached task posts an `Abort` whenever the read half has spawned it.
  | .arriveAbort =>
      if .abort connId ∈ state.client.posts then
        (TcpRelay.step state.server .handleAbort).map fun server => { state with server }
      else none
  | .dispatch =>
      match state.server.queued[state.dispatched]? with
      | some report => state.dispatch connId (report.message connId)
      | none => none

end Tunnix.Composition
