import Tunnix.Library.Table
import Tunnix.Server.TcpCalm
import Tunnix.Server.PtyRelay
import Tunnix.Server.PushRelay
import Mathlib.Logic.Function.Basic

namespace Tunnix.Registry

/-- Three kinds of relay register a writer. -/
inductive Body where
  | tcp (state : TcpRelay.State)
  | pty (state : PtyRelay.State)
  | push (state : PushRelay.State)
deriving DecidableEq

/-- A relay takes the steps of its own kind. -/
inductive RelayAction where
  | tcp (action : TcpRelay.Action)
  | pty (action : PtyRelay.Action)
  | push (action : PushRelay.Action)
deriving DecidableEq, Repr

/-- A step removes entries of its `conn_id` from the session's maps. -/
inductive Removal where
  | nothing
  | writer
  | both
deriving DecidableEq, Repr

def Removal.keepsWriter : Removal → Bool
  | .nothing => true
  | .writer | .both => false

def Removal.keepsAbort : Removal → Bool
  | .nothing | .writer => true
  | .both => false

namespace Body

/-- The session's `tcp_writers` holds the relay's sender. -/
def registered : Body → Bool
  | .tcp state => state.registered
  | .pty state => state.registered
  | .push state => state.registered

/-- The session's `aborts` holds the relay's signal. -/
def abortable : Body → Bool
  | .tcp state => state.abortable
  | .pty _ | .push _ => false

def finished : Body → Bool
  | .tcp state => state.finished
  | .pty state => state.main = .finished ∨ state.main = .panicked
  | .push state => state.main = .finished

def panicked : Body → Bool
  | .pty state => state.main = .panicked
  | .tcp _ | .push _ => false

def isTcp : Body → Bool
  | .tcp _ => true
  | .pty _ | .push _ => false

/-- The maps lose the relay's entries. -/
def release (removal : Removal) : Body → Body
  | .tcp state => .tcp { state with
      registered := state.registered && removal.keepsWriter
      abortable := state.abortable && removal.keepsAbort }
  | .pty state => .pty { state with registered := state.registered && removal.keepsWriter }
  | .push state => .push { state with registered := state.registered && removal.keepsWriter }

/-- The sender in the map takes a chunk. What a PTY's writer takes is not modelled. -/
def handleData (data : Bytes) : Body → Body
  | .tcp state => .tcp ((TcpRelay.step state (.handleData data)).getD state)
  | .pty state => .pty state
  | .push state => .push ((PushRelay.step state (.handleData data)).getD state)

def handleClose : Body → Body
  | .tcp state => .tcp ((TcpRelay.step state .handleClose).getD state)
  | .pty state => .pty ((PtyRelay.step state .handleClose).getD state)
  | .push state => .push ((PushRelay.step state .handleClose).getD state)

def handleAbort : Body → Body
  | .tcp state => .tcp ((TcpRelay.step state .handleAbort).getD state)
  | .pty state => .pty ((PtyRelay.step state .handleAbort).getD state)
  | .push state => .push ((PushRelay.step state .handleAbort).getD state)

def handleResize (size : PtyRelay.PtySize) : Body → Body
  | .pty state => .pty ((PtyRelay.step state (.handleResize size)).getD state)
  | .tcp state => .tcp state
  | .push state => .push state

/-- The steps of a relay's own tasks are those that `handle_send` and other relays do not take. -/
def step : Body → RelayAction → Option Body
  | .tcp state, .tcp action =>
      match action with
      | .handleData _ | .handleClose | .handleAbort | .loseWriter | .loseAbort => none
      | action => (TcpRelay.step state action).map .tcp
  | .pty state, .pty action =>
      match action with
      | .handleClose | .handleAbort | .handleResize _ => none
      | action => (PtyRelay.step state action).map .pty
  | .push state, .push action =>
      match action with
      | .handleData _ | .handleClose | .handleAbort => none
      | action => (PushRelay.step state action).map .push
  | _, _ => none

/-- These steps remove their relay's `conn_id` from the maps. -/
def removes : Body → RelayAction → Removal
  | .tcp state, .tcp .settle => if state.read = .ended .eof then .nothing else .writer
  | _, .tcp .releaseUnsent | _, .tcp .releaseFailed => .writer
  | _, .tcp .cleanup => .both
  | _, .pty (.setupFails _) | _, .pty .cleanup => .writer
  | _, .push .forceEof | _, .push .release => .writer
  | _, _ => .nothing

end Body

/-- A step of a TCP relay shows that a socket, a delivery or the client has failed. -/
def RelayAction.disturbs : RelayAction → Bool
  | .tcp (.failureReported ok) => !ok
  | .tcp action => !action.quiet
  | .pty _ | .push _ => false

/-- The last field records whether a `Close` or an `Abort` was processed for the relay, or one of
its own steps has disturbed it. -/
structure Relay where
  connId : ConnId
  body : Body
  disturbed : Bool
deriving DecidableEq

/-- A session maps each `conn_id` to the relay whose sender or signal it holds. The relays are
numbered in the order in which they start. -/
structure Session where
  tcpWriters : ConnId → Option Nat
  aborts : ConnId → Option Nat
  relays : List Relay

def start : Session := ⟨fun _ => none, fun _ => none, []⟩

/-- `handle_send` processes a message, and a start message may start its relay. A relay moves on. -/
inductive Action where
  | handle (message : Message) (starts : Bool)
  | relay (index : Nat) (action : RelayAction)
deriving DecidableEq, Repr

/-- Entries of one `conn_id` are removed, and the relays of this `conn_id` change. -/
def Session.change (session : Session) (connId : ConnId) (removal : Removal)
    (change : Relay → Relay) : Session where
  tcpWriters := if removal.keepsWriter then session.tcpWriters
    else Function.update session.tcpWriters connId none
  aborts := if removal.keepsAbort then session.aborts
    else Function.update session.aborts connId none
  relays := session.relays.map fun relay =>
    if relay.connId = connId then change relay else relay

def Relay.release (removal : Removal) (relay : Relay) : Relay :=
  { relay with body := relay.body.release removal }

/-- A start inserts the entries of its relay over those that the `conn_id` had before. -/
def Session.insert (session : Session) (connId : ConnId) (body : Body) : Session :=
  let removal : Removal := if body.isTcp then .both else .writer
  let before := session.change connId removal (Relay.release removal)
  { tcpWriters := Function.update before.tcpWriters connId (some session.relays.length)
    aborts := if body.isTcp then Function.update before.aborts connId (some session.relays.length)
      else before.aborts
    relays := before.relays ++ [⟨connId, body, false⟩] }

/-- A relay changes on its own. -/
def Session.put (session : Session) (index : Nat) (body : Body) (disturbed : Bool) : Session :=
  { session with relays := session.relays.modify index fun relay =>
      { relay with body, disturbed := relay.disturbed || disturbed } }

/-- A message changes the session. A target that cannot be reached, a denied request and a command
that cannot be started start no relay. -/
def Session.handleSend (session : Session) (starts : Bool) : Message → Session
  | .connect connId _ _ =>
      if starts then session.insert connId (.tcp TcpRelay.start) else session
  | .exec connId .. => if starts then session.insert connId (.pty PtyRelay.start) else session
  | .push connId _ => if starts then session.insert connId (.push PushRelay.start) else session
  | .data connId data =>
      match session.tcpWriters connId with
      | some index => { session with relays := session.relays.modify index fun relay =>
          { relay with body := relay.body.handleData data } }
      | none => session
  | .close connId => session.change connId .writer fun relay =>
      { relay with body := relay.body.handleClose, disturbed := true }
  | .abort connId => session.change connId .both fun relay =>
      { relay with body := relay.body.handleAbort, disturbed := true }
  | .resize connId cols rows => session.change connId .nothing fun relay =>
      { relay with body := relay.body.handleResize ⟨rows, cols⟩ }
  | .pull .. | .ping | .pong | .error .. | .reset | .exitStatus .. => session

/-- The session moves by one action, or refuses one that its state does not allow. -/
def step (session : Session) : Action → Option Session
  | .handle message starts => some (session.handleSend starts message)
  | .relay index action =>
      match session.relays[index]? with
      | none => none
      | some relay =>
          (relay.body.step action).map fun body =>
            (session.change relay.connId (relay.body.removes action)
              (Relay.release (relay.body.removes action))).put index body action.disturbs

/-- A message or a step of a relay concerns one `conn_id`. -/
def Session.subject (session : Session) : Action → Option ConnId
  | .handle message _ => message.connId?
  | .relay index _ => session.relays[index]?.map Relay.connId

/-- A message starts a relay for this `conn_id`. -/
def Action.starts : Action → Option ConnId
  | .handle (.connect connId _ _) true | .handle (.exec connId ..) true
  | .handle (.push connId _) true => some connId
  | _ => none

/-- No two relays are started for one `conn_id`, and no relay panics. -/
def Admitted (session : Session) (action : Action) : Prop :=
  (∀ connId ∈ action.starts, ∀ relay ∈ session.relays, relay.connId ≠ connId) ∧
    ∀ next ∈ step session action, ∀ relay ∈ next.relays, relay.body.panicked = false

/-- The maps hold the entries of unfinished relays and no others. -/
structure Exact (session : Session) : Prop where
  unfinished : ∀ key index,
    session.tcpWriters key = some index ∨ session.aborts key = some index →
      ∃ relay, session.relays[index]? = some relay ∧ relay.connId = key ∧
        relay.body.finished = false
  present : ∀ (index : Nat) (relay : Relay), session.relays[index]? = some relay →
    relay.body.isTcp = true → relay.body.finished = false → relay.disturbed = false →
      session.tcpWriters relay.connId = some index ∧ session.aborts relay.connId = some index
  apart : ∀ action next key, step session action = some next →
    session.subject action ≠ some key →
      next.tcpWriters key = session.tcpWriters key ∧ next.aborts key = session.aborts key
  emptied : (∀ relay ∈ session.relays, relay.body.finished = true) →
    ∀ key, session.tcpWriters key = none ∧ session.aborts key = none

end Tunnix.Registry
