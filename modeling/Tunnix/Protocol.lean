import Mathlib.Data.List.Basic

namespace Tunnix

/-- Every `conn_id` is a `u32`. -/
abbrev ConnId := UInt32

/-- A session id is a random `u64`. -/
abbrev SessionId := UInt64

abbrev Bytes := List UInt8

/-- These are the messages between client and server, in their wire order. -/
inductive Message where
  | connect (connId : ConnId) (host : String) (port : UInt16)
  | data (connId : ConnId) (data : Bytes)
  | close (connId : ConnId)
  | ping
  | pong
  | error (connId : Option ConnId) (message : String)
  | reset
  | exec (connId : ConnId) (cmd : Option String) (cols rows : UInt16) (term : String)
  | resize (connId : ConnId) (cols rows : UInt16)
  | exitStatus (connId : ConnId) (code : Int32)
  | pull (connId : ConnId) (paths : List String) (level : Int32)
  | push (connId : ConnId) (path : String)
  | abort (connId : ConnId)
deriving DecidableEq, Repr

/-- These are the events that the client's dispatch loop hands to one connection. -/
inductive TunnelEvent where
  | data (bytes : Bytes)
  | close
  | error (message : String)
  | exit (code : Int32)
deriving DecidableEq, Repr

/-- Most messages concern one `conn_id`. -/
def Message.connId? : Message → Option ConnId
  | .connect connId .. | .data connId _ | .close connId | .exec connId .. | .resize connId ..
  | .exitStatus connId _ | .pull connId .. | .push connId _ | .abort connId => some connId
  | .error connId _ => connId
  | .ping | .pong | .reset => none

/-- A connection sees exactly the messages that `handle_sse_message` dispatches to it. -/
def Message.event (connId : ConnId) : Message → Option TunnelEvent
  | .data id bytes => if id = connId then some (.data bytes) else none
  | .close id => if id = connId then some .close else none
  | .error (some id) message => if id = connId then some (.error message) else none
  | .exitStatus id code => if id = connId then some (.exit code) else none
  | _ => none

/-- Each event reaches its connection in one message. -/
def TunnelEvent.message (connId : ConnId) : TunnelEvent → Message
  | .data bytes => .data connId bytes
  | .close => .close connId
  | .error message => .error (some connId) message
  | .exit code => .exitStatus connId code

@[simp] theorem TunnelEvent.message_event (connId : ConnId) (event : TunnelEvent) :
    (event.message connId).event connId = some event := by
  cases event <;> exact if_pos rfl

/-- One message is the only one that carries an event to its connection. -/
theorem message_of_event {connId : ConnId} {message : Message} {event : TunnelEvent}
    (own : message.event connId = some event) : message = event.message connId := by
  unfold Message.event at own
  split at own
  case h_5 => cases own
  all_goals
    rw [Option.ite_none_right_eq_some, Option.some.injEq] at own
    obtain ⟨rfl, rfl⟩ := own
    rfl

/-- Only a `Data` event carries a chunk. -/
def TunnelEvent.data? : TunnelEvent → Option Bytes
  | .data bytes => some bytes
  | .close | .error _ | .exit _ => none

/-- These chunks are carried by an event sequence. -/
def datas (events : List TunnelEvent) : List Bytes := events.filterMap TunnelEvent.data?

@[simp] theorem datas_nil : datas [] = [] := rfl

@[simp] theorem datas_append (first second : List TunnelEvent) :
    datas (first ++ second) = datas first ++ datas second := List.filterMap_append

@[simp] theorem datas_data (chunk : Bytes) : datas [.data chunk] = [chunk] := rfl

theorem datas_silent {event : TunnelEvent} (silent : event.data? = none) : datas [event] = [] := by
  rw [datas, List.filterMap_cons_none silent, List.filterMap_nil]

/-- Only a `Data` event carries payload bytes. -/
def TunnelEvent.bytes : TunnelEvent → Bytes
  | .data bytes => bytes
  | _ => []

/-- The payload of an event sequence is the concatenation of its `Data` events. -/
def payload (events : List TunnelEvent) : Bytes := events.flatMap TunnelEvent.bytes

@[simp] theorem payload_nil : payload [] = [] := rfl

@[simp] theorem payload_append (first second : List TunnelEvent) :
    payload (first ++ second) = payload first ++ payload second := List.flatMap_append

@[simp] theorem payload_singleton (event : TunnelEvent) : payload [event] = event.bytes := by
  simp [payload]

/-- The payload is the concatenation of the chunks. -/
theorem payload_datas (events : List TunnelEvent) : payload events = (datas events).flatten := by
  induction events with
  | nil => rfl
  | cons event rest ih =>
      unfold payload datas at ih ⊢
      rw [List.flatMap_cons, List.filterMap_cons, ih]
      cases event <;> rfl

/-- The payload of `Data` events alone is the concatenation of their bytes. -/
theorem payload_data (datas : List Bytes) : payload (datas.map .data) = datas.flatten := by
  induction datas with
  | nil => rfl
  | cons bytes rest ih =>
      unfold payload at ih ⊢
      rw [List.map_cons, List.flatMap_cons, ih]
      rfl

/-- These events precede the first `Close`. -/
def beforeClose : List TunnelEvent → List TunnelEvent
  | [] => []
  | .close :: _ => []
  | event :: rest => event :: beforeClose rest

theorem beforeClose_of_not_mem {events : List TunnelEvent} (unclosed : .close ∉ events) :
    beforeClose events = events := by
  induction events with
  | nil => rfl
  | cons event rest ih =>
      rw [List.mem_cons, not_or] at unclosed
      cases event with
      | close => exact absurd rfl unclosed.1
      | data | error | exit => rw [beforeClose, ih unclosed.2]; simp

/-- An event that is no `Close` adds none. -/
theorem unclosed_append {events : List TunnelEvent} {event : TunnelEvent}
    (unclosed : .close ∉ events) (other : event ≠ .close) : .close ∉ events ++ [event] := by
  rw [List.mem_append, List.mem_singleton]
  exact not_or.mpr ⟨unclosed, other.symm⟩

/-- The events before the first `Close` come first. -/
theorem prefix_beforeClose (events : List TunnelEvent) : beforeClose events <+: events := by
  induction events with
  | nil => exact List.prefix_refl _
  | cons event rest ih =>
      cases event with
      | close => exact List.nil_prefix
      | data | error | exit => exact List.cons_prefix_cons.mpr ⟨rfl, ih⟩

/-- Later events do not change what precedes the first `Close`. -/
theorem beforeClose_append {first : List TunnelEvent} (closed : .close ∈ first)
    (second : List TunnelEvent) : beforeClose (first ++ second) = beforeClose first := by
  induction first with
  | nil => cases closed
  | cons event rest ih =>
      cases event with
      | close => rfl
      | data | error | exit =>
          have later : .close ∈ rest := by simpa using closed
          simp [beforeClose, ih later]

theorem beforeClose_append_close {first : List TunnelEvent} (unclosed : .close ∉ first) :
    beforeClose (first ++ [.close]) = first := by
  induction first with
  | nil => rfl
  | cons event rest ih =>
      rw [List.mem_cons, not_or] at unclosed
      cases event with
      | close => exact absurd rfl unclosed.1
      | data | error | exit => simp [beforeClose, ih unclosed.2]

/-- A call of `send_message` awaits its first POST, waits for the stream, awaits its one retry,
or has returned. -/
inductive SendMessage where
  | posting (retry : Bool)
  | waiting
  | returned (ok : Bool)
deriving DecidableEq, Repr

/-- Any failure of the first POST leads to the retry, and a failed retry is an error. -/
def SendMessage.answer (retry : Bool) : Bool → SendMessage
  | true => .returned true
  | false => if retry then .returned false else .waiting

end Tunnix
