import Tunnix.Encoding
import Tunnix.Library.Framing
import Tunnix.Library.Text

namespace Tunnix.SseLoop

/-- The loop keeps the text that it has not cut into events yet. The last field records the payloads
that it has passed to `handle_sse_message`. -/
structure Loop where
  buffer : List Char
  signaledReady : Bool
  progress : Bool
  handled : List Bytes
deriving DecidableEq, Repr

def Loop.start : Loop := ⟨[], false, false, []⟩

/-- A data line yields its payload unless its text does not decode. -/
def decodeLine (encoding : Encoding) (line : List Char) : Option Bytes :=
  (line.dropPrefix? "data: ".toList).bind fun data => encoding.decodeVec (Text.trim data)

/-- These payloads are decoded from the lines of an event. -/
def payloads (encoding : Encoding) (event : List Char) : List Bytes :=
  (Text.lines event).filterMap (decodeLine encoding)

/-- Each payload is handled, and `sse_ready` fires at the first event with data, or on a reconnect
at the first event. -/
def Loop.event (encoding : Encoding) (isReconnect : Bool) (loop : Loop) (event : List Char) : Loop :=
  let hadData := !(payloads encoding event).isEmpty
  { loop with
    handled := loop.handled ++ payloads encoding event
    signaledReady :=
      if hadData && !loop.signaledReady then true
      else if isReconnect && !loop.signaledReady then true
      else loop.signaledReady }

/-- The loop cuts the buffer as long as it finds two newlines in a row. -/
def Loop.drain (encoding : Encoding) (isReconnect : Bool) (loop : Loop) : Loop :=
  match found : Framing.cut '\n' loop.buffer with
  | none => loop
  | some (event, rest) =>
      have := Framing.cut_shorter found
      ({ loop with buffer := rest }.event encoding isReconnect event).drain encoding isReconnect
termination_by loop.buffer.length

/-- The text of a chunk is appended to the buffer. -/
def Loop.chunk (encoding : Encoding) (isReconnect : Bool) (loop : Loop) (bytes : Bytes) : Loop :=
  { loop with progress := true, buffer := loop.buffer ++ Utf8.lossy bytes }.drain encoding isReconnect

/-- `select!` yields a chunk, an error of the transport, the end of the stream, a timeout, or a
reconnect signal. -/
inductive Read where
  | chunk (bytes : Bytes)
  | failed (error : String)
  | ended
  | silent
  | reconnect
deriving DecidableEq, Repr

/-- `sse_read_loop` goes on until its stream ends or fails. -/
def sseReadLoop (encoding : Encoding) (isReconnect : Bool) (loop : Loop) :
    List Read → Loop × Option (Except String Unit)
  | [] => (loop, none)
  | .chunk bytes :: rest =>
      sseReadLoop encoding isReconnect (loop.chunk encoding isReconnect bytes) rest
  | .failed error :: _ => (loop, some (.error error))
  | .ended :: _ => (loop, some (.ok ()))
  | .silent :: _ => (loop, some (.error "no data on the SSE stream for 30s"))
  | .reconnect :: _ => (loop, some (.error "forced reconnect"))

section Drain
variable (encoding : Encoding) (isReconnect : Bool)

/-- The loop handles the payloads of all complete events and keeps the rest. -/
theorem drain_handled (loop : Loop) :
    (loop.drain encoding isReconnect).handled = loop.handled ++
      (Framing.drain '\n' loop.buffer).1.flatMap (payloads encoding) ∧
    (loop.drain encoding isReconnect).buffer = (Framing.drain '\n' loop.buffer).2 := by
  fun_induction Loop.drain encoding isReconnect loop with
  | case1 loop uncut =>
      rw [Framing.drain_none uncut]
      exact ⟨(List.append_nil _).symm, rfl⟩
  | case2 loop event rest found shorter ih =>
      rw [Framing.drain_some found, ih.1, ih.2]
      refine ⟨?_, rfl⟩
      change (loop.handled ++ payloads encoding event) ++ _ = _
      rw [List.append_assoc]
      rfl

/-- The text of a chunk completes some events. -/
theorem chunk_handled (loop : Loop) (bytes : Bytes) :
    (loop.chunk encoding isReconnect bytes).handled = loop.handled ++
      (Framing.drain '\n' (loop.buffer ++ Utf8.lossy bytes)).1.flatMap (payloads encoding) ∧
    (loop.chunk encoding isReconnect bytes).buffer =
      (Framing.drain '\n' (loop.buffer ++ Utf8.lossy bytes)).2 :=
  drain_handled encoding isReconnect _

/-- A sequence of chunks is drained like its whole text. -/
theorem chunks_handled {text : List Char} {events : List (List Char)} {loop : Loop}
    (handled : loop.handled = events.flatMap (payloads encoding))
    (drained : Framing.drain '\n' text = (events, loop.buffer)) (chunks : List Bytes) :
    ∃ final, sseReadLoop encoding isReconnect loop (chunks.map .chunk) = (final, none) ∧
      final.handled =
        (Framing.drain '\n' (text ++ chunks.flatMap Utf8.lossy)).1.flatMap (payloads encoding) ∧
      final.buffer = (Framing.drain '\n' (text ++ chunks.flatMap Utf8.lossy)).2 := by
  induction chunks generalizing loop text events with
  | nil =>
      rw [List.flatMap_nil, List.append_nil, drained]
      exact ⟨loop, rfl, handled, rfl⟩
  | cons bytes rest ih =>
      obtain ⟨more, stays⟩ := chunk_handled encoding isReconnect loop bytes
      have split : Framing.drain '\n' (text ++ Utf8.lossy bytes) = _ := Framing.drain_append text _
      rw [drained, ← stays] at split
      rw [List.flatMap_cons, ← List.append_assoc]
      refine ih ?_ split
      rw [more, handled, List.flatMap_append]

end Drain

end Tunnix.SseLoop
