import Tunnix.Sealing
import Tunnix.System.SseRoundTrip

namespace Tunnix.SealedStream
open SseLoop SseRoundTrip
variable {Key : Type}

/-- A payload carries a message that was sealed under the client's key, or the client cannot open
it. -/
inductive Carries (aead : Aead Key) (key : Key) : Bytes → Option Message → Prop
  | message {data message} : Wire.AllocatedMessage message → Sealed aead key message data →
      Carries aead key data (some message)
  | foreign {data} : openMessage aead key data = none → Carries aead key data none

/-- The client opens what payloads carry. -/
theorem open_carried {aead : Aead Key} (correct : aead.Correct) {key : Key} {payloads : List Bytes}
    {messages : List (Option Message)}
    (carried : List.Forall₂ (Carries aead key) payloads messages) :
    payloads.filterMap (openMessage aead key) = messages.filterMap id := by
  induction carried with
  | nil => rfl
  | cons first _ ih =>
      cases first with
      | message allocated done =>
          rw [List.filterMap_cons_some (open_sealed correct allocated done),
            List.filterMap_cons_some (f := id) rfl, ih]
      | foreign unopened =>
          rw [List.filterMap_cons_none unopened, List.filterMap_cons_none (f := id) rfl, ih]

/-- However the transport cuts the stream, and whatever keepalives, foreign events and payloads under
other keys are among its frames, the client opens exactly the messages that were sealed under its key,
in the order in which the server has queued them. -/
theorem sealed_stream {aead : Aead Key} (correct : aead.Correct) {encoding : Encoding}
    (standard : encoding.Standard) (key : Key) (isReconnect : Bool) {polls : List Poll}
    {messages : List (Option Message)}
    (carried : List.Forall₂ (Carries aead key) ((handleStream polls).filterMap Output.data?) messages)
    {entries : List Entry} (written : entries.filterMap Entry.output? = handleStream polls)
    (foreign : ∀ event, .foreign event ∈ entries → Foreign encoding event)
    {next : Output} {tail : Bytes} (part : tail <+: next.frame encoding)
    (incomplete : tail ≠ next.frame encoding) {chunks : List Bytes}
    (arrives : chunks.flatten = entries.flatMap (Entry.frame encoding) ++ tail) :
    ∃ final, sseReadLoop encoding isReconnect .start (chunks.map .chunk) = (final, none) ∧
      final.handled.filterMap (openMessage aead key) = messages.filterMap id := by
  have whole : Framing.Whole 0x0A (next.event encoding) :=
    Framing.whole_of_not_mem fun member => (event_plain standard member).2 rfl
  have uncut : Framing.cut 0x0A tail = none := Framing.cut_partial whole part incomplete
  have reading : Utf8.Reading (entries.flatMap (Entry.frame encoding) ++ tail)
      (chunks.flatMap Utf8.lossy) := ⟨chunks, arrives, rfl⟩
  have drained := (drain_entries standard foreign uncut reading).1
  have empty : Framing.drain '\n' [] = ([], Loop.start.buffer) := Framing.drain_none rfl
  obtain ⟨final, ran, handled, -⟩ := chunks_handled encoding isReconnect rfl empty chunks
  refine ⟨final, ran, ?_⟩
  rw [List.nil_append, drained, written] at handled
  rw [handled, open_carried correct carried]

/-- A `Close` under the client's key, a keepalive and a `Reset` under another key arrive byte by
byte. -/
theorem sealed_stream_of_two_keys : ∃ final,
    sseReadLoop Encoding.base64 false .start
      (((Output.frame Encoding.base64 (.payload (marked 5 (.close 7))) ++
        (Output.frame Encoding.base64 .keepalive ++
          Output.frame Encoding.base64 (.payload (marked 6 .reset)))).map ([·])).map .chunk) =
        (final, none) ∧
      final.handled.filterMap (openMessage marking 5) = [.close 7] := by
  have carried : List.Forall₂ (Carries marking 5)
      ((handleStream [.received (some (marked 5 (.close 7))), .tick,
        .received (some (marked 6 .reset))]).filterMap Output.data?) [some (.close 7), none] :=
    .cons (.message trivial (marked_sealed 5 _)) (.cons (.foreign (by decide +kernel)) .nil)
  have written : [Entry.sent (.payload (marked 5 (.close 7))), .sent .keepalive,
      .sent (.payload (marked 6 .reset))].filterMap Entry.output? =
    handleStream [.received (some (marked 5 (.close 7))), .tick,
      .received (some (marked 6 .reset))] := rfl
  have foreign : ∀ event, Entry.foreign event ∈ [Entry.sent (.payload (marked 5 (.close 7))),
      .sent .keepalive, .sent (.payload (marked 6 .reset))] → Foreign Encoding.base64 event := by
    simp
  exact sealed_stream marking_correct Encoding.base64_standard 5 false carried written foreign
    (show [] <+: Output.frame Encoding.base64 .keepalive from List.nil_prefix) (by decide +kernel)
    (by decide +kernel)

end Tunnix.SealedStream
