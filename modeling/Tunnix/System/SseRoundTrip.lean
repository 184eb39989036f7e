import Tunnix.Server.SseStream
import Tunnix.Client.SseLoop

namespace Tunnix.SseRoundTrip
open SseLoop
open Utf8 (Reading)

/-- Two newlines in a row are read from two newlines in a row. -/
theorem cut_reading {bytes : Bytes} {text : List Char} (reading : Reading bytes text)
    (uncut : Framing.cut 0x0A bytes = none) : Framing.cut '\n' text = none := by
  cases found : Framing.cut '\n' text with
  | none => rfl
  | some parts =>
      rw [Framing.cut_some found] at reading
      obtain ⟨before, after, rfl, -, follows⟩ := reading.unsplit 0x0A (by decide) (by decide)
      have next : Reading after ([] ++ '\n' :: parts.2) := follows
      obtain ⟨between, rest, rfl, none_, -⟩ := next.unsplit 0x0A (by decide) (by decide)
      obtain rfl := none_.nil_iff.mp rfl
      exact absurd uncut (Framing.cut_marks before rest)

/-- A whole event is read as a whole event. -/
theorem whole_reading {event : Bytes} {text : List Char} (reading : Reading event text)
    (whole : Framing.Whole 0x0A event) : Framing.Whole '\n' text := by
  have newline : Utf8.lossy [0x0A] = ['\n'] := by decide
  have longer := reading.append [0x0A]
  rw [newline] at longer
  exact cut_reading longer whole

/-- A frame is read as a frame, and what follows it by itself. -/
theorem frame_reading {event rest : Bytes} {text : List Char}
    (reading : Reading (Framing.frame 0x0A event ++ rest) text) : ∃ first second,
      text = Framing.frame '\n' first ++ second ∧ Reading event first ∧ Reading rest second := by
  rw [Framing.frame, List.append_assoc] at reading
  obtain ⟨first, later, rfl, reads, follows⟩ := reading.split 0x0A (by decide)
  have next : Reading ([] ++ 0x0A :: rest) later := follows
  obtain ⟨between, second, rfl, none_, last⟩ := next.split 0x0A (by decide)
  obtain rfl := none_.nil_iff.mpr rfl
  refine ⟨first, second, ?_, reads, last⟩
  rw [Framing.frame, List.append_assoc]
  rfl

section Encoding
variable {encoding : Encoding} (standard : encoding.Standard)
include standard

/-- A line that decodes has lost no character to a replacement. -/
theorem decodeLine_whole {line : List Char} {data : Bytes}
    (decoded : decodeLine encoding line = some data) : Utf8.replacement ∉ line := by
  obtain ⟨rest, stripped, decodes⟩ := Option.bind_eq_some_iff.mp decoded
  obtain ⟨front, rfl, same⟩ := List.dropPrefix?_eq_some_iff.mp stripped
  obtain rfl := eq_of_beq same
  rw [List.mem_append]
  rintro (inside | inside)
  · exact absurd inside (by decide)
  · have kept := Text.mem_trim inside (by decide)
    obtain ⟨byte, -, same⟩ := standard.accepts decodes kept
    have bound := byte.toNat_lt
    have large : Utf8.replacement.toNat = 0xFFFD := by decide
    rw [same, Utf8.toNat_ascii] at large
    omega

/-- The text of an encoded payload is dense ASCII. -/
theorem encoded_dense {data : Bytes} {byte : UInt8} (member : byte ∈ encoding.encodeString data) :
    byte < 0x80 ∧ byte ≠ 0x0A ∧ Text.isWhitespace (Utf8.ascii byte) = false := by
  have all : ∀ byte ∈ Base64.alphabet,
      byte < 0x80 ∧ byte ≠ 0x0A ∧ Text.isWhitespace (Utf8.ascii byte) = false := by
    rw [Base64.alphabet, Base64.symbols_eq]
    exact List.all_iff_forall_prop.mp (by decide)
  exact all byte (standard.emits member)

/-- An event of the server is ASCII without a newline. -/
theorem event_plain {output : Output} {byte : UInt8} (member : byte ∈ output.event encoding) :
    byte < 0x80 ∧ byte ≠ 0x0A := by
  cases output with
  | payload data =>
      rcases List.mem_append.mp member with front | encoded
      · have all : ∀ byte ∈ dataPrefix, byte < 0x80 ∧ byte ≠ 0x0A :=
          List.all_iff_forall_prop.mp (by decide)
        exact all byte front
      · have dense := encoded_dense standard encoded
        exact ⟨dense.1, dense.2.1⟩
  | keepalive =>
      have all : ∀ byte ∈ ":".toUTF8.data.toList, byte < 0x80 ∧ byte ≠ 0x0A :=
        List.all_iff_forall_prop.mp (by decide)
      exact all byte member

/-- An event of the server decodes to its payload. -/
theorem payloads_event (output : Output) :
    payloads encoding ((output.event encoding).map Utf8.ascii) = output.data?.toList := by
  cases output with
  | payload data =>
      have text : ((Output.payload data).event encoding).map Utf8.ascii =
          "data: ".toList ++ (encoding.encodeString data).map Utf8.ascii := by
        rw [Output.event, List.map_append]
        congr 1
      have newline : '\n' ∉ ((Output.payload data).event encoding).map Utf8.ascii := by
        intro member
        obtain ⟨byte, inside, same⟩ := List.mem_map.mp member
        have line : byte = 0x0A := Utf8.ascii_injective same
        exact (event_plain standard inside).2 line
      have dense : ∀ char ∈ (encoding.encodeString data).map Utf8.ascii,
          Text.isWhitespace char = false := by
        intro char member
        obtain ⟨byte, inside, rfl⟩ := List.mem_map.mp member
        exact (encoded_dense standard inside).2.2
      have decoded : decodeLine encoding (((Output.payload data).event encoding).map Utf8.ascii) =
          some data := by
        rw [text, decodeLine, List.dropPrefix?_append_of_beq _ (beq_self_eq_true _),
          Option.bind_some, Text.trim_eq dense]
        exact standard.inverts data
      rw [payloads, Text.lines_single newline, if_neg]
      · rw [List.filterMap_cons_some decoded]
        rfl
      · rw [text]
        exact List.append_ne_nil_of_left_ne_nil (by decide) _
  | keepalive => rfl

end Encoding

/-- The data of a foreign event does not decode, or it has no data line. -/
structure Foreign (encoding : Encoding) (event : Bytes) : Prop where
  whole : Framing.Whole 0x0A event
  silent : payloads encoding (Utf8.lossy event) = []

/-- A foreign event stays silent, however it is cut into chunks. -/
theorem Foreign.payloads {encoding : Encoding} (standard : encoding.Standard) {event : Bytes}
    (foreign : Foreign encoding event) {text : List Char} (reading : Reading event text) :
    payloads encoding text = [] := by
  have silent := foreign.silent
  unfold SseLoop.payloads at silent ⊢
  rw [List.filterMap_eq_nil_iff] at silent ⊢
  intro line member
  obtain ⟨part, reads, inside⟩ := Text.lines_reading reading member
  cases decoded : decodeLine encoding line with
  | none => rfl
  | some data =>
      have same := reads.of_whole (decodeLine_whole standard decoded)
      rw [same, silent _ inside] at decoded
      cases decoded

/-- The stream carries events of the server and foreign events. -/
inductive Entry where
  | sent (output : Output)
  | foreign (event : Bytes)
deriving DecidableEq, Repr

/-- Every event ends with two newlines. -/
def Entry.frame (encoding : Encoding) : Entry → Bytes
  | .sent output => output.frame encoding
  | .foreign event => Framing.frame 0x0A event

/-- The server writes all but the foreign events. -/
def Entry.output? : Entry → Option Output
  | .sent output => some output
  | .foreign _ => none

/-- The events are cut at their own ends, and their payloads are those of the server. -/
theorem drain_entries {encoding : Encoding} (standard : encoding.Standard) {entries : List Entry}
    (foreign : ∀ event, .foreign event ∈ entries → Foreign encoding event) {tail : Bytes}
    (uncut : Framing.cut 0x0A tail = none) {text : List Char}
    (reading : Reading (entries.flatMap (Entry.frame encoding) ++ tail) text) :
    (Framing.drain '\n' text).1.flatMap (SseLoop.payloads encoding) =
        (entries.filterMap Entry.output?).filterMap Output.data? ∧
      Reading tail (Framing.drain '\n' text).2 := by
  induction entries generalizing text with
  | nil =>
      rw [Framing.drain_none (cut_reading reading uncut)]
      exact ⟨rfl, reading⟩
  | cons entry rest ih =>
      rw [List.flatMap_cons, List.append_assoc] at reading
      have one : ∃ event, entry.frame encoding = Framing.frame 0x0A event ∧
          Framing.Whole 0x0A event ∧ ∀ text, Reading event text →
            SseLoop.payloads encoding text =
              (entry.output?.toList).filterMap Output.data? := by
        cases entry with
        | sent output =>
            refine ⟨output.event encoding, rfl, ?_, fun text reads => ?_⟩
            · apply Framing.whole_of_not_mem
              exact fun member => (event_plain standard member).2 rfl
            · rw [reads.of_ascii fun byte member => (event_plain standard member).1,
                payloads_event standard output]
              cases output <;> rfl
        | foreign event =>
            have silent := foreign event List.mem_cons_self
            exact ⟨event, rfl, silent.whole, fun text reads => silent.payloads standard reads⟩
      obtain ⟨event, same, whole, data⟩ := one
      rw [same] at reading
      obtain ⟨first, second, rfl, reads, follows⟩ := frame_reading reading
      have later := ih (fun event member => foreign event (List.mem_cons_of_mem _ member)) follows
      have found := Framing.cut_frame (whole_reading reads whole) second
      rw [Framing.drain_some found, List.flatMap_cons, data first reads, later.1]
      refine ⟨?_, later.2⟩
      rw [List.filterMap_cons, ← List.filterMap_append]
      cases entry <;> rfl

/-- However the transport cuts what `handle_stream` writes, `sse_read_loop` handles exactly the
payloads in their order, whatever foreign events are among them, and its buffer is the incomplete
frame. -/
theorem sse_round_trip {encoding : Encoding} (standard : encoding.Standard) (isReconnect : Bool)
    {polls : List Poll} {entries : List Entry}
    (written : entries.filterMap Entry.output? = handleStream polls)
    (foreign : ∀ event, .foreign event ∈ entries → Foreign encoding event)
    {next : Output} {tail : Bytes} (part : tail <+: next.frame encoding)
    (incomplete : tail ≠ next.frame encoding) {chunks : List Bytes}
    (arrives : chunks.flatten = entries.flatMap (Entry.frame encoding) ++ tail) :
    ∃ final, sseReadLoop encoding isReconnect .start (chunks.map .chunk) = (final, none) ∧
      final.handled = (handleStream polls).filterMap Output.data? ∧
      final.buffer = tail.map Utf8.ascii := by
  have whole : Framing.Whole 0x0A (next.event encoding) :=
    Framing.whole_of_not_mem fun member => (event_plain standard member).2 rfl
  have uncut : Framing.cut 0x0A tail = none := Framing.cut_partial whole part incomplete
  have reading : Reading (entries.flatMap (Entry.frame encoding) ++ tail)
      (chunks.flatMap Utf8.lossy) := ⟨chunks, arrives, rfl⟩
  have drained := drain_entries standard foreign uncut reading
  have empty : Framing.drain '\n' [] = ([], Loop.start.buffer) := Framing.drain_none rfl
  obtain ⟨final, ran, handled, buffer⟩ := chunks_handled encoding isReconnect rfl empty chunks
  rw [List.nil_append] at handled buffer
  rw [written] at drained
  refine ⟨final, ran, handled.trans drained.1, ?_⟩
  rw [buffer]
  apply drained.2.of_ascii
  intro byte member
  rcases List.mem_append.mp (part.subset member) with event | ending
  · exact (event_plain standard event).1
  · have all : ∀ byte ∈ "\n\n".toUTF8.data.toList, byte < 0x80 :=
      List.all_iff_forall_prop.mp (by decide)
    exact all byte ending

/-- A payload, an event that is not valid base64, a keepalive and the begin of another payload arrive
byte by byte. -/
theorem sse_round_trip_bytewise : ∃ final,
    sseReadLoop Encoding.base64 false .start
      (("data: AQI=\n\ndata: A*\n\n:\n\ndata: A".toUTF8.data.toList.map ([·])).map .chunk) =
        (final, none) ∧
      final.handled = [[1, 2]] ∧ final.buffer = "data: A".toList := by
  have foreign : ∀ event,
      Entry.foreign event ∈ [.sent (.payload [1, 2]), .foreign "data: A*".toUTF8.data.toList,
        .sent .keepalive] → Foreign Encoding.base64 event := by
    intro event member
    simp only [List.mem_cons, List.not_mem_nil, reduceCtorEq, or_false, false_or,
      Entry.foreign.injEq] at member
    subst member
    exact ⟨by decide +kernel, by decide +kernel⟩
  have written : [Entry.sent (.payload [1, 2]), .foreign "data: A*".toUTF8.data.toList,
      .sent .keepalive].filterMap Entry.output? =
    handleStream [.received (some [1, 2]), .tick] := by decide +kernel
  exact sse_round_trip Encoding.base64_standard false written foreign
    (show "data: A".toUTF8.data.toList <+: Output.frame Encoding.base64 (.payload [3]) by decide +kernel)
    (by decide +kernel) (by decide +kernel)

end Tunnix.SseRoundTrip
