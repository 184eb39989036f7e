import Tunnix.Encoding

namespace Tunnix

/-- The stream that `handle_stream` unfolds yields the session's payloads and keepalive comments. -/
inductive Output where
  | payload (data : Bytes)
  | keepalive
deriving DecidableEq, Repr

/-- `data: ` begins the line of a payload. -/
def dataPrefix : Bytes := "data: ".toUTF8.data.toList

/-- The text of an event ends before its two newlines. -/
def Output.event (encoding : Encoding) : Output → Bytes
  | .payload data => dataPrefix ++ encoding.encodeString data
  | .keepalive => ":".toUTF8.data.toList

/-- Each poll of the stream writes one frame. -/
def Output.frame (encoding : Encoding) (output : Output) : Bytes :=
  output.event encoding ++ "\n\n".toUTF8.data.toList

/-- Only a payload frame carries data. -/
def Output.data? : Output → Option Bytes
  | .payload data => some data
  | .keepalive => none

/-- The session's channel yields a payload or its end, and the timer yields a tick. -/
inductive Poll where
  | received (data : Option Bytes)
  | tick
deriving DecidableEq, Repr

/-- The stream ends with the channel. -/
def handleStream : List Poll → List Output
  | [] => []
  | .received (some data) :: rest => .payload data :: handleStream rest
  | .received none :: _ => []
  | .tick :: rest => .keepalive :: handleStream rest

end Tunnix
