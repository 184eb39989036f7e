import Mathlib.Data.List.Basic
import Mathlib.Tactic.Simps.Basic

/-- A connected socket shows its peer a byte stream that ends by FIN, by RST or not at all. -/
structure Socket where
  written : List UInt8
  fin : Bool
  reset : Bool
  broken : Bool
deriving DecidableEq, Repr

namespace Socket

/-- A fresh connection has sent nothing. -/
def fresh : Socket := ⟨[], false, false, false⟩

/-- The kernel accepts bytes until the write direction is shut or the connection breaks. -/
def writable (socket : Socket) : Bool := !socket.fin && !socket.broken

/-- The kernel has taken these bytes. -/
@[simps] def accept (socket : Socket) (bytes : List UInt8) : Socket :=
  { socket with written := socket.written ++ bytes }

/-- Shutting the write direction sends one FIN on a connection that still stands. -/
@[simps] def shutdown (socket : Socket) : Socket :=
  { socket with fin := socket.fin || !socket.broken }

/-- A close with zero linger sends RST. -/
@[simps] def abort (socket : Socket) : Socket := { socket with reset := true }

/-- A failed write shows that the connection no longer stands. -/
@[simps] def fail (socket : Socket) : Socket := { socket with broken := true }

end Socket
