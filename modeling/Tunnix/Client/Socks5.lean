import Tunnix.Client.Handler

namespace Tunnix.Socks5
open Handler

def socks5Version : UInt8 := 0x05
def socks5AuthNone : UInt8 := 0x00
def socks5CmdConnect : UInt8 := 0x01
def socks5AtypIpv4 : UInt8 := 0x01
def socks5AtypDomain : UInt8 := 0x03
def socks5AtypIpv6 : UInt8 := 0x04
def socks5RepSuccess : UInt8 := 0x00
def socks5RepGeneralFailure : UInt8 := 0x01
def socks5RepCmdNotSupported : UInt8 := 0x07

/-- A reply carries the address 0.0.0.0 and the port 0. -/
def reply (code : UInt8) : Bytes :=
  [socks5Version, code, 0x00, socks5AtypIpv4, 0, 0, 0, 0, 0, 0]

/-- An IPv4 address is written in four decimals. -/
def ipv4 (addr : Bytes) : String :=
  ".".intercalate (addr.map fun byte => toString byte.toNat)

/-- A byte has two lower-case hexadecimal digits. -/
def hex (byte : UInt8) : String :=
  String.ofList [Nat.digitChar (byte.toNat / 16), Nat.digitChar (byte.toNat % 16)]

/-- An IPv6 address is written in groups of two bytes. -/
def groups : Bytes → List String
  | first :: second :: rest => (hex first ++ hex second) :: groups rest
  | [byte] => [hex byte]
  | [] => []

def ipv6 (addr : Bytes) : String := ":".intercalate (groups addr)

/-- The destination address follows its type. -/
def readHost (atyp : UInt8) : HandlerM String := do
  if atyp = socks5AtypIpv4 then
    let addr ← readExact 4
    pure (ipv4 addr)
  else if atyp = socks5AtypDomain then
    let len ← readExact 1
    let domain ← readExact (len.headD 0).toNat
    match Utf8.decode domain with
    | some chars => pure (String.ofList chars)
    | none => throw "invalid utf-8 sequence"
  else if atyp = socks5AtypIpv6 then
    let addr ← readExact 16
    pure (ipv6 addr)
  else throw ("Unsupported address type: " ++ toString atyp)

/-- A request that misses a condition is refused. -/
def demand (condition : Prop) [Decidable condition] (refuse : HandlerM Unit) : HandlerM Unit :=
  if condition then pure () else refuse

/-- The handshake accepts no authentication and one `CONNECT` request. -/
def handshake (env : Environment) : HandlerM (String × UInt16) := do
  let head ← readExact 2
  demand (head.getD 0 0 = socks5Version)
    (throw ("Not SOCKS5 protocol (got version " ++ toString (head.getD 0 0) ++ ")"))
  let methods ← readExact (head.getD 1 0).toNat
  demand (socks5AuthNone ∈ methods) do
    writeAll env [socks5Version, 0xFF]
    throw "No acceptable auth method"
  writeAll env [socks5Version, socks5AuthNone]
  let request ← readExact 4
  demand (request.getD 0 0 = socks5Version) (throw "Invalid SOCKS5 request version")
  demand (request.getD 1 0 = socks5CmdConnect) do
    writeAll env (reply socks5RepCmdNotSupported)
    throw ("Unsupported SOCKS5 command: " ++ toString (request.getD 1 0))
  let host ← readHost (request.getD 3 0)
  let port ← readExact 2
  pure (host, (port.getD 0 0).toUInt16 * 256 + (port.getD 1 0).toUInt16)

/-- The app learns of success only after the acknowledgement. -/
def handleSocks5Client (env : Environment) : HandlerM Unit := do
  let (host, port) ← handshake env
  connectThrough env host port (reply socks5RepGeneralFailure) fun _ =>
    writeAll env (reply socks5RepSuccess)

end Tunnix.Socks5
