import Tunnix.Client.Handler

namespace Tunnix.HttpProxy
open Handler

/-- The UTF-8 bytes of a text. -/
def utf8 (text : String) : Bytes := text.toUTF8.data.toList

/-- The text of some bytes. -/
def text (bytes : Bytes) : String := String.ofList (Utf8.lossy bytes)

def crlf : Bytes := utf8 "\r\n"

/-- The headers end at the first blank line. -/
def readHeader : Bytes → Bytes → Except String (Bytes × Bytes)
  | _, [] => .error "early eof"
  | header, byte :: rest =>
      if (crlf ++ crlf).isSuffixOf (header ++ [byte]) then .ok (header ++ [byte], rest)
      else if 16384 < (header ++ [byte]).length then .error "HTTP headers too large"
      else readHeader (header ++ [byte]) rest

/-- A cut splits at the first separator, if there is one. -/
def cut (separator : UInt8) : Bytes → Bytes × Option Bytes
  | [] => ([], none)
  | byte :: rest =>
      if byte = separator then ([], some rest)
      else (byte :: (cut separator rest).1, (cut separator rest).2)

/-- `rsplit_once` splits at the last separator. -/
def rsplitOnce (separator : UInt8) (bytes : Bytes) : Option (Bytes × Bytes) :=
  match cut separator bytes.reverse with
  | (last, some first) => some (first.reverse, last.reverse)
  | (_, none) => none

/-- `split` yields the lines between the line ends. -/
def splitLines : Bytes → List Bytes
  | [] => [[]]
  | 13 :: 10 :: rest => [] :: splitLines rest
  | byte :: rest =>
      match splitLines rest with
      | [] => [[byte]]
      | line :: lines => (byte :: line) :: lines

/-- A decimal digit has a value. -/
def digit? (byte : UInt8) : Option Nat :=
  if 0x30 ≤ byte ∧ byte ≤ 0x39 then some (byte.toNat - 0x30) else none

/-- Digits extend a value that has to fit into 16 bits. -/
def parseDigits : Nat → Bytes → Option Nat
  | value, [] => some value
  | value, byte :: rest =>
      match digit? byte with
      | some digit =>
          if value * 10 + digit < 65536 then parseDigits (value * 10 + digit) rest else none
      | none => none

/-- `parse::<u16>` takes a decimal number that may begin with a plus sign. -/
def parseU16 (bytes : Bytes) : Option UInt16 :=
  let digits := if bytes.head? = some 0x2B then bytes.tail else bytes
  if digits = [] then none else (parseDigits 0 digits).map UInt16.ofNat

/-- A `CONNECT` authority has the port 443 unless it names one. -/
def parseAuthority (authority : Bytes) : Except String (Bytes × UInt16) :=
  match rsplitOnce 0x3A authority with
  | some (host, port) =>
      match parseU16 port with
      | some port => .ok (host, port)
      | none => .error ("Invalid port in CONNECT authority: " ++ text port)
  | none => .ok (authority, 443)

/-- `strip_prefix` removes a text from the front. -/
def stripPrefix (front bytes : Bytes) : Option Bytes :=
  if front.isPrefixOf bytes then some (bytes.drop front.length) else none

/-- The scheme decides the port of a URI that names none. -/
def parseScheme (uri : Bytes) : UInt16 × Bytes :=
  match stripPrefix (utf8 "https://") uri with
  | some rest => (443, rest)
  | none =>
      match stripPrefix (utf8 "http://") uri with
      | some rest => (80, rest)
      | none => (80, uri)

/-- A URI names a host, a port and a path. -/
def parseHttpUri (uri : Bytes) : Except String (Bytes × UInt16 × Bytes) :=
  let (defaultPort, withoutScheme) := parseScheme uri
  let (authority, path) := match cut 0x2F withoutScheme with
    | (authority, some rest) => (authority, 0x2F :: rest)
    | (authority, none) => (authority, utf8 "/")
  match rsplitOnce 0x3A authority with
  | some (host, port) =>
      match parseU16 port with
      | some port => .ok (host, port, path)
      | none => .error ("Invalid port in URI: " ++ text port)
  | none => .ok (authority, defaultPort, path)

/-- `eq_ignore_ascii_case` compares letters without their case. -/
def lower (byte : UInt8) : UInt8 := if 0x41 ≤ byte ∧ byte ≤ 0x5A then byte + 0x20 else byte

def badGateway : Bytes := utf8 "HTTP/1.1 502 Bad Gateway\r\n\r\n"

def established : Bytes := utf8 "HTTP/1.1 200 Connection Established\r\n\r\n"

def handleConnect (env : Environment) (authority : Bytes) : HandlerM Unit := do
  let (host, port) ← MonadExcept.ofExcept (parseAuthority authority)
  connectThrough env (text host) port badGateway fun _ => writeAll env established

/-- The rewritten request is the first data of its connection. -/
def rewritten (method path version headers : Bytes) : Bytes :=
  method ++ [0x20] ++ path ++ [0x20] ++ version ++ crlf ++ headers ++ crlf

def handlePlainHttp (env : Environment) (method uri version headers : Bytes) : HandlerM Unit := do
  let (host, port, path) ← MonadExcept.ofExcept (parseHttpUri uri)
  connectThrough env (text host) port badGateway fun connId =>
    sendMessage env (.data connId (rewritten method path version headers))

/-- A request line has a method, a URI and a version. -/
structure RequestLine where
  method : Bytes
  uri : Bytes
  version : Bytes
deriving DecidableEq, Repr

/-- The version may be missing. -/
def parseRequestLine (line : Bytes) : Except String RequestLine :=
  match cut 0x20 line with
  | (_, none) => .error "Missing HTTP URI"
  | (method, some rest) =>
      match cut 0x20 rest with
      | (uri, some version) => .ok ⟨method, uri, version⟩
      | (uri, none) => .ok ⟨method, uri, utf8 "HTTP/1.1"⟩

/-- The header block has a request line and some header lines. -/
def parseHeader (header : Bytes) : Except String (RequestLine × Bytes) :=
  if Utf8.valid header then
    match splitLines header with
    | [] => .error "Empty HTTP request"
    | line :: lines =>
        match parseRequestLine line with
        | .ok request => .ok (request, (lines.filter (· ≠ [])).flatMap (· ++ crlf))
        | .error error => .error error
  else .error "Non-UTF-8 in HTTP headers"

def handleHttpProxyClient (env : Environment) : HandlerM Unit := do
  let world ← get
  let (header, rest) ← MonadExcept.ofExcept (readHeader [] world.input)
  set { world with input := rest }
  let (request, headers) ← MonadExcept.ofExcept (parseHeader header)
  if request.method.map lower = (utf8 "CONNECT").map lower then
    handleConnect env request.uri
  else
    handlePlainHttp env request.method request.uri request.version headers

end Tunnix.HttpProxy
