import Tunnix.Library.Machine
import Tunnix.Sealing
import Tunnix.Server.Registry
import Tunnix.Server.Reload
import Tunnix.Server.Routing

namespace Tunnix.Endpoint
open Routing

inductive Status where
  | ok
  | movedPermanently
  | serviceUnavailable
deriving DecidableEq, Repr

/-- A body is complete, or it streams a channel that holds these payloads at first. -/
inductive Content where
  | full (bytes : Bytes)
  | events (queued : List Bytes)
deriving DecidableEq, Repr

structure Response where
  status : Status
  headers : List (String × String)
  content : Content
deriving DecidableEq, Repr

def okResponse (message : String) : Response := ⟨.ok, [], .full message.toUTF8.data.toList⟩

def serviceUnavailableResponse (message : String) : Response :=
  ⟨.serviceUnavailable, [], .full message.toUTF8.data.toList⟩

def healthResponse (hot : HotServerConfig) : Response := okResponse (hot.healthBody ++ "\n")

/-- A file that cannot be read is passed over. -/
def rootResponse (files : String → Option String) (hot : HotServerConfig) : Response :=
  match hot.rootRedirect with
  | some url => ⟨.movedPermanently, [("Location", url)], .full []⟩
  | none =>
      match hot.rootHtml.bind files with
      | some html =>
          ⟨.ok, [("Content-Type", "text/html; charset=utf-8")], .full html.toUTF8.data.toList⟩
      | none => healthResponse hot

/-- A call of `encrypt` fetches a counter and draws random bytes. -/
structure Draw where
  counter : UInt64
  random : Random
deriving DecidableEq, Repr

section Encrypt
variable {Key : Type} (aead : Aead Key)

/-- A message is encrypted under the key of an instance. An instance without a key is never made. -/
def makeEncryptedResponse (crypto : Instance String) (draw : Draw) (message : Message) :
    Option Bytes :=
  match aead.deriveKey crypto.source with
  | .ok key => (Crypto.encrypt aead.toPrimitives ⟨key, draw.counter⟩ draw.random
      (Wire.toBytes message)).1.toOption
  | .error _ => none

def encryptedResponse (crypto : Instance String) (draw : Draw) (message : Message) : Response :=
  match makeEncryptedResponse aead crypto draw message with
  | some data => ⟨.ok, [("Content-Type", "application/octet-stream")], .full data⟩
  | none => okResponse "error"

def pongResponse (crypto : Instance String) (draw : Draw) : Response :=
  match makeEncryptedResponse aead crypto draw .pong with
  | some data => ⟨.ok, [], .full data⟩
  | none => okResponse ""

def decrypt (crypto : Instance String) (body : Bytes) : Option Bytes :=
  match aead.deriveKey crypto.source with
  | .ok key => (Crypto.decrypt aead key body).toOption
  | .error _ => none

/-- The message that a body holds under the key of an instance. -/
def opens (crypto : Instance String) (body : Bytes) : Option Message :=
  (decrypt aead crypto body).bind Wire.fromBytes

end Encrypt

/-- A child process runs a program with its arguments, and `TERM` is set for it. -/
structure Command where
  program : String
  args : List String
  term : String
deriving DecidableEq, Repr

/-- `Exec` runs its command or the server's shell. -/
def command (shell cmd : Option String) (term : String) : Command where
  program :=
    match cmd with
    | some _ => "/bin/sh"
    | none => if shell.getD "" = "" then "/bin/sh" else shell.getD ""
  args :=
    match cmd with
    | some cmd => ["-c", cmd]
    | none => []
  term := if term = "" then "xterm-256color" else term

/-- The steps that prepare a terminal may fail. -/
inductive Setup where
  | ready
  | openptyFails (error : String)
  | spawnFails (error : String)
  | takeWriterFails (error : String)
deriving DecidableEq, Repr

/-- The system decides how a request goes. -/
structure World where
  target : Except String Unit
  setup : Setup
  shell : Option String
  draw : Draw

/-- The server acts on the outside for a client. A command may be started without its terminal. -/
inductive Effect where
  | connected (connId : ConnId) (host : String) (port : UInt16)
  | launched (connId : ConnId) (command : Command) (cols rows : UInt16) (attached : Bool)
  | pulled (connId : ConnId) (paths : List String) (level : Int32)
  | pushed (connId : ConnId) (path : String)
deriving DecidableEq, Repr

def Effect.connId : Effect → ConnId
  | .connected connId .. | .launched connId .. | .pulled connId .. | .pushed connId _ => connId

/-- The effect has a relay that the client is told of. -/
def Effect.attached : Effect → Bool
  | .launched _ _ _ _ attached => attached
  | .connected .. | .pulled .. | .pushed .. => true

/-- `handle_send` answers with a text or with a message. -/
inductive Reply where
  | text (text : String)
  | message (message : Message)
  | pong
deriving DecidableEq, Repr

def respond {Key : Type} (aead : Aead Key) (crypto : Instance String) (draw : Draw) :
    Reply → Response
  | .text text => okResponse text
  | .message message => encryptedResponse aead crypto draw message
  | .pong => pongResponse aead crypto draw

/-- `handle_send` acts on a message and replies to it. -/
def handle (hot : HotServerConfig) (world : World) : Message → Option Effect × Reply
  | .connect connId host port =>
      match world.target with
      | .ok _ => (some (.connected connId host port), .message (.data connId []))
      | .error error => (none, .message (.error (some connId) ("Connect failed: " ++ error)))
  | .exec connId cmd cols rows term =>
      if hot.allowExec then
        match world.setup with
        | .openptyFails error =>
            (none, .message (.error (some connId) ("openpty failed: " ++ error)))
        | .spawnFails error =>
            (none, .message (.error (some connId) ("spawn failed: " ++ error)))
        | .takeWriterFails error =>
            (some (.launched connId (command world.shell cmd term) cols rows false),
              .message (.error (some connId) ("pty writer failed: " ++ error)))
        | .ready =>
            (some (.launched connId (command world.shell cmd term) cols rows true),
              .message (.data connId []))
      else (none, .message (.error (some connId) "remote exec is disabled on this server"))
  | .pull connId paths level =>
      if hot.allowTransfer then
        (some (.pulled connId paths level), .message (.data connId []))
      else (none, .message (.error (some connId) "file transfer is disabled on this server"))
  | .push connId path =>
      if hot.allowTransfer then (some (.pushed connId path), .message (.data connId []))
      else (none, .message (.error (some connId) "file transfer is disabled on this server"))
  | .ping => (none, .pong)
  | .data .. | .close _ | .abort _ | .resize .. | .pong | .error .. | .reset | .exitStatus .. =>
      (none, .text "")

/-- A session keeps its relays. The last field records the effects, each with its request. -/
structure Session where
  registry : Registry.Session
  effects : List (Nat × Effect)

def Session.new : Session := ⟨Registry.start, []⟩

/-- A message changes the session. A relay starts with an effect that is attached. -/
def Session.apply (session : Session) (request : Nat) (effect : Option Effect) (message : Message) :
    Session where
  registry := session.registry.handleSend (effect.any Effect.attached) message
  effects := session.effects ++ (effect.map fun effect => (request, effect)).toList

/-- A request waits for its body, for its stream to be set up or for its target, or it is answered.
An answer for a session is recorded with it and with the instance that could encrypt it. -/
inductive Stage where
  | reading (sessionId : String)
  | opening (sessionId : String)
  | connecting (sessionId : String) (hot : HotServerConfig) (connId : ConnId) (host : String)
      (port : UInt16)
  | answered (handled : Option (String × Instance String)) (response : Response)

/-- The requests are numbered. A session is never removed. -/
structure State where
  watcher : ServerReload.State
  sessions : String → Option Session
  requests : Nat → Option Stage

def start (hot : HotServerConfig) : State := ⟨.start hot, fun _ => none, fun _ => none⟩

/-- A request arrives, its stream opens, its body is read or its target answers. A relay of a session
moves on. The watcher reads a version of the file. -/
inductive Action where
  | receive (request : Nat) (method : Method) (path : String) (files : String → Option String)
  | openStream (request : Nat) (sessionId : String) (draw : Draw)
  | collect (request : Nat) (sessionId : String) (body : Option Bytes) (world : World)
  | reach (request : Nat) (sessionId : String) (world : World)
  | relay (sessionId : String) (index : Nat) (action : Registry.RelayAction)
  | reload (file : Config)

/-- A request goes to the handler of its route. -/
def begin (hot : HotServerConfig) (files : String → Option String) : Route → Stage
  | .health => .answered none (healthResponse hot)
  | .root => .answered none (rootResponse files hot)
  | .stream sessionId => .opening sessionId
  | .send sessionId => .reading sessionId
  | .notFound => .answered none (okResponse "not found")

def State.place (state : State) (request : Nat) (stage : Stage) : State :=
  { state with requests := Function.update state.requests request (some stage) }

def State.keep (state : State) (sessionId : String) (session : Session) : State :=
  { state with sessions := Function.update state.sessions sessionId (some session) }

/-- An answer for a session. -/
def State.answer (state : State) (request : Nat) (sessionId : String) (crypto : Instance String)
    (response : Response) : State :=
  state.place request (.answered (some (sessionId, crypto)) response)

section State
variable (state : State) (request : Nat) (stage : Stage) (id : String) (session : Session)
  (crypto : Instance String) (response : Response)

@[simp] theorem place_sessions : (state.place request stage).sessions = state.sessions := rfl

@[simp] theorem place_watcher : (state.place request stage).watcher = state.watcher := rfl

@[simp] theorem place_self : (state.place request stage).requests request = some stage :=
  Function.update_self ..

@[simp] theorem place_of_ne {other : Nat} (apart : other ≠ request) :
    (state.place request stage).requests other = state.requests other :=
  Function.update_of_ne apart ..

@[simp] theorem keep_requests : (state.keep id session).requests = state.requests := rfl

@[simp] theorem keep_watcher : (state.keep id session).watcher = state.watcher := rfl

@[simp] theorem keep_self : (state.keep id session).sessions id = some session :=
  Function.update_self ..

@[simp] theorem keep_of_ne {other : String} (apart : other ≠ id) :
    (state.keep id session).sessions other = state.sessions other :=
  Function.update_of_ne apart ..

@[simp] theorem answer_sessions :
    (state.answer request id crypto response).sessions = state.sessions := rfl

@[simp] theorem answer_watcher :
    (state.answer request id crypto response).watcher = state.watcher := rfl

@[simp] theorem answer_self : (state.answer request id crypto response).requests request =
    some (.answered (some (id, crypto)) response) := place_self ..

@[simp] theorem answer_of_ne {other : Nat} (apart : other ≠ request) :
    (state.answer request id crypto response).requests other = state.requests other :=
  place_of_ne _ _ _ apart

end State

/-- A stream begins with a `Reset` if its session is new. -/
def streamResponse (queued : List Bytes) : Response where
  status := .ok
  headers := [("Content-Type", "text/event-stream"), ("Cache-Control", "no-cache"),
    ("Connection", "keep-alive"), ("X-Accel-Buffering", "no")]
  content := .events queued

section Step
variable {Key : Type} (aead : Aead Key)

/-- The session is created with its first stream. -/
def State.handleStream (state : State) (request : Nat) (sessionId : String) (draw : Draw) : State :=
  let crypto := state.watcher.hot.crypto
  match state.sessions sessionId with
  | some _ => state.answer request sessionId crypto (streamResponse [])
  | none => (state.keep sessionId .new).answer request sessionId crypto
      (streamResponse (makeEncryptedResponse aead crypto draw .reset).toList)

/-- A message is handled and answered. -/
def State.handleMessage (state : State) (request : Nat) (sessionId : String) (session : Session)
    (hot : HotServerConfig) (world : World) (message : Message) : State :=
  let done := handle hot world message
  (state.keep sessionId (session.apply request done.1 message)).answer request sessionId hot.crypto
    (respond aead hot.crypto world.draw done.2)

/-- `handle_send` reads its message. A `Connect` waits for its target. -/
def State.handleSend (state : State) (request : Nat) (sessionId : String) (body : Bytes)
    (world : World) : State :=
  let hot := state.watcher.hot
  match state.sessions sessionId with
  | none => state.answer request sessionId hot.crypto
      (serviceUnavailableResponse "unknown session")
  | some session =>
      match decrypt aead hot.crypto body with
      | none => state.answer request sessionId hot.crypto (okResponse "decrypt error")
      | some plaintext =>
          match Wire.fromBytes plaintext with
          | none => state.answer request sessionId hot.crypto (okResponse "deserialize error")
          | some (.connect connId host port) =>
              state.place request (.connecting sessionId hot connId host port)
          | some message => state.handleMessage aead request sessionId session hot world message

/-- The key derivation is the one of the cipher. -/
def serverEnv : Env Key := ⟨aead.toPrimitives, fun _ => true⟩

/-- The server moves by one action, or refuses one that its state does not allow. -/
def step (overrides : CliOverrides) (state : State) : Action → Option State
  | .receive request method path files =>
      match state.requests request with
      | some _ => none
      | none => some (state.place request (begin state.watcher.hot files
          (route state.watcher.hot.pathPrefix method path)))
  -- The source releases the lock of the sessions before it queues a new session's `Reset`. What
  -- others do in between is taken to come after this step.
  | .openStream request sessionId draw =>
      match state.requests request with
      | some (.opening id) =>
          if id = sessionId then some (state.handleStream aead request sessionId draw) else none
      | _ => none
  | .collect request sessionId body world =>
      match state.requests request with
      | some (.reading id) =>
          if id = sessionId then
            match body with
            | some body => some (state.handleSend aead request sessionId body world)
            | none => some (state.answer request sessionId state.watcher.hot.crypto
                (okResponse "bad request"))
          else none
      | _ => none
  | .reach request sessionId world =>
      match state.requests request, state.sessions sessionId with
      | some (.connecting id hot connId host port), some session =>
          if id = sessionId then
            some (state.handleMessage aead request sessionId session hot world
              (.connect connId host port))
          else none
      | _, _ => none
  | .relay sessionId index action =>
      match state.sessions sessionId with
      | some session =>
          (Registry.step session.registry (.relay index action)).map fun registry =>
            state.keep sessionId { session with registry }
      | none => none
  | .reload file =>
      some { state with watcher := state.watcher.reload (serverEnv aead) overrides file }

end Step

/-- A `Connect` waits for its target. -/
def Waits : Message → Prop
  | .connect .. => True
  | _ => False

/-- Each action moves the server in one of these ways. -/
inductive Move {Key : Type} (aead : Aead Key) (overrides : CliOverrides) (state : State) :
    Action → State → Prop where
  | receive {request method path files} (fresh : state.requests request = none) :
      Move aead overrides state (.receive request method path files)
        (state.place request (begin state.watcher.hot files
          (route state.watcher.hot.pathPrefix method path)))
  | streamAgain {request id draw session} (opening : state.requests request = some (.opening id))
      (known : state.sessions id = some session) :
      Move aead overrides state (.openStream request id draw)
        (state.answer request id state.watcher.hot.crypto (streamResponse []))
  | streamNew {request id draw} (opening : state.requests request = some (.opening id))
      (unknown : state.sessions id = none) :
      Move aead overrides state (.openStream request id draw)
        ((state.keep id .new).answer request id state.watcher.hot.crypto (streamResponse
          (makeEncryptedResponse aead state.watcher.hot.crypto draw .reset).toList))
  | badRequest {request id world} (reading : state.requests request = some (.reading id)) :
      Move aead overrides state (.collect request id none world)
        (state.answer request id state.watcher.hot.crypto (okResponse "bad request"))
  | turnedAway {request id body world} (reading : state.requests request = some (.reading id))
      (unknown : state.sessions id = none) :
      Move aead overrides state (.collect request id (some body) world)
        (state.answer request id state.watcher.hot.crypto
          (serviceUnavailableResponse "unknown session"))
  | unread {request id body world session text}
      (reading : state.requests request = some (.reading id))
      (known : state.sessions id = some session)
      (unread : opens aead state.watcher.hot.crypto body = none)
      (said : text = "decrypt error" ∨ text = "deserialize error") :
      Move aead overrides state (.collect request id (some body) world)
        (state.answer request id state.watcher.hot.crypto (okResponse text))
  | connects {request id body world session connId host port}
      (reading : state.requests request = some (.reading id))
      (known : state.sessions id = some session)
      (read : opens aead state.watcher.hot.crypto body = some (.connect connId host port)) :
      Move aead overrides state (.collect request id (some body) world)
        (state.place request (.connecting id state.watcher.hot connId host port))
  | handles {request id body world session message}
      (reading : state.requests request = some (.reading id))
      (known : state.sessions id = some session)
      (read : opens aead state.watcher.hot.crypto body = some message) (ready : ¬ Waits message) :
      Move aead overrides state (.collect request id (some body) world)
        (state.handleMessage aead request id session state.watcher.hot world message)
  | reaches {request id world hot connId host port session}
      (connecting : state.requests request = some (.connecting id hot connId host port))
      (known : state.sessions id = some session) :
      Move aead overrides state (.reach request id world)
        (state.handleMessage aead request id session hot world (.connect connId host port))
  | relay {id index action session registry} (known : state.sessions id = some session)
      (moved : Registry.step session.registry (.relay index action) = some registry) :
      Move aead overrides state (.relay id index action)
        (state.keep id { session with registry })
  | reload {file} :
      Move aead overrides state (.reload file)
        { state with watcher := state.watcher.reload (serverEnv aead) overrides file }

theorem step_move {Key : Type} {aead : Aead Key} {overrides : CliOverrides} {state next : State}
    {action : Action} (moved : step aead overrides state action = some next) :
    Move aead overrides state action next := by
  cases action with
  | receive request method path files =>
      simp only [step] at moved
      split at moved
      · cases moved
      · next fresh =>
          cases moved
          exact .receive fresh
  | openStream request id draw =>
      simp only [step] at moved
      split at moved
      · next opening =>
          split at moved
          · next same =>
              subst same
              cases moved
              unfold State.handleStream
              split
              · next known => exact .streamAgain opening known
              · next unknown => exact .streamNew opening unknown
          · cases moved
      · cases moved
  | collect request id body world =>
      simp only [step] at moved
      split at moved
      · next reading =>
          split at moved
          · next same =>
              subst same
              cases body with
              | none =>
                  cases moved
                  exact .badRequest reading
              | some body =>
                  cases moved
                  unfold State.handleSend
                  dsimp only
                  split
                  · next unknown => exact .turnedAway reading unknown
                  · next session known =>
                      split
                      · next sealed_ =>
                          exact .unread reading known (by simp [opens, sealed_]) (.inl rfl)
                      · next plaintext opened =>
                          split
                          · next garbled =>
                              exact .unread reading known (by simp [opens, opened, garbled])
                                (.inr rfl)
                          · next told =>
                              exact .connects reading known (by simp [opens, opened, told])
                          · next message other told =>
                              refine .handles reading known (by simp [opens, opened, told]) ?_
                              intro waits
                              cases message <;> first | exact waits | exact other _ _ _ rfl
          · cases moved
      · cases moved
  | reach request id world =>
      simp only [step] at moved
      split at moved
      · next connecting known =>
          split at moved
          · next same =>
              subst same
              cases moved
              exact .reaches connecting known
          · cases moved
      · cases moved
  | relay id index action =>
      simp only [step] at moved
      split at moved
      · next session known =>
          obtain ⟨registry, stepped, rfl⟩ := Option.map_eq_some_iff.mp moved
          exact .relay known stepped
      · cases moved
  | reload file =>
      cases moved
      exact .reload

end Tunnix.Endpoint
