import Tunnix.Library.Machine
import Tunnix.Library.Table
import Tunnix.Protocol
import Mathlib.Data.List.Nodup
import Mathlib.Data.List.Perm.Basic
import Mathlib.Logic.Function.Basic
import Mathlib.Tactic.Simps.Basic

namespace Tunnix.OneRelay

/-- These four messages start a relay. -/
inductive Kind where
  | connect
  | exec
  | push
  | pull
deriving DecidableEq, Repr

/-- A client process draws its ids from one counter and posts to one session at a time. -/
structure Client where
  counter : ConnId
  session : SessionId
deriving DecidableEq, Repr

/-- A call of `send_message` posts one start message at most twice. -/
structure Call where
  client : Nat
  connId : ConnId
  kind : Kind
  progress : SendMessage
deriving DecidableEq, Repr

/-- A POST carries the start message of one call. -/
structure Request where
  call : Nat
  session : SessionId
deriving DecidableEq, Repr

/-- A PTY relay sets itself up, waits in its loop and leaves it. -/
inductive Stage where
  | setup
  | looping
  | leaving
  | cleaned
deriving DecidableEq, Repr

/-- Only a PTY relay has a setup that can fail. -/
def Kind.stage : Kind → Stage
  | .exec => .setup
  | .connect | .push | .pull => .looping

/-- A relay task belongs to one `conn_id` of one session. -/
structure Task where
  call : Nat
  session : SessionId
  connId : ConnId
  kind : Kind
  stage : Stage
  live : Bool
deriving DecidableEq, Repr

/-- A relay cleans up once, and a pull relay never. A PTY relay cleans up after a failed setup or
after its loop. -/
def Task.cleans (task : Task) : Bool :=
  match task.kind, task.stage with
  | _, .cleaned | .pull, _ | .exec, .looping => false
  | _, _ => true

/-- A relay ends after its cleanup. A pull relay has none, and a PTY relay whose write task ends its
loop awaits that task twice and panics before its own. -/
def Task.ends (task : Task) : Bool :=
  match task.kind, task.stage with
  | _, .cleaned | .pull, _ | .exec, .looping => true
  | _, _ => false

/-- Each entry of a session belongs to the relay task that was started last for its key. -/
structure Session where
  tcpWriters : ConnId → Option Nat
  aborts : ConnId → Option Nat
  ptyResize : ConnId → Option Nat

namespace Session

/-- A new session has no entries. -/
def empty : Session := ⟨fun _ => none, fun _ => none, fun _ => none⟩

/-- A start registers what its relay needs. -/
def insert (session : Session) (connId : ConnId) (task : Nat) : Kind → Session
  | .connect => { session with
      tcpWriters := Function.update session.tcpWriters connId (some task)
      aborts := Function.update session.aborts connId (some task) }
  | .exec => { session with
      tcpWriters := Function.update session.tcpWriters connId (some task)
      ptyResize := Function.update session.ptyResize connId (some task) }
  | .push => { session with
      tcpWriters := Function.update session.tcpWriters connId (some task) }
  | .pull => session

/-- A cleanup removes the same entries by their key alone. -/
def remove (session : Session) (connId : ConnId) : Kind → Session
  | .connect => { session with
      tcpWriters := Function.update session.tcpWriters connId none
      aborts := Function.update session.aborts connId none }
  | .exec => { session with
      tcpWriters := Function.update session.tcpWriters connId none
      ptyResize := Function.update session.ptyResize connId none }
  | .push => { session with
      tcpWriters := Function.update session.tcpWriters connId none }
  | .pull => session

/-- These tasks own the entries that a cleanup removes. -/
def owners (session : Session) (connId : ConnId) : Kind → List Nat
  | .connect => (session.tcpWriters connId).toList ++ (session.aborts connId).toList
  | .exec => (session.tcpWriters connId).toList ++ (session.ptyResize connId).toList
  | .push => (session.tcpWriters connId).toList
  | .pull => []

/-- One of the three entries of the key belongs to the task. -/
def Holds (session : Session) (connId : ConnId) (task : Nat) : Prop :=
  session.tcpWriters connId = some task ∨ session.aborts connId = some task ∨
    session.ptyResize connId = some task

end Session

/-- The state joins the clients, their start calls and POSTs, and the server. The last three fields
record who drew a session id, for which calls a command was launched, and which live tasks lost an
entry to another relay. -/
structure State where
  clients : List Client
  calls : List Call
  requests : List Request
  /-- These POSTs are served by a handler that waits for the lock of its session. -/
  handlers : List Request
  sessions : SessionId → Option Session
  tasks : List Task
  owner : SessionId → Option Nat
  launches : List Nat
  wrongful : List Nat

/-- A run begins without clients and sessions. -/
def start : State where
  clients := []
  calls := []
  requests := []
  handlers := []
  sessions _ := none
  tasks := []
  owner _ := none
  launches := []
  wrongful := []

/-- The first group of actions belongs to the clients and their POSTs, the last one to the
server, its sessions and its relay tasks. -/
inductive Action where
  | newClient (session : SessionId)
  | rotate (client : Nat) (session : SessionId)
  | issue (client : Nat) (kind : Kind)
  | answer (call : Nat) (ok : Bool)
  | resume (call : Nat)
  | loseRequest (index : Nat)
  | arrive (index : Nat) (serves : Bool)
  | register (index : Nat)
  | dropHandler (index : Nat)
  | openStream (session : SessionId)
  | restart
  | close (session : SessionId) (connId : ConnId)
  | abort (session : SessionId) (connId : ConnId)
  | removeWriter (task : Nat)
  | setUp (task : Nat)
  | leave (task : Nat)
  | cleanup (task : Nat)
  | finish (task : Nat)
deriving DecidableEq, Repr

/-- A call has not returned to its connection handler. -/
def outstanding : SendMessage → Bool
  | .posting _ | .waiting => true
  | .returned _ => false

/-- The call's progress changes. -/
def State.proceed (state : State) (index : Nat) (progress : SendMessage) : State :=
  { state with calls := state.calls.modify index fun call => { call with progress } }

/-- One session changes its entries. -/
def State.withSession (state : State) (id : SessionId) (session : Session) : State :=
  { state with sessions := Function.update state.sessions id (some session) }

/-- A handler launches its command before it waits for the lock of its session. -/
def State.serve (state : State) (request : Request) (kind : Kind) : State :=
  { state with
    handlers := state.handlers ++ [request]
    launches := if kind = .exec then state.launches ++ [request.call] else state.launches }

/-- A start inserts the entries of a new task and spawns it. -/
def State.spawn (state : State) (request : Request) (call : Call) (session : Session) : State :=
  { state.withSession request.session
      (session.insert call.connId state.tasks.length call.kind) with
    tasks := state.tasks ++
      [⟨request.call, request.session, call.connId, call.kind, call.kind.stage, true⟩] }

/-- One task reaches another stage. -/
def State.enter (state : State) (index : Nat) (stage : Stage) : State :=
  { state with tasks := state.tasks.modify index fun task => { task with stage } }

/-- A live task other than the given one is hit by the removal of its entry. -/
def State.hit (state : State) (index other : Nat) : Bool :=
  other ≠ index && (state.tasks[other]?).any Task.live

/-- A task removes entries of its own key, whoever owns them. -/
def State.removeEntries (state : State) (index : Nat) (task : Task) (kind : Kind) : State :=
  match state.sessions task.session with
  | none => state
  | some session =>
      { state.withSession task.session (session.remove task.connId kind) with
        wrongful := state.wrongful ++ (session.owners task.connId kind).filter (state.hit index) }

/-- The world moves by one action, or refuses one that its state does not allow. -/
def step (state : State) : Action → Option State
  | .newClient session => some { state with
      clients := state.clients ++ [⟨1, session⟩]
      owner := Function.update state.owner session (some state.clients.length) }
  | .rotate client session =>
      if client < state.clients.length then
        some { state with
          clients := state.clients.modify client fun before => { before with session }
          owner := Function.update state.owner session (some client) }
      else none
  | .issue client kind =>
      match state.clients[client]? with
      | some ⟨counter, session⟩ => some { state with
          clients := state.clients.modify client fun before =>
            { before with counter := counter + 1 }
          calls := state.calls ++ [⟨client, counter, kind, .posting false⟩]
          requests := state.requests ++ [⟨state.calls.length, session⟩] }
      | none => none
  | .answer index ok =>
      match state.calls[index]? with
      | some ⟨_, _, _, .posting retry⟩ =>
          some (state.proceed index (SendMessage.answer retry ok))
      | _ => none
  | .resume index =>
      match state.calls[index]? with
      | some ⟨client, _, _, .waiting⟩ =>
          (state.clients[client]?).map fun client =>
            { state.proceed index (.posting true) with
              requests := state.requests ++ [⟨index, client.session⟩] }
      | _ => none
  | .loseRequest index => some { state with requests := state.requests.eraseIdx index }
  -- A POST is refused for an unknown session, a body that does not decrypt, a denied request, and a
  -- target or a command that cannot be started.
  | .arrive index serves =>
      match state.requests[index]? with
      | none => none
      | some request =>
          let taken := { state with requests := state.requests.eraseIdx index }
          match state.sessions request.session, state.calls[request.call]?, serves with
          | some _, some call, true => some (taken.serve request call.kind)
          | _, _, _ => some taken
  | .register index =>
      match state.handlers[index]? with
      | none => none
      | some request =>
          match state.sessions request.session, state.calls[request.call]? with
          | some session, some call =>
              some ({ state with handlers := state.handlers.eraseIdx index }.spawn
                request call session)
          | _, _ => none
  -- `take_writer` fails, or the handler is dropped with its connection. A launched command runs on
  -- without a relay.
  | .dropHandler index => some { state with handlers := state.handlers.eraseIdx index }
  | .openStream id => some (state.withSession id ((state.sessions id).getD .empty))
  | .restart => some { state with
      handlers := []
      sessions := fun _ => none
      tasks := state.tasks.map fun task => { task with live := false } }
  | .close id connId =>
      (state.sessions id).map fun session => state.withSession id (session.remove connId .push)
  | .abort id connId =>
      (state.sessions id).map fun session => state.withSession id (session.remove connId .connect)
  | .removeWriter index =>
      match state.tasks[index]? with
      | some task =>
          if task.live = true ∧ (task.kind = .connect ∨ task.kind = .push) then
            some (state.removeEntries index task .push)
          else none
      | none => none
  | .setUp index =>
      match state.tasks[index]? with
      | some task =>
          if task.live = true ∧ task.stage = .setup then some (state.enter index .looping) else none
      | none => none
  -- The command has exited, or the stream has been closed for too long.
  | .leave index =>
      match state.tasks[index]? with
      | some task =>
          if task.live = true ∧ task.kind = .exec ∧ task.stage = .looping then
            some (state.enter index .leaving)
          else none
      | none => none
  | .cleanup index =>
      match state.tasks[index]? with
      | some task =>
          if task.live = true ∧ task.cleans = true then
            some ((state.removeEntries index task task.kind).enter index .cleaned)
          else none
      | none => none
  | .finish index =>
      match state.tasks[index]? with
      | some task =>
          if task.live = true ∧ task.ends = true then
            some { state with
              tasks := state.tasks.modify index fun task => { task with live := false } }
          else none
      | none => none

/-- A call can still start a relay, or its relay lives. -/
def Active (state : State) (index : Nat) (call : Call) : Prop :=
  outstanding call.progress = true ∨
    (∃ request ∈ state.requests ++ state.handlers, request.call = index) ∨
    ∃ task ∈ state.tasks, task.call = index ∧ task.live = true

/-- A command was launched for the call, a handler serves one of its POSTs, or its relay was
started. -/
def Served (state : State) (index : Nat) : Prop :=
  index ∈ state.launches ∨ (∃ request ∈ state.handlers, request.call = index) ∨
    ∃ task ∈ state.tasks, task.call = index

instance (state : State) (index : Nat) : Decidable (Served state index) :=
  inferInstanceAs (Decidable (_ ∨ _ ∨ _))

/-- No second POST of a served call is served, every drawn `conn_id` differs from those of the
client's active calls, and every drawn session id is new. -/
def Fresh (state : State) : Action → Prop
  | .newClient session | .rotate _ session => state.owner session = none
  | .issue client _ => ∀ drawn, state.clients[client]? = some drawn →
      ∀ index call, state.calls[index]? = some call → Active state index call →
        call.client = client → call.connId ≠ drawn.counter
  | .arrive index true => ∀ request, state.requests[index]? = some request →
      ¬ Served state request.call
  | _ => True

/-- Each key has at most one live relay, each start message starts at most one relay and launches at
most one command, and no cleanup takes an entry from another live relay. -/
structure OneLiveRelay (state : State) : Prop where
  single : ∀ (i j : Nat) (task other : Task), state.tasks[i]? = some task →
    state.tasks[j]? = some other → task.live = true → other.live = true →
    task.session = other.session → task.connId = other.connId → i = j
  once : ∀ (i j : Nat) (task other : Task), state.tasks[i]? = some task →
    state.tasks[j]? = some other → task.call = other.call → i = j
  launched : state.launches.Nodup
  intact : state.wrongful = []

namespace Session
variable {session : Session} {connId key : ConnId} {task index : Nat} {kind : Kind}

theorem not_holds_empty : ¬ empty.Holds connId task := by
  simp [Holds, empty]

/-- A removal leaves no entry that was not there before. -/
theorem holds_of_remove (held : (session.remove connId kind).Holds key task) :
    session.Holds key task := by
  unfold Holds at held ⊢
  by_cases same : key = connId
  · subst same
    cases kind <;> simp [remove] at held ⊢ <;> tauto
  · cases kind <;> simpa [remove, same] using held

/-- An entry after a start is the entry of the new task or an entry that was there before. -/
theorem holds_of_insert (held : (session.insert connId task kind).Holds key index) :
    session.Holds key index ∨ key = connId ∧ index = task := by
  unfold Holds at held ⊢
  by_cases same : key = connId
  · subst same
    cases kind <;> simp [insert] at held ⊢ <;> grind
  · left
    cases kind <;> simpa [insert, same] using held

/-- A cleanup takes only entries of its key. -/
theorem holds_of_owners (owned : task ∈ session.owners connId kind) :
    session.Holds connId task := by
  unfold Holds
  cases kind <;> simp [owners] at owned <;> tauto

end Session

/-- The owners of session ids tie clients, POSTs and tasks together, an active call shares its id
with no other active call of its client, each call has one handler or one task, and every entry
belongs to a task of its key. -/
structure Inv (state : State) : Prop where
  clients : ∀ (i : Nat) (client : Client), state.clients[i]? = some client →
    state.owner client.session = some i
  requests : ∀ request ∈ state.requests ++ state.handlers, ∃ call, state.calls[request.call]? = some call ∧
    state.owner request.session = some call.client
  tasks : ∀ (i : Nat) (task : Task), state.tasks[i]? = some task →
    ∃ call, state.calls[task.call]? = some call ∧ call.connId = task.connId ∧
      state.owner task.session = some call.client
  distinct : ∀ (i j : Nat) (call other : Call), state.calls[i]? = some call →
    state.calls[j]? = some other → Active state i call → Active state j other →
    call.client = other.client → call.connId = other.connId → i = j
  begun : (state.handlers.map Request.call ++ state.tasks.map Task.call).Nodup
  launched : state.launches.Nodup
  entries : ∀ (id : SessionId) (session : Session), state.sessions id = some session →
    ∀ (connId : ConnId) (index : Nat), session.Holds connId index →
      ∃ task, state.tasks[index]? = some task ∧ task.session = id ∧ task.connId = connId
  intact : state.wrongful = []

theorem Inv.start : Inv start where
  clients := by simp [OneRelay.start]
  requests := by simp [OneRelay.start]
  tasks := by simp [OneRelay.start]
  distinct := by simp [OneRelay.start]
  begun := by simp [OneRelay.start]
  launched := List.nodup_nil
  entries := by simp [OneRelay.start]
  intact := rfl

/-- Two relays of one call are the same relay. -/
theorem Inv.once {state : State} (inv : Inv state) {i j : Nat} {task other : Task}
    (first : state.tasks[i]? = some task) (second : state.tasks[j]? = some other)
    (call : task.call = other.call) : i = j := by
  have nodup : (state.tasks.map Task.call).Nodup := (List.nodup_append.mp inv.begun).2.1
  have inside : i < (state.tasks.map Task.call).length := by
    rw [List.length_map]
    exact (List.getElem?_eq_some_iff.mp first).1
  apply (List.getElem?_inj inside nodup).mp
  simp [first, second, call]

/-- Two live relays of one key are the same relay. -/
theorem Inv.single {state : State} (inv : Inv state) {i j : Nat} {task other : Task}
    (first : state.tasks[i]? = some task) (second : state.tasks[j]? = some other)
    (live : task.live = true) (alive : other.live = true)
    (session : task.session = other.session) (connId : task.connId = other.connId) : i = j := by
  obtain ⟨call, called, named, owned⟩ := inv.tasks i task first
  obtain ⟨second', called', named', owned'⟩ := inv.tasks j other second
  have client : call.client = second'.client := by
    rw [session, owned', Option.some.injEq] at owned
    exact owned.symm
  have active : Active state task.call call :=
    .inr (.inr ⟨task, List.mem_of_getElem? first, rfl, live⟩)
  have active' : Active state other.call second' :=
    .inr (.inr ⟨other, List.mem_of_getElem? second, rfl, alive⟩)
  have same := inv.distinct task.call other.call call second' called called' active active' client
    (by rw [named, named', connId])
  exact inv.once first second same

/-- The invariant contains the promises. -/
theorem Inv.oneLiveRelay {state : State} (inv : Inv state) : OneLiveRelay state where
  single _ _ _ _ := inv.single
  once _ _ _ _ := inv.once
  launched := inv.launched
  intact := inv.intact

/-- A step that serves no POST, starts no relay and issues no call keeps owners, calls and tasks
apart from their progress, and adds at most a POST of an outstanding call. -/
structure Keeps (state next : State) : Prop where
  clients : ∀ (i : Nat) (client : Client), next.clients[i]? = some client →
    next.owner client.session = some i
  owner : ∀ session client, state.owner session = some client → next.owner session = some client
  requests : ∀ request ∈ next.requests ++ next.handlers,
    request ∈ state.requests ++ state.handlers ∨
    ∃ call, state.calls[request.call]? = some call ∧ outstanding call.progress = true ∧
      next.owner request.session = some call.client
  calls : ∀ (i : Nat) (call : Call), state.calls[i]? = some call →
    ∃ after, next.calls[i]? = some after ∧ after.client = call.client ∧ after.connId = call.connId
  called : ∀ (i : Nat) (call : Call), next.calls[i]? = some call →
    ∃ before, state.calls[i]? = some before ∧ before.client = call.client ∧
      before.connId = call.connId ∧
      (outstanding call.progress = true → outstanding before.progress = true)
  tasks : ∀ (i : Nat) (task : Task), state.tasks[i]? = some task →
    ∃ after, next.tasks[i]? = some after ∧ after.session = task.session ∧
      after.connId = task.connId
  started : ∀ (i : Nat) (task : Task), next.tasks[i]? = some task →
    ∃ before, state.tasks[i]? = some before ∧ before.call = task.call ∧
      before.session = task.session ∧ before.connId = task.connId ∧
      (task.live = true → before.live = true)
  begun : List.Sublist (next.handlers.map Request.call ++ next.tasks.map Task.call)
    (state.handlers.map Request.call ++ state.tasks.map Task.call)
  launched : next.launches = state.launches
  entries : ∀ (id : SessionId) (session : Session), next.sessions id = some session →
    ∀ (connId : ConnId) (index : Nat), session.Holds connId index →
      ∃ before, state.sessions id = some before ∧ before.Holds connId index
  intact : next.wrongful = state.wrongful

section Keeps
variable {state next : State}

/-- A call that is active afterwards was active before. -/
theorem Keeps.active (keeps : Keeps state next) {i : Nat} {call before : Call}
    (was : state.calls[i]? = some before)
    (outstanding_of : outstanding call.progress = true → outstanding before.progress = true)
    (active : Active next i call) : Active state i before := by
  rcases active with outstanding | ⟨request, posted, same⟩ | ⟨task, member, same, live⟩
  · exact .inl (outstanding_of outstanding)
  · rcases keeps.requests request posted with old | ⟨call, found, outstanding, -⟩
    · exact .inr (.inl ⟨request, old, same⟩)
    · rw [same, was, Option.some.injEq] at found
      exact .inl (found ▸ outstanding)
  · obtain ⟨j, found⟩ := List.mem_iff_getElem?.mp member
    obtain ⟨task', found', same', -, -, live'⟩ := keeps.started j task found
    exact .inr (.inr ⟨task', List.mem_of_getElem? found', same'.trans same, live' live⟩)

/-- The invariant survives such a step. -/
theorem Inv.keep (inv : Inv state) (keeps : Keeps state next) : Inv next where
  clients := keeps.clients
  requests := by
    intro request posted
    rcases keeps.requests request posted with old | ⟨call, found, -, owned⟩
    · obtain ⟨call, found, owned⟩ := inv.requests request old
      obtain ⟨after, found', client, -⟩ := keeps.calls request.call call found
      exact ⟨after, found', client ▸ keeps.owner _ _ owned⟩
    · obtain ⟨after, found', client, -⟩ := keeps.calls request.call call found
      exact ⟨after, found', client ▸ owned⟩
  tasks := by
    intro i task found
    obtain ⟨before, was, same, session, connId, -⟩ := keeps.started i task found
    obtain ⟨call, called, named, owned⟩ := inv.tasks i before was
    obtain ⟨after, called', client, named'⟩ := keeps.calls before.call call called
    refine ⟨after, same ▸ called', ?_, ?_⟩
    · rw [named', named, connId]
    · rw [client, ← session]
      exact keeps.owner _ _ owned
  distinct := by
    intro i j call other first second active active' client connId
    obtain ⟨before, was, client', connId', progress⟩ := keeps.called i call first
    obtain ⟨before', was', client'', connId'', progress'⟩ := keeps.called j other second
    apply inv.distinct i j before before' was was'
    · exact keeps.active was progress active
    · exact keeps.active was' progress' active'
    · rw [client', client'', client]
    · rw [connId', connId'', connId]
  begun := inv.begun.sublist keeps.begun
  launched := keeps.launched ▸ inv.launched
  entries := by
    intro id session found connId index holds
    obtain ⟨before, was, held⟩ := keeps.entries id session found connId index holds
    obtain ⟨task, started, here, key⟩ := inv.entries id before was connId index held
    obtain ⟨after, started', here', key'⟩ := keeps.tasks index task started
    exact ⟨after, started', here'.trans here, key'.trans key⟩
  intact := keeps.intact.trans inv.intact

/-- A step that changes nothing keeps everything. -/
theorem Keeps.refl (inv : Inv state) : Keeps state state where
  clients := inv.clients
  owner _ _ owned := owned
  requests _ posted := .inl posted
  calls _ call found := ⟨call, found, rfl, rfl⟩
  called _ call found := ⟨call, found, rfl, rfl, id⟩
  tasks _ task found := ⟨task, found, rfl, rfl⟩
  started _ task found := ⟨task, found, rfl, rfl, rfl, id⟩
  begun := List.Sublist.refl _
  launched := rfl
  entries _ session found _ _ held := ⟨session, found, held⟩
  intact := rfl

/-- The progress of an outstanding call may change. -/
theorem Keeps.proceed (inv : Inv state) {index : Nat} {call : Call}
    (found : state.calls[index]? = some call) (waits : outstanding call.progress = true)
    (progress : SendMessage) : Keeps state (state.proceed index progress) :=
  { Keeps.refl inv with
    calls := by
      intro i call found
      by_cases same : index = i
      · subst same
        exact ⟨_, Table.modify_self found, rfl, rfl⟩
      · exact ⟨call, (List.getElem?_modify_ne _ _ same).trans found, rfl, rfl⟩
    called := by
      intro i after found'
      rcases Table.modify_cases found' with ⟨before, was, rfl, rfl⟩ | ⟨was, -⟩
      · rw [found, Option.some.injEq] at was
        exact ⟨before, was ▸ found, rfl, rfl, fun _ => was ▸ waits⟩
      · exact ⟨after, was, rfl, rfl, id⟩ }

/-- A POST may be lost or leave the network. -/
theorem Keeps.eraseRequest (inv : Inv state) (index : Nat) :
    Keeps state { state with requests := state.requests.eraseIdx index } :=
  { Keeps.refl inv with
    requests := fun _ posted => .inl (List.mem_append.mpr
      ((List.mem_append.mp posted).imp_left List.mem_of_mem_eraseIdx)) }

/-- A handler may be dropped. -/
theorem Keeps.eraseHandler (inv : Inv state) (index : Nat) :
    Keeps state { state with handlers := state.handlers.eraseIdx index } :=
  { Keeps.refl inv with
    requests := fun _ posted => .inl (List.mem_append.mpr
      ((List.mem_append.mp posted).imp_right List.mem_of_mem_eraseIdx))
    begun := ((List.eraseIdx_sublist ..).map _).append_right _ }

/-- A POST that is in the network or served is an old one or the posted one. -/
theorem posted_cases {requests handlers : List Request} {request last : Request}
    (posted : request ∈ (requests ++ [last]) ++ handlers) :
    request ∈ requests ++ handlers ∨ request = last := by
  simp only [List.mem_append, List.mem_singleton] at posted ⊢
  tauto

/-- One session may lose entries. -/
theorem Keeps.withSession (inv : Inv state) {id : SessionId} {session : Session}
    (lost : ∀ connId index, session.Holds connId index →
      ∃ before, state.sessions id = some before ∧ before.Holds connId index) :
    Keeps state (state.withSession id session) :=
  { Keeps.refl inv with
    entries := by
      intro other found present connId index held
      change Function.update state.sessions id (some session) other = some found at present
      rw [Function.update_apply] at present
      split at present
      · next same =>
          subst same
          cases present
          exact lost connId index held
      · exact ⟨found, present, held⟩ }

/-- A task may reach another stage or end. -/
theorem Keeps.modifyTask (inv : Inv state) (index : Nat) {change : Task → Task}
    (same : ∀ task, (change task).call = task.call ∧ (change task).session = task.session ∧
      (change task).connId = task.connId ∧ ((change task).live = true → task.live = true)) :
    Keeps state { state with tasks := state.tasks.modify index change } :=
  { Keeps.refl inv with
    tasks := by
      intro i task found
      by_cases here : index = i
      · subst here
        obtain ⟨-, session, connId, -⟩ := same task
        exact ⟨change task, Table.modify_self found, session, connId⟩
      · exact ⟨task, (List.getElem?_modify_ne _ _ here).trans found, rfl, rfl⟩
    started := by
      intro i after found
      rcases Table.modify_cases found with ⟨task, was, rfl, rfl⟩ | ⟨was, -⟩
      · obtain ⟨call, session, connId, live⟩ := same task
        exact ⟨task, was, call.symm, session.symm, connId.symm, live⟩
      · exact ⟨after, was, rfl, rfl, rfl, id⟩
    begun := by
      rw [Table.map_modify fun task => (same task).1] }

/-- A task may reach another stage. -/
theorem Keeps.enter (inv : Inv state) (index : Nat) (stage : Stage) :
    Keeps state (state.enter index stage) :=
  Keeps.modifyTask inv index fun _ => ⟨rfl, rfl, rfl, id⟩

/-- A live task removes entries of its key, and no other live task has any of them. -/
theorem Inv.removeEntries (inv : Inv state) {index : Nat} {task : Task}
    (found : state.tasks[index]? = some task) (live : task.live = true) (kind : Kind) :
    Inv (state.removeEntries index task kind) := by
  unfold State.removeEntries
  cases present : state.sessions task.session with
  | none => exact inv
  | some session =>
      have unhurt : (session.owners task.connId kind).filter (state.hit index) = [] := by
        rw [List.filter_eq_nil_iff]
        intro owner owned hit
        rw [State.hit, Bool.and_eq_true, decide_eq_true_eq] at hit
        obtain ⟨other, found', alive⟩ := (Option.any_eq_true _ _).mp hit.2
        have holds := Session.holds_of_owners owned
        obtain ⟨owning, same, here, key⟩ := inv.entries _ _ present _ _ holds
        rw [found', Option.some.injEq] at same
        subst same
        exact hit.1 (inv.single found' found alive live here key)
      simp only [unhurt, List.append_nil]
      apply inv.keep
      apply Keeps.withSession inv
      intro connId owner held
      exact ⟨session, present, Session.holds_of_remove held⟩

/-- A restart forgets all sessions and kills all handlers and relays. -/
theorem Keeps.restart (inv : Inv state) : Keeps state { state with
    handlers := []
    sessions := fun _ => none
    tasks := state.tasks.map fun task => { task with live := false } } :=
  { Keeps.refl inv with
    requests := by
      intro request posted
      rw [List.append_nil] at posted
      exact .inl (List.mem_append_left _ posted)
    tasks := by
      intro i task found
      exact ⟨{ task with live := false }, by simp [found], rfl, rfl⟩
    started := by
      intro i after found
      rw [List.getElem?_map] at found
      obtain ⟨task, was, changed⟩ := Option.map_eq_some_iff.mp found
      subst changed
      exact ⟨task, was, rfl, rfl, rfl, nofun⟩
    begun := by
      rw [List.map_map]
      exact List.sublist_append_right ..
    entries := nofun }

/-- A new session id does not change who drew the other ones. -/
theorem owner_update {session drawn : SessionId} {client other : Nat}
    (new : state.owner drawn = none) (owned : state.owner session = some client) :
    Function.update state.owner drawn (some other) session = some client := by
  rw [Function.update_of_ne, owned]
  intro same
  rw [same, new] at owned
  contradiction

/-- A client starts with a new session id. -/
theorem Keeps.newClient (inv : Inv state) {session : SessionId}
    (new : state.owner session = none) : Keeps state { state with
      clients := state.clients ++ [⟨1, session⟩]
      owner := Function.update state.owner session (some state.clients.length) } :=
  { Keeps.refl inv with
    clients := by
      intro i client found
      rcases Table.concat_iff.mp found with old | ⟨last, added⟩
      · exact owner_update new (inv.clients i client old)
      · subst last added
        simp
    owner := fun _ _ owned => owner_update new owned
    requests := fun _ posted => .inl posted }

/-- A client moves on to a new session id. -/
theorem Keeps.rotate (inv : Inv state) {index : Nat} {session : SessionId}
    (new : state.owner session = none) : Keeps state { state with
      clients := state.clients.modify index fun before => { before with session }
      owner := Function.update state.owner session (some index) } :=
  { Keeps.refl inv with
    clients := by
      intro i client found
      rcases Table.modify_cases found with ⟨before, was, rfl, rfl⟩ | ⟨was, -⟩
      · exact Function.update_self ..
      · exact owner_update new (inv.clients i client was)
    owner := fun _ _ owned => owner_update new owned
    requests := fun _ posted => .inl posted }

/-- A retry posts to the session that its client uses now. -/
theorem Keeps.resume (inv : Inv state) {index i : Nat} {call : Call} {client : Client}
    (found : state.calls[index]? = some call) (waits : outstanding call.progress = true)
    (drawn : state.clients[i]? = some client) (same : call.client = i) :
    Keeps state { state.proceed index (.posting true) with
      requests := state.requests ++ [⟨index, client.session⟩] } :=
  { Keeps.proceed inv found waits (.posting true) with
    requests := by
      intro request posted
      rcases posted_cases posted with old | rfl
      · exact .inl old
      · exact .inr ⟨call, found, waits, same ▸ inv.clients i client drawn⟩ }

end Keeps

section Start
variable {state : State}

/-- A client issues a call with an id that none of its active calls has. -/
theorem Inv.issue (inv : Inv state) {client : Nat} {kind : Kind} {counter : ConnId}
    {session : SessionId} (found : state.clients[client]? = some ⟨counter, session⟩)
    (fresh : ∀ index call, state.calls[index]? = some call → Active state index call →
      call.client = client → call.connId ≠ counter) :
    Inv { state with
      clients := state.clients.modify client fun before => { before with counter := counter + 1 }
      calls := state.calls ++ [⟨client, counter, kind, .posting false⟩]
      requests := state.requests ++ [⟨state.calls.length, session⟩] } := by
  have old {i : Nat} {call : Call} (called : state.calls[i]? = some call)
      (active : Active { state with
        clients := state.clients.modify client fun before => { before with counter := counter + 1 }
        calls := state.calls ++ [⟨client, counter, kind, .posting false⟩]
        requests := state.requests ++ [⟨state.calls.length, session⟩] } i call) :
      Active state i call := by
    have inside := (List.getElem?_eq_some_iff.mp called).1
    rcases active with outstanding | ⟨request, posted, same⟩ | relay
    · exact .inl outstanding
    · rcases posted_cases posted with before | rfl
      · exact .inr (.inl ⟨request, before, same⟩)
      · change state.calls.length = i at same
        omega
    · exact .inr (.inr relay)
  constructor
  case clients =>
    intro i after found'
    rcases Table.modify_cases found' with ⟨before, was, rfl, rfl⟩ | ⟨was, -⟩
    · exact inv.clients client before was
    · exact inv.clients i after was
  case requests =>
    intro request posted
    rcases posted_cases posted with before | rfl
    · obtain ⟨call, called, owned⟩ := inv.requests request before
      exact ⟨call, Table.append_of called, owned⟩
    · exact ⟨_, List.getElem?_concat_length, inv.clients client _ found⟩
  case tasks =>
    intro i task started
    obtain ⟨call, called, rest⟩ := inv.tasks i task started
    exact ⟨call, Table.append_of called, rest⟩
  case distinct =>
    intro i j call other first second active active' same connId
    rcases Table.concat_iff.mp first with first | ⟨last, added⟩
    · rcases Table.concat_iff.mp second with second | ⟨last', added'⟩
      · exact inv.distinct i j call other first second (old first active) (old second active')
          same connId
      · rw [added'] at same connId
        exact absurd connId (fresh i call first (old first active) same)
    · rcases Table.concat_iff.mp second with second | ⟨last', added'⟩
      · rw [added] at same connId
        exact absurd connId.symm (fresh j other second (old second active') same.symm)
      · exact last.trans last'.symm
  case begun => exact inv.begun
  case launched => exact inv.launched
  case entries => exact inv.entries
  case intact => exact inv.intact

/-- A call stays inactive if no POST is new and each new relay takes the place of a POST. -/
theorem Active.of_posted {next : State} {i : Nat} {call : Call}
    (posted : ∀ request ∈ next.requests ++ next.handlers,
      request ∈ state.requests ++ state.handlers)
    (started : ∀ task ∈ next.tasks, task ∈ state.tasks ∨
      ∃ request ∈ state.requests ++ state.handlers, request.call = task.call)
    (active : Active next i call) : Active state i call := by
  rcases active with outstanding | ⟨request, member, same⟩ | ⟨task, member, same, live⟩
  · exact .inl outstanding
  · exact .inr (.inl ⟨request, posted request member, same⟩)
  · rcases started task member with before | ⟨request, known, call⟩
    · exact .inr (.inr ⟨task, before, same, live⟩)
    · exact .inr (.inl ⟨request, known, call.trans same⟩)

/-- A handler serves the first POST of a call. -/
theorem Inv.serve (inv : Inv state) {index : Nat} {request : Request} (kind : Kind)
    (posted : state.requests[index]? = some request) (first : ¬ Served state request.call) :
    Inv ({ state with requests := state.requests.eraseIdx index }.serve request kind) := by
  have member : request ∈ state.requests ++ state.handlers :=
    List.mem_append_left _ (List.mem_of_getElem? posted)
  have known : ∀ other ∈ state.requests.eraseIdx index ++ (state.handlers ++ [request]),
      other ∈ state.requests ++ state.handlers := by
    intro other posted
    rw [← List.append_assoc] at posted
    rcases List.mem_append.mp posted with old | added
    · exact List.mem_append.mpr ((List.mem_append.mp old).imp_left List.mem_of_mem_eraseIdx)
    · exact List.mem_singleton.mp added ▸ member
  have old {i : Nat} {other : Call}
      (active : Active ({ state with requests := state.requests.eraseIdx index }.serve request kind)
        i other) : Active state i other := by
    apply active.of_posted known
    exact fun _ started => .inl started
  constructor
  case clients => exact inv.clients
  case requests => exact fun other posted => inv.requests other (known other posted)
  case tasks => exact inv.tasks
  case distinct =>
    intro i j one other first' second active active'
    exact inv.distinct i j one other first' second (old active) (old active')
  case begun =>
    have new : request.call ∉ state.handlers.map Request.call ++ state.tasks.map Task.call := by
      intro begun
      apply first
      rcases List.mem_append.mp begun with handled | started
      · exact .inr (.inl (List.mem_map.mp handled))
      · exact .inr (.inr (List.mem_map.mp started))
    change (List.map _ (state.handlers ++ [request]) ++ _).Nodup
    rw [List.map_append, List.append_assoc]
    exact List.nodup_middle.mpr (List.nodup_cons.mpr ⟨new, inv.begun⟩)
  case launched =>
    change (if kind = .exec then state.launches ++ [request.call] else state.launches).Nodup
    split
    · rw [← List.concat_eq_append]
      exact inv.launched.concat fun launched => first (.inl launched)
    · exact inv.launched
  case entries => exact inv.entries
  case intact => exact inv.intact

/-- A handler that holds the lock of its session starts the relay. -/
theorem Inv.spawn (inv : Inv state) {index : Nat} {request : Request} {call : Call}
    {session : Session} (handled : state.handlers[index]? = some request)
    (called : state.calls[request.call]? = some call)
    (present : state.sessions request.session = some session) :
    Inv ({ state with handlers := state.handlers.eraseIdx index }.spawn request call session) := by
  have member : request ∈ state.requests ++ state.handlers :=
    List.mem_append_right _ (List.mem_of_getElem? handled)
  have known : ∀ other ∈ state.requests ++ state.handlers.eraseIdx index,
      other ∈ state.requests ++ state.handlers := fun other posted =>
    List.mem_append.mpr ((List.mem_append.mp posted).imp_right List.mem_of_mem_eraseIdx)
  obtain ⟨call', called', owned⟩ := inv.requests request member
  rw [called, Option.some.injEq] at called'
  subst called'
  have old {i : Nat} {other : Call}
      (active : Active ({ state with handlers := state.handlers.eraseIdx index }.spawn
        request call session) i other) : Active state i other := by
    apply active.of_posted known
    intro task started
    rcases List.mem_append.mp started with before | added
    · exact .inl before
    · rw [List.mem_singleton] at added
      exact .inr ⟨request, member, added ▸ rfl⟩
  constructor
  case clients => exact inv.clients
  case requests => exact fun other posted => inv.requests other (known other posted)
  case tasks =>
    intro i task started
    rcases Table.concat_iff.mp started with before | ⟨last, added⟩
    · exact inv.tasks i task before
    · subst added
      exact ⟨call, called, rfl, owned⟩
  case distinct =>
    intro i j one other first second active active'
    exact inv.distinct i j one other first second (old active) (old active')
  case begun =>
    have taken : (request :: state.handlers.eraseIdx index).Perm state.handlers := by
      obtain ⟨inside, rfl⟩ := List.getElem?_eq_some_iff.mp handled
      exact List.getElem_cons_eraseIdx_perm inside
    change (_ ++ List.map _ (state.tasks ++ [_])).Nodup
    rw [List.map_append, ← List.append_assoc]
    apply (List.perm_append_singleton ..).nodup_iff.mpr
    exact ((taken.map Request.call).append_right _).nodup_iff.mpr inv.begun
  case launched => exact inv.launched
  case entries =>
    intro id found present' connId owner held
    have before (held : ∃ session, state.sessions id = some session ∧ session.Holds connId owner) :
        ∃ task, (state.tasks ++ [⟨request.call, request.session, call.connId, call.kind,
          call.kind.stage, true⟩])[owner]? = some task ∧ task.session = id ∧
          task.connId = connId := by
      obtain ⟨session, present, held⟩ := held
      obtain ⟨task, started, key⟩ := inv.entries id session present connId owner held
      exact ⟨task, Table.append_of started, key⟩
    change Function.update state.sessions request.session _ id = some found at present'
    rw [Function.update_apply] at present'
    split at present'
    · next same =>
        subst same
        cases present'
        rcases Session.holds_of_insert held with held | ⟨key, own⟩
        · exact before ⟨session, present, held⟩
        · subst key own
          exact ⟨_, List.getElem?_concat_length, rfl, rfl⟩
    · exact before ⟨found, present', held⟩
  case intact => exact inv.intact

/-- A POST leaves the network, and a handler may serve it. -/
theorem Inv.arrive (inv : Inv state) {next : State} {index : Nat} {serves : Bool}
    (fresh : Fresh state (.arrive index serves))
    (moved : step state (.arrive index serves) = some next) : Inv next := by
  unfold OneRelay.step at moved
  cases posted : state.requests[index]? with
  | none => simp [posted] at moved
  | some request =>
      simp only [posted] at moved
      split at moved
      · next session call present called =>
          rw [Option.some.injEq] at moved
          subst moved
          exact inv.serve call.kind posted (fresh request posted)
      · rw [Option.some.injEq] at moved
        subst moved
        exact inv.keep (Keeps.eraseRequest inv index)

/-- Every step that meets the condition keeps the invariant. -/
theorem Inv.step {action : Action} {next : State} (inv : Inv state)
    (fresh : Fresh state action) (moved : step state action = some next) : Inv next := by
  cases action
  case newClient session =>
    cases moved
    exact inv.keep (Keeps.newClient inv fresh)
  case rotate client session =>
    simp only [OneRelay.step, Option.ite_none_right_eq_some, Option.some.injEq] at moved
    obtain ⟨-, rfl⟩ := moved
    exact inv.keep (Keeps.rotate inv fresh)
  case issue client kind =>
    simp only [OneRelay.step] at moved
    split at moved
    · next counter session found =>
        cases moved
        exact inv.issue found (fresh _ found)
    · contradiction
  case answer index ok =>
    simp only [OneRelay.step] at moved
    split at moved
    · next found =>
        cases moved
        exact inv.keep (Keeps.proceed inv found rfl _)
    · contradiction
  case resume index =>
    simp only [OneRelay.step] at moved
    split at moved
    · next client connId kind found =>
        obtain ⟨drawn, known, rfl⟩ := Option.map_eq_some_iff.mp moved
        exact inv.keep (Keeps.resume inv found rfl known rfl)
    · contradiction
  case loseRequest index =>
    cases moved
    exact inv.keep (Keeps.eraseRequest inv index)
  case arrive index serves => exact inv.arrive fresh moved
  case register index =>
    simp only [OneRelay.step] at moved
    split at moved
    · contradiction
    · next request handled =>
        split at moved
        · next session call present called =>
            cases moved
            exact inv.spawn handled called present
        · contradiction
  case dropHandler index =>
    cases moved
    exact inv.keep (Keeps.eraseHandler inv index)
  case openStream id =>
    cases moved
    apply inv.keep
    apply Keeps.withSession inv
    intro connId index held
    cases present : state.sessions id with
    | none =>
        rw [present] at held
        exact absurd held Session.not_holds_empty
    | some session =>
        rw [present] at held
        exact ⟨session, rfl, held⟩
  case restart =>
    cases moved
    exact inv.keep (Keeps.restart inv)
  case close id connId =>
    obtain ⟨session, present, rfl⟩ := Option.map_eq_some_iff.mp moved
    exact inv.keep (Keeps.withSession inv fun _ _ held =>
      ⟨session, present, Session.holds_of_remove held⟩)
  case abort id connId =>
    obtain ⟨session, present, rfl⟩ := Option.map_eq_some_iff.mp moved
    exact inv.keep (Keeps.withSession inv fun _ _ held =>
      ⟨session, present, Session.holds_of_remove held⟩)
  case removeWriter index =>
    simp only [OneRelay.step] at moved
    split at moved
    · next task found =>
        rw [Option.ite_none_right_eq_some, Option.some.injEq] at moved
        obtain ⟨⟨live, -⟩, rfl⟩ := moved
        exact inv.removeEntries found live .push
    · contradiction
  case setUp index =>
    simp only [OneRelay.step] at moved
    split at moved
    · rw [Option.ite_none_right_eq_some, Option.some.injEq] at moved
      obtain ⟨-, rfl⟩ := moved
      exact inv.keep (Keeps.enter inv index .looping)
    · contradiction
  case leave index =>
    simp only [OneRelay.step] at moved
    split at moved
    · rw [Option.ite_none_right_eq_some, Option.some.injEq] at moved
      obtain ⟨-, rfl⟩ := moved
      exact inv.keep (Keeps.enter inv index .leaving)
    · contradiction
  case cleanup index =>
    simp only [OneRelay.step] at moved
    split at moved
    · next task found =>
        rw [Option.ite_none_right_eq_some, Option.some.injEq] at moved
        obtain ⟨⟨live, -⟩, rfl⟩ := moved
        have removed := inv.removeEntries found live task.kind
        exact removed.keep (Keeps.enter removed index .cleaned)
    · contradiction
  case finish index =>
    simp only [OneRelay.step] at moved
    split at moved
    · next task found =>
        rw [Option.ite_none_right_eq_some, Option.some.injEq] at moved
        obtain ⟨-, rfl⟩ := moved
        exact inv.keep (Keeps.modifyTask inv index fun _ => ⟨rfl, rfl, rfl, nofun⟩)
    · contradiction

end Start

/-- In every run whose steps meet the condition, each key has at most one live relay, each start
message starts at most one relay and launches at most one command, and no cleanup takes an entry
from another live relay. -/
theorem one_live_relay {actions : List Action} {final : State}
    (fresh : Machine.Along step Fresh start actions)
    (ran : Machine.run step start actions = some final) : OneLiveRelay final :=
  (Machine.run_along Inv.step Inv.start fresh ran).oneLiveRelay

/-- The first POST of a command is lost and its retry starts the relay. A second connection of the
client starts before the command exits and its relay cleans up. -/
def retried : List Action :=
  [.newClient 1, .openStream 1, .issue 0 .exec, .loseRequest 0, .answer 0 false, .resume 0,
    .arrive 0 true, .register 0, .answer 0 true, .setUp 0, .issue 0 .connect, .arrive 0 true,
    .register 0, .answer 1 true, .leave 0, .cleanup 0, .finish 0]

/-- A retry after a POST that never arrived and a second connection make such a run. -/
theorem one_live_relay_of_lost_post : ∃ final, Machine.run step start retried = some final ∧
    final.launches = [0] ∧ final.tasks.length = 2 ∧ OneLiveRelay final := by
  obtain ⟨final, ran, same⟩ := Option.map_eq_some_iff.mp
    (show (Machine.run step start retried).map (fun final => (final.launches, final.tasks.length)) =
      some ([0], 2) by decide)
  obtain ⟨launches, tasks⟩ := Prod.mk.injEq .. ▸ same
  refine ⟨final, ran, launches, tasks, one_live_relay ?_ ran⟩
  refine ⟨rfl, trivial, ?_, trivial, trivial, trivial, ?_, trivial, trivial, trivial, ?_, ?_,
    trivial, trivial, trivial, trivial, trivial, trivial⟩
  · intro drawn found index call called
    contradiction
  · intro request found
    cases found
    decide
  · intro drawn found index call called active own
    cases found
    cases index with
    | zero => cases called; decide
    | succ index => contradiction
  · intro request found
    cases found
    decide

/-- A command exits at once and leaves a process that holds its PTY, so that its relay still drains
the output when the retry of a lost response arrives. -/
def repeated : List Action :=
  [.newClient 1, .openStream 1, .issue 0 .exec, .arrive 0 true, .register 0, .setUp 0, .leave 0,
    .answer 0 false, .resume 0, .arrive 0 true, .register 0, .cleanup 0]

/-- The server then launches the command twice and has two live relays of one key, and the cleanup
of the first one takes the entries of the second. -/
theorem exec_starts_twice : ∃ final, Machine.run step start repeated = some final ∧
    final.launches = [0, 0] ∧
    final.tasks = [⟨0, 1, 1, .exec, .cleaned, true⟩, ⟨0, 1, 1, .exec, .setup, true⟩] ∧
    final.wrongful = [1, 1] ∧ ¬ OneLiveRelay final := by
  obtain ⟨final, ran, same⟩ := Option.map_eq_some_iff.mp (show (Machine.run step start
    repeated).map (fun final => (final.launches, final.tasks, final.wrongful)) =
    some ([0, 0], [⟨0, 1, 1, .exec, .cleaned, true⟩, ⟨0, 1, 1, .exec, .setup, true⟩],
      [1, 1]) by decide)
  simp only [Prod.mk.injEq] at same
  obtain ⟨launches, tasks, wrongful⟩ := same
  refine ⟨final, ran, launches, tasks, wrongful, ?_⟩
  intro promise
  have launched := promise.launched
  rw [launches] at launched
  contradiction

end Tunnix.OneRelay
