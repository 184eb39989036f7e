import Tunnix.Server.Endpoint
import Tunnix.Server.RegistryExact
import Mathlib.Data.List.Nodup

namespace Tunnix

namespace Registry

inductive Kind where
  | tcp
  | pty
  | push
deriving DecidableEq, Repr

def Body.kind : Body → Kind
  | .tcp _ => .tcp
  | .pty _ => .pty
  | .push _ => .push

/-- A relay keeps its `conn_id` and its kind. -/
def Relay.label (relay : Relay) : ConnId × Kind := (relay.connId, relay.body.kind)

def Session.labels (session : Session) : List (ConnId × Kind) := session.relays.map Relay.label

/-- A start message starts a relay of this label. -/
def startLabel : Message → Option (ConnId × Kind)
  | .connect connId .. => some (connId, .tcp)
  | .exec connId .. => some (connId, .pty)
  | .push connId _ => some (connId, .push)
  | .data .. | .close _ | .abort _ | .resize .. | .pull .. | .ping | .pong | .error .. | .reset
  | .exitStatus .. => none

section Labels
variable {session next : Session} {body : Body}

@[simp] theorem kind_release (removal : Removal) : (body.release removal).kind = body.kind := by
  cases body <;> rfl

@[simp] theorem kind_handleData (data : Bytes) : (body.handleData data).kind = body.kind := by
  cases body <;> rfl

@[simp] theorem kind_handleClose : body.handleClose.kind = body.kind := by cases body <;> rfl

@[simp] theorem kind_handleAbort : body.handleAbort.kind = body.kind := by cases body <;> rfl

@[simp] theorem kind_handleResize (size : PtyRelay.PtySize) :
    (body.handleResize size).kind = body.kind := by
  cases body <;> rfl

theorem kind_step {action : RelayAction} {after : Body} (moved : body.step action = some after) :
    after.kind = body.kind := by
  rcases Body.step_cases moved with ⟨_, _, _, rfl, rfl, -⟩ | ⟨_, _, _, rfl, rfl, -⟩ |
    ⟨_, _, _, rfl, rfl, -⟩
  · rfl
  · rfl
  · rfl

/-- A change of relays keeps the labels if it keeps each of them. -/
theorem labels_change (connId : ConnId) (removal : Removal) {change : Relay → Relay}
    (kept : ∀ relay, (change relay).label = relay.label) :
    (session.change connId removal change).labels = session.labels := by
  rw [Session.labels, Session.change, List.map_map]
  apply List.map_congr_left
  intro relay _
  rw [Function.comp]
  split
  · exact kept relay
  · rfl

theorem labels_release (connId : ConnId) (removal : Removal) :
    (session.change connId removal (Relay.release removal)).labels = session.labels :=
  labels_change connId removal fun relay => by simp [Relay.release, Relay.label]

theorem labels_modify (index : Nat) {change : Relay → Relay}
    (kept : ∀ relay, session.relays[index]? = some relay → (change relay).label = relay.label) :
    (session.relays.modify index change).map Relay.label = session.labels := by
  apply List.ext_getElem?
  intro place
  rw [Session.labels, List.getElem?_map, List.getElem?_map, List.getElem?_modify]
  split
  · next same =>
      subst same
      cases found : session.relays[index]? with
      | none => rfl
      | some relay => exact congrArg some (kept relay found)
  · cases session.relays[place]? <;> rfl

theorem labels_insert (connId : ConnId) (body : Body) :
    (session.insert connId body).labels = session.labels ++ [(connId, body.kind)] := by
  rw [Session.insert, Session.labels, List.map_append]
  exact congrArg (· ++ _) (labels_release connId _)

/-- A message adds the label of the relay that it starts. -/
theorem labels_handleSend (starts : Bool) (message : Message) :
    (session.handleSend starts message).labels =
      session.labels ++ (if starts then (startLabel message).toList else []) := by
  cases message with
  | connect connId | exec connId | push connId =>
      cases starts with
      | true => exact labels_insert connId _
      | false => simp [Session.handleSend]
  | data connId data =>
      rw [Session.handleSend]
      split
      · next index _ =>
          simp only [startLabel, Option.toList_none, ite_self, List.append_nil]
          exact labels_modify index fun relay _ => by simp [Relay.label]
      · simp [startLabel]
  | close connId | abort connId | resize connId =>
      rw [Session.handleSend, labels_change _ _ fun relay => by simp [Relay.label]]
      simp [startLabel]
  | _ => simp [Session.handleSend, startLabel]

/-- A relay that moves on keeps all labels. -/
theorem labels_relay {index : Nat} {action : RelayAction}
    (moved : step session (.relay index action) = some next) : next.labels = session.labels := by
  simp only [step] at moved
  split at moved
  · cases moved
  · next relay found =>
      obtain ⟨body, stepped, rfl⟩ := Option.map_eq_some_iff.mp moved
      refine Eq.trans (labels_modify index ?_)
        (labels_release relay.connId (relay.body.removes action))
      intro other there
      have kind := kind_step stepped
      rw [Session.change, List.getElem?_map, found, Option.map_some, Option.some.injEq,
        if_pos rfl] at there
      subst there
      simp [Relay.label, Relay.release, kind]

end Labels

end Registry

namespace Endpoint

/-- The message asks for the effect. -/
def Asks : Message → Effect → Prop
  | .connect connId host port, .connected connId' host' port' =>
      connId = connId' ∧ host = host' ∧ port = port'
  | .exec connId cmd cols rows term, .launched connId' started cols' rows' _ =>
      connId = connId' ∧ cols = cols' ∧ rows = rows' ∧ ∃ shell, started = command shell cmd term
  | .pull connId paths level, .pulled connId' paths' level' =>
      connId = connId' ∧ paths = paths' ∧ level = level'
  | .push connId path, .pushed connId' path' => connId = connId' ∧ path = path'
  | _, _ => False

/-- Commands and transfers need a permission. -/
def permits (hot : HotServerConfig) : Effect → Bool
  | .connected .. => true
  | .launched .. => hot.allowExec
  | .pulled .. | .pushed .. => hot.allowTransfer

/-- An attached effect has a relay, except that a `Pull` registers nothing. -/
def Effect.label : Effect → Option (ConnId × Registry.Kind)
  | .connected connId .. => some (connId, .tcp)
  | .launched connId _ _ _ attached => if attached then some (connId, .pty) else none
  | .pushed connId _ => some (connId, .push)
  | .pulled .. => none

section Handle
variable {hot : HotServerConfig} {world : World} {message : Message}

/-- An effect is asked for and permitted, and its label is that of the relay that starts. -/
theorem handle_effect {effect : Effect} (done : (handle hot world message).1 = some effect) :
    Asks message effect ∧ permits hot effect = true ∧
      effect.label = if effect.attached then Registry.startLabel message else none := by
  unfold handle at done
  split at done
  · split at done <;> cases done
    exact ⟨⟨rfl, rfl, rfl⟩, rfl, rfl⟩
  · split at done
    · next allowed =>
        split at done <;> cases done
        · exact ⟨⟨rfl, rfl, rfl, _, rfl⟩, allowed, rfl⟩
        · exact ⟨⟨rfl, rfl, rfl, _, rfl⟩, allowed, rfl⟩
    · cases done
  · split at done <;> cases done
    next allowed => exact ⟨⟨rfl, rfl, rfl⟩, allowed, rfl⟩
  · split at done <;> cases done
    next allowed => exact ⟨⟨rfl, rfl⟩, allowed, rfl⟩
  all_goals cases done

end Handle

section Record
variable {Key : Type} {aead : Aead Key} {overrides : CliOverrides} {hot : HotServerConfig}

/-- A request has read this message from its body under the key that was in force, and its session was
known. -/
def Read (aead : Aead Key) (overrides : CliOverrides) (hot : HotServerConfig)
    (actions : List Action) (request : Nat) (sessionId : String) (config : HotServerConfig)
    (message : Message) : Prop :=
  ∃ before body world rest reached,
    actions = before ++ .collect request sessionId (some body) world :: rest ∧
    Machine.run (step aead overrides) (start hot) before = some reached ∧
    reached.watcher.hot = config ∧ (reached.sessions sessionId).isSome = true ∧
    opens aead config.crypto body = some message

/-- An effect has been asked for by its request, and it was permitted. -/
def Requested (aead : Aead Key) (overrides : CliOverrides) (hot : HotServerConfig)
    (actions : List Action) (sessionId : String) (request : Nat) (effect : Effect) : Prop :=
  ∃ config message, Read aead overrides hot actions request sessionId config message ∧
    Asks message effect ∧ permits config effect = true

/-- Every effect of a session is behind its own request, and the relays of the session are those of its
attached effects. -/
structure Recorded (aead : Aead Key) (overrides : CliOverrides) (hot : HotServerConfig)
    (actions : List Action) (state : State) : Prop where
  waits : ∀ {request id config connId host port},
    state.requests request = some (.connecting id config connId host port) →
      Read aead overrides hot actions request id config (.connect connId host port)
  caused : ∀ {id session}, state.sessions id = some session → ∀ entry ∈ session.effects,
    Requested aead overrides hot actions id entry.1 entry.2 ∧
      ∃ crypto response, state.requests entry.1 = some (.answered (some (id, crypto)) response)
  distinct : ∀ {id session}, state.sessions id = some session →
    (session.effects.map Prod.fst).Nodup
  relays : ∀ {id session}, state.sessions id = some session →
    session.registry.labels = (session.effects.map Prod.snd).filterMap Effect.label

variable {actions : List Action} {state : State} {request : Nat} {id : String}

theorem Read.later {config : HotServerConfig} {message : Message}
    (read : Read aead overrides hot actions request id config message) (action : Action) :
    Read aead overrides hot (actions ++ [action]) request id config message := by
  obtain ⟨before, body, world, rest, reached, rfl, found⟩ := read
  exact ⟨before, body, world, rest ++ [action], reached, by simp, found⟩

theorem Recorded.start : Recorded aead overrides hot [] (start hot) where
  waits waiting := by cases waiting
  caused known := by cases known
  distinct known := by cases known
  relays known := by cases known

/-- Later actions keep what has been recorded. -/
theorem Recorded.later (recorded : Recorded aead overrides hot actions state) (action : Action) :
    Recorded aead overrides hot (actions ++ [action]) state where
  waits waiting := (recorded.waits waiting).later action
  caused known entry member := by
    obtain ⟨⟨config, message, read, asked⟩, answered⟩ := recorded.caused known entry member
    exact ⟨⟨config, message, read.later action, asked⟩, answered⟩
  distinct := recorded.distinct
  relays := recorded.relays

/-- An unanswered request takes another stage. -/
theorem Recorded.place (recorded : Recorded aead overrides hot actions state) {stage : Stage}
    (unanswered : ∀ handled response, state.requests request ≠ some (.answered handled response))
    (read : ∀ id config connId host port, stage = .connecting id config connId host port →
      Read aead overrides hot actions request id config (.connect connId host port)) :
    Recorded aead overrides hot actions (state.place request stage) where
  waits {other _ _ _ _ _} waiting := by
    by_cases same : other = request
    · subst same
      rw [place_self, Option.some.injEq] at waiting
      exact read _ _ _ _ _ waiting
    · rw [place_of_ne _ _ _ same] at waiting
      exact recorded.waits waiting
  caused known entry member := by
    obtain ⟨requested, crypto, response, answered⟩ := recorded.caused known entry member
    have apart : entry.1 ≠ request := by
      rintro rfl
      exact unanswered _ _ answered
    exact ⟨requested, crypto, response, (place_of_ne _ _ _ apart).trans answered⟩
  distinct := recorded.distinct
  relays := recorded.relays

/-- A session is kept with the same effects and the same relays, or it is new. -/
theorem Recorded.keep (recorded : Recorded aead overrides hot actions state) {session : Session}
    (same : session.effects = [] ∧ session.registry.labels = [] ∨
      ∃ before, state.sessions id = some before ∧ session.effects = before.effects ∧
        session.registry.labels = before.registry.labels) :
    Recorded aead overrides hot actions (state.keep id session) := by
  have found {other : String} {kept : Session}
      (known : (state.keep id session).sessions other = some kept) :
      kept.effects = [] ∧ kept.registry.labels = [] ∨
        ∃ before, state.sessions other = some before ∧ kept.effects = before.effects ∧
          kept.registry.labels = before.registry.labels := by
    by_cases own : other = id
    · subst own
      rw [keep_self, Option.some.injEq] at known
      exact known ▸ same
    · rw [keep_of_ne _ _ _ own] at known
      exact .inr ⟨kept, known, rfl, rfl⟩
  refine ⟨recorded.waits, fun known entry member => ?_, fun known => ?_, fun known => ?_⟩
  · rcases found known with ⟨none_, -⟩ | ⟨before, earlier, effects, -⟩
    · rw [none_] at member
      cases member
    · exact recorded.caused earlier entry (effects ▸ member)
  · rcases found known with ⟨none_, -⟩ | ⟨before, earlier, effects, -⟩
    · simp [none_]
    · rw [effects]
      exact recorded.distinct earlier
  · rcases found known with ⟨none_, unlabelled⟩ | ⟨before, earlier, effects, labels⟩
    · simp [none_, unlabelled]
    · rw [labels, effects]
      exact recorded.relays earlier

/-- The relay of a message is the one of its effect. -/
theorem labels_apply (session : Session) (request : Nat) {config : HotServerConfig} {world : World}
    {message : Message} {effect : Option Effect} (done : (handle config world message).1 = effect) :
    (session.apply request effect message).registry.labels =
      session.registry.labels ++ (effect.bind Effect.label).toList := by
  rw [Session.apply, Registry.labels_handleSend]
  cases effect with
  | none => simp
  | some effect =>
      have label := (handle_effect done).2.2
      cases attached : effect.attached <;> simp [attached, label]

/-- A message that a request has read is handled. -/
theorem Recorded.handle (recorded : Recorded aead overrides hot actions state) {session : Session}
    {config : HotServerConfig} {message : Message} (known : state.sessions id = some session)
    (unanswered : ∀ handled response, state.requests request ≠ some (.answered handled response))
    (read : Read aead overrides hot actions request id config message) (world : World) :
    Recorded aead overrides hot actions
      (state.handleMessage aead request id session config world message) := by
  obtain ⟨effect, done⟩ : ∃ effect, (Endpoint.handle config world message).1 = effect := ⟨_, rfl⟩
  have sessions (other : String) (kept : Session)
      (found : (state.handleMessage aead request id session config world message).sessions other =
        some kept) :
      (other = id ∧ kept = session.apply request effect message) ∨
        other ≠ id ∧ state.sessions other = some kept := by
    rw [State.handleMessage, answer_sessions] at found
    by_cases own : other = id
    · subst own
      rw [keep_self, Option.some.injEq, done] at found
      exact .inl ⟨rfl, found.symm⟩
    · rw [keep_of_ne _ _ _ own] at found
      exact .inr ⟨own, found⟩
  have others (other : Nat) (apart : other ≠ request) :
      (state.handleMessage aead request id session config world message).requests other =
        state.requests other := answer_of_ne _ _ _ _ _ apart
  have own : (state.handleMessage aead request id session config world message).requests request =
      some (.answered (some (id, config.crypto)) (respond aead config.crypto world.draw
        (Endpoint.handle config world message).2)) := answer_self ..
  -- A request with an earlier effect has been answered, and this one has not.
  have apart {other : String} {kept : Session} (there : state.sessions other = some kept)
      {entry : Nat × Effect} (member : entry ∈ kept.effects) : entry.1 ≠ request := by
    rintro rfl
    obtain ⟨-, crypto, response, answered⟩ := recorded.caused there entry member
    exact unanswered _ _ answered
  have before {other : String} {kept : Session} (there : state.sessions other = some kept)
      {entry : Nat × Effect} (member : entry ∈ kept.effects) :
      Requested aead overrides hot actions other entry.1 entry.2 ∧ ∃ crypto response,
        (state.handleMessage aead request id session config world message).requests entry.1 =
          some (.answered (some (other, crypto)) response) := by
    obtain ⟨requested, crypto, response, answered⟩ := recorded.caused there entry member
    exact ⟨requested, crypto, response, (others _ (apart there member)).trans answered⟩
  refine ⟨fun {other} {_ _ _ _ _} waiting => ?_, fun found entry member => ?_, fun found => ?_,
    fun found => ?_⟩
  · by_cases same : other = request
    · subst same
      rw [own] at waiting
      cases waiting
    · exact recorded.waits ((others _ same).symm.trans waiting)
  · rcases sessions _ _ found with ⟨rfl, rfl⟩ | ⟨-, there⟩
    · rcases List.mem_append.mp member with earlier | new
      · exact before known earlier
      · cases effect with
        | none => cases new
        | some effect =>
            obtain rfl := List.mem_singleton.mp new
            obtain ⟨asked, permitted, -⟩ := handle_effect done
            exact ⟨⟨config, message, read, asked, permitted⟩, _, _, own⟩
    · exact before there member
  · rcases sessions _ _ found with ⟨rfl, rfl⟩ | ⟨-, there⟩
    · rw [Session.apply, List.map_append]
      refine List.Nodup.append (recorded.distinct known) ?_ ?_
      · cases effect <;> simp
      · intro number earlier new
        obtain ⟨entry, member, rfl⟩ := List.mem_map.mp earlier
        cases effect with
        | none => cases new
        | some effect => exact apart known member (List.mem_singleton.mp new)
    · exact recorded.distinct there
  · rcases sessions _ _ found with ⟨rfl, rfl⟩ | ⟨-, there⟩
    · rw [labels_apply session request done, recorded.relays known, Session.apply, List.map_append,
        List.filterMap_append]
      cases effect with
      | none => simp
      | some effect => cases label : effect.label <;> simp [label]
    · exact recorded.relays there

/-- A request that waits has not been answered. -/
theorem unanswered_of {stage : Stage} (found : state.requests request = some stage)
    (waits : ∀ handled response, stage ≠ .answered handled response) (handled response) :
    state.requests request ≠ some (.answered handled response) := by
  rw [found]
  exact fun same => waits handled response (Option.some.inj same)

/-- A body that is read now has been read. -/
theorem Read.now (ran : Machine.run (step aead overrides) (Endpoint.start hot) actions = some state)
    {body : Bytes} {session : Session} {message : Message} (world : World)
    (known : state.sessions id = some session)
    (read : opens aead state.watcher.hot.crypto body = some message) :
    Read aead overrides hot (actions ++ [.collect request id (some body) world]) request id
      state.watcher.hot message :=
  ⟨actions, body, world, [], state, rfl, ran, rfl, by simp [known], read⟩

theorem Recorded.step (recorded : Recorded aead overrides hot actions state)
    (ran : Machine.run (step aead overrides) (Endpoint.start hot) actions = some state)
    {action : Action} {next : State} (moved : step aead overrides state action = some next) :
    Recorded aead overrides hot (actions ++ [action]) next := by
  have before := recorded.later action
  cases step_move moved with
  | receive fresh =>
      refine before.place (by simp [fresh]) ?_
      intro _ _ _ _ _ connecting
      unfold begin at connecting
      split at connecting <;> cases connecting
  | streamAgain opening known =>
      exact before.place (unanswered_of opening (by simp)) (by simp)
  | @streamNew request id draw opening unknown =>
      have kept : Recorded aead overrides hot (actions ++ [.openStream request id draw])
          (state.keep id .new) := before.keep (.inl ⟨rfl, rfl⟩)
      exact kept.place (unanswered_of opening (by simp)) (by simp)
  | badRequest reading | turnedAway reading =>
      exact before.place (unanswered_of reading (by simp)) (by simp)
  | unread reading => exact before.place (unanswered_of reading (by simp)) (by simp)
  | connects reading known read =>
      refine before.place (unanswered_of reading (by simp)) ?_
      rintro _ _ _ _ _ ⟨⟩
      exact Read.now ran _ known read
  | handles reading known read =>
      exact before.handle known (unanswered_of reading (by simp)) (Read.now ran _ known read) _
  | reaches connecting known =>
      exact before.handle known (unanswered_of connecting (by simp)) (before.waits connecting) _
  | relay known stepped =>
      exact before.keep (.inr ⟨_, known, rfl, Registry.labels_relay stepped⟩)
  | reload => exact ⟨before.waits, before.caused, before.distinct, before.relays⟩

theorem Recorded.run (ran : Machine.run (Endpoint.step aead overrides) (Endpoint.start hot) actions =
    some state) : Recorded aead overrides hot actions state := by
  have both := Machine.run_history
    (fun history reached => Recorded aead overrides hot history reached ∧
      Machine.run (Endpoint.step aead overrides) (Endpoint.start hot) history = some reached)
    (fun earlier moved => ⟨earlier.1.step earlier.2 moved,
      Machine.run_append.mpr ⟨_, earlier.2, Machine.run_cons.mpr ⟨_, moved, rfl⟩⟩⟩)
    ⟨Recorded.start, rfl⟩ ran
  exact both.1

/-- Whatever the server does for a session was asked for by a request of its own. The request's body was
opened under the key that was in force, and the config in force permitted it. The relays of the session
are exactly those of its attached effects, in their order. -/
theorem effects_requested
    (ran : Machine.run (Endpoint.step aead overrides) (Endpoint.start hot) actions = some state)
    {session : Session} (known : state.sessions id = some session) :
    (∀ entry ∈ session.effects, Requested aead overrides hot actions id entry.1 entry.2) ∧
      (session.effects.map Prod.fst).Nodup ∧
      session.registry.labels = (session.effects.map Prod.snd).filterMap Effect.label := by
  have recorded := Recorded.run ran
  exact ⟨fun entry member => (recorded.caused known entry member).1, recorded.distinct known,
    recorded.relays known⟩

/-- The watcher has read this version. -/
def Action.version? : Action → Option Config
  | .reload file => some file
  | .receive .. | .openStream .. | .collect .. | .reach .. | .relay .. => none

/-- A permission is the one of the command line, of the last version of the file or of the start. -/
def allowed (overridden : Bool) (atStart : Bool) (permission : ServerConfig → Bool)
    (actions : List Action) : Bool :=
  if overridden then atStart
  else
    match (actions.filterMap Action.version?).getLast? with
    | some file => permission file.server
    | none => atStart

/-- An effect needs the permission of its kind. -/
def configured (overrides : CliOverrides) (hot : HotServerConfig) (actions : List Action) :
    Effect → Bool
  | .connected .. => true
  | .launched .. =>
      allowed overrides.serverAllowExec hot.allowExec ServerConfig.allowExec actions
  | .pulled .. | .pushed .. =>
      allowed overrides.serverAllowTransfer hot.allowTransfer ServerConfig.allowTransfer actions

/-- Only a reload changes the config in force. -/
theorem watcher_kept {action : Action} {next : State} (other : action.version? = none)
    (moved : Endpoint.step aead overrides state action = some next) :
    next.watcher = state.watcher := by
  cases step_move moved with
  | reload => cases other
  | _ => rfl

theorem allowed_reload (overridden atStart : Bool) (permission : ServerConfig → Bool)
    (actions : List Action) (file : Config) :
    allowed overridden atStart permission (actions ++ [.reload file]) =
      if overridden then atStart else permission file.server := by
  simp [allowed, List.filterMap_append, Action.version?]

theorem allowed_other {overridden atStart : Bool} {permission : ServerConfig → Bool}
    {action : Action} (other : action.version? = none) :
    allowed overridden atStart permission (actions ++ [action]) =
      allowed overridden atStart permission actions := by
  simp [allowed, List.filterMap_append, other]

/-- The permissions in force are those of the command line, or of the last version that was read. -/
theorem permissions_in_force
    (ran : Machine.run (Endpoint.step aead overrides) (Endpoint.start hot) actions = some state) :
    state.watcher.hot.allowExec =
        allowed overrides.serverAllowExec hot.allowExec ServerConfig.allowExec actions ∧
      state.watcher.hot.allowTransfer = allowed overrides.serverAllowTransfer hot.allowTransfer
        ServerConfig.allowTransfer actions := by
  refine Machine.run_history (fun history (reached : State) =>
    reached.watcher.hot.allowExec =
        allowed overrides.serverAllowExec hot.allowExec ServerConfig.allowExec history ∧
      reached.watcher.hot.allowTransfer = allowed overrides.serverAllowTransfer hot.allowTransfer
        ServerConfig.allowTransfer history) ?_ ?_ ran
  · intro history reached action next earlier moved
    cases version : action.version? with
    | none =>
        rw [allowed_other version, allowed_other version, watcher_kept version moved]
        exact earlier
    | some file =>
        cases action with
        | reload file =>
            cases moved
            rw [allowed_reload, allowed_reload, ServerReload.reload_hot]
            constructor
            · cases overridden : overrides.serverAllowExec with
              | false => simp [ServerReload.State.nextHot, overridden]
              | true =>
                  have same := earlier.1
                  simpa [ServerReload.State.nextHot, overridden, allowed] using same
            · cases overridden : overrides.serverAllowTransfer with
              | false => simp [ServerReload.State.nextHot, overridden]
              | true =>
                  have same := earlier.2
                  simpa [ServerReload.State.nextHot, overridden, allowed] using same
        | _ => cases version
  · simp [allowed, Endpoint.start, ServerReload.State.start]

/-- A command is started and a file is transferred only by a request that was read while the command
line or the last version of the file allowed it. -/
theorem effects_configured
    (ran : Machine.run (Endpoint.step aead overrides) (Endpoint.start hot) actions = some state)
    {session : Session} (known : state.sessions id = some session) :
    ∀ entry ∈ session.effects, ∃ before body world after,
      actions = before ++ .collect entry.1 id (some body) world :: after ∧
        configured overrides hot before entry.2 = true := by
  intro entry member
  obtain ⟨config, message, ⟨before, body, world, after, reached, same, early, rfl, -⟩, -, permitted⟩ :=
    ((Recorded.run ran).caused known entry member).1
  refine ⟨before, body, world, after, same, ?_⟩
  obtain ⟨exec, transfer⟩ := permissions_in_force early
  obtain ⟨request, effect⟩ := entry
  cases effect with
  | connected => rfl
  | launched => exact exec.symm.trans permitted
  | pulled | pushed => exact transfer.symm.trans permitted

end Record

section Sample

/-- The password of this server has the key 6, and it allows commands. -/
def sampleHot : HotServerConfig := ⟨⟨0, "secret"⟩, "", none, none, "ok", true, false⟩

def sampleWorld : World := ⟨.error "refused", .ready, none, ⟨0, Vector.replicate 4 0⟩⟩

def sampleFile (allowExec : Bool) : Config :=
  ⟨⟨"secret", "", none, none, "ok", allowExec, false⟩, ⟨"", "", ∅⟩⟩

/-- A session opens, it has a command started, and the file forbids the next one. -/
def sampleActions : List Action :=
  [.receive 0 .get "/stream/a" fun _ => none, .openStream 0 "a" ⟨0, Vector.replicate 4 0⟩,
    .receive 1 .post "/send/a" fun _ => none,
    .collect 1 "a" (some (marked 6 (.exec 7 none 80 24 ""))) sampleWorld,
    .reload (sampleFile false), .receive 2 .post "/send/a" fun _ => none,
    .collect 2 "a" (some (marked 6 (.exec 8 none 80 24 ""))) sampleWorld]

def sampleOverrides : CliOverrides := ⟨false, false, false, false, false⟩

/-- The run ends with the session `a`, for which one command was started. -/
theorem sample_run : ∃ state session,
    Machine.run (step marking sampleOverrides) (start sampleHot) sampleActions = some state ∧
      state.sessions "a" = some session ∧
      session.effects = [(1, .launched 7 ⟨"/bin/sh", [], "xterm-256color"⟩ 80 24 true)] := by
  have effects : ((Machine.run (step marking sampleOverrides) (start sampleHot) sampleActions).bind
      fun state => (state.sessions "a").map Session.effects) =
        some [(1, .launched 7 ⟨"/bin/sh", [], "xterm-256color"⟩ 80 24 true)] := by
    decide +kernel
  obtain ⟨state, ran, found⟩ := Option.bind_eq_some_iff.mp effects
  obtain ⟨session, known, same⟩ := Option.map_eq_some_iff.mp found
  exact ⟨state, session, ran, known, same⟩

theorem effects_requested_of_exec : ∃ session : Session,
    session.effects = [(1, .launched 7 ⟨"/bin/sh", [], "xterm-256color"⟩ 80 24 true)] ∧
      (∀ entry ∈ session.effects,
        Requested marking sampleOverrides sampleHot sampleActions "a" entry.1 entry.2) ∧
      (session.effects.map Prod.fst).Nodup ∧
      session.registry.labels = (session.effects.map Prod.snd).filterMap Effect.label := by
  obtain ⟨state, session, ran, known, effects⟩ := sample_run
  exact ⟨session, effects, effects_requested ran known⟩

theorem effects_configured_of_exec : ∃ session : Session,
    session.effects = [(1, .launched 7 ⟨"/bin/sh", [], "xterm-256color"⟩ 80 24 true)] ∧
      ∀ entry ∈ session.effects, ∃ before body world after,
        sampleActions = before ++ .collect entry.1 "a" (some body) world :: after ∧
          configured sampleOverrides sampleHot before entry.2 = true := by
  obtain ⟨state, session, ran, known, effects⟩ := sample_run
  exact ⟨session, effects, effects_configured ran known⟩

end Sample

end Endpoint

end Tunnix
