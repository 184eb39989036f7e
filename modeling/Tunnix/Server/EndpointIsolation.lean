import Tunnix.Server.EndpointRecord

namespace Tunnix.Endpoint
open Routing

/-- A request is for a session when its path or its answer says so. -/
def Stage.session? : Stage → Option String
  | .reading id | .opening id | .connecting id .. => some id
  | .answered handled _ => handled.map Prod.fst

/-- What belongs to one session: the config in force, the session and its requests. -/
def State.only (id : String) (state : State) : State where
  watcher := state.watcher
  sessions other := if other = id then state.sessions id else none
  requests request := (state.requests request).filter fun stage => stage.session? = some id

/-- These actions concern a session. A request may, if its path ends with the session's name. -/
def concerns (id : String) : Action → Bool
  | .receive _ _ path _ =>
      (sendPath ++ id.toList).isSuffixOf path.toList ||
        (streamPath ++ id.toList).isSuffixOf path.toList
  | .openStream _ other _ | .collect _ other .. | .reach _ other _ | .relay other .. => other = id
  | .reload _ => true

section Only
variable {id : String} {state : State} {request : Nat} {stage : Stage}

@[simp] theorem only_watcher : (state.only id).watcher = state.watcher := rfl

@[simp] theorem only_sessions : (state.only id).sessions id = state.sessions id := if_pos rfl

theorem only_requests (found : state.requests request = some stage)
    (own : stage.session? = some id) : (state.only id).requests request = some stage := by
  simp [State.only, found, own]

/-- A stage of the session's own is kept. -/
theorem only_place (own : stage.session? = some id) :
    (state.place request stage).only id = (state.only id).place request stage := by
  simp only [State.place, State.only, State.mk.injEq, true_and]
  funext other
  by_cases same : other = request
  · subst same
    simp [own]
  · simp [Function.update_of_ne same]

/-- A stage of another session takes the place of another one. -/
theorem only_place_other (before : ∀ found ∈ state.requests request, found.session? ≠ some id)
    (other : stage.session? ≠ some id) : (state.place request stage).only id = state.only id := by
  simp only [State.place, State.only, State.mk.injEq, true_and]
  funext number
  by_cases same : number = request
  · subst same
    cases found : state.requests number with
    | none => simp [Option.filter, other]
    | some stage => simp [Option.filter, other, before stage found]
  · simp [Function.update_of_ne same]

theorem only_keep (session : Session) :
    (state.keep id session).only id = (state.only id).keep id session := by
  simp only [State.keep, State.only, State.mk.injEq, true_and, and_true]
  funext other
  by_cases same : other = id
  · subst same
    simp
  · simp [same]

theorem only_keep_other {other : String} (apart : other ≠ id) (session : Session) :
    (state.keep other session).only id = state.only id := by
  simp only [State.keep, State.only, State.mk.injEq, true_and, and_true]
  funext name
  rw [Function.update_of_ne apart.symm]

theorem only_answer (crypto : Instance String) (response : Response) :
    (state.answer request id crypto response).only id =
      (state.only id).answer request id crypto response := only_place rfl

theorem only_answer_other {other : String} (apart : other ≠ id) (crypto : Instance String)
    (response : Response) (found : state.requests request = some stage)
    (own : stage.session? = some other) :
    (state.answer request other crypto response).only id = state.only id := by
  apply only_place_other
  · simp [found, own, apart]
  · simp [Stage.session?, apart]

/-- A request that is handled for a session ends with the session's name. -/
theorem begin_session {hot : HotServerConfig} {files : String → Option String} {method : Method}
    {path : String}
    (own : (begin hot files (route hot.pathPrefix method path)).session? = some id) :
    (sendPath ++ id.toList).isSuffixOf path.toList = true ∨
      (streamPath ++ id.toList).isSuffixOf path.toList = true := by
  simp only [List.isSuffixOf_iff_suffix]
  cases routed : route hot.pathPrefix method path with
  | send other =>
      rw [routed, begin, Stage.session?, Option.some.injEq] at own
      subst own
      exact .inl (route_send_iff.mp routed).2.suffix
  | stream other =>
      rw [routed, begin, Stage.session?, Option.some.injEq] at own
      subst own
      exact .inr (route_stream_iff.mp routed).2.suffix
  | health | root | notFound =>
      rw [routed] at own
      cases own

variable {Key : Type} {aead : Aead Key} {overrides : CliOverrides} {next : State} {action : Action}

theorem only_handleMessage {session : Session} (hot : HotServerConfig) (world : World)
    (message : Message) :
    (state.handleMessage aead request id session hot world message).only id =
      (state.only id).handleMessage aead request id session hot world message := by
  rw [State.handleMessage, only_answer, only_keep]
  rfl

/-- An action that concerns another session leaves this one alone. -/
theorem only_unconcerned (other : concerns id action = false)
    (moved : step aead overrides state action = some next) : next.only id = state.only id := by
  cases step_move moved with
  | receive fresh =>
      apply only_place_other
      · simp [fresh]
      · intro own
        rw [concerns, Bool.or_eq_false_iff] at other
        rcases begin_session own with named | named
        · exact absurd named (by simp [other.1])
        · exact absurd named (by simp [other.2])
  | streamAgain opening =>
      exact only_answer_other (by simpa [concerns] using other) _ _ opening rfl
  | @streamNew _ name _ opening =>
      have apart : name ≠ id := by simpa [concerns] using other
      rw [only_answer_other apart _ _ (by exact opening) rfl, only_keep_other apart]
  | badRequest reading | turnedAway reading =>
      exact only_answer_other (by simpa [concerns] using other) _ _ reading rfl
  | unread reading =>
      exact only_answer_other (by simpa [concerns] using other) _ _ reading rfl
  | @connects _ name _ _ _ _ _ _ reading =>
      have apart : name ≠ id := by simpa [concerns] using other
      exact only_place_other (by simp [reading, Stage.session?, apart]) (by simp [Stage.session?, apart])
  | @handles _ name _ _ _ _ reading =>
      have apart : name ≠ id := by simpa [concerns] using other
      rw [State.handleMessage, only_answer_other apart _ _ (by exact reading) rfl,
        only_keep_other apart]
  | @reaches _ name _ _ _ _ _ _ connecting =>
      have apart : name ≠ id := by simpa [concerns] using other
      rw [State.handleMessage, only_answer_other apart _ _ (by exact connecting) rfl,
        only_keep_other apart]
  | relay => exact only_keep_other (by simpa [concerns] using other) _
  | reload => cases other

@[simp] theorem only_only : (state.only id).only id = state.only id := by
  simp [State.only]

/-- A message is handled from what belongs to its session. -/
theorem only_handleSend (body : Bytes) (world : World) :
    ((state.only id).handleSend aead request id body world).only id =
      (state.handleSend aead request id body world).only id := by
  simp only [State.handleSend, only_sessions, only_watcher]
  cases state.sessions id with
  | none => simp only [only_answer, only_only]
  | some session =>
      dsimp only
      cases decrypt aead state.watcher.hot.crypto body with
      | none => simp only [only_answer, only_only]
      | some plaintext =>
          dsimp only
          split
          · simp only [only_answer, only_only]
          · rw [only_place rfl, only_place rfl, only_only]
          · simp only [only_handleMessage, only_only]

/-- What belongs to the session decides how an action that concerns it moves it. -/
theorem only_concerned (own : concerns id action = true)
    (moved : step aead overrides state action = some next) :
    (step aead overrides (state.only id) action).map (State.only id) = some (next.only id) := by
  have answered (request : Nat) (crypto : Instance String) (response : Response) :
      ((state.only id).answer request id crypto response).only id =
        (state.answer request id crypto response).only id := by
    rw [only_answer, only_answer, only_only]
  have handled (request : Nat) (session : Session) (hot : HotServerConfig) (world : World)
      (message : Message) :
      ((state.only id).handleMessage aead request id session hot world message).only id =
        (state.handleMessage aead request id session hot world message).only id := by
    rw [only_handleMessage, only_handleMessage, only_only]
  have read (request : Nat) (body : Bytes) (world : World)
      (reading : state.requests request = some (.reading id))
      (moved : step aead overrides state (.collect request id (some body) world) = some next) :
      (step aead overrides (state.only id) (.collect request id (some body) world)).map
        (State.only id) = some (next.only id) := by
    simp only [step, reading, if_true, Option.some.injEq] at moved
    simp [step, only_requests reading rfl, only_handleSend, moved]
  cases step_move moved with
  | @receive request method path files fresh =>
      have still : (state.only id).requests request = none := by simp [State.only, fresh]
      simp only [step, still, Option.map_some, only_watcher, Option.some.injEq]
      by_cases session : (begin state.watcher.hot files
          (route state.watcher.hot.pathPrefix method path)).session? = some id
      · rw [only_place session, only_place session, only_only]
      · rw [only_place_other (by simp [still]) session, only_place_other (by simp [fresh]) session,
          only_only]
  | @streamAgain _ name _ _ opening known =>
      obtain rfl : name = id := by simpa [concerns] using own
      simp [step, only_requests opening rfl, State.handleStream, known, answered]
  | @streamNew _ name _ opening unknown =>
      obtain rfl : name = id := by simpa [concerns] using own
      simp [step, only_requests opening rfl, State.handleStream, unknown, only_answer, only_keep]
  | @badRequest _ name _ reading =>
      obtain rfl : name = id := by simpa [concerns] using own
      simp [step, only_requests reading rfl, answered]
  | @turnedAway _ name _ _ reading unknown =>
      obtain rfl : name = id := by simpa [concerns] using own
      simp [step, only_requests reading rfl, State.handleSend, unknown, answered]
  | @unread _ name _ _ _ _ reading =>
      obtain rfl : name = id := by simpa [concerns] using own
      exact read _ _ _ reading moved
  | @connects _ name _ _ _ _ _ _ reading =>
      obtain rfl : name = id := by simpa [concerns] using own
      exact read _ _ _ reading moved
  | @handles _ name _ _ _ _ reading =>
      obtain rfl : name = id := by simpa [concerns] using own
      exact read _ _ _ reading moved
  | @reaches _ name _ _ _ _ _ _ connecting known =>
      obtain rfl : name = id := by simpa [concerns] using own
      simp [step, only_requests connecting rfl, known, handled]
  | @relay name _ _ _ registry known stepped =>
      obtain rfl : name = id := by simpa [concerns] using own
      simp [step, known, stepped, only_keep]
  | reload => simp [step, State.only]

/-- A session, its requests and their answers depend on nothing that concerns other sessions only. Two
runs that agree on what concerns the session leave it alike, whatever the other sessions do. -/
theorem sessions_isolated {hot : HotServerConfig} {actions others : List Action} {final other : State}
    (same : actions.filter (concerns id) = others.filter (concerns id))
    (ran : Machine.run (step aead overrides) (start hot) actions = some final)
    (also : Machine.run (step aead overrides) (start hot) others = some other) :
    final.only id = other.only id := by
  refine Machine.run_view (State.only id) only_unconcerned ?_ rfl same ran also
  intro first second action next later own alike moved repeated
  have once := only_concerned own moved
  have twice := only_concerned own repeated
  rw [alike, twice] at once
  exact (Option.some.inj once).symm

end Only

/-- Another session opens, and a command is started for it under the same `conn_id`. -/
def otherActions : List Action :=
  [.receive 8 .get "/stream/b" fun _ => none, .openStream 8 "b" ⟨0, Vector.replicate 4 0⟩,
    .receive 9 .post "/send/b" fun _ => none,
    .collect 9 "b" (some (marked 6 (.exec 7 none 80 24 ""))) sampleWorld]

theorem sessions_isolated_of_two_sessions : ∃ final other,
    Machine.run (step marking sampleOverrides) (start sampleHot) sampleActions = some final ∧
      Machine.run (step marking sampleOverrides) (start sampleHot) (otherActions ++ sampleActions) =
        some other ∧
      final.only "a" = other.only "a" ∧ (final.sessions "b").isNone = true ∧
      (other.sessions "b").isSome = true := by
  have alone : ((Machine.run (step marking sampleOverrides) (start sampleHot) sampleActions).map
      fun state => (state.sessions "b").isNone) = some true := by decide +kernel
  have both : ((Machine.run (step marking sampleOverrides) (start sampleHot)
      (otherActions ++ sampleActions)).map fun state => (state.sessions "b").isSome) =
        some true := by decide +kernel
  obtain ⟨final, ran, unknown⟩ := Option.map_eq_some_iff.mp alone
  obtain ⟨other, also, known⟩ := Option.map_eq_some_iff.mp both
  have same : sampleActions.filter (concerns "a") =
      (otherActions ++ sampleActions).filter (concerns "a") := by
    rw [List.filter_append]
    rfl
  exact ⟨final, other, ran, also, sessions_isolated same ran also, unknown, known⟩

end Tunnix.Endpoint
