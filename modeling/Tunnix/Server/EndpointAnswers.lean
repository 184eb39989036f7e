import Tunnix.Server.EndpointRecord

namespace Tunnix.Endpoint

/-- A stream of the session has been opened. -/
def opened (id : String) (actions : List Action) : Bool :=
  actions.any fun
    | .openStream _ other _ => other = id
    | .receive .. | .collect .. | .reach .. | .relay .. | .reload _ => false

/-- The message that a client reads from an answer under its key. -/
def told {Key : Type} (aead : Aead Key) (key : Key) (response : Response) : Option Message :=
  match response.content with
  | .full data => openMessage aead key data
  | .events _ => none

/-- The effect of a request for a session. -/
def State.effectOf (state : State) (id : String) (request : Nat) : Option Effect :=
  (state.sessions id).bind fun session =>
    (session.effects.find? (·.1 = request)).map Prod.snd

/-- An answer tells the truth about the effect of its request. -/
structure Honest {Key : Type} (aead : Aead Key) (key : Key) (effect : Option Effect)
    (response : Response) : Prop where
  acked : ∀ {connId}, told aead key response = some (.data connId []) →
    ∃ done ∈ effect, done.attached = true ∧ done.connId = connId
  refused : ∀ {connId text}, told aead key response = some (.error (some connId) text) →
    ∀ done ∈ effect, done.attached = false ∧ done.connId = connId
  attached : ∀ done ∈ effect, done.attached = true →
    told aead key response = some (.data done.connId []) ∨ response = okResponse "error"

/-- The text of an error fits into a message. -/
def Sized (error : String) : Prop := error.toUTF8.data.toList.length < 2 ^ 62

/-- The errors of the system fit into a message. -/
def World.Sized (world : World) : Prop :=
  (∀ error, world.target = .error error → Endpoint.Sized error) ∧
    match world.setup with
    | .ready => True
    | .openptyFails error | .spawnFails error | .takeWriterFails error => Endpoint.Sized error

def Action.Sized : Action → Prop
  | .collect _ _ _ world | .reach _ _ world => world.Sized
  | .receive .. | .openStream .. | .relay .. | .reload _ => True

section Known
variable {Key : Type} {aead : Aead Key} {overrides : CliOverrides} {hot : HotServerConfig}
  {state next : State} {action : Action} {actions : List Action} {id : String}

theorem opened_append (id : String) (actions : List Action) (action : Action) :
    opened id (actions ++ [action]) = (opened id actions || opened id [action]) := by
  simp [opened]

/-- A session is known from its first stream on. -/
theorem known_step (moved : step aead overrides state action = some next) (id : String) :
    (next.sessions id).isSome = ((state.sessions id).isSome || opened id [action]) := by
  have same : ∀ {name : String} {session : Session}, (state.sessions name).isSome = true →
      ((state.keep name session).sessions id).isSome = (state.sessions id).isSome := by
    intro name session known
    by_cases own : id = name
    · subst own
      simp [known]
    · simp [own]
  cases step_move moved with
  | receive | badRequest | turnedAway | unread | connects | reload => simp [opened]
  | @streamAgain _ name _ _ opening known =>
      by_cases own : name = id
      · subst own
        simp [known]
      · simp [opened, own]
  | @streamNew _ name =>
      by_cases own : id = name
      · subst own
        simp [opened]
      · simp [opened, own, Ne.symm own]
  | handles _ known => simpa [State.handleMessage, opened] using same (by simp [known])
  | reaches _ known => simpa [State.handleMessage, opened] using same (by simp [known])
  | relay known => simpa [opened] using same (by simp [known])

theorem known_run (ran : Machine.run (step aead overrides) (start hot) actions = some state)
    (id : String) : (state.sessions id).isSome = opened id actions := by
  refine Machine.run_history
    (fun history (reached : State) => (reached.sessions id).isSome = opened id history) ?_ rfl ran
  intro history reached action next earlier moved
  rw [known_step moved id, earlier, opened_append]

/-- The first stream of a session, and no other, begins with a `Reset`. A request is turned away with
the status 503 exactly when no stream of its session has been opened. -/
theorem session_known
    (ran : Machine.run (step aead overrides) (start hot) actions = some state)
    (moved : step aead overrides state action = some next) :
    (∀ request id draw, action = .openStream request id draw →
      ∃ handled, next.requests request = some (.answered handled (streamResponse
        (if opened id actions then []
          else (makeEncryptedResponse aead state.watcher.hot.crypto draw .reset).toList)))) ∧
    ∀ request id body world, action = .collect request id (some body) world →
      ((∃ handled response, next.requests request = some (.answered handled response) ∧
        response.status = .serviceUnavailable) ↔ opened id actions = false) := by
  have known := known_run ran
  have fine {crypto : Instance String} {draw : Draw} (reply : Reply) :
      (respond aead crypto draw reply).status = .ok := by
    cases reply with
    | text => rfl
    | message =>
        simp only [respond, encryptedResponse]
        split <;> rfl
    | pong =>
        simp only [respond, pongResponse]
        split <;> rfl
  refine ⟨?_, ?_⟩
  · rintro request id draw rfl
    rw [← known id]
    cases step_move moved with
    | streamAgain opening there => exact ⟨some (id, state.watcher.hot.crypto), by simp [there]⟩
    | streamNew opening unknown => exact ⟨some (id, state.watcher.hot.crypto), by simp [unknown]⟩
  · rintro request id body world rfl
    rw [← known id]
    cases step_move moved with
    | turnedAway reading unknown =>
        refine iff_of_true ⟨_, _, answer_self .., rfl⟩ (by simp [unknown])
    | unread reading there =>
        refine iff_of_false ?_ (by simp [there])
        rintro ⟨handled, response, same, status⟩
        simp only [answer_self, Option.some.injEq, Stage.answered.injEq] at same
        rw [← same.2] at status
        cases status
    | connects reading there =>
        refine iff_of_false ?_ (by simp [there])
        rintro ⟨handled, response, same, -⟩
        simp at same
    | handles reading there =>
        refine iff_of_false ?_ (by simp [there])
        rintro ⟨handled, response, same, status⟩
        simp only [State.handleMessage, answer_self, Option.some.injEq, Stage.answered.injEq] at same
        rw [← same.2, fine] at status
        cases status

end Known

section Honest
variable {Key : Type} {aead : Aead Key} {key : Key} {hot : HotServerConfig} {world : World}
  {message : Message} {response : Response}

/-- A text is too short to be opened. -/
theorem openMessage_short {data : Bytes} (short : data.length < nonceSize + tagSize) :
    openMessage aead key data = none := by
  simp [openMessage, Crypto.decrypt, short]

theorem told_okResponse {text : String}
    (short : text.toUTF8.data.toList.length < nonceSize + tagSize) :
    told aead key (okResponse text) = none := openMessage_short short

theorem told_unavailable {text : String}
    (short : text.toUTF8.data.toList.length < nonceSize + tagSize) :
    told aead key (serviceUnavailableResponse text) = none := openMessage_short short

/-- An answer that tells nothing suits a request without effect. -/
theorem Honest.silent (silent : told aead key response = none) : Honest aead key none response where
  acked acked := by simp [silent] at acked
  refused _ done member := by cases member
  attached done member := by cases member

/-- What was encrypted is opened. -/
theorem openMessage_made (correct : aead.Correct) {crypto : Instance String}
    (derived : aead.deriveKey crypto.source = .ok key) {draw : Draw} {data : Bytes}
    (allocated : Wire.AllocatedMessage message)
    (made : makeEncryptedResponse aead crypto draw message = some data) :
    openMessage aead key data = some message := by
  refine open_sealed correct allocated ⟨draw.counter, draw.random, ?_⟩
  simp only [makeEncryptedResponse, derived] at made
  cases encrypted : (Crypto.encrypt aead.toPrimitives ⟨key, draw.counter⟩ draw.random
      (Wire.toBytes message)).1 with
  | error => simp [encrypted, Except.toOption] at made
  | ok sealed_ =>
      rw [encrypted] at made
      exact congrArg Except.ok (Option.some.inj made)

/-- An encrypted answer tells its message, unless the encryption has failed. -/
theorem told_encryptedResponse (correct : aead.Correct) {crypto : Instance String}
    (derived : aead.deriveKey crypto.source = .ok key) (draw : Draw)
    (allocated : Wire.AllocatedMessage message) :
    told aead key (encryptedResponse aead crypto draw message) = some message ∨
      encryptedResponse aead crypto draw message = okResponse "error" := by
  unfold encryptedResponse
  cases made : makeEncryptedResponse aead crypto draw message with
  | none => exact .inr rfl
  | some data => exact .inl (openMessage_made correct derived allocated made)

/-- An error with a short text in front fits into a message. -/
theorem allocated_error {error : String} (sized : Sized error) (connId : ConnId) (front : String)
    (short : front.toUTF8.data.toList.length < 2 ^ 62) :
    Wire.AllocatedMessage (.error (some connId) (front ++ error)) := by
  unfold Sized at sized
  simp only [Wire.AllocatedMessage, Wire.AllocatedText, Wire.Allocated]
  have whole : (front ++ error).toUTF8.data.toList.length =
      front.toUTF8.data.toList.length + error.toUTF8.data.toList.length := by
    simp
  omega

/-- An error is told to a request that has no effect, or a command without its terminal. -/
theorem Honest.error (correct : aead.Correct) {crypto : Instance String}
    (derived : aead.deriveKey crypto.source = .ok key) (draw : Draw) {connId : ConnId}
    {text : String} (allocated : Wire.AllocatedMessage (.error (some connId) text))
    {effect : Option Effect}
    (apart : ∀ done ∈ effect, done.attached = false ∧ done.connId = connId) :
    Honest aead key effect (encryptedResponse aead crypto draw (.error (some connId) text)) := by
  have silent : told aead key (okResponse "error") = none := told_okResponse (by decide)
  rcases told_encryptedResponse correct derived draw allocated with tells | failed
  · refine ⟨fun acked => ?_, fun refused done member => ?_, fun done member attached => ?_⟩
    · rw [tells] at acked
      cases acked
    · rw [tells] at refused
      cases refused
      exact apart done member
    · rw [(apart done member).1] at attached
      cases attached
  · rw [failed]
    refine ⟨fun acked => ?_, fun refused => ?_, fun _ _ _ => .inr rfl⟩
    · rw [silent] at acked
      cases acked
    · rw [silent] at refused
      cases refused

/-- An attached effect is acknowledged. -/
theorem Honest.ack (correct : aead.Correct) {crypto : Instance String}
    (derived : aead.deriveKey crypto.source = .ok key) (draw : Draw) {effect : Effect}
    (attached : effect.attached = true) :
    Honest aead key (some effect)
      (encryptedResponse aead crypto draw (.data effect.connId [])) := by
  have silent : told aead key (okResponse "error") = none := told_okResponse (by decide)
  have allocated : Wire.AllocatedMessage (.data effect.connId []) := by
    simp [Wire.AllocatedMessage, Wire.Allocated]
  rcases told_encryptedResponse correct derived draw allocated with tells | failed
  · refine ⟨fun acked => ?_, fun refused => ?_, fun done member _ => ?_⟩
    · rw [tells] at acked
      cases acked
      exact ⟨effect, rfl, attached, rfl⟩
    · rw [tells] at refused
      cases refused
    · cases member
      exact .inl tells
  · rw [failed]
    refine ⟨fun acked => ?_, fun refused => ?_, fun _ _ _ => .inr rfl⟩
    · rw [silent] at acked
      cases acked
    · rw [silent] at refused
      cases refused

/-- The reply to a message tells the truth about its effect. -/
theorem Honest.handle (correct : aead.Correct)
    (derived : aead.deriveKey hot.crypto.source = .ok key) (sized : world.Sized) :
    Honest aead key (handle hot world message).1
      (respond aead hot.crypto world.draw (handle hot world message).2) := by
  have denied {connId : ConnId} {text : String}
      (short : text.toUTF8.data.toList.length < 2 ^ 62) :
      Honest aead key none (respond aead hot.crypto world.draw
        (.message (.error (some connId) text))) := by
    refine Honest.error correct derived world.draw ?_ (by simp)
    simp only [Wire.AllocatedMessage, Wire.AllocatedText, Wire.Allocated]
    omega
  cases message with
  | connect connId host port =>
      unfold Endpoint.handle
      dsimp only
      split
      · exact Honest.ack correct derived world.draw rfl
      · next error failed =>
          exact Honest.error correct derived world.draw
            (allocated_error (sized.1 error failed) connId _ (by decide)) (by simp)
  | exec connId cmd cols rows term =>
      have errors := sized.2
      unfold Endpoint.handle
      dsimp only
      split
      · split
        · next error failed =>
            rw [failed] at errors
            exact Honest.error correct derived world.draw
              (allocated_error errors connId _ (by decide)) (by simp)
        · next error failed =>
            rw [failed] at errors
            exact Honest.error correct derived world.draw
              (allocated_error errors connId _ (by decide)) (by simp)
        · next error failed =>
            rw [failed] at errors
            exact Honest.error correct derived world.draw
              (allocated_error errors connId _ (by decide)) (by simp [Effect.attached, Effect.connId])
        · exact Honest.ack correct derived world.draw rfl
      · exact denied (by decide)
  | pull connId paths level =>
      unfold Endpoint.handle
      dsimp only
      split
      · exact Honest.ack correct derived world.draw rfl
      · exact denied (by decide)
  | push connId path =>
      unfold Endpoint.handle
      dsimp only
      split
      · exact Honest.ack correct derived world.draw rfl
      · exact denied (by decide)
  | ping =>
      have tells : told aead key (pongResponse aead hot.crypto world.draw) = some .pong ∨
          pongResponse aead hot.crypto world.draw = okResponse "" := by
        unfold pongResponse
        cases made : makeEncryptedResponse aead hot.crypto world.draw .pong with
        | none => exact .inr rfl
        | some data => exact .inl (openMessage_made correct derived trivial made)
      rcases tells with tells | failed
      · refine ⟨fun acked => ?_, fun refused => ?_, fun _ member => ?_⟩
        · cases tells.symm.trans acked
        · cases tells.symm.trans refused
        · cases member
      · refine Honest.silent ?_
        rw [Endpoint.handle, respond, failed]
        exact told_okResponse (by decide)
  | _ => exact Honest.silent (told_okResponse (by decide))

end Honest

section Truthful
variable {Key : Type} {aead : Aead Key} {overrides : CliOverrides} {hot : HotServerConfig}
  {state next : State} {action : Action} {actions : List Action} {id : String} {request : Nat}

/-- Every answer for a session is honest, and a request that is not answered has no effect. -/
structure Truthful (aead : Aead Key) (state : State) : Prop where
  honest : ∀ {request id crypto response key},
    state.requests request = some (.answered (some (id, crypto)) response) →
      aead.deriveKey crypto.source = .ok key →
        Honest aead key (state.effectOf id request) response
  done : ∀ {request id effect}, state.effectOf id request = some effect →
    ∃ handled response, state.requests request = some (.answered handled response)

theorem Truthful.start : Truthful aead (start hot) where
  honest answered := by cases answered
  done effect := by cases effect

/-- An unanswered request has no effect. -/
theorem Truthful.effectless (truthful : Truthful aead state) {stage : Stage}
    (found : state.requests request = some stage)
    (waits : ∀ handled response, stage ≠ .answered handled response) (id : String) :
    state.effectOf id request = none := by
  cases effect : state.effectOf id request with
  | none => rfl
  | some done =>
      obtain ⟨handled, response, answered⟩ := truthful.done effect
      exact absurd answered (unanswered_of found waits handled response)

/-- A request moves on without an effect. -/
theorem Truthful.place (truthful : Truthful aead state) {stage : Stage}
    (effectless : ∀ id, state.effectOf id request = none)
    (silent : ∀ id crypto response key, stage = .answered (some (id, crypto)) response →
      told aead key response = none) : Truthful aead (state.place request stage) where
  honest {other id crypto response key} answered derived := by
    by_cases same : other = request
    · subst same
      rw [place_self, Option.some.injEq] at answered
      have none_ : (state.place other stage).effectOf id other = none := effectless id
      rw [none_]
      exact .silent (silent _ _ _ _ answered)
    · rw [place_of_ne _ _ _ same] at answered
      exact truthful.honest answered derived
  done {other id effect} found := by
    by_cases same : other = request
    · subst same
      exact absurd (found.symm.trans (effectless id)) (by simp)
    · rw [place_of_ne _ _ _ same]
      exact truthful.done found

/-- A session whose effects stay is kept. -/
theorem Truthful.keep (truthful : Truthful aead state) {session : Session}
    (same : ∀ request, (state.keep id session).effectOf id request = state.effectOf id request) :
    Truthful aead (state.keep id session) := by
  have kept (name : String) (request : Nat) :
      (state.keep id session).effectOf name request = state.effectOf name request := by
    by_cases own : name = id
    · exact own ▸ same request
    · simp [State.effectOf, own]
  refine ⟨fun answered derived => ?_, fun found => ?_⟩
  · rw [kept]
    exact truthful.honest answered derived
  · exact truthful.done ((kept _ _).symm.trans found)

/-- A request that is handled gets its effect. -/
theorem effectOf_handleMessage {session : Session} (known : state.sessions id = some session)
    (effectless : state.effectOf id request = none) (config : HotServerConfig) (world : World)
    (message : Message) (name : String) (other : Nat) :
    (state.handleMessage aead request id session config world message).effectOf name other =
      if name = id ∧ other = request then (handle config world message).1
      else state.effectOf name other := by
  have absent : session.effects.find? (fun entry => decide (entry.1 = request)) = none := by
    simpa [State.effectOf, known] using effectless
  by_cases own : name = id
  · subst own
    simp only [State.effectOf, State.handleMessage, answer_sessions, keep_self, known,
      Option.bind_some, Session.apply, List.find?_append, true_and]
    by_cases same : other = request
    · subst same
      rw [absent, if_pos rfl]
      cases (handle config world message).1 <;> simp
    · rw [if_neg same]
      cases (handle config world message).1 <;> simp [Ne.symm same]
  · simp [State.effectOf, State.handleMessage, own]

/-- A message is handled honestly. -/
theorem Truthful.handle (correct : aead.Correct) (truthful : Truthful aead state)
    {session : Session} (known : state.sessions id = some session)
    (effectless : ∀ id, state.effectOf id request = none) (config : HotServerConfig) {world : World}
    (sized : world.Sized) (message : Message) :
    Truthful aead (state.handleMessage aead request id session config world message) := by
  have effect (name : String) (other : Nat) :
      (state.handleMessage aead request id session config world message).effectOf name other =
        if name = id ∧ other = request then (Endpoint.handle config world message).1
        else state.effectOf name other :=
    effectOf_handleMessage known (effectless id) config world message name other
  refine ⟨fun {other name crypto response key} answered derived => ?_,
    fun {other name done} found => ?_⟩
  · by_cases same : other = request
    · subst same
      simp only [State.handleMessage, answer_self, Option.some.injEq, Stage.answered.injEq,
        Prod.mk.injEq] at answered
      obtain ⟨⟨rfl, rfl⟩, rfl⟩ := answered
      rw [effect, if_pos ⟨rfl, rfl⟩]
      exact .handle correct derived sized
    · rw [effect, if_neg fun both => same both.2]
      exact truthful.honest ((answer_of_ne _ _ _ _ _ same).symm.trans answered) derived
  · by_cases same : other = request
    · subst same
      exact ⟨_, _, answer_self ..⟩
    · rw [effect, if_neg fun both => same both.2] at found
      obtain ⟨handled, response, answered⟩ := truthful.done found
      exact ⟨handled, response, (answer_of_ne _ _ _ _ _ same).trans answered⟩

theorem Truthful.step (correct : aead.Correct) (truthful : Truthful aead state)
    (sized : action.Sized) (moved : step aead overrides state action = some next) :
    Truthful aead next := by
  cases step_move moved with
  | @receive request method path files fresh =>
      have effectless (id : String) : state.effectOf id request = none := by
        cases effect : state.effectOf id request with
        | none => rfl
        | some done =>
            obtain ⟨handled, response, answered⟩ := truthful.done effect
            exact absurd (fresh.symm.trans answered) (by simp)
      refine truthful.place effectless ?_
      intro id crypto response key same
      unfold begin at same
      split at same <;> cases same
  | streamAgain opening known =>
      refine truthful.place (truthful.effectless opening (by simp)) ?_
      rintro _ _ _ _ ⟨⟩
      rfl
  | @streamNew request id draw opening unknown =>
      have fresh : Truthful aead (state.keep id .new) :=
        truthful.keep fun request => by simp [State.effectOf, unknown, Session.new]
      refine fresh.place (fresh.effectless (by exact opening) (by simp)) ?_
      rintro _ _ _ _ ⟨⟩
      rfl
  | badRequest reading =>
      refine truthful.place (truthful.effectless reading (by simp)) ?_
      rintro _ _ _ _ ⟨⟩
      exact told_okResponse (by decide)
  | turnedAway reading =>
      refine truthful.place (truthful.effectless reading (by simp)) ?_
      rintro _ _ _ _ ⟨⟩
      exact told_unavailable (by decide)
  | unread reading _ _ said =>
      refine truthful.place (truthful.effectless reading (by simp)) ?_
      rintro _ _ _ _ ⟨⟩
      rcases said with rfl | rfl
      · exact told_okResponse (by decide)
      · exact told_okResponse (by decide)
  | connects reading =>
      exact truthful.place (truthful.effectless reading (by simp)) (by simp)
  | handles reading known =>
      exact truthful.handle correct known (truthful.effectless reading (by simp)) _ sized _
  | reaches connecting known =>
      exact truthful.handle correct known (truthful.effectless connecting (by simp)) _ sized _
  | relay known => exact truthful.keep fun request => by simp [State.effectOf, known]
  | reload => exact ⟨truthful.honest, truthful.done⟩

/-- An answer tells the truth. A client that reads an acknowledgement of its `conn_id` has a relay or a
transfer there, one that reads an error has none, and one whose relay was started reads the
acknowledgement, unless its encryption has failed. -/
theorem answers_truthful (correct : aead.Correct)
    (ran : Machine.run (Endpoint.step aead overrides) (Endpoint.start hot) actions = some state)
    (sized : ∀ action ∈ actions, action.Sized) {crypto : Instance String} {response : Response}
    {key : Key} (answered : state.requests request = some (.answered (some (id, crypto)) response))
    (derived : aead.deriveKey crypto.source = .ok key) :
    Honest aead key (state.effectOf id request) response := by
  have along : Machine.Along (Endpoint.step aead overrides) (fun _ action => action.Sized)
      (Endpoint.start hot) actions := (Machine.along_forall_iff ran).mpr sized
  have truthful : Truthful aead state := Machine.run_along
    (fun earlier sized moved => Truthful.step correct earlier sized moved) Truthful.start along ran
  exact truthful.honest answered derived

end Truthful

/-- The answer of a request that was handled for a session. -/
def Stage.answer? : Stage → Option ((String × Instance String) × Response)
  | .answered handled response => handled.map fun handled => (handled, response)
  | .reading _ | .opening _ | .connecting .. => none

/-- The second request of the run is acknowledged. -/
theorem answers_truthful_of_exec : ∃ state response,
    Machine.run (step marking sampleOverrides) (start sampleHot) sampleActions = some state ∧
      state.requests 1 = some (.answered (some ("a", ⟨0, "secret"⟩)) response) ∧
      told marking 6 response = some (.data 7 []) ∧
      Honest marking 6 (state.effectOf "a" 1) response := by
  have evaluated : (((Machine.run (step marking sampleOverrides) (start sampleHot)
      sampleActions).bind fun state => (state.requests 1).map fun stage =>
        stage.answer?.map fun answer => (answer.1, told marking 6 answer.2))) =
          some (some (("a", ⟨0, "secret"⟩), some (.data 7 []))) := by
    decide +kernel
  obtain ⟨state, ran, found⟩ := Option.bind_eq_some_iff.mp evaluated
  obtain ⟨stage, answered, reads⟩ := Option.map_eq_some_iff.mp found
  obtain ⟨⟨handled, response⟩, same, both⟩ := Option.map_eq_some_iff.mp reads
  rw [Prod.mk.injEq] at both
  obtain ⟨rfl, tells⟩ := both
  cases stage with
  | answered handled' response' =>
      obtain ⟨owner, rfl, pair⟩ := Option.map_eq_some_iff.mp same
      cases pair
      refine ⟨state, response, ran, answered, tells, ?_⟩
      refine answers_truthful marking_correct ran ?_ answered rfl
      simp [sampleActions, Action.Sized, World.Sized, sampleWorld, Sized]
      decide
  | reading | opening | connecting => cases same

/-- The first stream of the session is greeted. -/
theorem session_known_of_stream : ∃ state next,
    Machine.run (step marking sampleOverrides) (start sampleHot) (sampleActions.take 1) =
        some state ∧
      step marking sampleOverrides state (.openStream 0 "a" ⟨0, Vector.replicate 4 0⟩) = some next ∧
      ∃ handled, next.requests 0 = some (.answered handled (streamResponse
        (makeEncryptedResponse marking state.watcher.hot.crypto ⟨0, Vector.replicate 4 0⟩
          .reset).toList)) := by
  have early : (Machine.run (step marking sampleOverrides) (start sampleHot)
      (sampleActions.take 1 ++ [.openStream 0 "a" ⟨0, Vector.replicate 4 0⟩])).isSome = true := by
    decide +kernel
  obtain ⟨next, both⟩ := Option.isSome_iff_exists.mp early
  obtain ⟨state, ran, later⟩ := Machine.run_append.mp both
  obtain ⟨after, moved, -⟩ := Machine.run_cons.mp later
  exact ⟨state, after, ran, moved, (session_known ran moved).1 0 "a" _ rfl⟩

end Tunnix.Endpoint
