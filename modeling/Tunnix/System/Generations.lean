import Tunnix.Client.Rotation

namespace Tunnix.Generations
variable {Key : Type}

/-- A generation of the client's configuration is a hot config with the session id of its rotation. -/
structure Generation where
  hot : HotClientConfig
  sessionId : UInt64
deriving DecidableEq

/-- A POST carries a body under a key to a session of a server. -/
structure Attempt where
  crypto : Instance String
  serverBaseUrl : String
  httpClient : Instance Headers
  sessionId : UInt64
deriving DecidableEq

/-- A POST of one generation takes everything from it. -/
def Generation.attempt (generation : Generation) : Attempt :=
  ⟨generation.hot.crypto, generation.hot.serverBaseUrl, generation.hot.httpClient,
    generation.sessionId⟩

/-- A request reads the session id, loads the hot config for its POST, and awaits the answer. The
first failure leads back to the session id once, after a wait. A reply of `send_connect` is decrypted
at the end. The hot config of an addressed request records what was in force when its id was read. -/
inductive Progress where
  | resolving (retry : Bool)
  | addressed (retry : Bool) (sessionId : UInt64) (hot : HotClientConfig)
  | posting (retry : Bool) (attempt : Attempt)
  | answered (attempt : Attempt)
  | ended
deriving DecidableEq

/-- `send_message` encrypts its body once, and `send_connect` is a `send_message` with a reply. -/
structure Request where
  connect : Bool
  crypto : Instance String
  progress : Progress
deriving DecidableEq

/-- A reply of `send_connect` answers an attempt and is decrypted with a key. -/
structure Reply where
  attempt : Attempt
  crypto : Instance String
deriving DecidableEq

/-- Any number of requests share the client's configuration. The lists record the generations so far,
the POSTs and the decrypted replies. -/
structure State where
  rotation : Rotation.State
  generations : List Generation
  requests : List Request
  attempts : List Attempt
  replies : List Reply
deriving DecidableEq

def State.start (hot : HotClientConfig) (sessionId : UInt64) : State :=
  ⟨.start hot sessionId, [⟨hot, sessionId⟩], [], [], []⟩

/-- The watcher moves, or one request does. -/
inductive Action where
  | watch (move : Rotation.Move)
  | encrypt (connect : Bool)
  | readSession (index : Nat)
  | post (index : Nat)
  | answer (index : Nat) (ok nonempty : Bool)
  | decrypt (index : Nat)
deriving DecidableEq

/-- One request moves on. -/
def State.proceed (state : State) (index : Nat) (request : Request) (progress : Progress) : State :=
  { state with requests := state.requests.set index { request with progress } }

/-- An answer ends the request, except that the first failure is retried and the reply of
`send_connect` is decrypted unless it is empty. -/
def Request.answer (request : Request) (retry : Bool) (attempt : Attempt) (ok nonempty : Bool) :
    Progress :=
  if ok then
    if request.connect && nonempty then .answered attempt else .ended
  else if retry then .ended
  else .resolving true

/-- The client moves by one action, or refuses one that its state does not allow. -/
def step (env : Env Key) (overrides : CliOverrides) (state : State) : Action → Option State
  | .watch move =>
      match state.rotation.move env overrides move with
      | none => none
      | some rotation =>
          match move with
          | .rotate random => some { state with
              rotation
              generations := state.generations ++ [⟨rotation.shared.hot, random⟩] }
          | _ => some { state with rotation }
  | .encrypt connect => some { state with
      requests := state.requests ++ [⟨connect, state.rotation.shared.hot.crypto, .resolving false⟩] }
  | .readSession index =>
      match state.requests[index]? with
      | none => none
      | some request =>
          match request.progress with
          | .resolving retry => some (state.proceed index request
              (.addressed retry state.rotation.shared.sessionId state.rotation.shared.hot))
          | _ => none
  | .post index =>
      match state.requests[index]? with
      | none => none
      | some request =>
          match request.progress with
          | .addressed retry sessionId _ =>
              let hot := state.rotation.shared.hot
              let attempt := ⟨request.crypto, hot.serverBaseUrl, hot.httpClient, sessionId⟩
              some { state.proceed index request (.posting retry attempt) with
                attempts := state.attempts ++ [attempt] }
          | _ => none
  | .answer index ok nonempty =>
      match state.requests[index]? with
      | none => none
      | some request =>
          match request.progress with
          | .posting retry attempt =>
              some (state.proceed index request (request.answer retry attempt ok nonempty))
          | _ => none
  | .decrypt index =>
      match state.requests[index]? with
      | none => none
      | some request =>
          match request.progress with
          | .answered attempt => some { state.proceed index request .ended with
              replies := state.replies ++ [⟨attempt, state.rotation.shared.hot.crypto⟩] }
          | _ => none

/-- Each POST takes its key, URL, headers and session id from one generation, and a reply of
`send_connect` is decrypted with the key of that generation. -/
structure OneGeneration (state : State) : Prop where
  attempts : ∀ attempt ∈ state.attempts, ∃ generation ∈ state.generations,
    attempt = generation.attempt
  replies : ∀ reply ∈ state.replies, ∃ generation ∈ state.generations,
    reply.attempt = generation.attempt ∧ reply.crypto = generation.hot.crypto

/-- The hot config was in force when a request that is about to post read its session id. -/
def Progress.resolved : Progress → Option HotClientConfig
  | .addressed _ _ hot => some hot
  | .resolving _ | .posting _ _ | .answered _ | .ended => none

/-- A request reads its session id while the key of its body is in force, and not between a store and
its rotation. The URL and headers stay until it posts, and the key until it decrypts the reply. -/
def Undisturbed (state : State) : Action → Prop
  | .readSession index => ∀ request ∈ state.requests[index]?,
      state.rotation.watcher ≠ .stored ∧ request.crypto = state.rotation.shared.hot.crypto
  | .post index => ∀ request ∈ state.requests[index]?, ∀ hot ∈ request.progress.resolved,
      state.rotation.shared.hot.serverBaseUrl = hot.serverBaseUrl ∧
      state.rotation.shared.hot.httpClient = hot.httpClient
  | .decrypt index => ∀ request ∈ state.requests[index]?,
      request.crypto = state.rotation.shared.hot.crypto
  | .watch _ | .encrypt _ | .answer _ _ _ => True

instance (state : State) : (action : Action) → Decidable (Undisturbed state action)
  | .readSession _ => inferInstanceAs (Decidable (∀ _ ∈ _, _ ∧ _))
  | .post _ => inferInstanceAs (Decidable (∀ _ ∈ _, ∀ _ ∈ _, _ ∧ _))
  | .decrypt _ => inferInstanceAs (Decidable (∀ _ ∈ _, _ = _))
  | .watch _ | .encrypt _ | .answer _ _ _ => isTrue trivial

/-- What a request has read so far belongs to one of the generations. -/
def Request.Traced (generations : List Generation) (request : Request) : Prop :=
  match request.progress with
  | .addressed _ sessionId hot => ⟨hot, sessionId⟩ ∈ generations ∧ request.crypto = hot.crypto
  | .posting _ attempt | .answered attempt => attempt.crypto = request.crypto ∧
      ∃ generation ∈ generations, attempt = generation.attempt
  | .resolving _ | .ended => True

/-- All requests are traced, and what is in force is a generation, except between a store and its
rotation. -/
structure Sound (state : State) : Prop where
  current : state.rotation.watcher ≠ .stored →
    ⟨state.rotation.shared.hot, state.rotation.shared.sessionId⟩ ∈ state.generations
  traced : ∀ request ∈ state.requests, request.Traced state.generations
  made : OneGeneration state

section Sound
variable {env : Env Key} {overrides : CliOverrides} {state next : State} {action : Action}

/-- More generations keep every request traced. -/
theorem Request.Traced.mono {generations more : List Generation} {request : Request}
    (grown : generations ⊆ more) (traced : request.Traced generations) :
    request.Traced more := by
  unfold Request.Traced at traced ⊢
  split
  · next progress =>
      rw [progress] at traced
      exact ⟨grown traced.1, traced.2⟩
  · next progress =>
      rw [progress] at traced
      obtain ⟨same, generation, member, made⟩ := traced
      exact ⟨same, generation, grown member, made⟩
  · next progress =>
      rw [progress] at traced
      obtain ⟨same, generation, member, made⟩ := traced
      exact ⟨same, generation, grown member, made⟩
  · trivial
  · trivial

/-- More generations keep the recorded POSTs and replies right. -/
theorem OneGeneration.mono (made : OneGeneration state)
    (grown : state.generations ⊆ next.generations) (attempts : next.attempts = state.attempts)
    (replies : next.replies = state.replies) : OneGeneration next where
  attempts attempt sent := by
    rw [attempts] at sent
    obtain ⟨generation, member, same⟩ := made.attempts attempt sent
    exact ⟨generation, grown member, same⟩
  replies reply read := by
    rw [replies] at read
    obtain ⟨generation, member, same⟩ := made.replies reply read
    exact ⟨generation, grown member, same⟩

/-- A watcher's move keeps the requests traced: a rotation begins the generation in force. -/
theorem Sound.watch (sound : Sound state) {move : Rotation.Move}
    (moved : step env overrides state (.watch move) = some next) : Sound next := by
  simp only [step] at moved
  split at moved
  · cases moved
  · next rotation shared =>
      cases Rotation.move_effect shared with
      | unchanged file =>
          rw [← Option.some.inj moved]
          exact sound
      | stored file _ idle stored sessionId stores =>
          rw [← Option.some.inj moved]
          exact ⟨fun later => absurd stored later, sound.traced, sound.made.mono (fun _ => id) rfl rfl⟩
      | rotated random _ stored rotated hot stores drawn =>
          rw [← Option.some.inj moved]
          have grown : state.generations ⊆
              state.generations ++ [⟨rotation.shared.hot, random⟩] :=
            List.subset_append_left _ _
          refine ⟨fun _ => ?_, ?_, sound.made.mono grown rfl rfl⟩
          · rw [drawn]
            exact List.mem_append_right _ (List.mem_singleton_self _)
          · exact fun request member => (sound.traced request member).mono grown
      | cleared _ before after hot stores sessionId =>
          rw [← Option.some.inj moved]
          refine ⟨fun _ => ?_, sound.traced, sound.made.mono (fun _ => id) rfl rfl⟩
          rw [hot, sessionId]
          exact sound.current (by rw [before]; nofun)
      | signalled _ before after hot stores sessionId =>
          rw [← Option.some.inj moved]
          refine ⟨fun _ => ?_, sound.traced, sound.made.mono (fun _ => id) rfl rfl⟩
          rw [hot, sessionId]
          exact sound.current (by rw [before]; nofun)
      | traffic channels _ watcher hot stores sessionId =>
          rw [← Option.some.inj moved]
          refine ⟨fun later => ?_, sound.traced, sound.made.mono (fun _ => id) rfl rfl⟩
          rw [hot, sessionId]
          exact sound.current (watcher ▸ later)

/-- A request that moves on is traced if its new progress is. -/
theorem Sound.proceed (sound : Sound state) {index : Nat} {request : Request} {progress : Progress}
    (traced : { request with progress }.Traced state.generations) :
    Sound (state.proceed index request progress) where
  current := sound.current
  traced other member := by
    rcases List.mem_or_eq_of_mem_set member with old | rfl
    · exact sound.traced other old
    · exact traced
  made := sound.made.mono (fun _ => id) rfl rfl

/-- A POST belongs to the generation of its session id if URL and headers have stayed. -/
theorem Sound.post (sound : Sound state) {index : Nat} {request : Request} {retry : Bool}
    {sessionId : UInt64} {hot : HotClientConfig} (found : state.requests[index]? = some request)
    (addressed : request.progress = .addressed retry sessionId hot)
    (url : state.rotation.shared.hot.serverBaseUrl = hot.serverBaseUrl)
    (client : state.rotation.shared.hot.httpClient = hot.httpClient) :
    ∃ generation ∈ state.generations,
      (⟨request.crypto, state.rotation.shared.hot.serverBaseUrl,
        state.rotation.shared.hot.httpClient, sessionId⟩ : Attempt) = generation.attempt := by
  have traced := sound.traced request (List.mem_of_getElem? found)
  simp only [Request.Traced, addressed] at traced
  refine ⟨_, traced.1, ?_⟩
  rw [Generation.attempt, traced.2, url, client]

/-- Every admitted step keeps the requests traced. -/
theorem Sound.step (sound : Sound state) (admitted : Undisturbed state action)
    (moved : step env overrides state action = some next) : Sound next := by
  cases action with
  | watch move => exact sound.watch moved
  | encrypt connect =>
      rw [← Option.some.inj moved]
      refine ⟨sound.current, fun request member => ?_, sound.made.mono (fun _ => id) rfl rfl⟩
      rcases List.mem_append.mp member with old | added
      · exact sound.traced request old
      · rw [List.mem_singleton.mp added]
        trivial
  | readSession index =>
      simp only [Generations.step] at moved
      split at moved
      · cases moved
      · next request found =>
          split at moved
          · rw [← Option.some.inj moved]
            obtain ⟨between, inForce⟩ := admitted request found
            exact sound.proceed ⟨sound.current between, inForce⟩
          · cases moved
  | post index =>
      simp only [Generations.step] at moved
      split at moved
      · cases moved
      · next request found =>
          split at moved
          · next retry sessionId hot addressed =>
              rw [← Option.some.inj moved]
              obtain ⟨url, client⟩ := admitted request found hot (congrArg Progress.resolved addressed)
              have whole := sound.post found addressed url client
              have kept : Sound (state.proceed index request (.posting retry _)) :=
                sound.proceed ⟨rfl, whole⟩
              refine ⟨kept.current, kept.traced, ⟨fun attempt sent => ?_, kept.made.replies⟩⟩
              rcases List.mem_append.mp sent with old | added
              · exact sound.made.attempts attempt old
              · rw [List.mem_singleton.mp added]
                exact whole
          · cases moved
  | answer index ok nonempty =>
      simp only [Generations.step] at moved
      split at moved
      · cases moved
      · next request found =>
          split at moved
          · next retry attempt posting =>
              rw [← Option.some.inj moved]
              have traced := sound.traced request (List.mem_of_getElem? found)
              simp only [Request.Traced, posting] at traced
              apply sound.proceed
              unfold Request.answer
              split
              · split
                · exact traced
                · trivial
              · split
                · trivial
                · trivial
          · cases moved
  | decrypt index =>
      simp only [Generations.step] at moved
      split at moved
      · cases moved
      · next request found =>
          split at moved
          · next attempt answered =>
              rw [← Option.some.inj moved]
              have traced := sound.traced request (List.mem_of_getElem? found)
              simp only [Request.Traced, answered] at traced
              obtain ⟨same, generation, member, made⟩ := traced
              have kept : Sound (state.proceed index request .ended) := sound.proceed trivial
              refine ⟨kept.current, kept.traced, ⟨kept.made.attempts, fun reply read => ?_⟩⟩
              rcases List.mem_append.mp read with old | added
              · exact sound.made.replies reply old
              · rw [List.mem_singleton.mp added]
                refine ⟨generation, member, made, ?_⟩
                rw [← admitted request found, ← same, made, Generation.attempt]
          · cases moved

/-- A client that has only started has its first generation and no requests. -/
theorem start_sound (hot : HotClientConfig) (sessionId : UInt64) :
    Sound (.start hot sessionId) where
  current _ := List.mem_singleton_self _
  traced _ member := absurd member List.not_mem_nil
  made :=
    ⟨fun _ member => absurd member List.not_mem_nil, fun _ member => absurd member List.not_mem_nil⟩

end Sound

/-- In every run whose requests are undisturbed by reloads, every POST and every decrypted reply is of
one generation, in each state that is reached. -/
theorem one_generation {env : Env Key} {overrides : CliOverrides} {hot : HotClientConfig}
    {sessionId : UInt64} {actions : List Action} {final : State}
    (along : Machine.Along (step env overrides) Undisturbed (.start hot sessionId) actions)
    (ran : Machine.run (step env overrides) (.start hot sessionId) actions = some final) :
    OneGeneration final :=
  (Machine.run_along Sound.step (start_sound hot sessionId) along ran).made

/-- This client was started with another password and URL than those of the file. -/
def oldHot : HotClientConfig := ⟨⟨0, "p"⟩, ⟨1, ∅⟩, "http://old"⟩

def newFile : Config where
  server := ⟨"q", "", none, none, "ok", false, false⟩
  client := ⟨"http://new", "q", ∅⟩

def aroundReload : List Action :=
  [.encrypt true, .readSession 0, .post 0, .answer 0 true true, .decrypt 0,
    .watch (.store newFile), .watch (.rotate 9), .watch .clear, .watch .signal,
    .encrypt true, .readSession 1, .post 1, .answer 1 true true, .decrypt 1]

/-- One connection is complete before a reload, and another one begins after it. -/
theorem one_generation_around_reload : ∃ final,
    Machine.run (step Env.lenient (ClientArgs.overrides ⟨none, none, none⟩)) (.start oldHot 7)
      aroundReload = some final ∧ OneGeneration final := by
  obtain ⟨final, ran⟩ := Option.isSome_iff_exists.mp (show (Machine.run
    (step Env.lenient (ClientArgs.overrides ⟨none, none, none⟩)) (.start oldHot 7)
      aroundReload).isSome = true by decide +kernel)
  exact ⟨final, ran, one_generation (by decide +kernel) ran⟩

/-- A retried body goes to the new session of the new server under the previous key. -/
theorem retry_mixes_generations : ∃ final,
    Machine.run (step Env.lenient (ClientArgs.overrides ⟨none, none, none⟩)) (.start oldHot 7)
        [.encrypt false, .readSession 0, .post 0, .answer 0 false false,
          .watch (.store newFile), .watch (.rotate 9), .watch .clear, .watch .signal,
          .readSession 0, .post 0] = some final ∧
      ¬ OneGeneration final := by
  refine ⟨_, rfl, fun made => ?_⟩
  obtain ⟨generation, member, same⟩ :=
    made.attempts ⟨⟨0, "p"⟩, "http://new", ⟨1, ∅⟩, 9⟩ (by decide +kernel)
  revert generation
  decide +kernel

end Tunnix.Generations
