import Tunnix.Library.Machine
import Tunnix.Protocol
import Mathlib.Logic.Function.Basic
import Mathlib.Tactic.Simps.Basic

namespace Tunnix.Upload

/-- A body decrypts exactly under the key that encrypted it. -/
abbrev Key := Nat

/-- The read half's call of `send_message` posts the same ciphertext at most twice. -/
structure Call where
  chunk : Bytes
  key : Key
  progress : SendMessage
deriving DecidableEq, Repr

/-- A POST carries the ciphertext of one chunk; `call` counts the calls before its own. -/
structure Request where
  call : Nat
  retry : Bool
  session : SessionId
  key : Key
  chunk : Bytes
deriving DecidableEq, Repr

/-- A response says whether its POST succeeded. -/
structure Reply where
  call : Nat
  retry : Bool
  ok : Bool
deriving DecidableEq, Repr

/-- The state joins the read half of one `conn_id`, its POSTs and the server. The last two fields
record what the writer channel was given, and by which calls. -/
structure State where
  session : SessionId
  clientKey : Key
  /-- The call in progress, or the one that returned an error and ended the read half. -/
  upload : Option Call
  /-- These are the chunks for which `send_message` returned `Ok`. -/
  ok : List Bytes
  requests : List Request
  /-- These handlers hold a sender of the writer channel. -/
  held : List Request
  replies : List Reply
  serverKey : Key
  /-- A known session has a writer for the `conn_id` or has none. -/
  sessions : SessionId → Option Bool
  accepted : List Bytes
  taken : List Nat

/-- A run begins before the client's stream has created its session. -/
def start (session : SessionId) (key : Key) : State where
  session := session
  clientKey := key
  upload := none
  ok := []
  requests := []
  held := []
  replies := []
  serverKey := key
  sessions _ := none
  accepted := []
  taken := []

/-- The first group of actions belongs to the client, the next one to the POSTs and their
handlers, and the last one to restarts, streams, writers and reloads. -/
inductive Action where
  | send (chunk : Bytes)
  | reply (index : Nat)
  | postFails
  | resume
  | arrive (index : Nat)
  | enqueue (index : Nat) (receiving : Bool)
  | loseRequest (index : Nat)
  | loseHandler (index : Nat)
  | restart
  | openStream (session : SessionId)
  | setWriter (session : SessionId) (registered : Bool)
  | rekeyServer (key : Key)
  | rekeyClient (key : Key)
  | rotate (session : SessionId)
deriving DecidableEq, Repr

/-- `try_post` sends the call's ciphertext to the client's current session. -/
@[simps] def State.post (state : State) (call : Call) (retry : Bool) : State :=
  { state with
    upload := some { call with progress := .posting retry }
    requests := state.requests ++
      [⟨state.ok.length, retry, state.session, call.key, call.chunk⟩] }

/-- The awaited POST succeeds or fails. -/
def State.answer (state : State) (call : Call) (retry ok : Bool) : State :=
  match SendMessage.answer retry ok with
  | .returned true => { state with upload := none, ok := state.ok ++ [call.chunk] }
  | progress => { state with upload := some { call with progress } }

/-- The server answers a POST. -/
@[simps] def State.respond (state : State) (request : Request) (ok : Bool) : State :=
  { state with replies := state.replies ++ [⟨request.call, request.retry, ok⟩] }

/-- `handle_send` rejects an unknown session, and answers with success whatever it cannot decrypt
or has no writer for. -/
def State.handle (state : State) (request : Request) : State :=
  match state.sessions request.session with
  | none => state.respond request false
  | some registered =>
      if request.key = state.serverKey ∧ registered = true then
        { state with held := state.held ++ [request] }
      else state.respond request true

/-- The upload moves by one action, or refuses one that its state does not allow. -/
def step (state : State) : Action → Option State
  | .send chunk =>
      match state.upload with
      | none => some (state.post ⟨chunk, state.clientKey, .posting false⟩ false)
      | some _ => none
  | .reply index =>
      match state.replies[index]?, state.upload with
      | some reply, some ⟨chunk, key, .posting retry⟩ =>
          let read := { state with replies := state.replies.eraseIdx index }
          -- Nobody waits any longer for the response of an attempt that was given up.
          some (if reply.call = state.ok.length ∧ reply.retry = retry then
            read.answer ⟨chunk, key, .posting retry⟩ retry reply.ok
          else read)
      | _, _ => none
  | .postFails =>
      match state.upload with
      | some ⟨chunk, key, .posting retry⟩ =>
          some (state.answer ⟨chunk, key, .posting retry⟩ retry false)
      | _ => none
  | .resume =>
      match state.upload with
      | some ⟨chunk, key, .waiting⟩ => some (state.post ⟨chunk, key, .waiting⟩ true)
      | _ => none
  | .arrive index =>
      match state.requests[index]? with
      | some request =>
          some ({ state with requests := state.requests.eraseIdx index }.handle request)
      | none => none
  | .enqueue index receiving =>
      match state.held[index]? with
      | some request =>
          let released := { state with held := state.held.eraseIdx index }.respond request true
          some (if receiving then { released with
            accepted := state.accepted ++ [request.chunk]
            taken := state.taken ++ [request.call] }
          else released)
      | none => none
  | .loseRequest index => some { state with requests := state.requests.eraseIdx index }
  | .loseHandler index => some { state with held := state.held.eraseIdx index }
  | .restart => some { state with sessions := fun _ => none, held := [] }
  | .openStream session =>
      let registered := (state.sessions session).getD false
      some { state with sessions := Function.update state.sessions session (some registered) }
  | .setWriter session registered =>
      match state.sessions session with
      | some _ =>
          some { state with sessions := Function.update state.sessions session (some registered) }
      | none => none
  | .rekeyServer key => some { state with serverKey := key }
  | .rekeyClient key => some { state with clientKey := key }
  | .rotate session => some { state with session }

/-- A body that reaches a known session decrypts and finds its writer, and no body is taken into
the writer channel after an earlier copy of it. -/
def FirstCopy (state : State) : Action → Prop
  | .arrive index => ∀ request, state.requests[index]? = some request →
      ∀ registered, state.sessions request.session = some registered →
        request.key = state.serverKey ∧ registered = true
  | .enqueue index receiving => receiving = true ∧
      ∀ request, state.held[index]? = some request → request.call ∉ state.taken
  | _ => True

/-- The writer channel has every confirmed chunk once and in order, and after them at most the
chunk of the call that is not confirmed. -/
def ExactlyOnce (state : State) : Prop :=
  state.accepted = state.ok ∨
    ∃ call, state.upload = some call ∧ state.accepted = state.ok ++ [call.chunk]

/-- A POST belongs to a confirmed call, or it carries the chunk of the unconfirmed one. -/
def Belongs (state : State) (request : Request) : Prop :=
  request.call < state.ok.length ∨
    request.call = state.ok.length ∧
      ∃ call, state.upload = some call ∧ request.chunk = call.chunk

/-- Every POST and every response belongs to a call, and only the last call can be unconfirmed. -/
structure Matched (state : State) : Prop where
  requests : ∀ request ∈ state.requests, Belongs state request
  held : ∀ request ∈ state.held, Belongs state request
  confirmed : ∀ call, call < state.ok.length → call ∈ state.taken
  bounded : ∀ call ∈ state.taken, call ≤ state.ok.length
  replied : ∀ reply ∈ state.replies, reply.ok = true → reply.call ∈ state.taken
  accepted : state.ok.length ∉ state.taken ∧ state.accepted = state.ok ∨
    state.ok.length ∈ state.taken ∧
      ∃ call, state.upload = some call ∧ state.accepted = state.ok ++ [call.chunk]

theorem Matched.start (session : SessionId) (key : Key) : Matched (start session key) where
  requests := nofun
  held := nofun
  confirmed := nofun
  bounded := nofun
  replied := nofun
  accepted := .inl ⟨List.not_mem_nil, rfl⟩

/-- Dropping POSTs, handlers or responses and changing sessions or keys keeps the matching. -/
theorem Matched.of_subset {state next : State} (matched : Matched state)
    (requests : ∀ request ∈ next.requests, request ∈ state.requests)
    (held : ∀ request ∈ next.held, request ∈ state.held)
    (replies : ∀ reply ∈ next.replies, reply ∈ state.replies)
    (upload : next.upload = state.upload) (ok : next.ok = state.ok)
    (taken : next.taken = state.taken) (accepted : next.accepted = state.accepted) :
    Matched next where
  requests request present := by
    unfold Belongs
    rw [ok, upload]
    exact matched.requests request (requests request present)
  held request present := by
    unfold Belongs
    rw [ok, upload]
    exact matched.held request (held request present)
  confirmed := by rw [ok, taken]; exact matched.confirmed
  bounded := by rw [ok, taken]; exact matched.bounded
  replied reply present := by
    rw [taken]
    exact matched.replied reply (replies reply present)
  accepted := by rw [ok, taken, accepted, upload]; exact matched.accepted

/-- A response without success tells nothing about what was taken. -/
theorem Matched.respond {state : State} (matched : Matched state) (request : Request) (ok : Bool)
    (taken : ok = true → request.call ∈ state.taken) : Matched (state.respond request ok) where
  requests := matched.requests
  held := matched.held
  confirmed := matched.confirmed
  bounded := matched.bounded
  replied reply present success := by
    rcases List.mem_append.mp present with earlier | last
    · exact matched.replied reply earlier success
    · rw [List.mem_singleton.mp last] at success ⊢
      exact taken success
  accepted := matched.accepted

/-- A POST carries the chunk of its own call. -/
theorem Matched.post {state : State} (matched : Matched state) {call : Call} {retry : Bool}
    (own : state.upload = none ∨ ∃ before, state.upload = some before ∧ before.chunk = call.chunk) :
    Matched (state.post call retry) := by
  have keeps {request : Request} (belongs : Belongs state request) :
      Belongs (state.post call retry) request := by
    rcases belongs with earlier | ⟨current, before, waiting, chunk⟩
    · exact .inl earlier
    · refine .inr ⟨current, _, rfl, ?_⟩
      rcases own with idle | ⟨same, present, chunks⟩
      · rw [idle] at waiting
        cases waiting
      · rw [waiting, Option.some.injEq] at present
        rw [chunk, present]
        exact chunks
  refine ⟨fun request present => ?_, fun request present => keeps (matched.held request present),
    matched.confirmed, matched.bounded, matched.replied, ?_⟩
  · rcases List.mem_append.mp present with earlier | last
    · exact keeps (matched.requests request earlier)
    · rw [List.mem_singleton.mp last]
      exact .inr ⟨rfl, _, rfl, rfl⟩
  · rcases matched.accepted with fresh | ⟨taken, before, waiting, accepted⟩
    · exact .inl fresh
    · refine .inr ⟨taken, _, rfl, ?_⟩
      rcases own with idle | ⟨same, present, chunks⟩
      · rw [idle] at waiting
        cases waiting
      · rw [waiting, Option.some.injEq] at present
        rw [State.post_accepted, accepted, present, chunks]
        rfl

/-- An answer without success keeps the call's chunk unconfirmed. -/
theorem Matched.fail {state : State} (matched : Matched state) {call : Call}
    (waiting : state.upload = some call) (progress : SendMessage) :
    Matched { state with upload := some { call with progress } } := by
  have keeps {request : Request} (belongs : Belongs state request) :
      Belongs { state with upload := some { call with progress } } request := by
    rcases belongs with earlier | ⟨current, before, present, chunk⟩
    · exact .inl earlier
    · rw [waiting, Option.some.injEq] at present
      exact .inr ⟨current, _, rfl, by rw [chunk, ← present]⟩
  refine ⟨fun request present => keeps (matched.requests request present),
    fun request present => keeps (matched.held request present), matched.confirmed,
    matched.bounded, matched.replied, ?_⟩
  rcases matched.accepted with fresh | ⟨taken, before, present, accepted⟩
  · exact .inl fresh
  · rw [waiting, Option.some.injEq] at present
    exact .inr ⟨taken, _, rfl, by rw [accepted, ← present]⟩

/-- A successful answer confirms a chunk that the writer channel has taken. -/
theorem Matched.confirm {state : State} (matched : Matched state) {call : Call}
    (waiting : state.upload = some call) (taken : state.ok.length ∈ state.taken) :
    Matched { state with upload := none, ok := state.ok ++ [call.chunk] } := by
  have accepted : state.accepted = state.ok ++ [call.chunk] := by
    rcases matched.accepted with ⟨fresh, -⟩ | ⟨-, before, present, accepted⟩
    · exact absurd taken fresh
    · rw [waiting, Option.some.injEq] at present
      rw [accepted, present]
  have more : (state.ok ++ [call.chunk]).length = state.ok.length + 1 := List.length_append
  have keeps {request : Request} (belongs : Belongs state request) :
      Belongs { state with upload := none, ok := state.ok ++ [call.chunk] } request := by
    refine .inl ?_
    show request.call < (state.ok ++ [call.chunk]).length
    rcases belongs with earlier | ⟨current, -⟩ <;> omega
  refine ⟨fun request present => keeps (matched.requests request present),
    fun request present => keeps (matched.held request present), ?_, ?_, matched.replied, ?_⟩
  · intro index earlier
    rw [more] at earlier
    rcases Nat.lt_succ_iff_lt_or_eq.mp earlier with before | last
    · exact matched.confirmed index before
    · exact last ▸ taken
  · intro index member
    have bound := matched.bounded index member
    rw [more]
    omega
  · refine .inl ⟨fun member => ?_, accepted⟩
    have bound := matched.bounded _ member
    rw [more] at bound
    omega

/-- The first copy of a body that the writer channel takes is the unconfirmed chunk. -/
theorem Matched.enqueue {state : State} (matched : Matched state) {request : Request}
    (belongs : Belongs state request) (first : request.call ∉ state.taken) :
    Matched { state with
      accepted := state.accepted ++ [request.chunk]
      taken := state.taken ++ [request.call] } := by
  rcases belongs with earlier | ⟨current, call, waiting, chunk⟩
  · exact absurd (matched.confirmed _ earlier) first
  · have accepted : state.accepted = state.ok := by
      rcases matched.accepted with ⟨-, accepted⟩ | ⟨taken, -⟩
      · exact accepted
      · exact absurd (current ▸ taken) first
    refine ⟨matched.requests, matched.held, ?_, ?_, ?_, ?_⟩
    · intro index before
      exact List.mem_append_left _ (matched.confirmed index before)
    · intro index member
      rcases List.mem_append.mp member with before | last
      · exact matched.bounded index before
      · exact Nat.le_of_eq ((List.mem_singleton.mp last).trans current)
    · intro reply present success
      exact List.mem_append_left _ (matched.replied reply present success)
    · refine .inr ⟨?_, call, waiting, by rw [accepted, chunk]⟩
      rw [← current]
      exact List.mem_append_right _ (List.mem_singleton.mpr rfl)

/-- A POST that reaches the server is rejected, or it is the upload's own and is held for the
writer. -/
theorem Matched.arrive {state : State} (matched : Matched state) {index : Nat} {request : Request}
    (present : state.requests[index]? = some request)
    (clean : ∀ registered, state.sessions request.session = some registered →
      request.key = state.serverKey ∧ registered = true) :
    Matched ({ state with requests := state.requests.eraseIdx index }.handle request) := by
  have erased : Matched { state with requests := state.requests.eraseIdx index } :=
    matched.of_subset (fun _ => List.mem_of_mem_eraseIdx) (fun _ => id) (fun _ => id) rfl rfl rfl rfl
  unfold State.handle
  dsimp only
  split
  · exact erased.respond request false nofun
  · next registered known =>
      rw [if_pos (clean registered known)]
      refine ⟨erased.requests, fun other member => ?_, erased.confirmed, erased.bounded,
        erased.replied, erased.accepted⟩
      rcases List.mem_append.mp member with earlier | last
      · exact erased.held other earlier
      · rw [List.mem_singleton.mp last]
        exact matched.requests request (List.mem_of_getElem? present)

/-- A held body is taken into the writer channel and answered with success. -/
theorem Matched.enqueueHeld {state : State} (matched : Matched state) {index : Nat}
    {request : Request} (present : state.held[index]? = some request)
    (first : request.call ∉ state.taken) :
    Matched { { state with held := state.held.eraseIdx index }.respond request true with
      accepted := state.accepted ++ [request.chunk]
      taken := state.taken ++ [request.call] } := by
  have belongs := matched.held request (List.mem_of_getElem? present)
  have admitted := matched.enqueue belongs first
  have erased : Matched { state with
      held := state.held.eraseIdx index
      accepted := state.accepted ++ [request.chunk]
      taken := state.taken ++ [request.call] } :=
    admitted.of_subset (fun _ => id) (fun _ => List.mem_of_mem_eraseIdx) (fun _ => id) rfl rfl rfl
      rfl
  exact erased.respond request true fun _ => List.mem_append_right _ (List.mem_singleton.mpr rfl)

/-- The awaited answer confirms a taken chunk or leaves it unconfirmed. -/
theorem Matched.answer {state : State} (matched : Matched state) {call : Call}
    (waiting : state.upload = some call) (retry ok : Bool)
    (taken : ok = true → state.ok.length ∈ state.taken) :
    Matched (state.answer call retry ok) := by
  unfold State.answer
  cases ok with
  | true => exact matched.confirm waiting (taken rfl)
  | false =>
      cases retry with
      | false => exact matched.fail waiting _
      | true => exact matched.fail waiting _

/-- Every step that meets the condition keeps the matching. -/
theorem Matched.step {state next : State} {action : Action} (matched : Matched state)
    (clean : FirstCopy state action) (moved : step state action = some next) : Matched next := by
  cases action with
  | send chunk =>
      simp only [Upload.step] at moved
      split at moved
      · next idle => cases moved; exact matched.post (.inl idle)
      · cases moved
  | reply index =>
      simp only [Upload.step] at moved
      split at moved
      · next reply chunk key retry present waiting =>
          cases moved
          have read : Matched { state with replies := state.replies.eraseIdx index } :=
            matched.of_subset (fun _ => id) (fun _ => id) (fun _ => List.mem_of_mem_eraseIdx) rfl rfl
              rfl rfl
          split
          · next own =>
              refine read.answer waiting retry reply.ok fun success => ?_
              have taken := matched.replied reply (List.mem_of_getElem? present) success
              rw [own.1] at taken
              exact taken
          · exact read
      · cases moved
  | postFails =>
      simp only [Upload.step] at moved
      split at moved
      · next chunk key retry waiting =>
          cases moved
          exact matched.answer waiting retry false nofun
      · cases moved
  | resume =>
      simp only [Upload.step] at moved
      split at moved
      · next chunk key waiting => cases moved; exact matched.post (.inr ⟨_, waiting, rfl⟩)
      · cases moved
  | arrive index =>
      simp only [Upload.step] at moved
      split at moved
      · next request present => cases moved; exact matched.arrive present (clean request present)
      · cases moved
  | enqueue index receiving =>
      simp only [Upload.step] at moved
      split at moved
      · next request present =>
          cases moved
          rw [if_pos clean.1]
          exact matched.enqueueHeld present (clean.2 request present)
      · cases moved
  | loseRequest index =>
      cases moved
      exact matched.of_subset (fun _ => List.mem_of_mem_eraseIdx) (fun _ => id) (fun _ => id) rfl rfl
        rfl rfl
  | loseHandler index =>
      cases moved
      exact matched.of_subset (fun _ => id) (fun _ => List.mem_of_mem_eraseIdx) (fun _ => id) rfl rfl
        rfl rfl
  | restart =>
      cases moved
      exact matched.of_subset (fun _ => id) (fun _ gone => nomatch gone) (fun _ => id) rfl rfl rfl rfl
  | openStream | rekeyServer | rekeyClient | rotate =>
      cases moved
      exact matched.of_subset (fun _ => id) (fun _ => id) (fun _ => id) rfl rfl rfl rfl
  | setWriter session registered =>
      simp only [Upload.step] at moved
      split at moved
      · cases moved
        exact matched.of_subset (fun _ => id) (fun _ => id) (fun _ => id) rfl rfl rfl rfl
      · cases moved

/-- In a run that takes only first copies, the writer channel has every confirmed chunk exactly
once and in order. -/
theorem uplink_exactly_once {session : SessionId} {key : Key} {actions : List Action}
    {final : State} (clean : Machine.Along step FirstCopy (start session key) actions)
    (ran : Machine.run step (start session key) actions = some final) : ExactlyOnce final := by
  rcases (Machine.run_along Matched.step (.start session key) clean ran).accepted with
    ⟨-, accepted⟩ | ⟨-, unconfirmed⟩
  · exact .inl accepted
  · exact .inr unconfirmed

/-- The first POST of the first chunk is lost on its way to the server, and its retry arrives. -/
def resent : List Action :=
  [.openStream 1, .setWriter 1 true, .send [1], .loseRequest 0, .postFails, .resume, .arrive 0,
    .enqueue 0 true, .reply 0, .send [2], .arrive 0, .enqueue 0 true, .reply 0]

/-- Two chunks are then taken once each. -/
theorem uplink_exactly_once_of_lost_post : ∃ final, Machine.run step (start 1 0) resent = some final ∧
    final.accepted = [[1], [2]] ∧ ExactlyOnce final := by
  obtain ⟨final, ran, accepted⟩ := Option.map_eq_some_iff.mp
    (show (Machine.run step (start 1 0) resent).map (fun final => final.accepted) =
      some [[1], [2]] by decide)
  have clean : Machine.Along step FirstCopy (start 1 0) resent := by
    refine ⟨trivial, trivial, trivial, trivial, trivial, trivial, ?_, ⟨rfl, ?_⟩, trivial, trivial,
      ?_, ⟨rfl, ?_⟩, trivial, trivial⟩
    · rintro request ⟨⟩ registered ⟨⟩
      exact ⟨rfl, rfl⟩
    · rintro request ⟨⟩
      decide
    · rintro request ⟨⟩ registered ⟨⟩
      exact ⟨rfl, rfl⟩
    · rintro request ⟨⟩
      decide
  exact ⟨final, ran, accepted, uplink_exactly_once clean ran⟩

/-- A chunk whose first response is lost is taken twice and confirmed once. -/
theorem lost_response_repeats_chunk : ∃ final,
    Machine.run step (start 1 0) [.openStream 1, .setWriter 1 true, .send [1], .arrive 0,
      .enqueue 0 true, .postFails, .resume, .arrive 0, .enqueue 0 true, .reply 1] = some final ∧
    final.ok = [[1]] ∧ ¬ ExactlyOnce final := by
  obtain ⟨final, ran, ended⟩ := Option.map_eq_some_iff.mp
    (show (Machine.run step (start 1 0) [.openStream 1, .setWriter 1 true, .send [1], .arrive 0,
      .enqueue 0 true, .postFails, .resume, .arrive 0, .enqueue 0 true, .reply 1]).map
      (fun final => (final.accepted, final.ok, final.upload)) = some ([[1], [1]], [[1]], none)
      by decide)
  rw [Prod.mk.injEq, Prod.mk.injEq] at ended
  obtain ⟨accepted, ok, upload⟩ := ended
  refine ⟨final, ran, ok, ?_⟩
  simp [ExactlyOnce, accepted, ok, upload]

end Tunnix.Upload
