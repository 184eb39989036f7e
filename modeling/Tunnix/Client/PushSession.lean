import Tunnix.Library.Machine
import Tunnix.Protocol

namespace Tunnix.PushSession

/-- `push_session` announces itself, streams the archive one POST after another, joins the compressor,
posts its `Close` whatever has happened, and then waits for the confirmation. -/
inductive Phase where
  | announcing
  | streaming
  | posting (data : Bytes)
  | joining
  | closing (stream : Except String Unit)
  | confirming
  | returned (result : Except String Unit)
deriving DecidableEq

/-- The state joins the session, the chunks that the compressor will still hand over, and the session's
event channel. The last two fields record the chunks that were posted and the events that were
received. -/
structure State where
  phase : Phase
  archive : List Bytes
  events : List TunnelEvent
  registered : Bool
  posted : List Bytes
  received : List TunnelEvent
deriving DecidableEq

/-- A session registers for its events before it announces itself. -/
def start (archive : List Bytes) : State where
  phase := .announcing
  archive := archive
  events := []
  registered := true
  posted := []
  received := []

/-- The last two actions belong to the tunnel, and the others to the session. An error is that of the
POST or of the compressor. -/
inductive Action where
  | announced (failure : Option String)
  | chunk
  | posted (failure : Option String)
  | joined (failure : Option String)
  | event
  | closed
  | arrive (event : TunnelEvent)
  | hangUp
deriving DecidableEq, Repr

/-- These steps are the session's own. -/
def Action.own : Action → Bool
  | .announced _ | .chunk | .posted _ | .joined _ | .event | .closed => true
  | .arrive _ | .hangUp => false

/-- The streaming loop takes every event but these for silence of the server. -/
def streamEvent : Option TunnelEvent → Phase
  | some (.error message) => .closing (.error ("remote error: " ++ message))
  | some .close | none => .closing (.error "connection closed before the transfer completed")
  | some (.exit _) | some (.data _) => .streaming

/-- The session confirms on an exit status 0 and ignores chunks. -/
def confirmEvent : Option TunnelEvent → Phase
  | some (.exit code) =>
      if code = 0 then .returned (.ok ())
      else .returned (.error ("server reported transfer failure (exit " ++ toString code ++ ")"))
  | some (.error message) => .returned (.error ("remote error: " ++ message))
  | some .close | none =>
      .returned (.error "connection closed before the server confirmed the transfer")
  | some (.data _) => .confirming

/-- An error ends the stream, and otherwise it goes on. -/
def afterPost : Option String → Phase
  | none => .streaming
  | some message => .closing (.error message)

/-- A failed stream is reported after the `Close`. -/
def afterClose : Except String Unit → Phase
  | .ok () => .confirming
  | .error message => .returned (.error message)

/-- The two loops of the session handle the next event in different ways. -/
def Phase.onEvent (phase : Phase) (event : Option TunnelEvent) : Option Phase :=
  match phase with
  | .streaming => some (streamEvent event)
  | .confirming => some (confirmEvent event)
  | .announcing | .posting _ | .joining | .closing _ | .returned _ => none

/-- The session moves by one action, or refuses one that its state does not allow. -/
def step (state : State) : Action → Option State
  | .announced failure =>
      match state.phase, failure with
      | .announcing, none => some { state with phase := .streaming }
      | .announcing, some message => some { state with phase := .returned (.error message) }
      | _, _ => none
  -- `select!` finds the next chunk, or the end of the compressor's output.
  | .chunk =>
      match state.phase, state.archive with
      | .streaming, data :: archive => some { state with
          phase := .posting data
          archive
          posted := state.posted ++ [data] }
      | .streaming, [] => some { state with phase := .joining }
      | _, _ => none
  | .posted failure =>
      match state.phase with
      | .posting _ => some { state with phase := afterPost failure }
      | _ => none
  | .joined failure =>
      match state.phase, failure with
      | .joining, none => some { state with phase := .closing (.ok ()) }
      | .joining, some message => some { state with phase := .closing (.error message) }
      | _, _ => none
  | .event =>
      match state.events with
      | event :: events =>
          (state.phase.onEvent (some event)).map fun phase => { state with
            phase
            events
            received := state.received ++ [event] }
      | [] =>
          if state.registered then none
          else (state.phase.onEvent none).map fun phase => { state with phase }
  -- The outcome of the POST of the `Close` is ignored.
  | .closed =>
      match state.phase with
      | .closing stream => some { state with phase := afterClose stream }
      | _ => none
  | .arrive event =>
      if state.registered then some { state with events := state.events ++ [event] } else none
  | .hangUp => some { state with registered := false }

/-- These are the session's possible steps, one for each branch of the source. -/
inductive Move (state : State) : Action → State → Prop
  | announced : state.phase = .announcing →
      Move state (.announced none) { state with phase := .streaming }
  | refused {message} : state.phase = .announcing →
      Move state (.announced (some message)) { state with phase := .returned (.error message) }
  | chunk {data archive} : state.phase = .streaming → state.archive = data :: archive →
      Move state .chunk
        { state with phase := .posting data, archive, posted := state.posted ++ [data] }
  | lastChunk : state.phase = .streaming → Move state .chunk { state with phase := .joining }
  | posted {data} : state.phase = .posting data →
      Move state (.posted none) { state with phase := .streaming }
  | unposted {data message} : state.phase = .posting data →
      Move state (.posted (some message)) { state with phase := .closing (.error message) }
  | joined : state.phase = .joining →
      Move state (.joined none) { state with phase := .closing (.ok ()) }
  | unjoined {message} : state.phase = .joining →
      Move state (.joined (some message)) { state with phase := .closing (.error message) }
  | event {event events phase} : state.events = event :: events →
      state.phase.onEvent (some event) = some phase →
      Move state .event { state with phase, events, received := state.received ++ [event] }
  | lost {phase} : state.events = [] → state.registered = false →
      state.phase.onEvent none = some phase → Move state .event { state with phase }
  | closed : state.phase = .closing (.ok ()) →
      Move state .closed { state with phase := .confirming }
  | reported {message} : state.phase = .closing (.error message) →
      Move state .closed { state with phase := .returned (.error message) }
  | arrive {event} : state.registered = true →
      Move state (.arrive event) { state with events := state.events ++ [event] }
  | hangUp : Move state .hangUp { state with registered := false }

/-- Each accepted action is one of the possible steps. -/
theorem step_move {state next : State} {action : Action}
    (moved : step state action = some next) : Move state action next := by
  cases action with
  | announced failure =>
      simp only [step] at moved
      split at moved
      · next announcing =>
          cases moved
          exact .announced announcing
      · next announcing =>
          cases moved
          exact .refused announcing
      · contradiction
  | chunk =>
      simp only [step] at moved
      split at moved
      · next streaming handed =>
          cases moved
          exact .chunk streaming handed
      · next streaming _ =>
          cases moved
          exact .lastChunk streaming
      · contradiction
  | posted failure =>
      simp only [step] at moved
      split at moved
      · next posting =>
          cases moved
          cases failure with
          | none => exact .posted posting
          | some message => exact .unposted posting
      · contradiction
  | joined failure =>
      simp only [step] at moved
      split at moved
      · next joining =>
          cases moved
          exact .joined joining
      · next joining =>
          cases moved
          exact .unjoined joining
      · contradiction
  | event =>
      simp only [step] at moved
      split at moved
      · next arrived =>
          obtain ⟨phase, taken, rfl⟩ := Option.map_eq_some_iff.mp moved
          exact .event arrived taken
      · next empty =>
          rw [Option.ite_none_left_eq_some] at moved
          obtain ⟨unregistered, moved⟩ := moved
          obtain ⟨phase, taken, rfl⟩ := Option.map_eq_some_iff.mp moved
          exact .lost empty (Bool.eq_false_iff.mpr unregistered) taken
  | closed =>
      simp only [step] at moved
      split at moved
      · next stream closing =>
          cases moved
          cases stream with
          | ok => exact .closed closing
          | error message => exact .reported closing
      · contradiction
  | arrive event =>
      rw [step, Option.ite_none_right_eq_some, Option.some.injEq] at moved
      obtain ⟨registered, rfl⟩ := moved
      exact .arrive registered
  | hangUp =>
      cases moved
      exact .hangUp

/-- These steps succeed. -/
def Action.smooth : Action → Bool
  | .announced failure | .posted failure | .joined failure => failure.isNone
  | .chunk | .event | .closed | .arrive _ | .hangUp => true

/-- The streaming loop takes no exit status 0 off the event channel. -/
def Heard (state : State) : Action → Prop
  | .event => state.phase = .streaming → state.events.head? ≠ some (.exit 0)
  | _ => True

instance (state : State) : (action : Action) → Decidable (Heard state action)
  | .event => inferInstanceAs (Decidable (_ → _ ≠ _))
  | .announced _ | .chunk | .posted _ | .joined _ | .closed | .arrive _ | .hangUp => isTrue trivial

/-- The session has returned or waits for another party. -/
def Waits (state : State) : Prop := ∀ action : Action, action.own = true → step state action = none

/-- Such an event neither fails the transfer nor closes its connection. -/
def harmless : TunnelEvent → Bool
  | .data _ | .exit _ => true
  | .close | .error _ => false

/-- The transfer has not failed, and it is not confirmed. -/
def Phase.goes : Phase → Bool
  | .announcing | .streaming | .posting _ | .joining | .closing (.ok _) | .confirming => true
  | .closing (.error _) | .returned _ => false

/-- A transfer that goes on has received harmless events, and a confirmed one an exit status 0 behind
them. -/
structure Sound (state : State) : Prop where
  goes : state.phase.goes = true → ∀ event ∈ state.received, harmless event = true
  confirmed : state.phase = .returned (.ok ()) → ∃ before,
    state.received = before ++ [.exit 0] ∧ ∀ event ∈ before, harmless event = true

/-- The session has at most this many steps before it. -/
def Phase.steps : Phase → Nat
  | .announcing | .posting _ => 5
  | .streaming => 4
  | .joining => 3
  | .closing _ => 2
  | .confirming => 1
  | .returned _ => 0

/-- Each chunk takes two more steps, and each event one. -/
def State.steps (state : State) : Nat :=
  state.phase.steps + 2 * state.archive.length + state.events.length

section Sound
variable {state next : State} {action : Action}

theorem Sound.start (archive : List Bytes) : Sound (start archive) := ⟨fun _ => nofun, nofun⟩

/-- The streaming loop goes on only after a harmless event, and it never returns by itself. -/
theorem streamEvent_cases (event : Option TunnelEvent) :
    streamEvent event = .streaming ∧ (∃ silent, event = some silent ∧ harmless silent = true) ∨
      ∃ message, streamEvent event = .closing (.error message) := by
  cases event with
  | none => exact .inr ⟨_, rfl⟩
  | some event =>
      cases event with
      | data | exit => exact .inl ⟨rfl, _, rfl, rfl⟩
      | close | error => exact .inr ⟨_, rfl⟩

/-- The session goes on to wait after a chunk, it confirms on the exit status 0, and anything else is
an error. -/
theorem confirmEvent_cases (event : Option TunnelEvent) :
    (∃ data, event = some (.data data) ∧ confirmEvent event = .confirming) ∨
      event = some (.exit 0) ∧ confirmEvent event = .returned (.ok ()) ∨
      event ≠ some (.exit 0) ∧ ∃ message, confirmEvent event = .returned (.error message) := by
  cases event with
  | none => exact .inr (.inr ⟨nofun, _, rfl⟩)
  | some event =>
      cases event with
      | data data => exact .inl ⟨data, rfl, rfl⟩
      | close | error => exact .inr (.inr ⟨nofun, _, rfl⟩)
      | exit code =>
          by_cases zero : code = 0
          · subst zero
            exact .inr (.inl ⟨rfl, rfl⟩)
          · refine .inr (.inr ⟨?_, _, if_neg zero⟩)
            simpa using zero

/-- A session takes events in one of its two loops. -/
theorem onEvent_some {phase after : Phase} {event : Option TunnelEvent}
    (taken : phase.onEvent event = some after) :
    phase = .streaming ∧ after = streamEvent event ∨
      phase = .confirming ∧ after = confirmEvent event := by
  unfold Phase.onEvent at taken
  split at taken
  · exact .inl ⟨rfl, (Option.some.inj taken).symm⟩
  · exact .inr ⟨rfl, (Option.some.inj taken).symm⟩
  all_goals cases taken

/-- Only the exit status 0 in the second loop makes the session return `Ok`. -/
theorem onEvent_ok {phase : Phase} {event : Option TunnelEvent} :
    phase.onEvent event = some (.returned (.ok ())) ↔
      phase = .confirming ∧ event = some (.exit 0) := by
  constructor
  · intro taken
    rcases onEvent_some taken with ⟨-, same⟩ | ⟨confirming, same⟩
    · rcases streamEvent_cases event with ⟨stays, -⟩ | ⟨message, ends⟩
      · cases same.trans stays
      · cases same.trans ends
    · rcases confirmEvent_cases event with ⟨data, -, stays⟩ | ⟨found, -⟩ | ⟨-, message, ends⟩
      · cases same.trans stays
      · exact ⟨confirming, found⟩
      · cases same.trans ends
  · rintro ⟨rfl, rfl⟩
    rfl

/-- The session moves on without an event. -/
theorem Sound.move (sound : Sound state) (received : next.received = state.received)
    (goes : next.phase.goes = true → state.phase.goes = true)
    (unreturned : next.phase ≠ .returned (.ok ())) : Sound next where
  goes kept := by
    rw [received]
    exact sound.goes (goes kept)
  confirmed returned := absurd returned unreturned

/-- The session receives an event in one of its two loops. -/
theorem Sound.event (sound : Sound state) {event : TunnelEvent} {phase : Phase}
    (taken : state.phase.onEvent (some event) = some phase) (events : List TunnelEvent) :
    Sound { state with phase, events, received := state.received ++ [event] } := by
  have goes : state.phase.goes = true := by
    rcases onEvent_some taken with ⟨same, -⟩ | ⟨same, -⟩ <;> rw [same] <;> rfl
  have harmless := sound.goes goes
  have more {silent : TunnelEvent} (quiet : PushSession.harmless silent = true) :
      ∀ other ∈ state.received ++ [silent], PushSession.harmless other = true := by
    intro other member
    rcases List.mem_append.mp member with old | added
    · exact harmless other old
    · rw [List.mem_singleton.mp added]
      exact quiet
  rcases onEvent_some taken with ⟨-, rfl⟩ | ⟨-, rfl⟩
  · rcases streamEvent_cases (some event) with ⟨same, silent, found, quiet⟩ | ⟨message, same⟩
    · obtain rfl := Option.some.inj found
      rw [same]
      exact ⟨fun _ => more quiet, nofun⟩
    · rw [same]
      exact ⟨nofun, nofun⟩
  · rcases confirmEvent_cases (some event) with ⟨data, found, same⟩ | ⟨found, same⟩ |
      ⟨-, message, same⟩
    · obtain rfl := Option.some.inj found
      rw [same]
      exact ⟨fun _ => more rfl, nofun⟩
    · obtain rfl := Option.some.inj found
      rw [same]
      exact ⟨nofun, fun _ => ⟨_, rfl, harmless⟩⟩
    · rw [same]
      exact ⟨nofun, nofun⟩

/-- Every step keeps the session sound. -/
theorem Sound.step (sound : Sound state) (moved : step state action = some next) : Sound next := by
  cases step_move moved with
  | announced announcing => exact sound.move rfl (fun _ => by rw [announcing]; rfl) nofun
  | chunk streaming => exact sound.move rfl (fun _ => by rw [streaming]; rfl) nofun
  | lastChunk streaming => exact sound.move rfl (fun _ => by rw [streaming]; rfl) nofun
  | posted posting => exact sound.move rfl (fun _ => by rw [posting]; rfl) nofun
  | joined joining => exact sound.move rfl (fun _ => by rw [joining]; rfl) nofun
  | closed closing => exact sound.move rfl (fun _ => by rw [closing]; rfl) nofun
  | refused | unposted | unjoined | reported => exact sound.move rfl nofun nofun
  | event arrived taken => exact sound.event taken _
  | lost empty unregistered taken =>
      rcases onEvent_some taken with ⟨-, rfl⟩ | ⟨-, rfl⟩
      · exact sound.move rfl nofun nofun
      · exact sound.move rfl nofun nofun
  | arrive | hangUp => exact ⟨sound.goes, sound.confirmed⟩

end Sound

section Steps
variable {state next : State} {action : Action}

/-- The session receives nothing, or it takes the event at the head of its channel. -/
theorem step_received (moved : step state action = some next) :
    next.received = state.received ∧
        (next.phase = .returned (.ok ()) → state.phase = .returned (.ok ())) ∨
      action = .event ∧ ∃ event events, state.events = event :: events ∧
        next.received = state.received ++ [event] ∧
        state.phase.onEvent (some event) = some next.phase := by
  cases step_move moved with
  | event arrived taken => exact .inr ⟨rfl, _, _, arrived, rfl, taken⟩
  | lost empty unregistered taken =>
      refine .inl ⟨rfl, fun returned => ?_⟩
      obtain ⟨-, found⟩ := onEvent_ok.mp (taken.trans (congrArg some returned))
      contradiction
  | arrive | hangUp => exact .inl ⟨rfl, id⟩
  | _ => exact .inl ⟨rfl, nofun⟩

/-- A session that has returned takes no step of its own. -/
theorem step_returned {result : Except String Unit} (returned : state.phase = .returned result)
    (moved : step state action = some next) : next.phase = state.phase := by
  cases step_move moved with
  | arrive | hangUp => rfl
  | event arrived taken => simp [returned, Phase.onEvent] at taken
  | lost empty unregistered taken => simp [returned, Phase.onEvent] at taken
  | announced phase | refused phase | chunk phase | lastChunk phase | posted phase | unposted phase
  | joined phase | unjoined phase | closed phase | reported phase =>
      rw [returned] at phase
      contradiction

/-- An event leads no further back than to the loop that took it, and the end of the channel onwards. -/
theorem onEvent_steps {phase after : Phase} {event : Option TunnelEvent}
    (taken : phase.onEvent event = some after) :
    after.steps ≤ phase.steps ∧ (event = none → after.steps < phase.steps) := by
  rcases onEvent_some taken with ⟨rfl, rfl⟩ | ⟨rfl, rfl⟩
  · rcases streamEvent_cases event with ⟨same, silent, rfl, -⟩ | ⟨message, same⟩
    · rw [same]
      exact ⟨Nat.le_refl _, nofun⟩
    · rw [same]
      exact ⟨by simp [Phase.steps], fun _ => by simp [Phase.steps]⟩
  · rcases confirmEvent_cases event with ⟨data, rfl, same⟩ | ⟨rfl, same⟩ | ⟨-, message, same⟩
    · rw [same]
      exact ⟨Nat.le_refl _, nofun⟩
    · rw [same]
      exact ⟨by decide, nofun⟩
    · rw [same]
      exact ⟨by simp [Phase.steps], fun _ => by simp [Phase.steps]⟩

/-- Each of the session's own steps leaves fewer before it. -/
theorem steps_own (own : action.own = true) (moved : step state action = some next) :
    next.steps < state.steps := by
  cases step_move moved with
  | arrive | hangUp => contradiction
  | chunk streaming handed =>
      simp only [State.steps, streaming, handed, Phase.steps, List.length_cons]
      omega
  | event arrived taken =>
      have fewer := (onEvent_steps taken).1
      simp only [State.steps, arrived, List.length_cons]
      omega
  | lost empty unregistered taken =>
      have fewer := (onEvent_steps taken).2 rfl
      simp only [State.steps]
      omega
  | announced phase | refused phase | lastChunk phase | posted phase | unposted phase | joined phase
  | unjoined phase | closed phase | reported phase => simp [State.steps, phase, Phase.steps]

/-- A session that has received nothing has not failed, unless it has lost its channel. -/
def Calm (state : State) : Prop :=
  state.received = [] → state.phase.goes = true ∨ state.registered = false ∧ state.events = []

/-- A step that succeeds and receives nothing leaves the session calm. -/
theorem Calm.step (calm : Calm state) (smooth : action.smooth = true)
    (moved : step state action = some next) : Calm next := by
  intro silent
  cases step_move moved with
  | refused | unposted | unjoined => contradiction
  | announced | chunk | lastChunk | posted | joined | closed => exact .inl rfl
  | event => simp at silent
  | lost empty unregistered => exact .inr ⟨unregistered, empty⟩
  | reported closing =>
      refine (calm silent).imp_left fun goes => ?_
      rw [closing] at goes
      contradiction
  | arrive registered =>
      refine .inl ((calm silent).resolve_right fun lost => ?_)
      rw [lost.1] at registered
      contradiction
  | hangUp => exact (calm silent).imp_right fun lost => ⟨rfl, lost.2⟩

/-- A session that has not failed takes the next event as soon as it can do nothing else. -/
theorem waits_empty (goes : state.phase.goes = true) (waits : Waits state) : state.events = [] := by
  cases phase : state.phase with
  | returned result =>
      rw [phase] at goes
      cases goes
  | confirming =>
      have taken := waits .event rfl
      cases events : state.events with
      | nil => rfl
      | cons event events => simp [PushSession.step, phase, events, Phase.onEvent] at taken
  | announcing =>
      have announced := waits (.announced none) rfl
      simp [PushSession.step, phase] at announced
  | streaming =>
      have chunk := waits .chunk rfl
      cases archive : state.archive with
      | nil => simp [PushSession.step, phase, archive] at chunk
      | cons data archive' => simp [PushSession.step, phase, archive] at chunk
  | posting data =>
      have posted := waits (.posted none) rfl
      simp [PushSession.step, phase] at posted
  | joining =>
      have joined := waits (.joined none) rfl
      simp [PushSession.step, phase] at joined
  | closing stream =>
      have closed := waits .closed rfl
      simp [PushSession.step, phase] at closed

end Steps

end Tunnix.PushSession
