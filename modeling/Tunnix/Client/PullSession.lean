import Tunnix.Server.PushRelay

namespace Tunnix.PullSession

/-- The decompressor is spawned once the server has accepted the `Pull`. -/
inductive Unpack where
  | absent
  | running
  | ended (unpacked : PushRelay.Unpacked)
deriving DecidableEq, Repr

/-- `pull_session` announces itself, takes events and feeds the decompressor, posts its `Close`, and
awaits the decompressor. From the end of the transfer on it knows the error to report. -/
inductive Phase where
  | announcing
  | receiving
  | feeding (data : Bytes)
  | closing (failure : Option String)
  | joining (failure : Option String)
  | returned (result : Except String Unit)
deriving DecidableEq

/-- The state joins the session, its event channel and the decompressor. The last three fields record
the events that were received, the chunks that the decompressor's channel accepted, and the one that
it refused. -/
structure State where
  phase : Phase
  events : List TunnelEvent
  registered : Bool
  writer : Channel PushRelay.channelCap Bytes
  unpack : Unpack
  received : List TunnelEvent
  accepted : List Bytes
  refused : Option Bytes
deriving DecidableEq

/-- A session registers for its events before it announces itself. -/
def start : State where
  phase := .announcing
  events := []
  registered := true
  writer := .empty _ _
  unpack := .absent
  received := []
  accepted := []
  refused := none

/-- The first group of actions belongs to the session, the next one to the tunnel, and the last one
to the decompressor. -/
inductive Action where
  | announced (failure : Option String)
  | receive
  | feed
  | posted
  | join
  | arrive (event : TunnelEvent)
  | hangUp
  | takeChunk
  | unpackEnds (unpacked : PushRelay.Unpacked)
deriving DecidableEq, Repr

/-- These steps are the session's own. -/
def Action.own : Action → Bool
  | .announced _ | .receive | .feed | .posted | .join => true
  | .arrive _ | .hangUp | .takeChunk | .unpackEnds _ => false

/-- The session feeds a chunk to the decompressor, and any other event ends the transfer. -/
def afterEvent : TunnelEvent → Phase
  | .data data => .feeding data
  | .exit code =>
      if code = 0 then .closing none
      else .closing (some ("server reported transfer failure (exit " ++ toString code ++ ")"))
  | .close => .closing (some "server closed the stream unexpectedly")
  | .error message => .closing (some ("remote error: " ++ message))

/-- The error of the transfer comes before that of the decompressor. -/
def result : Option String → PushRelay.Unpacked → Except String Unit
  | some failure, _ => .error failure
  | none, .ok => .ok ()
  | none, .failed error => .error error
  | none, .panicked _ => .error "join unpack task"

/-- The session moves by one action, or refuses one that its state does not allow. -/
def step (state : State) : Action → Option State
  | .announced failure =>
      match state.phase, failure with
      | .announcing, none => some { state with phase := .receiving, unpack := .running }
      | .announcing, some message => some { state with phase := .returned (.error message) }
      | _, _ => none
  | .receive =>
      match state.phase, state.events with
      | .receiving, event :: events => some { state with
          phase := afterEvent event
          events
          received := state.received ++ [event] }
      | .receiving, [] =>
          if state.registered then none
          else some { state with phase := .closing (some "event stream ended unexpectedly") }
      | _, _ => none
  -- The send blocks on a full channel, and it fails once the decompressor has dropped its reader.
  | .feed =>
      match state.phase with
      | .feeding data =>
          if state.writer.receiving then
            (state.writer.send data).map fun writer => { state with
              phase := .receiving
              writer
              accepted := state.accepted ++ [data] }
          else some { state with phase := .closing none, refused := some data }
      | _ => none
  -- The outcome of the POST of the `Close` is ignored.
  | .posted =>
      match state.phase with
      | .closing failure => some { state with phase := .joining failure }
      | _ => none
  | .join =>
      match state.phase, state.unpack with
      | .joining failure, .ended unpacked =>
          some { state with phase := .returned (result failure unpacked) }
      | _, _ => none
  | .arrive event =>
      if state.registered then some { state with events := state.events ++ [event] } else none
  | .hangUp => some { state with registered := false }
  | .takeChunk =>
      match state.unpack with
      | .running => state.writer.receive.map fun (_, writer) => { state with writer }
      | _ => none
  | .unpackEnds unpacked =>
      match state.unpack with
      | .running => some { state with unpack := .ended unpacked, writer := state.writer.drop }
      | _ => none

/-- These are the possible steps of the session and its surroundings, one for each branch of the
source. -/
inductive Move (state : State) : Action → State → Prop
  | announced : state.phase = .announcing →
      Move state (.announced none) { state with phase := .receiving, unpack := .running }
  | unannounced {message} : state.phase = .announcing →
      Move state (.announced (some message)) { state with phase := .returned (.error message) }
  | receive {event events} : state.phase = .receiving → state.events = event :: events →
      Move state .receive
        { state with phase := afterEvent event, events, received := state.received ++ [event] }
  | lost : state.phase = .receiving → state.events = [] → state.registered = false →
      Move state .receive { state with phase := .closing (some "event stream ended unexpectedly") }
  | feed {data writer} : state.phase = .feeding data → state.writer.receiving = true →
      state.writer.send data = some writer →
      Move state .feed
        { state with phase := .receiving, writer, accepted := state.accepted ++ [data] }
  | refuse {data} : state.phase = .feeding data → state.writer.receiving = false →
      Move state .feed { state with phase := .closing none, refused := some data }
  | posted {failure} : state.phase = .closing failure →
      Move state .posted { state with phase := .joining failure }
  | join {failure unpacked} : state.phase = .joining failure → state.unpack = .ended unpacked →
      Move state .join { state with phase := .returned (result failure unpacked) }
  | arrive {event} : state.registered = true →
      Move state (.arrive event) { state with events := state.events ++ [event] }
  | hangUp : Move state .hangUp { state with registered := false }
  | takeChunk {chunk writer} : state.unpack = .running →
      state.writer.receive = some (chunk, writer) → Move state .takeChunk { state with writer }
  | unpackEnds {unpacked} : state.unpack = .running →
      Move state (.unpackEnds unpacked)
        { state with unpack := .ended unpacked, writer := state.writer.drop }

/-- Each accepted action is one of the possible steps. -/
theorem step_move {state next : State} {action : Action}
    (moved : step state action = some next) : Move state action next := by
  cases action with
  | announced failure =>
      simp only [step] at moved
      split at moved
      · next announcing =>
          cases moved
          exact .announced announcing
      · next announcing =>
          cases moved
          exact .unannounced announcing
      · contradiction
  | receive =>
      simp only [step] at moved
      split at moved
      · next receiving arrived =>
          cases moved
          exact .receive receiving arrived
      · next receiving empty =>
          rw [Option.ite_none_left_eq_some, Option.some.injEq] at moved
          obtain ⟨unregistered, rfl⟩ := moved
          exact .lost receiving empty (Bool.eq_false_iff.mpr unregistered)
      · contradiction
  | feed =>
      simp only [step] at moved
      split at moved
      · next feeding =>
          split at moved
          · next receiving =>
              obtain ⟨writer, sent, rfl⟩ := Option.map_eq_some_iff.mp moved
              exact .feed feeding receiving sent
          · next dropped =>
              cases moved
              exact .refuse feeding (Bool.eq_false_iff.mpr dropped)
      · contradiction
  | posted =>
      simp only [step] at moved
      split at moved
      · next closing =>
          cases moved
          exact .posted closing
      · contradiction
  | join =>
      simp only [step] at moved
      split at moved
      · next joining ended =>
          cases moved
          exact .join joining ended
      · contradiction
  | arrive event =>
      rw [step, Option.ite_none_right_eq_some, Option.some.injEq] at moved
      obtain ⟨registered, rfl⟩ := moved
      exact .arrive registered
  | hangUp =>
      cases moved
      exact .hangUp
  | takeChunk =>
      simp only [step] at moved
      split at moved
      · next running =>
          obtain ⟨⟨chunk, writer⟩, taken, rfl⟩ := Option.map_eq_some_iff.mp moved
          exact .takeChunk running taken
      · contradiction
  | unpackEnds unpacked =>
      simp only [step] at moved
      split at moved
      · next running =>
          cases moved
          exact .unpackEnds running
      · contradiction

/-- An `Exit(0)` came before anything else but chunks. -/
def confirmed : List TunnelEvent → Bool
  | [] => false
  | .data _ :: rest => confirmed rest
  | .exit code :: _ => decide (code = 0)
  | .close :: _ | .error _ :: _ => false

/-- This chunk was received and is not fed yet. -/
def Phase.pending : Phase → List Bytes
  | .feeding data => [data]
  | .announcing | .receiving | .closing _ | .joining _ | .returned _ => []

/-- The session has returned or waits for another party. -/
def Waits (state : State) : Prop := ∀ action : Action, action.own = true → step state action = none

/-- The session returns `Ok` exactly if the unpack has succeeded and the server has confirmed. -/
def Earned (state : State) : Prop :=
  state.phase = .returned (.ok ()) ↔
    state.unpack = .ended .ok ∧ confirmed state.received = true

/-- No chunk is fed to a decompressor that has already returned success. -/
def Unended (state : State) : Action → Prop
  | .feed => state.unpack ≠ .ended .ok
  | _ => True

instance (state : State) : (action : Action) → Decidable (Unended state action)
  | .feed => inferInstanceAs (Decidable (_ ≠ _))
  | .announced _ | .receive | .posted | .join | .arrive _ | .hangUp | .takeChunk
  | .unpackEnds _ => isTrue trivial

/-- The transfer goes on, or it has not begun. -/
def Phase.transfers : Phase → Bool
  | .announcing | .receiving | .feeding _ => true
  | .closing _ | .joining _ | .returned _ => false

/-- The transfer has ended with an error or without one. -/
def Phase.failure? : Phase → Option (Option String)
  | .closing failure | .joining failure => some failure
  | .announcing | .receiving | .feeding _ | .returned _ => none

/-- The transfer ends without an error on the server's word, or because a chunk was refused. -/
def State.satisfied (state : State) : Bool := confirmed state.received || state.refused.isSome

/-- The decompressor's channel accepts all chunks in order, up to the one that it refuses because the
decompressor has ended. -/
structure Sound (state : State) : Prop where
  chunks : state.accepted ++ state.refused.toList ++ state.phase.pending = datas state.received
  absent : state.phase = .announcing → state.unpack = .absent
  joined : ∀ result, state.phase = .returned result → state.unpack ≠ .running
  writer : state.writer.receiving = false ↔ ∃ unpacked, state.unpack = .ended unpacked
  transfers : state.phase.transfers = true →
    (∀ event ∈ state.received, event.data?.isSome = true) ∧ state.refused = none
  refused : state.refused.isSome = true →
    confirmed state.received = false ∧ state.writer.receiving = false
  told : ∀ failure, state.phase.failure? = some failure →
    (failure = none ↔ state.satisfied = true)
  returned : ∀ result, state.phase = .returned result →
    (result = .ok () ↔ state.unpack = .ended .ok ∧ state.satisfied = true)

section Sound
variable {state next : State} {action : Action}

/-- Chunks neither confirm a transfer nor end it. -/
theorem confirmed_append {received : List TunnelEvent}
    (chunks : ∀ event ∈ received, event.data?.isSome = true) (rest : List TunnelEvent) :
    confirmed (received ++ rest) = confirmed rest := by
  induction received with
  | nil => rfl
  | cons event received ih =>
      obtain ⟨chunk, others⟩ := List.forall_mem_cons.mp chunks
      cases event with
      | data data => exact ih others
      | close | error | exit => cases chunk

/-- A transfer that consists of chunks alone is not confirmed. -/
theorem unconfirmed_of_chunks {received : List TunnelEvent}
    (chunks : ∀ event ∈ received, event.data?.isSome = true) : confirmed received = false := by
  have whole := confirmed_append chunks []
  rwa [List.append_nil] at whole

/-- A new session is sound. -/
theorem Sound.start : Sound start where
  chunks := rfl
  absent _ := rfl
  joined := nofun
  writer := by simp [PullSession.start]
  transfers _ := ⟨nofun, rfl⟩
  refused := nofun
  told := nofun
  returned := nofun

/-- A transfer that goes on is not satisfied yet. -/
theorem Sound.unsatisfied (sound : Sound state) (transfers : state.phase.transfers = true) :
    state.satisfied = false := by
  obtain ⟨chunks, unrefused⟩ := sound.transfers transfers
  simp [State.satisfied, unconfirmed_of_chunks chunks, unrefused]

/-- A chunk is fed, and any other event ends the transfer, without an error if it confirms. -/
theorem afterEvent_cases (event : TunnelEvent) :
    (∃ data, event = .data data ∧ afterEvent event = .feeding data) ∨
    (event.data? = none ∧ ∃ failure, afterEvent event = .closing failure ∧
      (failure = none ↔ confirmed [event] = true)) := by
  cases event with
  | data data => exact .inl ⟨data, rfl, rfl⟩
  | close => exact .inr ⟨rfl, _, rfl, by simp [confirmed]⟩
  | error message => exact .inr ⟨rfl, _, rfl, by simp [confirmed]⟩
  | exit code =>
      by_cases zero : code = 0
      · exact .inr ⟨rfl, none, if_pos zero, by simp [confirmed, zero]⟩
      · exact .inr ⟨rfl, _, if_neg zero, by simp [confirmed, zero]⟩

/-- The session takes a chunk to feed, or another event that ends the transfer. -/
theorem Sound.receive (sound : Sound state) (receiving : state.phase = .receiving)
    (event : TunnelEvent) (events : List TunnelEvent) :
    Sound { state with phase := afterEvent event, events, received := state.received ++ [event] } := by
  obtain ⟨chunks, unrefused⟩ := sound.transfers (by rw [receiving]; rfl)
  have alone := confirmed_append chunks [event]
  have whole := sound.chunks
  rw [receiving, Phase.pending, List.append_nil] at whole
  rcases afterEvent_cases event with ⟨data, rfl, after⟩ | ⟨silent, failure, after, told⟩
  · rw [after]
    constructor
    case chunks =>
      rw [datas_append, ← whole]
      rfl
    case absent => exact nofun
    case joined => exact nofun
    case writer => exact sound.writer
    case transfers =>
      refine fun _ => ⟨fun other member => ?_, unrefused⟩
      rcases List.mem_append.mp member with old | added
      · exact chunks other old
      · rw [List.mem_singleton.mp added]
        rfl
    case refused => simp [unrefused]
    case told => exact nofun
    case returned => exact nofun
  · rw [after]
    constructor
    case chunks =>
      rw [datas_append, datas_silent silent, ← whole]
      rfl
    case absent => exact nofun
    case joined => exact nofun
    case writer => exact sound.writer
    case transfers => exact nofun
    case refused => simp [unrefused]
    case told =>
      rintro other ⟨⟩
      rw [told, State.satisfied, alone, unrefused, Option.isSome_none, Bool.or_false]
    case returned => exact nofun

/-- A fed chunk is accepted behind the others. -/
theorem Sound.feed (sound : Sound state) {data : Bytes} (feeding : state.phase = .feeding data)
    (receiving : state.writer.receiving = true) {writer : Channel PushRelay.channelCap Bytes}
    (sent : state.writer.send data = some writer) :
    Sound { state with phase := .receiving, writer, accepted := state.accepted ++ [data] } := by
  obtain ⟨chunks, unrefused⟩ := sound.transfers (by rw [feeding]; rfl)
  have whole := sound.chunks
  rw [feeding, unrefused] at whole
  obtain ⟨-, -, still⟩ := Channel.send_some sent
  constructor
  case chunks =>
    rw [unrefused, ← whole]
    simp [Phase.pending]
  case absent => exact nofun
  case joined => exact nofun
  case writer =>
    rw [← sound.writer, receiving]
    exact iff_of_false (by rw [still]; nofun) nofun
  case transfers => exact fun _ => ⟨chunks, unrefused⟩
  case refused => simp [unrefused]
  case told => exact nofun
  case returned => exact nofun

/-- A chunk is refused only by the channel of a decompressor that has ended. -/
theorem Sound.refuse (sound : Sound state) {data : Bytes} (feeding : state.phase = .feeding data)
    (dropped : state.writer.receiving = false) :
    Sound { state with phase := .closing none, refused := some data } := by
  obtain ⟨chunks, unrefused⟩ := sound.transfers (by rw [feeding]; rfl)
  have whole := sound.chunks
  rw [feeding, unrefused] at whole
  constructor
  case chunks =>
    rw [← whole]
    simp [Phase.pending]
  case absent => exact nofun
  case joined => exact nofun
  case writer => exact sound.writer
  case transfers => exact nofun
  case refused => exact fun _ => ⟨unconfirmed_of_chunks chunks, dropped⟩
  case told =>
    rintro other ⟨⟩
    simp [State.satisfied]
  case returned => exact nofun

/-- A session that has its outcome moves on without touching it. -/
theorem Sound.forward (sound : Sound state) {phase : Phase}
    (pending : phase.pending = state.phase.pending) (ended : phase.transfers = false)
    (told : ∀ failure, phase.failure? = some failure →
      (failure = none ↔ state.satisfied = true))
    (returned : ∀ result, phase = .returned result → state.unpack ≠ .running ∧
      (result = .ok () ↔ state.unpack = .ended .ok ∧ state.satisfied = true)) :
    Sound { state with phase } where
  chunks := by
    rw [pending]
    exact sound.chunks
  absent announcing := by
    change phase = .announcing at announcing
    rw [announcing] at ended
    cases ended
  joined result same := (returned result same).1
  writer := sound.writer
  transfers transfers := by
    rw [ended] at transfers
    cases transfers
  refused := sound.refused
  told := told
  returned result same := (returned result same).2

/-- The session's result is `Ok` if there is no error to report and the unpack has succeeded. -/
theorem result_ok {failure : Option String} {unpacked : PushRelay.Unpacked} :
    result failure unpacked = .ok () ↔ failure = none ∧ unpacked = .ok := by
  cases failure with
  | some failure => simp [result]
  | none =>
      cases unpacked with
      | ok => simp [result]
      | failed | panicked => simp [result]

/-- The decompressor starts with the transfer. -/
theorem Sound.announced (sound : Sound state) (announcing : state.phase = .announcing) :
    Sound { state with phase := .receiving, unpack := .running } := by
  have pending : state.phase.pending = [] := by rw [announcing, Phase.pending]
  have transfers := sound.transfers (by rw [announcing]; rfl)
  constructor
  case chunks =>
    rw [← sound.chunks, pending]
    rfl
  case absent => exact nofun
  case joined => exact nofun
  case writer =>
    rw [sound.writer, sound.absent announcing]
    exact iff_of_false nofun nofun
  case transfers => exact fun _ => transfers
  case refused => exact sound.refused
  case told => exact nofun
  case returned => exact nofun

/-- The decompressor ends and drops its channel. -/
theorem Sound.unpackEnds (sound : Sound state) (running : state.unpack = .running)
    (unpacked : PushRelay.Unpacked) :
    Sound { state with unpack := .ended unpacked, writer := state.writer.drop } := by
  constructor
  case chunks => exact sound.chunks
  case absent =>
    intro announcing
    have absent := sound.absent announcing
    rw [running] at absent
    contradiction
  case joined => exact nofun
  case writer => exact iff_of_true rfl ⟨_, rfl⟩
  case transfers => exact sound.transfers
  case refused => exact fun refused => ⟨(sound.refused refused).1, rfl⟩
  case told => exact sound.told
  case returned => exact fun result returned => absurd running (sound.joined result returned)

/-- Every step keeps the session sound. -/
theorem Sound.step (sound : Sound state) (moved : step state action = some next) : Sound next := by
  cases step_move moved with
  | announced announcing => exact sound.announced announcing
  | unannounced announcing =>
      have unsatisfied := sound.unsatisfied (by rw [announcing]; rfl)
      refine sound.forward (by rw [announcing]; rfl) rfl nofun ?_
      rintro other ⟨⟩
      rw [sound.absent announcing]
      exact ⟨nofun, by simp⟩
  | receive receiving => exact sound.receive receiving _ _
  | lost receiving =>
      have unsatisfied := sound.unsatisfied (by rw [receiving]; rfl)
      refine sound.forward (by rw [receiving]; rfl) rfl ?_ nofun
      rintro other ⟨⟩
      simp [unsatisfied]
  | feed feeding receiving sent => exact sound.feed feeding receiving sent
  | refuse feeding dropped => exact sound.refuse feeding dropped
  | posted closing =>
      refine sound.forward (by rw [closing]; rfl) rfl ?_ nofun
      exact fun other same => sound.told other (by rw [closing]; exact same)
  | @join failure unpacked joining ended =>
      refine sound.forward (by rw [joining]; rfl) rfl nofun ?_
      rintro other ⟨⟩
      rw [ended]
      refine ⟨nofun, ?_⟩
      rw [result_ok, sound.told failure (by rw [joining]; rfl), Unpack.ended.injEq, and_comm]
  | arrive | hangUp => exact { sound with }
  | @takeChunk chunk writer running taken =>
      obtain ⟨-, before, after⟩ := Channel.receive_some taken
      have same : writer.receiving = state.writer.receiving := after.trans before.symm
      refine { sound with writer := ?_, refused := ?_ }
      · rw [← sound.writer]
        exact iff_of_eq (congrArg (· = false) same)
      · intro refused
        have dropped := (sound.refused refused).2
        exact ⟨(sound.refused refused).1, same.trans dropped⟩
  | unpackEnds running => exact sound.unpackEnds running _

/-- The decompressor has returned success, but it had refused a chunk before. -/
def Spoiled (state : State) : Prop :=
  state.refused.isSome = true ∧ state.unpack = .ended .ok

/-- Only feeding a chunk may have it refused. -/
theorem step_refused (other : action ≠ .feed) (moved : step state action = some next) :
    next.refused = state.refused := by
  cases step_move moved with
  | feed | refuse => contradiction
  | _ => rfl

/-- A decompressor that has ended keeps its result. -/
theorem Sound.step_ended (sound : Sound state) (moved : PullSession.step state action = some next)
    {unpacked : PushRelay.Unpacked} (ended : state.unpack = .ended unpacked) :
    next.unpack = .ended unpacked := by
  cases step_move moved with
  | announced announcing =>
      rw [sound.absent announcing] at ended
      contradiction
  | takeChunk running =>
      rw [running] at ended
      contradiction
  | unpackEnds running =>
      rw [running] at ended
      contradiction
  | _ => exact ended

/-- A session that feeds a chunk has had none refused. -/
theorem Sound.unspoiled (sound : Sound state) {data : Bytes}
    (feeding : state.phase = .feeding data) : ¬ Spoiled state := by
  rintro ⟨refused, -⟩
  rw [(sound.transfers (by rw [feeding]; rfl)).2] at refused
  contradiction

/-- A spoiled transfer stays spoiled. -/
theorem Sound.spoiled_step (sound : Sound state) (spoiled : Spoiled state)
    (moved : PullSession.step state action = some next) : Spoiled next := by
  refine ⟨?_, sound.step_ended moved spoiled.2⟩
  by_cases feeds : action = .feed
  · subst feeds
    cases step_move moved with
    | feed feeding => exact absurd spoiled (sound.unspoiled feeding)
    | refuse feeding => exact absurd spoiled (sound.unspoiled feeding)
  · rw [step_refused feeds moved]
    exact spoiled.1

/-- A transfer is spoiled exactly by a chunk that is fed after the decompressor's success. -/
theorem Sound.spoiled_iff (sound : Sound state) (unspoiled : ¬ Spoiled state)
    (moved : PullSession.step state action = some next) :
    Spoiled next ↔ ¬ Unended state action := by
  by_cases feeds : action = .feed
  · subst feeds
    rw [Unended, not_not]
    cases step_move moved with
    | feed feeding receiving sent =>
        refine iff_of_false ?_ ?_
        · rintro ⟨refused, -⟩
          rw [(sound.transfers (by rw [feeding]; rfl)).2] at refused
          contradiction
        · intro ended
          have dropped := sound.writer.mpr ⟨_, ended⟩
          rw [receiving] at dropped
          contradiction
    | refuse => exact ⟨And.right, fun ended => ⟨rfl, ended⟩⟩
  · have admitted : Unended state action := by
      cases action with
      | feed => exact absurd rfl feeds
      | _ => trivial
    refine iff_of_false ?_ (not_not_intro admitted)
    rintro ⟨refused, ended⟩
    rw [step_refused feeds moved] at refused
    obtain ⟨unpacked, before⟩ := sound.writer.mp (sound.refused refused).2
    have same := sound.step_ended moved before
    rw [same, Unpack.ended.injEq] at ended
    exact unspoiled ⟨refused, ended ▸ before⟩

/-- A satisfied session goes on until it has returned, once the decompressor has ended. -/
theorem Sound.returned_of_waits (sound : Sound state) (waits : Waits state)
    (satisfied : state.satisfied = true) {unpacked : PushRelay.Unpacked}
    (ended : state.unpack = .ended unpacked) : ∃ result, state.phase = .returned result := by
  cases phase : state.phase with
  | returned result => exact ⟨result, rfl⟩
  | closing failure =>
      have posted := waits .posted rfl
      simp [PullSession.step, phase] at posted
  | joining failure =>
      have joined := waits .join rfl
      simp [PullSession.step, phase, ended] at joined
  | announcing | receiving | feeding =>
      rw [sound.unsatisfied (by rw [phase]; rfl)] at satisfied
      cases satisfied

/-- A session that has returned or waits has earned its result unless the transfer is spoiled. -/
theorem Sound.earned_iff (sound : Sound state) (waits : Waits state) :
    Earned state ↔ ¬ Spoiled state := by
  constructor
  · rintro earned ⟨refused, ended⟩
    have satisfied : state.satisfied = true := by rw [State.satisfied, refused, Bool.or_true]
    obtain ⟨result, returned⟩ := sound.returned_of_waits waits satisfied ended
    have ok := (sound.returned result returned).mpr ⟨ended, satisfied⟩
    have confirms := (earned.mp (ok ▸ returned)).2
    rw [(sound.refused refused).1] at confirms
    cases confirms
  · intro unspoiled
    constructor
    · intro returned
      obtain ⟨ended, satisfied⟩ := (sound.returned _ returned).mp rfl
      refine ⟨ended, ?_⟩
      rw [State.satisfied, Bool.or_eq_true] at satisfied
      exact satisfied.resolve_right fun refused => unspoiled ⟨refused, ended⟩
    · rintro ⟨ended, confirms⟩
      have satisfied : state.satisfied = true := by rw [State.satisfied, confirms, Bool.true_or]
      obtain ⟨result, returned⟩ := sound.returned_of_waits waits satisfied ended
      rw [(sound.returned result returned).mpr ⟨ended, satisfied⟩] at returned
      exact returned

end Sound

/-- The decompressor's channel accepts exactly the chunks that are received, in order, up to the first
one that it refuses. A session that has returned or waits has earned its result exactly if no chunk
was fed to a decompressor that had already returned success. -/
theorem pull_earned_iff {actions : List Action} {final : State}
    (ran : Machine.run step start actions = some final) :
    final.accepted ++ final.refused.toList ++ final.phase.pending = datas final.received ∧
      (Waits final → (Earned final ↔ Machine.Along step Unended start actions)) := by
  have sound := Machine.run_invariant Sound.step Sound.start ran
  refine ⟨sound.chunks, fun waits => ?_⟩
  rw [sound.earned_iff waits]
  exact Machine.along_iff Sound.step Sound.spoiled_step Sound.spoiled_iff Sound.start nofun ran

/-- A pull of one chunk that the server confirms. -/
def confirmedPull : List Action :=
  [.announced none, .arrive (.data [1]), .receive, .feed, .takeChunk, .unpackEnds .ok,
    .arrive (.exit 0), .receive, .posted, .join]

theorem confirmedPull_earned : ∃ final, Machine.run step start confirmedPull = some final ∧
    final.phase = .returned (.ok ()) ∧ Earned final := by
  obtain ⟨final, ran, phase⟩ := Option.map_eq_some_iff.mp (show
    (Machine.run step start confirmedPull).map (fun final => final.phase) =
      some (.returned (.ok ())) by decide)
  refine ⟨final, ran, phase, ((pull_earned_iff ran).2 ?_).mpr (by decide)⟩
  intro action own
  cases action with
  | announced | receive | feed | posted | join => simp [step, phase]
  | arrive | hangUp | takeChunk | unpackEnds => cases own

/-- The archive is complete with its first chunk, the second one is refused, and the stream ends
without a confirmation. -/
theorem refused_chunk_succeeds : ∃ final,
    Machine.run step start [.announced none, .arrive (.data [1]), .receive, .feed, .takeChunk,
        .unpackEnds .ok, .arrive (.data [2]), .receive, .hangUp, .feed, .posted, .join] =
      some final ∧
      final.phase = .returned (.ok ()) ∧ confirmed final.received = false ∧ ¬ Earned final := by
  refine ⟨_, rfl, rfl, rfl, fun earned => ?_⟩
  exact absurd (earned.mp rfl).2 (by decide)

end Tunnix.PullSession
