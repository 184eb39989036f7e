import Tunnix.Server.Forwarding
import Tunnix.Server.SendToClient
import Tunnix.System.Downlink

namespace Tunnix.QueueExact
open Producer (Side)
open SendToClient (Call Phase)

/-- Another task of the session, or one of the relay's own tasks, sends to the client. -/
abbrev Task := Option Side

/-- The state joins one relay, the calls in which its tasks wait and the session's streams. The last
field records that a delivery of the output task has failed. -/
structure State where
  relay : Producer
  calls : Side → Option (Call Task Message)
  outlets : Outlets Downlink.streamCapacity Task Message
  failed : Bool

/-- A run begins with a fresh relay of one kind and an open stream. -/
def start (kind : Producer.Kind) : State where
  relay := kind.start
  calls _ := none
  outlets := .fresh _ _ _
  failed := false

/-- The relay acts, a task of it calls `send_to_client`, a call moves, the streams move, or another
task puts a message. -/
inductive Action where
  | relay (action : Producer.Action)
  | call (side : Side) (prepared : Bool)
  | move (side : Side) (move : SendToClient.Move)
  | outlets (action : Outlets.Action)
  | traffic (outlet : Nat) (message : Message)
deriving DecidableEq, Repr

/-- The relay moves, and a call ends with the delivery that its task waits for. -/
def State.withRelay (state : State) (relay : Producer) : State :=
  { state with
    relay
    calls := fun side =>
      if relay.sending side = state.relay.sending side then state.calls side else none }

/-- A task waits in its call, or its call is over. -/
def State.withCall (state : State) (side : Side) (call : Option (Call Task Message)) : State :=
  { state with calls := Function.update state.calls side call }

/-- A call that returns lets its task go on. -/
def State.returned (state : State) (side : Side) (ok : Bool) : Option State :=
  (state.relay.returned side ok).bind fun action =>
    (state.relay.step action).map fun relay =>
      { (state.withRelay relay).withCall side none with
        failed := state.failed || decide (side = .output) && !ok }

/-- The task waits in its call until it returns. -/
def State.resume (state : State) (side : Side) (call : Call Task Message) : Option State :=
  match call.phase with
  | .returned ok => state.returned side ok
  | .fetching | .sending _ | .sleeping => some (state.withCall side (some call))

/-- The session moves by one action, or refuses one that its state does not allow. -/
def step (connId : ConnId) (state : State) : Action → Option State
  | .relay action =>
      if action.internal then (state.relay.step action).map state.withRelay else none
  | .call side prepared =>
      match state.relay.sending side, state.calls side with
      | some (event, attempts), none =>
          state.resume side (.start (some side) (event.message connId) attempts prepared)
      | _, _ => none
  | .move side move =>
      match state.calls side with
      | some call =>
          (call.step state.outlets move).bind fun moved =>
            { state with outlets := moved.1 }.resume side moved.2
      | none => none
  | .outlets action => (state.outlets.step action).map fun outlets => { state with outlets }
  | .traffic outlet message =>
      (state.outlets.put ⟨none, outlet, message⟩).map fun outlets => { state with outlets }

/-- The output task has queued these payloads, in the order of time over all streams. -/
def State.payloads (connId : ConnId) (state : State) : List Bytes :=
  datas ((state.outlets.madeBy (some .output)).filterMap fun put => put.item.event connId)

/-- A call carries what its task sends, and it has not returned. -/
structure Carries (connId : ConnId) (relay : Producer) (side : Side) (call : Call Task Message) :
    Prop where
  task : call.task = some side
  sends : ∃ event attempts, relay.sending side = some (event, attempts) ∧
    call.item = event.message connId
  waits : ∀ ok, call.phase ≠ .returned ok

/-- The relay forwards its output in order, the queued payloads are those that it has passed on, and
a failed delivery has stopped it. -/
structure Inv (connId : ConnId) (state : State) : Prop where
  separate : state.relay.Separate
  faithful : state.relay.output.Faithful
  flow : state.payloads connId = state.relay.output.passed
  calls : ∀ side call, state.calls side = some call → Carries connId state.relay side call
  stopped : state.failed = true → state.relay.output.running = false

theorem Inv.start (connId : ConnId) (kind : Producer.Kind) : Inv connId (start kind) where
  separate := kind.separate
  faithful := by
    change kind.start.output.Faithful
    rw [kind.output]
    exact .fresh
  flow := by
    change _ = kind.start.output.passed
    rw [kind.output]
    rfl
  calls _ call waits := absurd waits (Option.some_ne_none call).symm
  stopped failed := absurd failed Bool.false_ne_true

section Inv
variable {connId : ConnId} {state next : State}

/-- A call that its task still waits in carries what the task sends. -/
theorem Carries.kept {relay : Producer}
    (calls : ∀ side call, state.calls side = some call → Carries connId state.relay side call)
    {side : Side} {call : Call Task Message}
    (waits : (state.withRelay relay).calls side = some call) : Carries connId relay side call := by
  unfold State.withRelay at waits
  rw [Option.ite_none_right_eq_some] at waits
  obtain ⟨same, waits⟩ := waits
  obtain ⟨task, sends, running⟩ := calls side call waits
  exact ⟨task, by rw [same]; exact sends, running⟩

/-- The relay acts between its deliveries. -/
theorem Inv.relay (inv : Inv connId state) {action : Producer.Action}
    (moved : step connId state (.relay action) = some next) : Inv connId next := by
  rw [step, Option.ite_none_right_eq_some] at moved
  obtain ⟨internal, moved⟩ := moved
  obtain ⟨relay, stepped, rfl⟩ := Option.map_eq_some_iff.mp moved
  obtain ⟨separate, moves⟩ := inv.separate.step stepped
  have passed : relay.output.passed = state.relay.output.passed := by
    rw [Producer.output_passed, Producer.output_passed, Producer.queued_internal internal stepped]
  constructor
  case separate => exact separate
  case faithful => exact inv.faithful.move moves
  case flow => exact inv.flow.trans passed.symm
  case calls => exact fun side call waits => Carries.kept inv.calls waits
  case stopped => exact fun failed => moves.stopped (inv.stopped failed)

/-- What a delivery adds to the queued payloads is what the relay passes on with it. -/
theorem Inv.passed (inv : Inv connId state) {side : Side} {ok : Bool} {event : TunnelEvent}
    {attempts : Nat} {action : Producer.Action} {relay : Producer}
    (sends : state.relay.sending side = some (event, attempts))
    (returns : state.relay.returned side ok = some action)
    (stepped : state.relay.step action = some relay) :
    relay.output.passed = state.payloads connId ++
      if side = .output ∧ ok = true then datas [event] else [] := by
  have queued := Producer.queued_returned sends returns stepped
  rw [inv.flow, Producer.output_passed, Producer.output_passed, queued]
  cases ok with
  | false => simp
  | true =>
      cases side with
      | output => simp
      | control => simp [datas_silent (inv.separate.control sends)]

/-- A call returns, and its message is queued or the relay hears of its failure. -/
theorem Inv.returned (inv : Inv connId state)
    {outlets : Outlets Downlink.streamCapacity Task Message} {side : Side} {ok : Bool}
    {event : TunnelEvent} {attempts : Nat}
    (sends : state.relay.sending side = some (event, attempts))
    (payloads : { state with outlets }.payloads connId = state.payloads connId ++
      if side = .output ∧ ok = true then datas [event] else [])
    (moved : { state with outlets }.returned side ok = some next) : Inv connId next := by
  obtain ⟨action, returns, moved⟩ := Option.bind_eq_some_iff.mp moved
  obtain ⟨relay, stepped, rfl⟩ := Option.map_eq_some_iff.mp moved
  change state.relay.returned side ok = some action at returns
  change state.relay.step action = some relay at stepped
  obtain ⟨separate, moves⟩ := inv.separate.step stepped
  constructor
  case separate => exact separate
  case faithful => exact inv.faithful.move moves
  case flow => exact payloads.trans (inv.passed sends returns stepped).symm
  case calls =>
    intro other call waits
    change Function.update (state.withRelay relay).calls side none other = some call at waits
    by_cases same : other = side
    · subst same
      rw [Function.update_self] at waits
      contradiction
    · rw [Function.update_of_ne same] at waits
      exact Carries.kept inv.calls waits
  case stopped =>
    intro failed
    change (state.failed || decide (side = .output) && !ok) = true at failed
    rcases Bool.or_eq_true_iff.mp failed with earlier | now
    · exact moves.stopped (inv.stopped earlier)
    · simp only [Bool.and_eq_true, decide_eq_true_eq, Bool.not_eq_true'] at now
      obtain ⟨rfl, rfl⟩ := now
      exact Producer.stops_of_failed returns stepped

/-- A task waits on in its call. -/
theorem Inv.withCall (inv : Inv connId state) {side : Side} {call : Call Task Message}
    (carries : Carries connId state.relay side call) :
    Inv connId (state.withCall side (some call)) where
  separate := inv.separate
  faithful := inv.faithful
  flow := inv.flow
  calls := by
    intro other entry waits
    change Function.update state.calls side (some call) other = some entry at waits
    by_cases same : other = side
    · subst same
      rw [Function.update_self, Option.some.injEq] at waits
      exact waits ▸ carries
    · rw [Function.update_of_ne same] at waits
      exact inv.calls other entry waits
  stopped := inv.stopped

/-- The streams move without a put of the output task. -/
theorem Inv.of_outlets (inv : Inv connId state)
    {outlets : Outlets Downlink.streamCapacity Task Message}
    (kept : outlets.madeBy (some .output) = state.outlets.madeBy (some .output)) :
    Inv connId { state with outlets } where
  separate := inv.separate
  faithful := inv.faithful
  flow := by
    unfold State.payloads
    rw [kept]
    exact inv.flow
  calls := inv.calls
  stopped := inv.stopped

/-- A call that waits on or fails has put nothing. -/
theorem Inv.resume (inv : Inv connId state) {side : Side} {call : Call Task Message}
    {event : TunnelEvent} {attempts : Nat}
    (sends : state.relay.sending side = some (event, attempts)) (task : call.task = some side)
    (item : call.item = event.message connId) (waits : call.phase ≠ .returned true)
    (moved : state.resume side call = some next) : Inv connId next := by
  unfold State.resume at moved
  split at moved
  · next ok returned =>
      cases ok with
      | true => exact absurd returned waits
      | false =>
          change { state with outlets := state.outlets }.returned side false = some next at moved
          exact inv.returned sends (by simp) moved
  all_goals
    next phase =>
      cases moved
      exact inv.withCall ⟨task, ⟨event, attempts, sends, item⟩, by rw [phase]; nofun⟩

/-- A put of a call queues what its task sends. -/
theorem payloads_put {outlets : Outlets Downlink.streamCapacity Task Message} {side : Side}
    {event : TunnelEvent} {sender : Nat}
    (done : state.outlets.put ⟨some side, sender, event.message connId⟩ = some outlets) :
    { state with outlets }.payloads connId = state.payloads connId ++
      if side = .output ∧ true = true then datas [event] else [] := by
  unfold State.payloads
  cases side with
  | output =>
      have one := Outlets.madeBy_put done
      change outlets.madeBy (some .output) = _ at one
      change datas ((outlets.madeBy (some .output)).filterMap _) = _
      rw [one, List.filterMap_append, datas_append]
      simp
  | control =>
      have other : (some Side.control : Task) ≠ some .output := by decide
      have none_ := Outlets.madeBy_put_other other done
      change datas ((outlets.madeBy (some .output)).filterMap _) = _
      rw [none_]
      simp

/-- A call moves. -/
theorem Inv.move (inv : Inv connId state) {side : Side} {move : SendToClient.Move}
    (moved : step connId state (.move side move) = some next) : Inv connId next := by
  simp only [step] at moved
  split at moved
  · next call calls =>
      obtain ⟨⟨outlets, after⟩, stepped, moved⟩ := Option.bind_eq_some_iff.mp moved
      obtain ⟨own, ⟨event, attempts, sends, carried⟩, -⟩ := inv.calls side call calls
      obtain ⟨task, item, -, done⟩ := Call.step_cases stepped
      rcases done with ⟨sender, done, returned⟩ | ⟨rfl, waits⟩
      · unfold State.resume at moved
        rw [returned] at moved
        unfold Call.put at done
        rw [own, carried] at done
        exact inv.returned sends (payloads_put done) moved
      · exact inv.resume sends (task.trans own) (item.trans carried) waits moved
  · contradiction

/-- Every step of the session keeps the invariant. -/
theorem Inv.step {action : Action} (inv : Inv connId state)
    (moved : step connId state action = some next) : Inv connId next := by
  cases action with
  | relay action => exact inv.relay moved
  | call side prepared =>
      simp only [QueueExact.step] at moved
      split at moved
      · next event attempts sends idle =>
          refine inv.resume sends rfl rfl ?_ moved
          change (if prepared = true ∧ 0 < attempts then Phase.fetching else .returned false) ≠ _
          split <;> nofun
      · contradiction
  | move side move => exact inv.move moved
  | outlets action =>
      obtain ⟨outlets, stepped, rfl⟩ := Option.map_eq_some_iff.mp moved
      exact inv.of_outlets (Outlets.madeBy_step stepped _)
  | traffic outlet message =>
      obtain ⟨outlets, done, rfl⟩ := Option.map_eq_some_iff.mp moved
      exact inv.of_outlets (Outlets.madeBy_put_other (by simp) done)

/-- A call that returns moves the relay's forwarder. -/
theorem returned_output {side : Side} {ok : Bool} (separate : state.relay.Separate)
    (moved : state.returned side ok = some next) : state.relay.output.Move next.relay.output := by
  obtain ⟨action, -, moved⟩ := Option.bind_eq_some_iff.mp moved
  obtain ⟨relay, stepped, rfl⟩ := Option.map_eq_some_iff.mp moved
  exact (separate.step stepped).2

/-- A call that does not return leaves the relay's forwarder as it is. -/
theorem resume_output {side : Side} {call : Call Task Message} (separate : state.relay.Separate)
    (moved : state.resume side call = some next) : state.relay.output.Move next.relay.output := by
  unfold State.resume at moved
  split at moved
  · exact returned_output separate moved
  all_goals
    cases moved
    exact .stay

/-- Each step of the session is a step of the relay's forwarder. -/
theorem Inv.output_move {action : Action} (inv : Inv connId state)
    (moved : QueueExact.step connId state action = some next) :
    state.relay.output.Move next.relay.output := by
  have separate := inv.separate
  cases action with
  | relay action =>
      rw [QueueExact.step, Option.ite_none_right_eq_some] at moved
      obtain ⟨relay, stepped, rfl⟩ := Option.map_eq_some_iff.mp moved.2
      exact (separate.step stepped).2
  | call side prepared =>
      simp only [QueueExact.step] at moved
      split at moved
      · exact resume_output separate moved
      · contradiction
  | move side move =>
      simp only [QueueExact.step] at moved
      split at moved
      · obtain ⟨after, -, moved⟩ := Option.bind_eq_some_iff.mp moved
        have moves := resume_output (by exact separate) moved
        exact moves
      · contradiction
  | outlets action =>
      obtain ⟨outlets, -, rfl⟩ := Option.map_eq_some_iff.mp moved
      exact .stay
  | traffic outlet message =>
      obtain ⟨outlets, -, rfl⟩ := Option.map_eq_some_iff.mp moved
      exact .stay

/-- The forwarder has stopped with these payloads queued. -/
structure Halted (connId : ConnId) (queued : List Bytes) (state : State) : Prop where
  inv : Inv connId state
  stopped : state.relay.output.running = false
  queued : state.payloads connId = queued

/-- A stopped forwarder queues no further payload. -/
theorem Halted.step {queued : List Bytes} {action : Action} (halted : Halted connId queued state)
    (moved : QueueExact.step connId state action = some next) : Halted connId queued next := by
  have moves := halted.inv.output_move moved
  have inv := halted.inv.step moved
  constructor
  case inv => exact inv
  case stopped => exact moves.stopped halted.stopped
  case queued =>
    calc next.payloads connId = next.relay.output.passed := inv.flow
      _ = state.relay.output.passed := moves.passed halted.stopped
      _ = state.payloads connId := halted.inv.flow.symm
      _ = queued := halted.queued

end Inv

/-- In every run a call returns `true` exactly if its message is in one stream, once, and `false`
exactly if it is in none. The payloads that a relay's output task has queued are an in-order prefix
of what it has read, and nothing is added to them after a failed delivery. -/
theorem queueing_exact {capacity : Nat} {Owner Item : Type*} [DecidableEq Owner] {owner : Owner}
    {item : Item} {attempts : Nat} {prepared : Bool}
    {schedule : List (SendToClient.Action Owner Item)}
    {called : SendToClient.State capacity Owner Item} {connId : ConnId} {kind : Producer.Kind}
    {actions rest : List Action} {middle final : State}
    (calls : Machine.run SendToClient.step
      (SendToClient.start capacity (.start owner item attempts prepared)) schedule = some called)
    (ran : Machine.run (step connId) (start kind) actions = some middle)
    (further : Machine.run (step connId) middle rest = some final) :
    SendToClient.Exact called ∧ middle.payloads connId <+: middle.relay.produced ∧
      (middle.failed = true → final.payloads connId = middle.payloads connId) := by
  have inv := Machine.run_invariant Inv.step (Inv.start connId kind) ran
  refine ⟨SendToClient.exact_run calls, ?_, ?_⟩
  · rw [inv.flow, ← Producer.output_taken]
    exact inv.faithful.part
  · intro failed
    have halted : Halted connId (middle.payloads connId) middle := ⟨inv, inv.stopped failed, rfl⟩
    exact (Machine.run_invariant Halted.step halted further).queued

/-- A call is overtaken by a reconnect and succeeds with its second attempt. A relay queues its
first chunk, fails with its second one and settles. -/
theorem queueing_exact_after_reconnect : ∃ called middle final,
    Machine.run SendToClient.step (SendToClient.start 1 (.start true 5 2 true))
      [.call .fetch, .outlets .replace, .outlets (.drop 0), .call (.fails false), .call .wake,
        .call .fetch, .call .send] = some called ∧
    (called.call.phase = .returned true ∧ called.outlets.puts = [⟨true, 1, 5⟩]) ∧
    Machine.run (step 7) (start .tcp)
      [.relay (.tcp (.readTarget [1])), .call .output true, .move .output .fetch,
        .move .output .send, .relay (.tcp (.readTarget [2])), .call .output false] = some middle ∧
    (middle.failed = true ∧ middle.payloads 7 = [[1]]) ∧
    Machine.run (step 7) middle [.relay (.tcp .settle)] = some final ∧
    SendToClient.Exact called ∧ middle.payloads 7 <+: middle.relay.produced ∧
      (middle.failed = true → final.payloads 7 = middle.payloads 7) := by
  obtain ⟨called, calls, seen⟩ := Option.map_eq_some_iff.mp (show (Machine.run SendToClient.step
    (SendToClient.start 1 (.start true 5 2 true))
      [.call .fetch, .outlets .replace, .outlets (.drop 0), .call (.fails false), .call .wake,
        .call .fetch, .call .send]).map (fun state => (state.call.phase, state.outlets.puts)) =
    some (.returned true, [⟨true, 1, 5⟩]) by decide)
  obtain ⟨middle, ran, rest⟩ := Option.bind_eq_some_iff.mp (show ((Machine.run (step 7) (start .tcp)
      [.relay (.tcp (.readTarget [1])), .call .output true, .move .output .fetch,
        .move .output .send, .relay (.tcp (.readTarget [2])), .call .output false]).bind
      fun middle => (Machine.run (step 7) middle [.relay (.tcp .settle)]).map fun _ =>
        (middle.failed, middle.payloads 7)) = some (true, [[1]]) by decide)
  obtain ⟨final, further, failed⟩ := Option.map_eq_some_iff.mp rest
  exact ⟨called, middle, final, calls, Prod.mk.injEq .. ▸ seen, ran, Prod.mk.injEq .. ▸ failed,
    further, queueing_exact calls ran further⟩

end Tunnix.QueueExact
