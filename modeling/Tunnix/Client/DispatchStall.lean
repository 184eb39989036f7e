import Tunnix.Client.DispatchExact

namespace Tunnix.DispatchStall
open Dispatch

/-- The consumer of a registration is alive, and its queue is full. -/
def Conn.full (conn : Conn) (registration : Nat) : Bool :=
  conn.registrations[registration]?.any fun held =>
    held.channel.receiving && held.channel.items.length = ClientRelay.connChannelCapacity

/-- This timeout expires over an event that a slow consumer leaves no slot for. -/
def Stalls (state : State) (action : Action) (connId : ConnId) (registration : Nat)
    (event : TunnelEvent) : Prop :=
  action = .connection connId .stall ∧
    (state.conns connId).waiting = some (.reserving registration event) ∧
    Conn.full (state.conns connId) registration = true

/-- Some `Data` for a registration was not queued. -/
def Conn.Truncated (conn : Conn) (dispatched : List TunnelEvent) (registration : Nat) : Prop :=
  ∃ held, conn.registrations[registration]? = some held ∧
    datas held.sent ≠ held.offered dispatched

/-- A `Close` or an `Exit` ends what its connection receives. -/
def Terminal : TunnelEvent → Prop
  | .close | .exit _ => True
  | .data _ | .error _ => False

/-- A task off the dispatch loop still waits to deliver this event. -/
def Conn.Delivers (conn : Conn) (registration : Nat) (event : TunnelEvent) : Prop :=
  event = .close ∧ ⟨registration, false⟩ ∈ conn.handOffs

/-- A task gives up on its `Close` once it has delivered it, once its receiver is gone, or at the end of
the longer bound. -/
def HandedOff (conn next : Conn) (registration : Nat) (action : Conn.Action) : Prop :=
  ⟨registration, false⟩ ∈ next.handOffs ∨
    ∃ task, conn.handOffs[task]? = some ⟨registration, false⟩ ∧
      ((action = .handOff task ∧ ∃ before after, conn.registrations[registration]? = some before ∧
          next.registrations[registration]? = some after ∧ after.sent = before.sent ++ [.close]) ∨
        (action = .handOffRefused task ∧ conn.gone registration = true) ∨
        action = .handOffExpires task)

/-- A step drops only truncated connections for stalling. It loses no terminal event of another one
because of a slow consumer, and a `Close` that was handed off waits for its own bound. -/
structure SparesComplete (state : State) (action : Action) (next : State) : Prop where
  drops : ∀ {connId registration event}, Stalls state action connId registration event →
    (next.conns connId).waiting = some .unregistering →
    Conn.Truncated (state.conns connId) (state.dispatched connId) registration
  keeps : ∀ {connId registration event}, Stalls state action connId registration event →
    ¬ Conn.Truncated (state.conns connId) (state.dispatched connId) registration → Terminal event →
    Conn.Delivers (next.conns connId) registration event ∧
      (next.conns connId).current = (state.conns connId).current
  hands : ∀ {connId registration act}, action = .connection connId act →
    ⟨registration, false⟩ ∈ (state.conns connId).handOffs →
    HandedOff (state.conns connId) (next.conns connId) registration act

/-- The step that the state takes spares complete connections. -/
def Spares (state : State) (action : Action) : Prop :=
  ∀ next, step state action = some next → SparesComplete state action next

/-- No consumer leaves its queue full while the dispatch loop waits to queue an `Exit` or an `Error`. -/
def Unhurried (state : State) : Action → Prop
  | .connection connId .stall =>
      match (state.conns connId).waiting with
      | some (.reserving registration (.exit _)) | some (.reserving registration (.error _)) =>
          Conn.full (state.conns connId) registration = false
      | _ => True
  | _ => True

/-- The dispatch loop neither waits for the current registration nor is about to drop it. -/
def Conn.Open (conn : Conn) (registration : Nat) : Prop :=
  conn.current = some registration ∧ conn.waiting ≠ some .unregistering ∧
    ∀ event, ¬ conn.Owes registration event

/-- The registrations of a connection are whole, in whatever order its messages come. -/
structure Kept (conn : Conn) (dispatched : List TunnelEvent) : Prop where
  whole : ∀ {registration held}, conn.registrations[registration]? = some held →
    Whole dispatched (Conn.Open conn registration) (conn.Owes registration) held
  known : ∀ {registration}, Conn.Open conn registration ∨ (∃ event, conn.Owes registration event) →
    registration < conn.registrations.length

section Kept
variable {conn next : Conn} {dispatched : List TunnelEvent} {registration : Nat}
  {event : TunnelEvent}

theorem Kept.start : Kept ⟨[], none, [], none⟩ [] where
  whole found := by cases found
  known held := by
    rcases held with ⟨current, _⟩ | ⟨event, due⟩
    · cases current
    · cases due

/-- The end of the wait for one registration opens no other one. -/
theorem open_of_released {other : Nat} (owes : conn.Owes registration event)
    (opens : Conn.Open { conn with waiting := none } other) :
    Conn.Open conn other ∨ other = registration := by
  by_cases same : other = registration
  · exact Or.inr same
  · have reserving : conn.waiting = some (.reserving registration event) := owes
    refine Or.inl ⟨opens.1, by simp [reserving], ?_⟩
    intro later due
    rw [Conn.Owes, reserving, Option.some.injEq, Waiting.reserving.injEq] at due
    exact same due.1.symm

theorem Kept.registered (kept : Kept conn dispatched) :
    Registered (Whole dispatched) (Conn.Open conn) conn.Owes conn.registrations :=
  ⟨kept.whole, kept.known⟩

/-- A step that moves no event keeps the registrations whole if it opens only those that are owed no
chunk or have no receiver. -/
theorem Kept.control (kept : Kept conn dispatched) (same : next.registrations = conn.registrations)
    (opens : ∀ registration, Conn.Open next registration → Conn.Open conn registration ∨
      ∃ event, conn.Owes registration event ∧
        (event.data? = none ∨ conn.gone registration = true))
    (owes : ∀ registration event, next.Owes registration event → conn.Owes registration event) :
    Kept next dispatched := by
  have registered := kept.registered.control Whole.weaken opens owes
  rw [← same] at registered
  exact ⟨registered.held, registered.known⟩

/-- A step that changes one registration keeps the others whole. -/
theorem Kept.modify (kept : Kept conn dispatched) {cleared : Conn}
    {change : Registration → Registration} (same : cleared.registrations = conn.registrations)
    (self : ∀ held, conn.registrations[registration]? = some held →
      Whole dispatched (Conn.Open cleared registration) (cleared.Owes registration) (change held))
    (opens : ∀ other, Conn.Open cleared other →
      Conn.Open conn other ∨ ∃ event, conn.Owes registration event ∧ other = registration)
    (owes : ∀ other event, cleared.Owes other event → conn.Owes other event) :
    Kept { cleared with registrations := cleared.registrations.modify registration change }
      dispatched := by
  have registered := kept.registered.modify Whole.weaken self opens owes
  rw [← same] at registered
  exact ⟨registered.held, registered.known⟩

theorem Kept.unregister (kept : Kept conn dispatched) :
    Kept conn.unregisterConnection dispatched := by
  refine kept.control rfl ?_ ?_
  · intro registration opens
    cases opens.1
  · exact fun _ _ due => due

/-- A new registration is whole, and it closes the one before it. -/
theorem Kept.register (kept : Kept conn dispatched) :
    Kept (conn.registerConnection dispatched.length) dispatched where
  whole {registration held} found := by
    rcases Table.concat_iff.mp found with old | ⟨rfl, rfl⟩
    · apply (kept.whole old).weaken ?_ (fun _ due => due)
      intro _ opens
      have inside := (List.getElem?_eq_some_iff.mp old).1
      obtain rfl := Option.some.inj opens.1
      exact absurd inside (Nat.lt_irrefl _)
    · apply Whole.fresh
      intro event due
      exact Nat.lt_irrefl _ (kept.known (Or.inr ⟨event, due⟩))
  known {registration} held := by
    change registration < (conn.registrations ++ [_]).length
    rw [List.length_append]
    apply Nat.lt_succ_of_le
    rcases held with opens | due
    · obtain rfl := Option.some.inj opens.1
      exact Nat.le_refl _
    · exact Nat.le_of_lt (kept.known (Or.inr due))

/-- The dispatch loop sends the event that it waits to send. -/
theorem Kept.reserve (kept : Kept conn dispatched) (owes : conn.Owes registration event)
    (sent : Conn.send { conn with waiting := none } registration event = some next) :
    Kept next dispatched := by
  obtain ⟨held, channel, found, accepted, rfl⟩ := send_some sent
  change conn.registrations[registration]? = some held at found
  have silent (other : Nat) (later : TunnelEvent) :
      ¬ Conn.Owes { conn with waiting := none } other later := by
    intro due
    cases due
  refine kept.modify rfl ?_ ?_ ?_
  · intro other same
    obtain rfl := Option.some.inj (found.symm.trans same)
    have due := (kept.whole found).rest event (Channel.send_some accepted).1 owes
    exact (kept.whole found).send accepted due fun later due => absurd due (silent registration later)
  · intro other opens
    exact (open_of_released owes opens).imp_right fun same => ⟨event, owes, same⟩
  · exact fun other later due => absurd due (silent other later)

/-- A stalled `Close` and a refused event leave their registration open, which is owed no chunk. -/
theorem Kept.release (kept : Kept conn dispatched) (owes : conn.Owes registration event)
    (harmless : event.data? = none ∨ conn.gone registration = true) (tasks : List HandOff) :
    Kept { conn with waiting := none, handOffs := tasks } dispatched := by
  refine kept.control rfl ?_ ?_
  · intro other opens
    rcases open_of_released owes opens with old | rfl
    · exact Or.inl old
    · exact Or.inr ⟨event, owes, harmless⟩
  · intro other later due
    cases due

/-- A task hands over its `Close`, which is no chunk. -/
theorem Kept.handOff (kept : Kept conn dispatched) {tasks : List HandOff}
    (sent : Conn.send { conn with handOffs := tasks } registration .close = some next) :
    Kept next dispatched := by
  obtain ⟨held, channel, found, accepted, rfl⟩ := send_some sent
  change conn.registrations[registration]? = some held at found
  refine kept.modify rfl ?_ ?_ ?_
  · intro other same
    obtain rfl := Option.some.inj (found.symm.trans same)
    exact (kept.whole found).silent accepted rfl
  · exact fun other opens => Or.inl opens
  · exact fun _ _ due => due

/-- Every step of a connection keeps its registrations whole. -/
theorem Kept.step {action : Conn.Action} (kept : Kept conn dispatched)
    (moved : conn.step dispatched.length action = some next) : Kept next dispatched := by
  cases Conn.step_move moved with
  | register => exact kept.register
  | unregister => exact kept.unregister
  | reserve waits sent => exact kept.reserve waits sent
  | refuse waits gone => exact kept.release waits (Or.inr gone) conn.handOffs
  | stallClose waits => exact kept.release waits (Or.inl rfl) _
  | stall =>
      refine kept.control rfl ?_ ?_
      · exact fun _ opens => absurd rfl opens.2.1
      · intro _ _ due
        cases due
  | dropStalled =>
      refine kept.control rfl ?_ ?_
      · intro registration opens
        cases opens.1
      · intro _ _ due
        cases due
  | handOff _ sent => exact kept.handOff sent
  | handOffRefused | handOffExpires =>
      exact kept.control rfl (fun _ opens => Or.inl opens) (fun _ _ due => due)
  | handOffRemoves =>
      exact kept.unregister.control rfl (fun _ opens => Or.inl opens) (fun _ _ due => due)
  | receive found received =>
      refine kept.modify rfl ?_ (fun _ opens => Or.inl opens) (fun _ _ due => due)
      intro other same
      obtain rfl := Option.some.inj (found.symm.trans same)
      exact (kept.whole found).receive received
  | dropReceiver =>
      refine kept.modify rfl ?_ (fun _ opens => Or.inl opens) (fun _ _ due => due)
      exact fun held found => (kept.whole found).drop

/-- An event is dispatched while the dispatch loop waits for nothing. -/
theorem Kept.dispatch (kept : Kept conn dispatched) (idle : conn.waiting = none)
    (event : TunnelEvent) : Kept ((conn.dispatch event).getD conn) (dispatched ++ [event]) := by
  cases known : conn.current with
  | none =>
      have ignored : conn.dispatch event = none := congrArg (Option.map _) known
      rw [ignored, Option.getD_none]
      constructor
      · intro registration held found
        apply (kept.whole found).dispatch event
        · intro opens
          exact absurd (known.symm.trans opens.1) (by simp)
        · intro other due
          rw [Conn.Owes, idle] at due
          cases due
      · exact kept.known
  | some current =>
      have waits : conn.dispatch event = some { conn with
          waiting := some (.reserving current event) } := congrArg (Option.map _) known
      rw [waits, Option.getD_some]
      have opens : Conn.Open conn current := ⟨known, by simp [idle], by simp [Conn.Owes, idle]⟩
      constructor
      · intro registration held found
        apply (kept.whole found).dispatch event
        · rintro ⟨same, _, free⟩
          obtain rfl := Option.some.inj (known.symm.trans same)
          exact absurd rfl (free event)
        · intro other due
          obtain ⟨rfl, rfl⟩ := Waiting.reserving.inj (Option.some.inj due)
          exact ⟨opens, rfl⟩
      · intro registration held
        rcases held with ⟨same, _, free⟩ | ⟨other, due⟩
        · obtain rfl := Option.some.inj (known.symm.trans same)
          exact absurd rfl (free event)
        · obtain ⟨rfl, rfl⟩ := Waiting.reserving.inj (Option.some.inj due)
          exact kept.known (Or.inl opens)

end Kept

/-- Every connection is whole, and the dispatch loop is busy with the one that it waits for. -/
structure Tracked (state : State) : Prop where
  conn : ∀ connId, Kept (state.conns connId) (state.dispatched connId)
  busy : ∀ connId, state.busy = some connId ↔ (state.conns connId).waiting.isSome

section Tracked
variable {state next : State} {action : Action} {connId : ConnId} {registration : Nat}
  {event : TunnelEvent}

theorem Tracked.start : Tracked start where
  conn _ := Kept.start
  busy _ := by simp [Dispatch.start]

/-- Every step keeps all connections whole. -/
theorem Tracked.step (tracked : Tracked state) (moved : Dispatch.step state action = some next) :
    Tracked next := by
  cases action with
  | dispatch message =>
      rw [Dispatch.step, Option.ite_none_right_eq_some, Option.some.injEq] at moved
      obtain ⟨idle, rfl⟩ := moved
      constructor
      · intro connId
        change Kept ((state.handleSseMessage message).view connId).1
          ((state.handleSseMessage message).view connId).2
        cases own : message.event connId with
        | none =>
            rw [view_foreign own]
            split
            · exact (tracked.conn connId).unregister
            · exact tracked.conn connId
        | some event =>
            rw [view_own own]
            exact (tracked.conn connId).dispatch (quiet_of_idle tracked.busy idle connId) event
      · exact busy_handle tracked.busy idle message
  | connection id action =>
      obtain ⟨conn, stepped, rfl⟩ := Option.map_eq_some_iff.mp moved
      constructor
      · intro connId
        change Kept ((state.put id conn).view connId).1 ((state.put id conn).view connId).2
        rw [view_put]
        split
        · exact (tracked.conn id).step stepped
        · exact tracked.conn connId
      · exact busy_connection tracked.busy stepped

/-- A full queue has a registration with a living receiver. -/
theorem full_held {conn : Conn} (full : Conn.full conn registration = true) : ∃ held,
    conn.registrations[registration]? = some held ∧ held.channel.receiving = true := by
  obtain ⟨held, found, ready⟩ := (Option.any_eq_true ..).mp full
  rw [Bool.and_eq_true] at ready
  exact ⟨held, found, ready.1⟩

/-- A connection that stalls is truncated exactly if it stalls over a chunk. -/
theorem truncated_iff (tracked : Tracked state)
    (stalls : Stalls state action connId registration event) :
    Conn.Truncated (state.conns connId) (state.dispatched connId) registration ↔
      event.data? ≠ none := by
  obtain ⟨_, waits, full⟩ := stalls
  obtain ⟨held, found, receiving⟩ := full_held full
  have rest := ((tracked.conn connId).whole found).rest event receiving waits
  constructor
  · rintro ⟨other, same, missing⟩ silent
    obtain rfl := Option.some.inj (found.symm.trans same)
    rw [datas_silent silent, List.append_nil] at rest
    exact missing rest
  · intro chunk
    refine ⟨held, found, ?_⟩
    intro all
    rw [← all, List.append_right_eq_self] at rest
    cases event with
    | data bytes => cases rest
    | close | exit | error => exact chunk rfl

@[simp] theorem put_self (conn : Conn) : (state.put connId conn).conns connId = conn :=
  Function.update_self ..

/-- Only a stalled `Close` is handed off. -/
theorem stall_some {conn : Conn} {dispatched : Nat}
    (waits : conn.waiting = some (.reserving registration event)) :
    conn.step dispatched .stall = some (if event = .close then { conn with
        waiting := none
        handOffs := conn.handOffs ++ [⟨registration, false⟩] }
      else { conn with waiting := some .unregistering }) := by
  cases event <;> simp [Conn.step, waits]

/-- A stalled event has this effect on its connection. -/
theorem stalled_next (stalls : Stalls state action connId registration event)
    (moved : Dispatch.step state action = some next) :
    next.conns connId = if event = .close then { state.conns connId with
        waiting := none
        handOffs := (state.conns connId).handOffs ++ [⟨registration, false⟩] }
      else { state.conns connId with waiting := some .unregistering } := by
  obtain ⟨rfl, waits, _⟩ := stalls
  obtain ⟨conn, stepped, rfl⟩ := Option.map_eq_some_iff.mp moved
  rw [stall_some waits, Option.some.injEq] at stepped
  rw [put_self, stepped]

/-- A task has a place of its own if another one is not the same. -/
theorem place_of_other {tasks : List HandOff} {task : Nat} {entry : HandOff}
    (member : entry ∈ tasks) (other : tasks[task]? ≠ some entry) :
    ∃ place, place ≠ task ∧ tasks[place]? = some entry := by
  obtain ⟨place, found⟩ := List.getElem?_of_mem member
  refine ⟨place, ?_, found⟩
  rintro rfl
  exact other found

theorem mem_erase_of_other {tasks : List HandOff} {task : Nat} {entry : HandOff}
    (member : entry ∈ tasks) (other : tasks[task]? ≠ some entry) : entry ∈ tasks.eraseIdx task :=
  List.mem_eraseIdx_iff_getElem?.mpr (place_of_other member other)

theorem mem_set_of_other {tasks : List HandOff} {task : Nat} {entry change : HandOff}
    (member : entry ∈ tasks) (other : tasks[task]? ≠ some entry) : entry ∈ tasks.set task change := by
  obtain ⟨place, different, found⟩ := place_of_other member other
  apply List.mem_of_getElem?
  rw [List.getElem?_set_ne different.symm, found]

/-- No step of a connection gives up on a handed off `Close` before its bound. -/
theorem handedOff_of_step {conn after : Conn} {dispatched : Nat} {act : Conn.Action}
    (moved : conn.step dispatched act = some after)
    (waits : ⟨registration, false⟩ ∈ conn.handOffs) : HandedOff conn after registration act := by
  have place {task other : Nat} {expired : Bool}
      (found : conn.handOffs[task]? = some ⟨other, expired⟩)
      (different : ¬ (other = registration ∧ expired = false)) :
      conn.handOffs[task]? ≠ some ⟨registration, false⟩ := by
    rw [found]
    simpa using different
  cases Conn.step_move moved with
  | register | unregister | refuse | stall | dropStalled | receive | dropReceiver => exact Or.inl waits
  | reserve _ sent =>
      obtain ⟨held, channel, _, _, rfl⟩ := send_some sent
      exact Or.inl waits
  | stallClose => exact Or.inl (List.mem_append_left _ waits)
  | @handOff task other _ found sent =>
      obtain ⟨held, channel, known, accepted, rfl⟩ := send_some sent
      by_cases same : other = registration
      · subst same
        have after : (conn.registrations.modify other fun held => { held with channel })[other]? =
            some { held with channel } := Table.modify_self known
        exact Or.inr ⟨task, found, Or.inl ⟨rfl, held, _, known, after, sent_send accepted⟩⟩
      · exact Or.inl (mem_erase_of_other waits (place found fun own => same own.1))
  | @handOffRefused task other found gone =>
      by_cases same : other = registration
      · subst same
        exact Or.inr ⟨task, found, Or.inr (Or.inl ⟨rfl, gone⟩)⟩
      · exact Or.inl (mem_erase_of_other waits (place found fun own => same own.1))
  | @handOffExpires task other found =>
      by_cases same : other = registration
      · subst same
        exact Or.inr ⟨task, found, Or.inr (Or.inr rfl)⟩
      · exact Or.inl (mem_set_of_other waits (place found fun own => same own.1))
  | handOffRemoves found =>
      exact Or.inl (mem_erase_of_other waits (place found fun own => by cases own.2))

theorem unhurried_of_spares (tracked : Tracked state) (spares : Spares state action) :
    Unhurried state action := by
  unfold Unhurried
  split
  · next connId =>
      have late {registration : Nat} {event : TunnelEvent} (silent : event.data? = none)
          (open_ : event ≠ .close)
          (waits : (state.conns connId).waiting = some (.reserving registration event)) :
          Conn.full (state.conns connId) registration = false := by
        by_contra full
        have stalls : Stalls state (.connection connId .stall) connId registration event :=
          ⟨rfl, waits, by simpa using full⟩
        obtain ⟨next, moved⟩ : ∃ next, Dispatch.step state (.connection connId .stall) = some next := by
          rw [Dispatch.step, stall_some waits]
          exact ⟨_, rfl⟩
        have drops := (spares next moved).drops stalls (by
          rw [stalled_next stalls moved, if_neg open_])
        exact (truncated_iff tracked stalls).mp drops silent
      split
      · next waits => exact late rfl (by simp) waits
      · next waits => exact late rfl (by simp) waits
      · trivial
  · trivial

theorem spares_of_unhurried (tracked : Tracked state) (unhurried : Unhurried state action) :
    Spares state action := by
  intro next moved
  have early {connId : ConnId} {registration : Nat} {event : TunnelEvent}
      (stalls : Stalls state action connId registration event) :
      event.data? ≠ none ∨ event = .close := by
    obtain ⟨rfl, waits, full⟩ := stalls
    rw [Unhurried, waits] at unhurried
    cases event with
    | data bytes => exact Or.inl nofun
    | close => exact Or.inr rfl
    | exit | error => exact absurd full (by simp [show _ = false from unhurried])
  constructor
  case drops =>
    intro connId registration event stalls drops
    apply (truncated_iff tracked stalls).mpr
    apply (early stalls).resolve_right
    rintro rfl
    rw [stalled_next stalls moved, if_pos rfl] at drops
    cases drops
  case keeps =>
    intro connId registration event stalls whole terminal
    have close := (early stalls).resolve_left (mt (truncated_iff tracked stalls).mpr whole)
    rw [stalled_next stalls moved, if_pos close]
    exact ⟨⟨close, List.mem_concat_self⟩, rfl⟩
  case hands =>
    rintro connId registration act rfl waits
    obtain ⟨conn, stepped, rfl⟩ := Option.map_eq_some_iff.mp moved
    rw [put_self]
    exact handedOff_of_step stepped waits

/-- A step spares complete connections exactly if it is not the stall of an `Exit` or an `Error`. -/
theorem spares_iff (tracked : Tracked state) : Spares state action ↔ Unhurried state action :=
  ⟨unhurried_of_spares tracked, spares_of_unhurried tracked⟩

end Tracked

/-- In every run, `dispatch_event` drops only truncated connections for stalling, and it loses no
terminal event of a complete one to a slow consumer, exactly when no consumer leaves its queue full
while the dispatch loop waits to queue an `Exit` or an `Error`. -/
theorem spares_complete_iff (actions : List Action) :
    Machine.Along step Spares start actions ↔ Machine.Along step Unhurried start actions :=
  Machine.along_congr Tracked.step spares_iff Tracked.start

/-- The dispatch loop queues these chunks while the consumer takes nothing. -/
def queue (connId : ConnId) (chunks : List Bytes) : List Action :=
  chunks.flatMap fun bytes => [.dispatch (.data connId bytes), .connection connId .reserve]

/-- These events wait in the queue of the only registration, and the dispatch loop is idle. -/
structure Queued (state : State) (connId : ConnId) (events : List TunnelEvent) : Prop where
  idle : state.busy = none
  conn : ∃ channel, state.conns connId = ⟨[⟨channel, [], 0⟩], some 0, [], none⟩ ∧
    channel.receiving = true ∧ channel.items = events

section Queued
variable {state : State} {connId : ConnId} {events : List TunnelEvent}

/-- The dispatch loop waits to queue the next event. -/
theorem Queued.await (queued : Queued state connId events) {message : Message} {event : TunnelEvent}
    (own : message.event connId = some event) : ∃ next channel,
    step state (.dispatch message) = some next ∧ next.busy = some connId ∧
      next.conns connId = ⟨[⟨channel, [], 0⟩], some 0, [], some (.reserving 0 event)⟩ ∧
      channel.receiving = true ∧ channel.items = events := by
  obtain ⟨channel, conn, receiving, items⟩ := queued.conn
  let waits : Conn := ⟨[⟨channel, [], 0⟩], some 0, [], some (.reserving 0 event)⟩
  refine ⟨(state.record connId event).put connId waits, channel, ?_, rfl, put_self waits,
    receiving, items⟩
  rw [step, if_pos queued.idle, handleSseMessage_event own, State.dispatchEvent, conn]
  rfl

/-- One more chunk is queued as long as the queue has a slot. -/
theorem Queued.data (queued : Queued state connId events)
    (room : events.length < ClientRelay.connChannelCapacity) (bytes : Bytes) : ∃ next,
    Machine.run step state (queue connId [bytes]) = some next ∧
      Queued next connId (events ++ [.data bytes]) := by
  have own : (Message.data connId bytes).event connId = some (.data bytes) := if_pos rfl
  obtain ⟨middle, channel, first, busy, waits, receiving, rfl⟩ := queued.await own
  obtain ⟨longer, accepted⟩ : ∃ longer, channel.send (.data bytes) = some longer := by
    rw [Channel.send, dif_pos ⟨receiving, room⟩]
    exact ⟨_, rfl⟩
  obtain ⟨_, items, still⟩ := Channel.send_some accepted
  let sent : Conn := ⟨[⟨longer, [], 0⟩], some 0, [], none⟩
  have second : step middle (.connection connId .reserve) = some (middle.put connId sent) := by
    rw [step, waits]
    simp [sent, Conn.step, Conn.send, accepted]
  refine ⟨_, Machine.run_cons.mpr ⟨_, first, Machine.run_cons.mpr ⟨_, second, rfl⟩⟩, ?_, ?_⟩
  · exact put_idle sent busy rfl
  · exact ⟨longer, put_self sent, still, items⟩

/-- A queue takes chunks up to its capacity. -/
theorem Queued.all (queued : Queued state connId events) (chunks : List Bytes)
    (room : events.length + chunks.length ≤ ClientRelay.connChannelCapacity) : ∃ next,
    Machine.run step state (queue connId chunks) = some next ∧
      Queued next connId (events ++ chunks.map .data) := by
  induction chunks generalizing state events with
  | nil => exact ⟨state, rfl, by simpa using queued⟩
  | cons bytes rest ih =>
      rw [List.length_cons] at room
      obtain ⟨middle, first, grown⟩ := queued.data (by omega) bytes
      obtain ⟨next, others, full⟩ := ih grown (by simp; omega)
      refine ⟨next, Machine.run_append.mpr ⟨middle, first, others⟩, ?_⟩
      simpa using full

end Queued

/-- The tunnel queues as many chunks of a `Pull` as fit. -/
def fill : List Action :=
  .connection 1 .register :: queue 1 (List.replicate ClientRelay.connChannelCapacity [7])

/-- The `Exit(0)` of a `Pull` meets its full queue. Every chunk was queued, the connection is dropped all
the same, and nothing is left that could deliver the `Exit(0)`. -/
theorem stalled_exit_dropped : ¬ (∀ actions, Machine.Along step Spares start actions) ∧
    ∃ stuck, Machine.run step start (fill ++ [.dispatch (.exitStatus 1 0)]) = some stuck ∧
      Stalls stuck (.connection 1 .stall) 1 0 (.exit 0) ∧
      ¬ Conn.Truncated (stuck.conns 1) (stuck.dispatched 1) 0 ∧
      ∃ final, Machine.run step stuck [.connection 1 .stall, .connection 1 .dropStalled] =
          some final ∧ (final.conns 1).current = none ∧ (final.conns 1).handOffs = [] ∧
        ∀ held ∈ (final.conns 1).registrations, .exit 0 ∉ held.sent := by
  let opened := start.put 1 ⟨[⟨.empty _ _, [], 0⟩], some 0, [], none⟩
  have registers : step start (.connection 1 .register) = some opened := rfl
  have empty : Queued opened 1 [] := ⟨rfl, .empty _ _, rfl, rfl, rfl⟩
  obtain ⟨filled, queues, full⟩ := empty.all
    (List.replicate ClientRelay.connChannelCapacity [7]) (by simp)
  have own : (Message.exitStatus 1 0).event 1 = some (.exit 0) := rfl
  obtain ⟨stuck, channel, dispatches, _, waits, receiving, items⟩ := full.await own
  have ran : Machine.run step start (fill ++ [.dispatch (.exitStatus 1 0)]) = some stuck := by
    apply Machine.run_append.mpr
    exact ⟨filled, Machine.run_cons.mpr ⟨opened, registers, queues⟩,
      Machine.run_cons.mpr ⟨stuck, dispatches, rfl⟩⟩
  have tracked : Tracked stuck := Machine.run_invariant Tracked.step Tracked.start ran
  have length : channel.items.length = ClientRelay.connChannelCapacity := by
    rw [items]
    simp
  have stalls : Stalls stuck (.connection 1 .stall) 1 0 (.exit 0) := by
    refine ⟨rfl, by rw [waits], ?_⟩
    rw [waits]
    simp [Conn.full, receiving, length]
  have whole : ¬ Conn.Truncated (stuck.conns 1) (stuck.dispatched 1) 0 :=
    fun truncated => (truncated_iff tracked stalls).mp truncated rfl
  refine ⟨?_, stuck, ran, stalls, whole, ?_⟩
  · intro always
    have along := (Machine.along_append ran).mp
      (always (fill ++ [.dispatch (.exitStatus 1 0)] ++ [.connection 1 .stall]))
    have unhurried := unhurried_of_spares tracked along.2.1
    rw [Unhurried, waits] at unhurried
    exact absurd stalls.2.2 (by simp [waits, show _ = false from unhurried])
  · let dropping : Conn := ⟨[⟨channel, [], 0⟩], some 0, [], some .unregistering⟩
    let dropped : Conn := ⟨[⟨channel, [], 0⟩], none, [], none⟩
    have first : step stuck (.connection 1 .stall) = some (stuck.put 1 dropping) := by
      rw [step, waits]
      rfl
    have second : step (stuck.put 1 dropping) (.connection 1 .dropStalled) =
        some ((stuck.put 1 dropping).put 1 dropped) := by
      rw [step, put_self]
      rfl
    refine ⟨_, Machine.run_cons.mpr ⟨_, first, Machine.run_cons.mpr ⟨_, second, rfl⟩⟩, ?_⟩
    rw [put_self]
    refine ⟨rfl, rfl, ?_⟩
    intro held member
    obtain rfl := List.mem_singleton.mp member
    rw [Registration.sent, items]
    simp

end Tunnix.DispatchStall
