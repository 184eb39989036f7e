import Tunnix.Client.Dispatch
import Tunnix.Library.Table
import Tunnix.Server.Delivery

namespace Tunnix.Dispatch

/-- These events were handed to the channel of a registration. -/
def Registration.sent (held : Registration) : List TunnelEvent := held.received ++ held.channel.items

/-- These chunks were dispatched since the registration. -/
def Registration.offered (held : Registration) (dispatched : List TunnelEvent) : List Bytes :=
  datas (dispatched.drop held.since)

/-- A registration is sent all its chunks as long as it is complete, and all but those of an event that
it is owed while the dispatch loop waits for it. -/
structure Whole (dispatched : List TunnelEvent) (complete : Prop) (owed : TunnelEvent → Prop)
    (held : Registration) : Prop where
  since : held.since ≤ dispatched.length
  whole : held.channel.receiving = true → complete → datas held.sent = held.offered dispatched
  rest : ∀ event, held.channel.receiving = true → owed event →
    datas held.sent ++ datas [event] = held.offered dispatched

/-- An event counts for the registrations before it. -/
theorem offered_append {dispatched : List TunnelEvent} {held : Registration}
    (within : held.since ≤ dispatched.length) (event : TunnelEvent) :
    held.offered (dispatched ++ [event]) = held.offered dispatched ++ datas [event] := by
  rw [Registration.offered, List.drop_append_of_le_length within, datas_append]
  rfl

/-- A send appends its event to what a registration was sent. -/
theorem sent_send {held : Registration} {event : TunnelEvent}
    {channel : Channel ClientRelay.connChannelCapacity TunnelEvent}
    (sent : held.channel.send event = some channel) :
    Registration.sent { held with channel } = held.sent ++ [event] := by
  obtain ⟨-, items, -⟩ := Channel.send_some sent
  change held.received ++ channel.items = _
  rw [items, ← List.append_assoc]
  rfl

/-- A receive changes nothing of what a registration was sent. -/
theorem sent_receive {held : Registration} {event : TunnelEvent}
    {channel : Channel ClientRelay.connChannelCapacity TunnelEvent}
    (received : held.channel.receive = some (event, channel)) :
    Registration.sent { held with channel, received := held.received ++ [event] } = held.sent := by
  obtain ⟨items, -, -⟩ := Channel.receive_some received
  change (held.received ++ [event]) ++ channel.items = held.received ++ held.channel.items
  rw [items, List.append_assoc]
  rfl

section Whole
variable {dispatched : List TunnelEvent} {complete after : Prop} {owed later : TunnelEvent → Prop}
variable {held : Registration}

/-- Nothing was offered or sent to a new registration. -/
theorem Whole.fresh (unowed : ∀ event, ¬ owed event) :
    Whole dispatched complete owed ⟨.empty _ _, [], dispatched.length⟩ := by
  have offered : Registration.offered ⟨.empty _ _, [], dispatched.length⟩ dispatched = [] := by
    rw [Registration.offered, List.drop_length, datas_nil]
  constructor
  case since => exact Nat.le_refl _
  case whole => exact fun _ _ => offered.symm
  case rest => exact fun event _ owes => absurd owes (unowed event)

/-- A registration stays whole, or it becomes complete because it is owed no chunk. -/
theorem Whole.weaken (before : Whole dispatched complete owed held)
    (completes : held.channel.receiving = true → after →
      complete ∨ ∃ event, owed event ∧ event.data? = none)
    (owes : ∀ event, later event → owed event) : Whole dispatched after later held where
  since := before.since
  whole receiving done := by
    rcases completes receiving done with old | ⟨event, due, silent⟩
    · exact before.whole receiving old
    · have sum := before.rest event receiving due
      rw [datas_silent silent, List.append_nil] at sum
      exact sum
  rest event receiving due := before.rest event receiving (owes event due)

/-- A complete registration is owed the event that is dispatched to it. -/
theorem Whole.dispatch (before : Whole dispatched complete owed held) (event : TunnelEvent)
    (completes : after → complete ∧ event.data? = none)
    (owes : ∀ other, later other → complete ∧ other = event) :
    Whole (dispatched ++ [event]) after later held := by
  have offered := offered_append before.since event
  constructor
  case since =>
    rw [List.length_append]
    exact Nat.le_add_right_of_le before.since
  case whole =>
    intro receiving done
    obtain ⟨old, silent⟩ := completes done
    rw [offered, datas_silent silent, List.append_nil]
    exact before.whole receiving old
  case rest =>
    intro other receiving due
    obtain ⟨old, rfl⟩ := owes other due
    rw [offered, before.whole receiving old]

/-- A registration that is sent the event that it is owed is complete. -/
theorem Whole.send (before : Whole dispatched complete owed held) {event : TunnelEvent}
    {channel : Channel ClientRelay.connChannelCapacity TunnelEvent}
    (sent : held.channel.send event = some channel)
    (due : datas held.sent ++ datas [event] = held.offered dispatched)
    (owes : ∀ other, later other → event.data? = none ∧ owed other) :
    Whole dispatched after later { held with channel } := by
  obtain ⟨receiving, -, -⟩ := Channel.send_some sent
  have longer := sent_send sent
  constructor
  case since => exact before.since
  case whole =>
    intro _ _
    rw [longer, datas_append, due]
    rfl
  case rest =>
    intro other _ due
    obtain ⟨silent, old⟩ := owes other due
    rw [longer, datas_append, datas_silent silent, List.append_nil]
    exact before.rest other receiving old

/-- An event without a chunk leaves a registration as whole as it was. -/
theorem Whole.silent (before : Whole dispatched complete owed held) {event : TunnelEvent}
    {channel : Channel ClientRelay.connChannelCapacity TunnelEvent}
    (sent : held.channel.send event = some channel) (silent : event.data? = none) :
    Whole dispatched complete owed { held with channel } := by
  obtain ⟨receiving, -, -⟩ := Channel.send_some sent
  have same : datas (Registration.sent { held with channel }) = datas held.sent := by
    rw [sent_send sent, datas_append, datas_silent silent, List.append_nil]
  constructor
  case since => exact before.since
  case whole => exact fun _ done => same ▸ before.whole receiving done
  case rest => exact fun other _ due => same ▸ before.rest other receiving due

theorem Whole.receive (before : Whole dispatched complete owed held) {event : TunnelEvent}
    {channel : Channel ClientRelay.connChannelCapacity TunnelEvent}
    (received : held.channel.receive = some (event, channel)) :
    Whole dispatched complete owed
      { held with channel, received := held.received ++ [event] } := by
  obtain ⟨-, receiving, -⟩ := Channel.receive_some received
  have same := sent_receive received
  constructor
  case since => exact before.since
  case whole => exact fun _ done => same ▸ before.whole receiving done
  case rest => exact fun other _ due => same ▸ before.rest other receiving due

/-- Nothing is required of a registration whose receiver is gone. -/
theorem Whole.drop (before : Whole dispatched complete owed held) :
    Whole dispatched complete owed { held with channel := held.channel.drop } where
  since := before.since
  whole := nofun
  rest := nofun

end Whole

/-- A registration is sent its chunks in order, all of them as long as it is complete, and all but
those of an event that it is owed while the dispatch loop waits for it. -/
structure Held (dispatched : List TunnelEvent) (complete : Prop) (owed : TunnelEvent → Prop)
    (held : Registration) : Prop where
  since : held.since ≤ dispatched.length
  orderly : Orderly held.sent (held.offered dispatched)
  seen : .close ∈ held.sent → .close ∈ dispatched
  whole : held.channel.receiving = true → complete → datas held.sent = held.offered dispatched
  rest : ∀ event, held.channel.receiving = true → owed event →
    datas held.sent ++ datas [event] = held.offered dispatched

section Held
variable {dispatched : List TunnelEvent} {complete after : Prop} {owed later : TunnelEvent → Prop}
variable {held : Registration}

theorem Held.toWhole (before : Held dispatched complete owed held) :
    Whole dispatched complete owed held where
  since := before.since
  whole := before.whole
  rest := before.rest

/-- A registration is held when it is whole and gets its chunks in order. -/
theorem Whole.toHeld (whole : Whole dispatched complete owed held)
    (orderly : Orderly held.sent (held.offered dispatched))
    (seen : .close ∈ held.sent → .close ∈ dispatched) : Held dispatched complete owed held where
  since := whole.since
  orderly := orderly
  seen := seen
  whole := whole.whole
  rest := whole.rest

/-- Nothing was sent or dispatched to a new registration. -/
theorem Held.fresh (unowed : ∀ event, ¬ owed event) :
    Held dispatched complete owed ⟨.empty _ _, [], dispatched.length⟩ := by
  apply (Whole.fresh unowed).toHeld
  · have offered : Registration.offered ⟨.empty _ _, [], dispatched.length⟩ dispatched = [] := by
      rw [Registration.offered, List.drop_length, datas_nil]
    exact offered ▸ Orderly.nil
  · nofun

/-- A registration stays complete, or it becomes complete because it is owed no chunk. -/
theorem Held.weaken (before : Held dispatched complete owed held)
    (completes : held.channel.receiving = true → after →
      complete ∨ ∃ event, owed event ∧ event.data? = none)
    (owes : ∀ event, later event → owed event) : Held dispatched after later held :=
  (before.toWhole.weaken completes owes).toHeld before.orderly before.seen

/-- An event is dispatched to a complete registration, which is owed the event from then on, or past
one that is not complete. -/
theorem Held.dispatch (before : Held dispatched complete owed held) (event : TunnelEvent)
    (unclosed : event.data? = none ∨ .close ∉ dispatched)
    (completes : after → complete ∧ event.data? = none)
    (owes : ∀ other, later other → complete ∧ other = event) :
    Held (dispatched ++ [event]) after later held := by
  apply (before.toWhole.dispatch event completes owes).toHeld
  · rw [offered_append before.since event]
    rcases unclosed with silent | unclosed
    · rw [datas_silent silent, List.append_nil]
      exact before.orderly
    · refine ⟨before.orderly.part.trans (List.prefix_append _ _), fun closed => ?_⟩
      exact absurd (before.seen closed) unclosed
  · exact fun closed => List.mem_append_left _ (before.seen closed)

/-- A registration is sent the event that it is owed. -/
theorem Held.send (before : Held dispatched complete owed held) {event : TunnelEvent}
    {channel : Channel ClientRelay.connChannelCapacity TunnelEvent}
    (sent : held.channel.send event = some channel)
    (due : datas held.sent ++ datas [event] = held.offered dispatched)
    (unclosed : event.data? = none ∨ .close ∉ dispatched)
    (closing : event = .close → .close ∈ dispatched)
    (owes : ∀ other, later other → event.data? = none ∧ owed other) :
    Held dispatched after later { held with channel } := by
  have longer := sent_send sent
  apply (before.toWhole.send sent due owes).toHeld
  · rw [longer]
    rcases unclosed with silent | unclosed
    · by_cases closed : .close ∈ held.sent
      · exact before.orderly.late closed silent
      · apply before.orderly.report silent closed
        rintro -
        rw [datas_silent silent, List.append_nil] at due
        exact due
    · have open_ : .close ∉ held.sent := mt before.seen unclosed
      have other : event ≠ .close := fun same => unclosed (closing same)
      refine ⟨?_, fun closed => absurd closed (unclosed_append open_ other)⟩
      rw [datas_append, due]
      exact List.prefix_refl _
  · rw [longer, List.mem_append, List.mem_singleton]
    rintro (old | new)
    · exact before.seen old
    · exact closing new.symm

/-- A taken event was sent before. -/
theorem Held.receive (before : Held dispatched complete owed held) {event : TunnelEvent}
    {channel : Channel ClientRelay.connChannelCapacity TunnelEvent}
    (received : held.channel.receive = some (event, channel)) :
    Held dispatched complete owed
      { held with channel, received := held.received ++ [event] } := by
  have same := sent_receive received
  apply (before.toWhole.receive received).toHeld
  · exact same ▸ before.orderly
  · exact same ▸ before.seen

/-- A dropped receiver gets nothing more. -/
theorem Held.drop (before : Held dispatched complete owed held) :
    Held dispatched complete owed { held with channel := held.channel.drop } := by
  have same : Registration.sent { held with channel := held.channel.drop } = held.received :=
    List.append_nil _
  apply before.toWhole.drop.toHeld
  · rw [same]
    exact before.orderly.received
  · rw [same]
    exact fun closed => before.seen (List.mem_append_left _ closed)

end Held

/-- The dispatch loop waits to send this event to a registration. -/
def Conn.Owes (conn : Conn) (registration : Nat) (event : TunnelEvent) : Prop :=
  conn.waiting = some (.reserving registration event)

/-- A registration is complete while it is the current one and the dispatch loop does not wait for
it, and as long as a task waits to hand it a `Close`. -/
def Conn.Complete (conn : Conn) (registration : Nat) : Prop :=
  (conn.current = some registration ∧ conn.waiting ≠ some .unregistering ∧
    ∀ event, ¬ conn.Owes registration event) ∨
  ∃ task ∈ conn.handOffs, task.registration = registration

/-- The registrations of a connection are sent what was dispatched to it. -/
structure Inv (conn : Conn) (dispatched : List TunnelEvent) : Prop where
  held : ∀ {registration held}, conn.registrations[registration]? = some held →
    Held dispatched (conn.Complete registration) (conn.Owes registration) held
  known : ∀ {registration}, conn.Complete registration ∨ (∃ event, conn.Owes registration event) →
    registration < conn.registrations.length
  due : ∀ {registration event}, conn.Owes registration event →
    (event.data? = none ∨ .close ∉ dispatched) ∧ (event = .close → .close ∈ dispatched)
  closing : conn.handOffs ≠ [] → .close ∈ dispatched

section Inv
variable {conn next : Conn} {dispatched : List TunnelEvent}

/-- A registration whose sends fail does not receive. -/
theorem gone_held {registration : Nat} {held : Registration} (gone : conn.gone registration = true)
    (found : conn.registrations[registration]? = some held) : held.channel.receiving = false := by
  rw [Conn.gone, found] at gone
  simpa using gone

/-- A send changes the channel of its registration and nothing else. -/
theorem send_some {registration : Nat} {event : TunnelEvent}
    (sent : conn.send registration event = some next) : ∃ held channel,
    conn.registrations[registration]? = some held ∧ held.channel.send event = some channel ∧
    next = { conn with
      registrations := conn.registrations.modify registration fun held => { held with channel } } := by
  obtain ⟨held, found, moved⟩ := Option.bind_eq_some_iff.mp sent
  obtain ⟨channel, accepted, same⟩ := Option.map_eq_some_iff.mp moved
  exact ⟨held, channel, found, accepted, same.symm⟩

/-- All registrations of a connection meet what their completeness and their debts require, and only
known registrations have any. -/
structure Registered (Meets : Prop → (TunnelEvent → Prop) → Registration → Prop)
    (complete : Nat → Prop) (owes : Nat → TunnelEvent → Prop) (registrations : List Registration) :
    Prop where
  held : ∀ {registration held}, registrations[registration]? = some held →
    Meets (complete registration) (owes registration) held
  known : ∀ {registration}, complete registration ∨ (∃ event, owes registration event) →
    registration < registrations.length

section Registered
variable {Meets : Prop → (TunnelEvent → Prop) → Registration → Prop}
  {complete after : Nat → Prop} {owes later : Nat → TunnelEvent → Prop}
  (weaken : ∀ {complete after : Prop} {owed later : TunnelEvent → Prop} {held : Registration},
    Meets complete owed held →
    (held.channel.receiving = true → after →
      complete ∨ ∃ event, owed event ∧ event.data? = none) →
    (∀ event, later event → owed event) → Meets after later held)
include weaken

/-- A step that moves no event keeps the registrations if one becomes complete only once it is owed no
chunk or has no receiver. -/
theorem Registered.control (registered : Registered Meets complete owes conn.registrations)
    (completes : ∀ registration, after registration → complete registration ∨
      ∃ event, owes registration event ∧ (event.data? = none ∨ conn.gone registration = true))
    (fewer : ∀ registration event, later registration event → owes registration event) :
    Registered Meets after later conn.registrations where
  held {registration held} found := by
    refine weaken (registered.held found) (fun receiving done => ?_) (fewer registration)
    rcases completes registration done with old | ⟨event, due, silent | gone⟩
    · exact .inl old
    · exact .inr ⟨event, due, silent⟩
    · rw [gone_held gone found] at receiving
      contradiction
  known {registration} held := by
    apply registered.known
    rcases held with done | ⟨event, due⟩
    · rcases completes registration done with old | ⟨event, due, -⟩
      · exact .inl old
      · exact .inr ⟨event, due⟩
    · exact .inr ⟨event, fewer registration event due⟩

/-- A step that changes one registration keeps the others if they keep their duties. -/
theorem Registered.modify {registrations : List Registration} {registration : Nat}
    {change : Registration → Registration}
    (registered : Registered Meets complete owes registrations)
    (self : ∀ held, registrations[registration]? = some held →
      Meets (after registration) (later registration) (change held))
    (completes : ∀ other, after other →
      complete other ∨ ∃ event, owes registration event ∧ other = registration)
    (fewer : ∀ other event, later other event → owes other event) :
    Registered Meets after later (registrations.modify registration change) where
  held {other held} found := by
    rcases Table.modify_cases found with ⟨before, was, rfl, rfl⟩ | ⟨was, different⟩
    · exact self before was
    · refine weaken (registered.held was) (fun _ done => ?_) (fewer other)
      rcases completes other done with old | ⟨_, _, rfl⟩
      · exact .inl old
      · exact absurd rfl different
  known {other} held := by
    rw [List.length_modify]
    apply registered.known
    rcases held with done | ⟨event, due⟩
    · rcases completes other done with old | ⟨event, due, rfl⟩
      · exact .inl old
      · exact .inr ⟨event, due⟩
    · exact .inr ⟨event, fewer other event due⟩

end Registered

theorem Inv.registered (inv : Inv conn dispatched) :
    Registered (Held dispatched) conn.Complete conn.Owes conn.registrations :=
  ⟨inv.held, inv.known⟩

/-- A step that moves no event keeps the invariant if a registration becomes complete only once it
is owed no chunk or has no receiver. -/
theorem Inv.control (inv : Inv conn dispatched)
    (same : next.registrations = conn.registrations)
    (completes : ∀ registration, next.Complete registration → conn.Complete registration ∨
      ∃ event, conn.Owes registration event ∧
        (event.data? = none ∨ conn.gone registration = true))
    (owes : ∀ registration event, next.Owes registration event → conn.Owes registration event)
    (closing : next.handOffs ≠ [] → .close ∈ dispatched) : Inv next dispatched := by
  have registered := inv.registered.control Held.weaken completes owes
  rw [← same] at registered
  exact ⟨registered.held, registered.known, fun owed => inv.due (owes _ _ owed), closing⟩

/-- A step that changes one registration keeps the invariant if the others keep their duties. -/
theorem Inv.modify (inv : Inv conn dispatched) {cleared : Conn} {registration : Nat}
    {change : Registration → Registration}
    (same : cleared.registrations = conn.registrations)
    (self : ∀ held, conn.registrations[registration]? = some held →
      Held dispatched (cleared.Complete registration) (cleared.Owes registration) (change held))
    (completes : ∀ other, cleared.Complete other →
      conn.Complete other ∨ ∃ event, conn.Owes registration event ∧ other = registration)
    (owes : ∀ other event, cleared.Owes other event → conn.Owes other event)
    (closing : cleared.handOffs ≠ [] → .close ∈ dispatched) :
    Inv { cleared with registrations := cleared.registrations.modify registration change }
      dispatched := by
  have registered := inv.registered.modify Held.weaken self completes owes
  rw [← same] at registered
  exact ⟨registered.held, registered.known, fun owed => inv.due (owes _ _ owed), closing⟩

/-- A connection starts without registrations. -/
theorem Inv.start : Inv ⟨[], none, [], none⟩ [] where
  held found := by cases found
  known held := by
    rcases held with (⟨current, -⟩ | ⟨task, member, -⟩) | ⟨event, due⟩
    · cases current
    · cases member
    · cases due
  due owed := by cases owed
  closing tasks := absurd rfl tasks

/-- An unregistered connection is complete only for its detached tasks. -/
theorem unregistered_complete {registration : Nat}
    (done : conn.unregisterConnection.Complete registration) : conn.Complete registration := by
  rcases done with ⟨current, -⟩ | task
  · cases current
  · exact .inr task

theorem Inv.unregister (inv : Inv conn dispatched) : Inv conn.unregisterConnection dispatched :=
  inv.control rfl (fun _ done => .inl (unregistered_complete done)) (fun _ _ due => due) inv.closing

/-- A new registration is complete. -/
theorem Inv.register (inv : Inv conn dispatched) :
    Inv (conn.registerConnection dispatched.length) dispatched where
  held {registration held} found := by
    rcases Table.concat_iff.mp found with old | ⟨rfl, rfl⟩
    · refine (inv.held old).weaken (fun _ done => .inl ?_) (fun _ due => due)
      have inside := (List.getElem?_eq_some_iff.mp old).1
      rcases done with ⟨current, -⟩ | task
      · cases current
        exact absurd inside (Nat.lt_irrefl _)
      · exact .inr task
    · exact Held.fresh fun event due => Nat.lt_irrefl _ (inv.known (.inr ⟨event, due⟩))
  known {registration} held := by
    change registration < (conn.registrations ++ [_]).length
    rw [List.length_append]
    apply Nat.lt_succ_of_le
    rcases held with (⟨current, -⟩ | task) | due
    · cases current
      exact Nat.le_refl _
    · exact Nat.le_of_lt (inv.known (.inl (.inr task)))
    · exact Nat.le_of_lt (inv.known (.inr due))
  due := inv.due
  closing := inv.closing

/-- The end of the wait for one registration completes no other one. -/
theorem released_complete {registration other : Nat} {event : TunnelEvent}
    (owes : conn.Owes registration event)
    (done : Conn.Complete { conn with waiting := none } other) :
    conn.Complete other ∨ other = registration := by
  rcases done with ⟨current, -, -⟩ | task
  · by_cases same : other = registration
    · exact .inr same
    · change conn.waiting = _ at owes
      refine .inl (.inl ⟨current, ?_, fun later due => same ?_⟩)
      · rw [owes]
        nofun
      · rw [Conn.Owes, owes, Option.some.injEq, Waiting.reserving.injEq] at due
        exact due.1.symm
  · exact .inl (.inr task)

/-- The dispatch loop sends the event that it waits to send. -/
theorem Inv.reserve (inv : Inv conn dispatched) {registration : Nat} {event : TunnelEvent}
    (owes : conn.Owes registration event)
    (sent : Conn.send { conn with waiting := none } registration event = some next) :
    Inv next dispatched := by
  obtain ⟨held, channel, found, accepted, rfl⟩ := send_some sent
  change conn.registrations[registration]? = some held at found
  obtain ⟨unclosed, closing⟩ := inv.due owes
  refine inv.modify rfl (fun other same => ?_) (fun other done => ?_) nofun inv.closing
  · obtain rfl : other = held := Option.some.inj (same.symm.trans found)
    have due := (inv.held found).rest event (Channel.send_some accepted).1 owes
    exact (inv.held found).send accepted due unclosed closing nofun
  · exact (released_complete owes done).imp_right fun same => ⟨event, owes, same⟩

/-- A refused event was owed to a registration without a receiver. -/
theorem Inv.refuse (inv : Inv conn dispatched) {registration : Nat} {event : TunnelEvent}
    (owes : conn.Owes registration event) (gone : conn.gone registration = true) :
    Inv { conn with waiting := none } dispatched := by
  refine inv.control rfl (fun other done => ?_) nofun inv.closing
  rcases released_complete owes done with old | rfl
  · exact .inl old
  · exact .inr ⟨event, owes, .inr gone⟩

/-- A stalled `Close` was the only event that its registration was owed. -/
theorem Inv.stallClose (inv : Inv conn dispatched) {registration : Nat}
    (owes : conn.Owes registration .close) :
    Inv { conn with waiting := none, handOffs := conn.handOffs ++ [⟨registration, false⟩] }
      dispatched := by
  refine inv.control rfl (fun other done => ?_) nofun fun _ => (inv.due owes).2 rfl
  rcases done with current | ⟨task, member, same⟩
  · rcases released_complete owes (.inl current) with old | rfl
    · exact .inl old
    · exact .inr ⟨.close, owes, .inl rfl⟩
  · rcases List.mem_append.mp member with old | new
    · exact .inl (.inr ⟨task, old, same⟩)
    · rw [List.mem_singleton] at new
      subst new same
      exact .inr ⟨.close, owes, .inl rfl⟩

/-- Any other stalled event leaves its registration incomplete. -/
theorem Inv.stall (inv : Inv conn dispatched) :
    Inv { conn with waiting := some .unregistering } dispatched := by
  refine inv.control rfl (fun other done => .inl ?_) nofun inv.closing
  rcases done with ⟨-, busy, -⟩ | task
  · exact absurd rfl busy
  · exact .inr task

/-- The tasks after a step are tasks from before it, for the same registrations. -/
theorem Inv.tasks (inv : Inv conn dispatched) {handOffs : List HandOff}
    (old : ∀ task ∈ handOffs, ∃ before ∈ conn.handOffs, before.registration = task.registration) :
    Inv { conn with handOffs } dispatched := by
  refine inv.control rfl (fun other done => .inl ?_) (fun _ _ due => due) fun some_ => ?_
  · rcases done with current | ⟨task, member, same⟩
    · exact .inl current
    · obtain ⟨before, was, kept⟩ := old task member
      exact .inr ⟨before, was, kept.trans same⟩
  · obtain ⟨task, member⟩ := List.exists_mem_of_ne_nil _ some_
    obtain ⟨before, was, -⟩ := old task member
    exact inv.closing (List.ne_nil_of_mem was)

/-- A finished task was one of the tasks. -/
theorem Inv.erase (inv : Inv conn dispatched) (task : Nat) :
    Inv { conn with handOffs := conn.handOffs.eraseIdx task } dispatched :=
  inv.tasks fun entry member => ⟨entry, List.mem_of_mem_eraseIdx member, rfl⟩

/-- A task hands over its `Close`. -/
theorem Inv.handOff (inv : Inv conn dispatched) {task registration : Nat} {expired : Bool}
    (waits : conn.handOffs[task]? = some ⟨registration, expired⟩)
    (sent : Conn.send { conn with handOffs := conn.handOffs.eraseIdx task } registration .close =
      some next) : Inv next dispatched := by
  have member := List.mem_of_getElem? waits
  have complete : conn.Complete registration := .inr ⟨_, member, rfl⟩
  have erased := inv.erase task
  obtain ⟨held, channel, found, accepted, rfl⟩ := send_some sent
  change conn.registrations[registration]? = some held at found
  refine erased.modify rfl (fun other same => ?_) (fun _ done => .inl done) (fun _ _ due => due)
    erased.closing
  obtain rfl : other = held := Option.some.inj (same.symm.trans found)
  have whole := (inv.held found).whole (Channel.send_some accepted).1 complete
  refine (inv.held found).send accepted ?_ (.inl rfl) (fun _ => inv.closing (List.ne_nil_of_mem member))
    fun _ due => ⟨rfl, due⟩
  rw [whole, datas_silent rfl, List.append_nil]

/-- Every step of a connection keeps its invariant. -/
theorem Inv.step {action : Conn.Action} (inv : Inv conn dispatched)
    (moved : conn.step dispatched.length action = some next) : Inv next dispatched := by
  cases Conn.step_move moved with
  | register => exact inv.register
  | unregister => exact inv.unregister
  | reserve waits sent => exact inv.reserve waits sent
  | refuse waits gone => exact inv.refuse waits gone
  | stallClose waits => exact inv.stallClose waits
  | stall => exact inv.stall
  | dropStalled =>
      refine inv.unregister.control rfl (fun _ done => .inl ?_) nofun inv.closing
      rcases done with ⟨current, -⟩ | task
      · cases current
      · exact .inr task
  | handOff waits sent => exact inv.handOff waits sent
  | handOffRefused => exact inv.erase _
  | handOffExpires waits =>
      refine inv.tasks fun entry member => ?_
      rcases List.mem_or_eq_of_mem_set member with old | rfl
      · exact ⟨entry, old, rfl⟩
      · exact ⟨_, List.mem_of_getElem? waits, rfl⟩
  | handOffRemoves => exact inv.unregister.erase _
  | @receive registration held event channel found received =>
      refine inv.modify rfl (fun other same => ?_) (fun _ done => .inl done) (fun _ _ due => due)
        inv.closing
      obtain rfl : other = held := Option.some.inj (same.symm.trans found)
      exact (inv.held found).receive received
  | dropReceiver =>
      exact inv.modify rfl (fun _ found => (inv.held found).drop) (fun _ done => .inl done)
        (fun _ _ due => due) inv.closing

/-- Detached tasks exist only after a `Close`, and no chunk follows one. -/
theorem Inv.task_silent (inv : Inv conn dispatched) {event : TunnelEvent} {registration : Nat}
    (unclosed : event.data? = none ∨ .close ∉ dispatched)
    (held : ∃ task ∈ conn.handOffs, task.registration = registration) :
    conn.Complete registration ∧ event.data? = none := by
  refine ⟨.inr held, unclosed.resolve_right fun absent => ?_⟩
  obtain ⟨task, member, -⟩ := held
  exact absent (inv.closing (List.ne_nil_of_mem member))

/-- An event that no registration gets is dispatched past all of them. -/
theorem Inv.ignore (inv : Inv conn dispatched) (idle : conn.waiting = none)
    (unknown : conn.current = none) (event : TunnelEvent)
    (unclosed : event.data? = none ∨ .close ∉ dispatched) : Inv conn (dispatched ++ [event]) := by
  have silent (registration : Nat) (other : TunnelEvent) : ¬ conn.Owes registration other := by
    rw [Conn.Owes, idle]
    nofun
  constructor
  case held =>
    intro registration held found
    refine (inv.held found).dispatch event unclosed (fun done => ?_)
      fun other due => absurd due (silent _ other)
    rcases done with ⟨now, -⟩ | held
    · rw [unknown] at now
      cases now
    · exact inv.task_silent unclosed held
  case known => exact fun held => inv.known held
  case due => exact fun owed => absurd owed (silent _ _)
  case closing => exact fun tasks => List.mem_append_left _ (inv.closing tasks)

/-- The current registration is owed the event that the dispatch loop begins to wait with. -/
theorem Inv.await (inv : Inv conn dispatched) (idle : conn.waiting = none) {current : Nat}
    (known : conn.current = some current) (event : TunnelEvent)
    (unclosed : event.data? = none ∨ .close ∉ dispatched) :
    Inv { conn with waiting := some (.reserving current event) } (dispatched ++ [event]) := by
  have complete : conn.Complete current := by
    refine .inl ⟨known, ?_, fun other => ?_⟩
    · rw [idle]
      nofun
    · rw [Conn.Owes, idle]
      nofun
  have owed {registration : Nat} {other : TunnelEvent}
      (owes : some (Waiting.reserving current event) = some (.reserving registration other)) :
      current = registration ∧ event = other := by
    rw [Option.some.injEq, Waiting.reserving.injEq] at owes
    exact owes
  have only {registration : Nat}
      (done : Conn.Complete { conn with waiting := some (.reserving current event) } registration) :
      conn.Complete registration ∧ event.data? = none := by
    rcases done with ⟨same, -, free⟩ | held
    · obtain rfl : current = registration := Option.some.inj (known.symm.trans same)
      exact absurd rfl (free event)
    · exact inv.task_silent unclosed held
  constructor
  case held =>
    intro registration held found
    refine (inv.held found).dispatch event unclosed only fun other due => ?_
    obtain ⟨rfl, rfl⟩ := owed due
    exact ⟨complete, rfl⟩
  case known =>
    rintro registration (done | ⟨other, due⟩)
    · exact inv.known (.inl (only done).1)
    · obtain ⟨rfl, -⟩ := owed due
      exact inv.known (.inl complete)
  case due =>
    intro registration other due
    obtain ⟨-, rfl⟩ := owed due
    refine ⟨?_, fun close => close ▸ List.mem_concat_self⟩
    by_cases chunk : event.data? = none
    · exact .inl chunk
    · refine .inr (unclosed_append (unclosed.resolve_left chunk) ?_)
      rintro rfl
      exact chunk rfl
  case closing => exact fun tasks => List.mem_append_left _ (inv.closing tasks)

/-- An event is dispatched while the dispatch loop waits for nothing. -/
theorem Inv.dispatch (inv : Inv conn dispatched) (idle : conn.waiting = none) (event : TunnelEvent)
    (unclosed : event.data? = none ∨ .close ∉ dispatched) :
    Inv ((conn.dispatch event).getD conn) (dispatched ++ [event]) := by
  obtain known | ⟨current, known⟩ := Option.eq_none_or_eq_some conn.current
  · have ignored : conn.dispatch event = none := congrArg (Option.map _) known
    rw [ignored]
    exact inv.ignore idle known event unclosed
  · have waits : conn.dispatch event = some _ := congrArg (Option.map _) known
    rw [waits]
    exact inv.await idle known event unclosed

/-- No step of a connection makes the dispatch loop wait. -/
theorem waiting_step {count : Nat} {action : Conn.Action} (moved : conn.step count action = some next)
    (waits : next.waiting.isSome) : conn.waiting.isSome := by
  cases Conn.step_move moved with
  | register | unregister | handOffRefused | handOffExpires | handOffRemoves | receive
  | dropReceiver => exact waits
  | reserve before => exact before ▸ rfl
  | refuse before => exact before ▸ rfl
  | stallClose before => exact before ▸ rfl
  | stall before => exact before ▸ rfl
  | dropStalled before => exact before ▸ rfl
  | handOff _ sent =>
      obtain ⟨held, channel, -, -, rfl⟩ := send_some sent
      exact waits

end Inv

/-- Every connection keeps its invariant, and the dispatch loop is busy with the one it waits for. -/
structure Sound (state : State) : Prop where
  conn : ∀ connId, Inv (state.conns connId) (state.dispatched connId)
  busy : ∀ connId, state.busy = some connId ↔ (state.conns connId).waiting.isSome

theorem Sound.start : Sound start where
  conn _ := Inv.start
  busy _ := by simp [Dispatch.start]

section Step
variable {state next : State} {connId : ConnId}

/-- The dispatch loop waits for no connection but the one it is busy with. -/
theorem busy_put {conn : Conn} (busy : ∀ connId, state.busy = some connId ↔
      (state.conns connId).waiting.isSome)
    (free : conn.waiting.isSome → ∀ other, state.busy = some other → other = connId) (other : ConnId) :
    (state.put connId conn).busy = some other ↔
      ((state.put connId conn).conns other).waiting.isSome := by
  have waits := busy other
  unfold State.put
  by_cases same : other = connId
  · subst same
    simp only [Function.update_self]
    split
    · next now => simp [now]
    · next idle =>
        rw [iff_false_right idle]
        split
        · nofun
        · next elsewhere => exact elsewhere
  · simp only [Function.update_of_ne same]
    rw [← waits]
    split
    · next now =>
        constructor
        · intro mine
          exact absurd (Option.some.inj mine).symm same
        · intro mine
          exact absurd (free now other mine) same
    · split
      · next mine =>
          rw [mine]
          constructor
          · nofun
          · intro also
            exact absurd (Option.some.inj also).symm same
      · rfl

/-- The dispatch loop waits for the connection whose event it handles, or for none. -/
theorem busy_handle (busy : ∀ connId, state.busy = some connId ↔
      (state.conns connId).waiting.isSome) (idle : state.busy = none) (message : Message)
    (connId : ConnId) : (state.handleSseMessage message).busy = some connId ↔
      ((state.handleSseMessage message).conns connId).waiting.isSome := by
  have dispatched (id : ConnId) (event : TunnelEvent) :
      (state.dispatchEvent id event).busy = some connId ↔
        ((state.dispatchEvent id event).conns connId).waiting.isSome := by
    unfold State.dispatchEvent
    cases (state.conns id).dispatch event with
    | none => exact busy connId
    | some conn =>
        have free (other : ConnId) : state.busy = some other → other = id := by
          rw [idle]
          nofun
        have recorded : ∀ connId, (state.record id event).busy = some connId ↔ _ := busy
        exact busy_put recorded (fun _ => free) connId
  cases message with
  | data id data => exact dispatched id _
  | close id => exact dispatched id _
  | exitStatus id code => exact dispatched id _
  | error id message =>
      cases id with
      | none => exact busy connId
      | some id => exact dispatched id _
  | reset | connect | ping | pong | exec | resize | pull | push | abort => exact busy connId

/-- No connection waits while the dispatch loop is idle. -/
theorem quiet_of_idle (busy : ∀ connId, state.busy = some connId ↔
      (state.conns connId).waiting.isSome) (idle : state.busy = none) (connId : ConnId) :
    (state.conns connId).waiting = none := by
  have waits := (busy connId).mpr
  rw [idle] at waits
  simpa using waits

/-- The dispatch loop goes on waiting for a connection that a step leaves waiting. -/
theorem busy_connection (busy : ∀ connId, state.busy = some connId ↔
      (state.conns connId).waiting.isSome) {action : Conn.Action} {conn : Conn}
    (stepped : (state.conns connId).step (state.dispatched connId).length action = some conn)
    (other : ConnId) : (state.put connId conn).busy = some other ↔
      ((state.put connId conn).conns other).waiting.isSome := by
  apply busy_put busy
  intro waits other now
  have mine := (busy connId).mpr (waiting_step stepped waits)
  exact Option.some.inj (now.symm.trans mine)

/-- The next message keeps every invariant if it does not follow its `Close` with a chunk. -/
theorem Sound.handle (sound : Sound state) {message : Message} (idle : state.busy = none)
    (inOrder : InOrder state (.dispatch message)) : Sound (state.handleSseMessage message) := by
  have quiet := quiet_of_idle sound.busy idle
  constructor
  case conn =>
    intro connId
    change Inv ((state.handleSseMessage message).view connId).1
      ((state.handleSseMessage message).view connId).2
    cases own : message.event connId with
    | none =>
        rw [view_foreign own]
        split
        · exact (sound.conn connId).unregister
        · exact sound.conn connId
    | some event =>
        rw [view_own own]
        apply (sound.conn connId).dispatch (quiet connId) event
        cases event with
        | data bytes =>
            obtain rfl : message = .data connId bytes := message_of_event own
            exact .inr inOrder
        | close | error | exit => exact .inl rfl
  case busy => exact busy_handle sound.busy idle message

/-- Every step in order keeps every invariant. -/
theorem Sound.step {action : Action} (sound : Sound state) (inOrder : InOrder state action)
    (moved : Dispatch.step state action = some next) : Sound next := by
  cases action with
  | dispatch message =>
      rw [Dispatch.step, Option.ite_none_right_eq_some, Option.some.injEq] at moved
      obtain ⟨idle, rfl⟩ := moved
      exact sound.handle idle inOrder
  | connection id action =>
      obtain ⟨conn, stepped, rfl⟩ := Option.map_eq_some_iff.mp moved
      constructor
      case conn =>
        intro connId
        change Inv ((state.put id conn).view connId).1 ((state.put id conn).view connId).2
        rw [view_put]
        split
        · exact (sound.conn id).step stepped
        · exact sound.conn connId
      case busy => exact busy_connection sound.busy stepped

/-- A step that does not concern a connection changes nothing that the connection sees. -/
theorem view_unconcerned {action : Action} (foreign : action.concerns connId = false)
    (moved : Dispatch.step state action = some next) : next.view connId = state.view connId := by
  cases action with
  | dispatch message =>
      rw [Dispatch.step, Option.ite_none_right_eq_some, Option.some.injEq] at moved
      obtain ⟨-, rfl⟩ := moved
      simp only [Action.concerns, Bool.or_eq_false_iff, decide_eq_false_iff_not,
        Option.isSome_eq_false_iff, Option.isNone_iff_eq_none] at foreign
      rw [view_foreign foreign.1, if_neg foreign.2]
  | connection id action =>
      obtain ⟨conn, -, rfl⟩ := Option.map_eq_some_iff.mp moved
      simp only [Action.concerns, decide_eq_false_iff_not] at foreign
      rw [view_put, if_neg (Ne.symm foreign)]

/-- What a connection sees of a step that concerns it depends on its own view alone. -/
theorem view_concerned {other after : State} {action : Action}
    (own : action.concerns connId = true) (same : state.view connId = other.view connId)
    (moved : Dispatch.step state action = some next)
    (also : Dispatch.step other action = some after) :
    next.view connId = after.view connId := by
  obtain ⟨conns, dispatched⟩ := Prod.mk.injEq .. ▸ same
  cases action with
  | dispatch message =>
      rw [Dispatch.step, Option.ite_none_right_eq_some, Option.some.injEq] at moved also
      obtain ⟨-, rfl⟩ := moved
      obtain ⟨-, rfl⟩ := also
      cases event : message.event connId with
      | none => rw [view_foreign event, view_foreign event, conns, dispatched, same]
      | some event_ => rw [view_own event, view_own event, conns, dispatched]
  | connection id action =>
      obtain rfl : id = connId := by simpa [Action.concerns] using own
      obtain ⟨conn, stepped, rfl⟩ := Option.map_eq_some_iff.mp moved
      obtain ⟨conn', stepped', rfl⟩ := Option.map_eq_some_iff.mp also
      rw [conns, dispatched, stepped', Option.some.injEq] at stepped
      rw [view_put, view_put, if_pos rfl, if_pos rfl, stepped, dispatched]

/-- A connection that the dispatch loop no longer waits for sets it free. -/
theorem put_idle (conn : Conn) (busy : state.busy = some connId) (idle : conn.waiting = none) :
    (state.put connId conn).busy = none := by
  simp [State.put, busy, idle]

/-- A dropped connection sets the dispatch loop free. -/
theorem dropStalled_frees (busy : state.busy = some connId)
    (waits : (state.conns connId).waiting = some .unregistering) : ∃ final,
    Dispatch.step state (.connection connId .dropStalled) = some final ∧ final.busy = none := by
  refine ⟨_, ?_, put_idle { (state.conns connId).unregisterConnection with
    waiting := none } busy rfl⟩
  rw [Dispatch.step, Conn.step, waits]
  rfl

/-- Timeouts alone set the dispatch loop free. -/
theorem released (sound : Sound state) (busy : state.busy = some connId) :
    ∃ actions : List Conn.Action, (∀ action ∈ actions, action = .stall ∨ action = .dropStalled) ∧
      ∃ final, Machine.run Dispatch.step state (actions.map (.connection connId)) = some final ∧
        final.busy = none := by
  have waits := (sound.busy connId).mp busy
  obtain ⟨waiting, waits⟩ := Option.isSome_iff_exists.mp waits
  cases waiting with
  | unregistering =>
      obtain ⟨final, moved, free⟩ := dropStalled_frees busy waits
      refine ⟨[.dropStalled], by simp, final, ?_, free⟩
      exact Machine.run_cons.mpr ⟨final, moved, rfl⟩
  | reserving registration event =>
      by_cases close : event = .close
      · subst close
        refine ⟨[.stall], by simp, _, Machine.run_cons.mpr ⟨_, ?_, rfl⟩, put_idle
          { state.conns connId with
            waiting := none
            handOffs := (state.conns connId).handOffs ++ [⟨registration, false⟩] } busy rfl⟩
        rw [Dispatch.step, Conn.step, waits]
        rfl
      · let stalled : Conn := { state.conns connId with waiting := some .unregistering }
        have first : Dispatch.step state (.connection connId .stall) =
            some (state.put connId stalled) := by
          rw [Dispatch.step, Conn.step, waits]
          cases event with
          | close => exact absurd rfl close
          | data | error | exit => rfl
        have still : (state.put connId stalled).busy = some connId := rfl
        have known : ((state.put connId stalled).conns connId).waiting = some .unregistering := by
          change ((state.put connId stalled).view connId).1.waiting = _
          rw [view_put, if_pos rfl]
        obtain ⟨final, moved, free⟩ := dropStalled_frees still known
        refine ⟨[.stall, .dropStalled], by simp, final, ?_, free⟩
        exact Machine.run_cons.mpr ⟨_, first, Machine.run_cons.mpr ⟨final, moved, rfl⟩⟩

end Step

/-- In every run of the dispatch loop in which no `Data` follows the `Close` of its connection, each
receiver takes an in-order prefix of the chunks dispatched since its registration, and a `Close` only
after all of them. A message for an unregistered connection changes nothing. A connection sees the
same in all runs that agree on the actions that concern it, and timeouts alone free the dispatch loop
from any connection without a change to another one. -/
theorem dispatch_isolates {actions : List Action} {final : State}
    (inOrder : Machine.Along step InOrder start actions)
    (ran : Machine.run step start actions = some final) :
    (∀ connId, ∀ held ∈ (final.conns connId).registrations,
      Orderly held.received (held.offered (final.dispatched connId))) ∧
    (∀ connId message event next, message.event connId = some event →
      (final.conns connId).current = none → step final (.dispatch message) = some next →
      next.conns = final.conns ∧ next.busy = final.busy) ∧
    (∀ connId others other, actions.filter (Action.concerns connId) =
        others.filter (Action.concerns connId) → Machine.run step start others = some other →
      final.conns connId = other.conns connId) ∧
    (∀ connId, final.busy = some connId → ∃ timeouts : List Conn.Action,
      (∀ action ∈ timeouts, action = .stall ∨ action = .dropStalled) ∧
      ∃ next, Machine.run step final (timeouts.map (.connection connId)) = some next ∧
        next.busy = none ∧ ∀ other, other ≠ connId → next.conns other = final.conns other) := by
  have sound : Sound final := Machine.run_along Sound.step Sound.start inOrder ran
  refine ⟨fun connId held member => ?_, ?_, ?_, ?_⟩
  · obtain ⟨registration, found⟩ := List.getElem?_of_mem member
    exact ((sound.conn connId).held found).orderly.received
  · intro connId message event next own unknown moved
    rw [step, Option.ite_none_right_eq_some, Option.some.injEq] at moved
    obtain ⟨-, rfl⟩ := moved
    have ignored : (final.conns connId).dispatch event = none := congrArg (Option.map _) unknown
    rw [handleSseMessage_event own, State.dispatchEvent, ignored]
    exact ⟨rfl, rfl⟩
  · intro connId others other agree also
    have same : final.view connId = other.view connId :=
      Machine.run_view (fun state => state.view connId) view_unconcerned view_concerned rfl
        agree ran also
    exact congrArg Prod.fst same
  · intro connId busy
    obtain ⟨timeouts, expire, next, moved, free⟩ := released sound busy
    refine ⟨timeouts, expire, next, moved, free, fun other different => ?_⟩
    have quiet : (timeouts.map (Action.connection connId)).filter (Action.concerns other) = [] := by
      rw [List.filter_eq_nil_iff]
      intro action member
      obtain ⟨_, -, rfl⟩ := List.mem_map.mp member
      simpa [Action.concerns] using Ne.symm different
    have same : next.view other = final.view other :=
      Machine.run_unconcerned (fun state => state.view other) view_unconcerned quiet moved
    exact congrArg Prod.fst same

/-- One connection stalls over its chunk, and another one takes its chunk and its `Close`. -/
theorem dispatch_isolates_of_stall : ∃ final, Machine.run step start
    [.connection 1 .register, .connection 2 .register, .dispatch (.data 1 [9]),
      .connection 1 .stall, .connection 1 .dropStalled, .dispatch (.data 2 [5]),
      .connection 2 .reserve, .dispatch (.close 2), .connection 2 .reserve,
      .connection 2 (.receive 0), .connection 2 (.receive 0)] = some final ∧
    (final.conns 1).registrations.map (·.received) = [[]] ∧
    (final.conns 2).registrations.map (·.received) = [[.data [5], .close]] ∧
    ∀ connId, ∀ held ∈ (final.conns connId).registrations,
      Orderly held.received (held.offered (final.dispatched connId)) := by
  obtain ⟨final, ran, same⟩ := Option.map_eq_some_iff.mp (show (Machine.run step start
    [.connection 1 .register, .connection 2 .register, .dispatch (.data 1 [9]),
      .connection 1 .stall, .connection 1 .dropStalled, .dispatch (.data 2 [5]),
      .connection 2 .reserve, .dispatch (.close 2), .connection 2 .reserve,
      .connection 2 (.receive 0), .connection 2 (.receive 0)]).map (fun final =>
        ((final.conns 1).registrations.map (·.received),
          (final.conns 2).registrations.map (·.received))) =
    some ([[]], [[.data [5], .close]]) by decide)
  obtain ⟨stalled, healthy⟩ := Prod.mk.injEq .. ▸ same
  refine ⟨final, ran, stalled, healthy, (dispatch_isolates ?_ ran).1⟩
  refine ⟨trivial, trivial, ?_, trivial, trivial, ?_, trivial, trivial, trivial, trivial, trivial,
    trivial⟩
  · exact List.not_mem_nil
  · exact List.not_mem_nil

end Tunnix.Dispatch
