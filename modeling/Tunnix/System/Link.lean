import Tunnix.System.Composition
import Tunnix.Client.RelayCalm
import Tunnix.Server.TcpCalm

namespace Tunnix.Composition

/-- The POST of the read half, the server's handlers and the app's stream move together. -/
inductive Uplink (connId : ConnId) (app : Source) (server : TcpRelay.State) :
    ClientRelay.ReadHalf → Post → Prop
  | idle : server.handlers = [] → server.closeProcessed = false →
      server.accepted.flatten = app.taken → Uplink connId app server .selecting .idle
  | posted {chunk} : server.handlers = [] → server.closeProcessed = false →
      server.accepted.flatten ++ chunk = app.taken →
      Uplink connId app server (.sending chunk) (.sent (.data connId chunk))
  | handled {chunk} : server.handlers = [chunk] → server.closeProcessed = false →
      server.accepted.flatten ++ chunk = app.taken →
      Uplink connId app server (.sending chunk) .handled
  | answered {chunk} : server.handlers = [] → server.closeProcessed = false →
      server.accepted.flatten = app.taken → Uplink connId app server (.sending chunk) .answered
  | closing : server.handlers = [] → server.closeProcessed = false →
      server.accepted.flatten = app.taken → app.left = [] → app.closed = true →
      Uplink connId app server .closing (.sent (.close connId))
  | closed : server.handlers = [] → server.closeProcessed = true →
      server.accepted.flatten = app.taken → app.left = [] → app.closed = true →
      Uplink connId app server .closing .answered
  | ended : server.handlers = [] → server.closeProcessed = true →
      server.accepted.flatten = app.taken → app.left = [] → app.closed = true →
      Uplink connId app server (.ended .eof) .idle

/-- Both relays are undisturbed, and what leaves one of them reaches the other in order. -/
structure Linked (connId : ConnId) (state : State) : Prop where
  client : ClientRelay.Calm state.client
  ordered : ClientRelay.Ordered connId state.client
  arrival : ClientRelay.Arrival state.client
  held : ClientRelay.Held state.client
  server : TcpRelay.Calm state.server
  reports : TcpRelay.Reports state.server
  upload : TcpRelay.Upload state.server
  settled : TcpRelay.Settled state.server
  shut : TcpRelay.Shut state.server
  within : state.dispatched ≤ state.server.queued.length
  arrived : state.client.arrived =
    (state.server.queued.take state.dispatched).map TcpRelay.Report.event
  produced : state.server.produced.flatten = state.target.taken
  drained : state.server.read ≠ .selecting → (∀ chunk, state.server.read ≠ .sending chunk) →
    state.target.left = [] ∧ state.target.closed = true
  unwriting : state.client.responseClosed = true → ∀ rest, state.client.write ≠ .writing rest
  uplink : Uplink connId state.app state.server state.client.read state.post

theorem Linked.start (connId : ConnId) : Linked connId start where
  client := .start
  ordered := .start connId
  arrival := .start
  held _ := rfl
  server := .start
  reports := .start
  upload := .start
  settled := nofun
  shut := .start
  within := Nat.le_refl _
  arrived := rfl
  produced := rfl
  drained selecting := absurd rfl selecting
  unwriting := nofun
  uplink := .idle rfl rfl rfl

/-- Nothing follows the one `Close` at the end of the target's output. -/
theorem nothing_after_close {datas : List Bytes} {before after : List TunnelEvent}
    (split : before ++ after = datas.map .data ++ [.close]) (close : .close ∈ before) :
    after = [] := by
  rcases List.eq_nil_or_concat after with empty | ⟨rest, last, rfl⟩
  · exact empty
  · rw [List.concat_eq_append, ← List.append_assoc] at split
    have same := (List.append_inj' split rfl).1
    have member : TunnelEvent.close ∈ datas.map TunnelEvent.data := by
      rw [← same]
      exact List.mem_append_left rest close
    simp at member

/-- The events of an undisturbed relay are its chunks, followed at most by the end. -/
theorem prefix_of_events {server : TcpRelay.State} (calm : TcpRelay.Calm server) :
    server.queued.map TcpRelay.Report.event <+:
      (TcpRelay.chunks server.queued).map .data ++ [.close] := by
  have datas (chunks : List Bytes) :
      (chunks.map TcpRelay.Report.data).map TcpRelay.Report.event = chunks.map .data := by
    rw [List.map_map]
    rfl
  by_cases done : server.read = .done
  · have whole := congrArg (List.map TcpRelay.Report.event) (calm.ended done)
    rw [List.map_append, datas] at whole
    rw [whole]
    exact List.prefix_refl _
  · have whole := congrArg (List.map TcpRelay.Report.event) (calm.running done)
    rw [datas] at whole
    rw [whole]
    exact List.prefix_append _ _

/-- The events that arrived are the first ones that were queued. -/
theorem Linked.arrived_prefix {connId : ConnId} {state : State} (linked : Linked connId state) :
    state.client.arrived <+: (TcpRelay.chunks state.server.queued).map .data ++ [.close] := by
  rw [linked.arrived]
  exact ((List.take_prefix _ _).map _).trans (prefix_of_events linked.server)

/-- Once the client's relay has handled the end, no event is left for it. -/
theorem Linked.processed_all {connId : ConnId} {state : State} (linked : Linked connId state)
    (close : .close ∈ state.client.processed) :
    state.client.processed = (TcpRelay.chunks state.server.queued).map .data ++ [.close] ∧
      state.client.arrived = state.client.processed := by
  obtain ⟨waiting, arrived⟩ := linked.arrival.handled
  obtain ⟨rest, all⟩ := linked.arrived_prefix
  rw [← arrived, List.append_assoc] at all
  have none_left := nothing_after_close all close
  rw [none_left, List.append_nil] at all
  rw [(List.append_eq_nil_iff.mp none_left).1, List.append_nil] at arrived
  exact ⟨all, arrived.symm⟩

/-- A write half that has handled the end takes no further event. -/
theorem Linked.no_more {connId : ConnId} {state : State} (linked : Linked connId state)
    (closed : state.client.responseClosed = true) {event : TunnelEvent}
    {events : Channel ClientRelay.connChannelCapacity TunnelEvent}
    (received : state.client.events.receive = some (event, events)) : False := by
  obtain ⟨oldest, held, -⟩ := Channel.receive_some received
  obtain ⟨-, all⟩ := linked.processed_all (linked.ordered.response.closed closed).close
  have order := linked.arrival.queued held
  rw [all, oldest] at order
  simpa using congrArg List.length order

/-- After the end the client's relay writes nothing more. -/
theorem Linked.unwriting_step {connId : ConnId} {state : State} (linked : Linked connId state)
    {action : ClientRelay.Action} {client : ClientRelay.State}
    (moved : ClientRelay.step connId state.client action = some client)
    (closed : client.responseClosed = true) (rest : Bytes) : client.write ≠ .writing rest := by
  cases ClientRelay.step_move moved with
  | event | dropChannel | readStop | readApp | readEof | readError | sent | sendFailed | closed |
    finish => exact linked.unwriting closed rest
  | @takeEvent event events selecting received =>
      cases event with
      | data bytes =>
          have before : state.client.responseClosed = true := by cases bytes <;> exact closed
          exact (linked.no_more before received).elim
      | close | error | exit => nofun
  | channelGone | writeFails | shutdown | shutdownLast | writeAll => nofun
  | @takeUpload reported selecting _ _ _ _ =>
      intro writing
      have same : state.client.write = .writing rest := by
        cases reported with
        | failed => cases writing
        | eof =>
            unfold ClientRelay.State.handleUpload at writing
            dsimp only at writing
            split at writing
            · cases writing
            · exact writing
      rw [selecting] at same
      cases same
  | writeSome writing _ _ _ => exact absurd writing (linked.unwriting closed _)

/-- The client's relay moves the uplink by its reads and by the answers to its posts. -/
theorem Linked.uplink_client {connId : ConnId} {state : State} (linked : Linked connId state)
    {action : ClientRelay.Action} {client : ClientRelay.State}
    (permitted : state.permitsClient action = true)
    (moved : ClientRelay.step connId state.client action = some client) :
    Uplink connId (state.afterClient connId action client).app state.server client.read
      (state.afterClient connId action client).post := by
  have uplink := linked.uplink
  cases ClientRelay.step_move moved with
  | event | dropChannel | readError | sendFailed | writeFails => cases permitted
  | readStop reading signal =>
      rw [linked.client.unstopped linked.ordered reading] at signal
      rcases signal with sent | ⟨dropped, -⟩ <;> contradiction
  | readApp reading _ _ _ =>
      rw [reading] at uplink
      generalize state.post = post at uplink
      cases uplink with
      | idle handlers open_ taken => exact .posted handlers open_ (by rw [taken]; rfl)
  | readEof reading _ =>
      rw [reading] at uplink
      simp only [State.permitsClient, Bool.and_eq_true, List.isEmpty_iff] at permitted
      generalize state.post = post at uplink
      cases uplink with
      | idle handlers open_ taken => exact .closing handlers open_ taken permitted.1 permitted.2
  | sent sending =>
      rw [sending, show state.post = .answered by simpa [State.permitsClient] using permitted]
        at uplink
      cases uplink with
      | answered handlers open_ taken => exact .idle handlers open_ taken
  | @closed accepted closing =>
      cases accepted with
      | false => cases permitted
      | true =>
          rw [closing, show state.post = .answered by simpa [State.permitsClient] using permitted]
            at uplink
          cases uplink with
          | closed handlers processed taken left closed =>
              exact .ended handlers processed taken left closed
  | @takeEvent event events _ _ =>
      obtain ⟨read, -⟩ := (state.client.receive event events).handle_reports event
      rw [read]
      exact uplink
  | @takeUpload reported _ _ _ _ _ =>
      obtain ⟨read, -⟩ := ClientRelay.State.handleUpload_reports
        { state.client with uploadEnded := true, upload := .taken } reported
      rw [read]
      exact uplink
  | channelGone | writeSome | writeAll | shutdown | shutdownLast | finish => exact uplink

/-- A server that moves nothing of the upload keeps the uplink. -/
theorem Uplink.of_same {connId : ConnId} {app : Source} {server next : TcpRelay.State}
    {read : ClientRelay.ReadHalf} {post : Post} (uplink : Uplink connId app server read post)
    (handlers : next.handlers = server.handlers)
    (closed : next.closeProcessed = server.closeProcessed)
    (accepted : next.accepted = server.accepted) : Uplink connId app next read post := by
  cases uplink with
  | idle held open_ taken =>
      exact .idle (handlers.trans held) (closed.trans open_) (by rw [accepted, taken])
  | posted held open_ taken =>
      exact .posted (handlers.trans held) (closed.trans open_) (by rw [accepted, taken])
  | handled held open_ taken =>
      exact .handled (handlers.trans held) (closed.trans open_) (by rw [accepted, taken])
  | answered held open_ taken =>
      exact .answered (handlers.trans held) (closed.trans open_) (by rw [accepted, taken])
  | closing held open_ taken left ended =>
      exact .closing (handlers.trans held) (closed.trans open_) (by rw [accepted, taken]) left ended
  | closed held processed taken left ended =>
      exact .closed (handlers.trans held) (closed.trans processed) (by rw [accepted, taken]) left
        ended
  | ended held processed taken left ended =>
      exact .ended (handlers.trans held) (closed.trans processed) (by rw [accepted, taken]) left
        ended

/-- An app that sends more or closes keeps an uplink that is not past its end. -/
theorem Uplink.app {connId : ConnId} {app next : Source} {server : TcpRelay.State}
    {read : ClientRelay.ReadHalf} {post : Post} (uplink : Uplink connId app server read post)
    (taken : next.taken = app.taken)
    (ended : app.left = [] → app.closed = true → next.left = [] ∧ next.closed = true) :
    Uplink connId next server read post := by
  cases uplink with
  | idle held open_ flows => exact .idle held open_ (flows.trans taken.symm)
  | posted held open_ flows => exact .posted held open_ (flows.trans taken.symm)
  | handled held open_ flows => exact .handled held open_ (flows.trans taken.symm)
  | answered held open_ flows => exact .answered held open_ (flows.trans taken.symm)
  | closing held open_ flows left closed =>
      exact .closing held open_ (flows.trans taken.symm) (ended left closed).1 (ended left closed).2
  | closed held processed flows left closed =>
      exact .closed held processed (flows.trans taken.symm) (ended left closed).1
        (ended left closed).2
  | ended held processed flows left closed =>
      exact .ended held processed (flows.trans taken.symm) (ended left closed).1
        (ended left closed).2

/-- A quiet step of the server keeps the link when target, post and uplink follow it. -/
theorem Linked.with_server {connId : ConnId} {state : State} (linked : Linked connId state)
    {action : TcpRelay.Action} {server : TcpRelay.State}
    (moved : TcpRelay.step state.server action = some server) (quiet : action.quiet = true)
    {target : Source} {post : Post} (produced : server.produced.flatten = target.taken)
    (drained : server.read ≠ .selecting → (∀ chunk, server.read ≠ .sending chunk) →
      target.left = [] ∧ target.closed = true)
    (uplink : Uplink connId state.app server state.client.read post) :
    Linked connId { state with server, target, post } where
  client := linked.client
  ordered := linked.ordered
  arrival := linked.arrival
  held := linked.held
  server := linked.server.step linked.upload quiet moved
  reports := linked.reports.step moved
  upload := linked.upload.step (linked.server.closedFirst quiet moved)
    (TcpRelay.Action.stands_of_quiet quiet) moved
  settled := linked.settled.step moved
  shut := linked.shut.step (TcpRelay.Action.stands_of_quiet quiet) moved
  within := Nat.le_trans linked.within (TcpRelay.queued_prefix moved).length_le
  arrived := by
    obtain ⟨later, queued⟩ := TcpRelay.queued_prefix moved
    show state.client.arrived = (server.queued.take state.dispatched).map TcpRelay.Report.event
    rw [← queued, List.take_append_of_le_length linked.within]
    exact linked.arrived
  produced := produced
  drained := drained
  unwriting := linked.unwriting
  uplink := uplink

/-- Only a read of the target moves its stream. -/
theorem Linked.output_same {connId : ConnId} {state : State} (linked : Linked connId state)
    {action : TcpRelay.Action} {server : TcpRelay.State}
    (moved : TcpRelay.step state.server action = some server) (quiet : action.quiet = true)
    (reads : ∀ chunk, action ≠ .readTarget chunk) (ends : action ≠ .readEof) :
    server.produced.flatten = state.target.taken ∧
      (server.read ≠ .selecting → (∀ chunk, server.read ≠ .sending chunk) →
        state.target.left = [] ∧ state.target.closed = true) := by
  have past {read : TcpRelay.ReadTask} (same : state.server.read = read)
      (selecting : read ≠ .selecting) (sending : ∀ chunk, read ≠ .sending chunk) :
      state.target.left = [] ∧ state.target.closed = true :=
    linked.drained (same ▸ selecting) (same ▸ sending)
  cases TcpRelay.step_move moved with
  | readTarget => exact absurd rfl (reads _)
  | readEof => exact absurd rfl ends
  | handleAbort | loseWriter | loseAbort | readFails | clientLost | undelivered | watchdog |
    writeFails => cases quiet
  | takeAbort _ notified => cases linked.server.unnotified.symm.trans notified
  | delivered => exact ⟨linked.produced, fun selecting => absurd rfl selecting⟩
  | @settle reason ended =>
      refine ⟨?_, fun _ _ => past ended nofun nofun⟩
      cases reason <;> exact linked.produced
  | @reported report ok reporting =>
      refine ⟨?_, fun _ _ => past reporting nofun nofun⟩
      cases ok <;> exact linked.produced
  | releaseUnsent unsent => exact ⟨linked.produced, fun _ _ => past unsent nofun nofun⟩
  | handleData | discardData | enqueue | refuse | forget | handleClose | takeEmpty | takeData |
    sendersGone | writeSome | writeAll | releaseFailed | failureReported | failureUnreported |
    cleanup => exact ⟨linked.produced, linked.drained⟩

/-- A permitted step of the server that admits no chunk keeps the uplink. -/
theorem Linked.uplink_server {connId : ConnId} {state : State} (linked : Linked connId state)
    {action : TcpRelay.Action} {server : TcpRelay.State}
    (permitted : state.permitsServer action = true)
    (moved : TcpRelay.step state.server action = some server)
    (admits : ∀ index, action ≠ .enqueue index) :
    Uplink connId state.app server state.client.read state.post := by
  cases TcpRelay.step_move moved with
  | enqueue | refuse => exact absurd rfl (admits _)
  | handleData | discardData | forget | handleClose | handleAbort | loseWriter | loseAbort |
    readFails | clientLost | undelivered | watchdog | writeFails => cases permitted
  | @settle reason _ => cases reason <;> exact linked.uplink.of_same rfl rfl rfl
  | @reported report ok _ => cases ok <;> exact linked.uplink.of_same rfl rfl rfl
  | readTarget | readEof | takeAbort | delivered | releaseUnsent | takeEmpty | takeData |
    sendersGone | writeSome | writeAll | releaseFailed | failureReported | failureUnreported |
    cleanup => exact linked.uplink.of_same rfl rfl rfl

/-- A writer that has not processed `Close` still has its receiver and its entry. -/
theorem Linked.writer_held {connId : ConnId} {state : State} (linked : Linked connId state)
    (open_ : state.server.closeProcessed = false) :
    state.server.registered = true ∧ state.server.writer.receiving = true := by
  constructor
  · by_contra released
    have processed := linked.upload.released (Bool.eq_false_iff.mpr released)
    exact Bool.false_ne_true (open_.symm.trans processed)
  · have running : state.server.write ≠ .done := by
      intro done
      exact Bool.false_ne_true (open_.symm.trans (linked.upload.ended done).2.1)
    exact (linked.upload.flowing running).1

/-- An admitted chunk is the one whose POST waits for it. -/
theorem Linked.uplink_enqueue {connId : ConnId} {state : State} (linked : Linked connId state)
    {server : TcpRelay.State} (handled : state.post = .handled)
    (moved : TcpRelay.step state.server (.enqueue 0) = some server) :
    Uplink connId state.app server state.client.read .answered := by
  have uplink := linked.uplink
  rw [handled] at uplink
  generalize state.client.read = read at uplink ⊢
  cases uplink with
  | @handled chunk held open_ taken =>
      cases TcpRelay.step_move moved with
      | refuse _ gone =>
          rw [(linked.writer_held open_).2] at gone
          cases gone
      | @enqueue _ data writer present sent =>
          rw [held, List.getElem?_cons_zero, Option.some.injEq] at present
          subst present
          refine .answered ?_ open_ ?_
          · show state.server.handlers.eraseIdx 0 = []
            rw [held]
            rfl
          · show (state.server.accepted ++ [chunk]).flatten = state.app.taken
            rw [List.flatten_append, ← taken]
            simp

/-- A permitted step of the server's relay keeps the link. -/
theorem Linked.server_step {connId : ConnId} {state : State} (linked : Linked connId state)
    {action : TcpRelay.Action} {server : TcpRelay.State}
    (permitted : state.permitsServer action = true)
    (moved : TcpRelay.step state.server action = some server) :
    Linked connId (state.afterServer action server) := by
  have same (quiet : action.quiet = true) (reads : ∀ chunk, action ≠ .readTarget chunk)
      (ends : action ≠ .readEof) (admits : ∀ index, action ≠ .enqueue index) :
      Linked connId { state with server } := by
    obtain ⟨produced, drained⟩ := linked.output_same moved quiet reads ends
    exact linked.with_server moved quiet produced drained
      (linked.uplink_server permitted moved admits)
  cases action with
  | readTarget chunk =>
      have uplink := linked.uplink_server permitted moved nofun
      cases TcpRelay.step_move moved with
      | readTarget =>
          refine linked.with_server moved rfl ?_ (fun _ sending => absurd rfl (sending chunk)) uplink
          rw [Source.take_taken, ← linked.produced, List.flatten_append]
          simp
  | readEof =>
      have uplink := linked.uplink_server permitted moved nofun
      simp only [State.permitsServer, Bool.and_eq_true, List.isEmpty_iff] at permitted
      cases TcpRelay.step_move moved with
      | readEof => exact linked.with_server moved rfl linked.produced (fun _ _ => permitted) uplink
  | enqueue index =>
      simp only [State.permitsServer, Bool.and_eq_true, decide_eq_true_eq] at permitted
      obtain ⟨rfl, handled⟩ := permitted
      obtain ⟨produced, drained⟩ := linked.output_same moved rfl nofun nofun
      exact linked.with_server moved rfl produced drained (linked.uplink_enqueue handled moved)
  | handleData | forget | handleClose | handleAbort | loseWriter | loseAbort | readFails |
    clientLost | watchdog | writeFails => cases permitted
  | delivered ok =>
      cases ok with
      | true => exact same rfl nofun nofun nofun
      | false => cases permitted
  | reported ok =>
      cases ok with
      | true => exact same rfl nofun nofun nofun
      | false => cases permitted
  | takeAbort | settle | releaseUnsent | takeData | writeSome | releaseFailed | failureReported |
    cleanup => exact same rfl nofun nofun nofun

/-- A quiet step of the client's relay keeps the link when the dispatched messages, the app and
the uplink follow it. -/
theorem Linked.with_client {connId : ConnId} {state : State} (linked : Linked connId state)
    {action : ClientRelay.Action} {client : ClientRelay.State}
    (moved : ClientRelay.step connId state.client action = some client)
    (quiet : action.quiet = true) {app : Source} {post : Post} {dispatched : Nat}
    (within : dispatched ≤ state.server.queued.length)
    (arrived : client.arrived = (state.server.queued.take dispatched).map TcpRelay.Report.event)
    (uplink : Uplink connId app state.server client.read post) :
    Linked connId { state with client, app, post, dispatched } where
  client := linked.client.step linked.ordered linked.arrival quiet moved
  ordered := linked.ordered.step moved
  arrival := linked.arrival.step moved
  held := linked.held.step moved
  server := linked.server
  reports := linked.reports
  upload := linked.upload
  settled := linked.settled
  shut := linked.shut
  within := within
  arrived := arrived
  produced := linked.produced
  drained := linked.drained
  unwriting := linked.unwriting_step moved
  uplink := uplink

/-- A permitted step of the client's relay keeps the link. -/
theorem Linked.client_step {connId : ConnId} {state : State} (linked : Linked connId state)
    {action : ClientRelay.Action} {client : ClientRelay.State}
    (permitted : state.permitsClient action = true)
    (moved : ClientRelay.step connId state.client action = some client) :
    Linked connId (state.afterClient connId action client) := by
  have uplink := linked.uplink_client permitted moved
  have arrived (inner : ∀ event, action ≠ .event event) :
      client.arrived = (state.server.queued.take state.dispatched).map TcpRelay.Report.event := by
    rw [ClientRelay.arrived_same moved inner]
    exact linked.arrived
  cases action with
  | event | dropChannel | readError | writeFails => cases permitted
  | readApp | readEof | readStop | takeEvent | takeUpload | writeSome | finish =>
      exact linked.with_client moved rfl linked.within (arrived nofun) uplink
  | sent ok =>
      cases ok with
      | true => exact linked.with_client moved rfl linked.within (arrived nofun) uplink
      | false => cases permitted
  | closed accepted =>
      cases accepted with
      | true => exact linked.with_client moved rfl linked.within (arrived nofun) uplink
      | false => cases permitted
  | shutdown ok =>
      cases ok with
      | true => exact linked.with_client moved rfl linked.within (arrived nofun) uplink
      | false => cases permitted

/-- A POST that arrives reaches the handler of its connection. -/
theorem Linked.arrive {connId : ConnId} {state next : State} (linked : Linked connId state)
    {message : Message} (sent : state.post = .sent message)
    (moved : state.handle message = some next) : Linked connId next := by
  have uplink := linked.uplink
  rw [sent] at uplink
  generalize reads : state.client.read = read at uplink
  cases uplink with
  | @posted chunk held open_ taken =>
      unfold State.handle at moved
      obtain ⟨server, handled, rfl⟩ := Option.map_eq_some_iff.mp moved
      obtain ⟨produced, drained⟩ := linked.output_same handled rfl nofun nofun
      refine linked.with_server handled rfl produced drained ?_
      have registered := (linked.writer_held open_).1
      cases TcpRelay.step_move handled with
      | discardData released =>
          rw [registered] at released
          cases released
      | handleData =>
          rw [reads, if_pos registered]
          refine .handled ?_ open_ taken
          show state.server.handlers ++ [chunk] = [chunk]
          rw [held, List.nil_append]
  | closing held open_ taken left closed =>
      unfold State.handle at moved
      obtain ⟨server, handled, rfl⟩ := Option.map_eq_some_iff.mp moved
      obtain ⟨produced, drained⟩ := linked.output_same handled rfl nofun nofun
      refine linked.with_server handled rfl produced drained ?_
      rw [reads]
      cases TcpRelay.step_move handled with
      | handleClose => exact .closed held rfl taken left closed

/-- A client's relay that has returned has been handed every queued message. -/
theorem Linked.dispatched_all {connId : ConnId} {state : State} (linked : Linked connId state)
    (returned : state.client.returned = true) :
    state.server.queued.length ≤ state.dispatched := by
  obtain ⟨abort, ended⟩ := linked.ordered.response.finished returned
  have closed := (linked.client.writing abort ended).1
  obtain ⟨all, arrived⟩ :=
    linked.processed_all (linked.ordered.response.closed closed).close
  have dispatched := congrArg List.length linked.arrived
  have queued := (prefix_of_events linked.server).length_le
  rw [arrived, all, List.length_map, List.length_take] at dispatched
  rw [List.length_map, dispatched] at queued
  omega

/-- Every message of an undisturbed server is data or the end. -/
theorem quiet_queued {server : TcpRelay.State} (calm : TcpRelay.Calm server)
    {report : TcpRelay.Report} (queued : report ∈ server.queued) :
    ClientRelay.quietEvent report.event = true := by
  have member := (prefix_of_events calm).subset (List.mem_map_of_mem queued)
  rcases List.mem_append.mp member with data | close
  · obtain ⟨chunk, -, same⟩ := List.mem_map.mp data
    rw [← same]
    rfl
  · rw [List.mem_singleton.mp close]
    rfl

/-- The dispatch loop hands over the next queued message. -/
theorem Linked.dispatch {connId : ConnId} {state next : State} (linked : Linked connId state)
    {report : TcpRelay.Report} (oldest : state.server.queued[state.dispatched]? = some report)
    (moved : state.dispatch connId (report.message connId) = some next) : Linked connId next := by
  obtain ⟨more, -⟩ := List.getElem?_eq_some_iff.mp oldest
  unfold State.dispatch at moved
  rw [TcpRelay.Report.message_event] at moved
  dsimp only at moved
  split at moved
  · obtain ⟨client, handed, rfl⟩ := Option.map_eq_some_iff.mp moved
    have quiet := quiet_queued linked.server (List.mem_of_getElem? oldest)
    refine linked.with_client handed quiet more ?_ ?_
    · cases ClientRelay.step_move handed with
      | event =>
          rw [List.take_add_one, oldest, List.map_append, ← linked.arrived]
          rfl
    · cases ClientRelay.step_move handed with
      | event => exact linked.uplink
  · next gone =>
      have returned : state.client.returned = true := by
        by_contra running
        exact gone (linked.client.registered (Bool.eq_false_iff.mpr running))
      have all := linked.dispatched_all returned
      omega

/-- Every step of the composition keeps the link. -/
theorem Linked.step {connId : ConnId} {state next : State} {action : Action}
    (linked : Linked connId state) (moved : step connId state action = some next) :
    Linked connId next := by
  cases action with
  | appSends bytes =>
      simp only [Composition.step] at moved
      split at moved
      · cases moved
      · next open_ =>
          cases moved
          exact { linked with
            uplink := linked.uplink.app rfl fun _ closed => absurd closed open_ }
  | appCloses =>
      cases moved
      exact { linked with uplink := linked.uplink.app rfl fun left _ => ⟨left, rfl⟩ }
  | targetSends bytes =>
      simp only [Composition.step] at moved
      split at moved
      · cases moved
      · next open_ =>
          cases moved
          exact { linked with
            drained := fun selecting sending =>
              absurd (linked.drained selecting sending).2 open_ }
  | targetCloses =>
      cases moved
      exact { linked with
        drained := fun selecting sending => ⟨(linked.drained selecting sending).1, rfl⟩ }
  | client action =>
      simp only [Composition.step] at moved
      split at moved
      · next permitted =>
          obtain ⟨client, stepped, rfl⟩ := Option.map_eq_some_iff.mp moved
          exact linked.client_step permitted stepped
      · cases moved
  | server action =>
      simp only [Composition.step] at moved
      split at moved
      · next permitted =>
          obtain ⟨server, stepped, rfl⟩ := Option.map_eq_some_iff.mp moved
          exact linked.server_step permitted stepped
      · cases moved
  | arrive =>
      simp only [Composition.step] at moved
      split at moved
      · next message sent => exact linked.arrive sent moved
      · cases moved
  | arriveAbort =>
      simp only [Composition.step] at moved
      split at moved
      · next posted => exact absurd posted (linked.client.no_abort linked.ordered)
      · cases moved
  | dispatch =>
      simp only [Composition.step] at moved
      split at moved
      · next report oldest => exact linked.dispatch oldest moved
      · cases moved

end Tunnix.Composition
