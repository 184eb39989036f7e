import Tunnix.System.Link

namespace Tunnix.Composition

/-- A posted chunk that no handler has taken over yet is part of the upload on its way. -/
def Post.bytes : Post → Bytes
  | .sent (.data _ data) => data
  | _ => []

/-- These bytes of the app are on their way to the target. -/
def State.uploading (state : State) : Bytes :=
  state.server.unwritten ++ state.server.writer.items.flatten ++ state.server.handlers.flatten ++
    state.post.bytes ++ state.app.left

/-- These bytes of the target are on their way to the app. -/
def State.downloading (state : State) : Bytes :=
  state.client.unsent ++ payload state.client.events.items ++
    payload ((state.server.queued.drop state.dispatched).map TcpRelay.Report.event) ++
    state.server.read.pending.flatten ++ state.target.left

/-- Both directions are independent: neither loses a byte, and each ends on its own. -/
structure HalfClose (state : State) : Prop where
  upload : state.app.sent = state.server.target.written ++ state.uploading
  download : state.target.sent = state.client.app.written ++ state.downloading
  /-- The target sees FIN only after everything that the app sent before its own EOF. -/
  upload_end : state.server.target.fin = true →
    state.app.closed = true ∧ state.server.target.written = state.app.sent
  /-- The app sees FIN only after everything that the target sent before its own EOF. -/
  download_end : state.client.app.fin = true →
    state.target.closed = true ∧ state.client.app.written = state.target.sent
  /-- Two finished relays have ended both streams, each with FIN and without RST. -/
  finished : state.client.returned = true → state.server.finished = true →
    state.server.target.fin = true ∧ state.server.target.reset = false ∧
      state.client.app.fin = true ∧ state.client.app.reset = false

/-- The writer's bytes and the target's bytes are all that the writer accepted. -/
theorem upload_accepted {server : TcpRelay.State} (upload : TcpRelay.Upload server) :
    server.target.written ++ server.unwritten ++ server.writer.items.flatten =
      server.accepted.flatten := by
  by_cases done : server.write = .done
  · obtain ⟨gone, -, written⟩ := upload.ended done
    have empty := server.writer.held.resolve_left (by rw [gone]; exact Bool.false_ne_true)
    rw [TcpRelay.State.unwritten, done, empty, written]
    simp
  · exact (upload.flowing done).2.2

/-- The accepted bytes, the held one and the posted one are all that was read from the app. -/
theorem Uplink.taken {connId : ConnId} {app : Source} {server : TcpRelay.State}
    {read : ClientRelay.ReadHalf} {post : Post} (uplink : Uplink connId app server read post) :
    server.accepted.flatten ++ server.handlers.flatten ++ post.bytes = app.taken := by
  cases uplink with
  | idle held _ taken => simpa [held, Post.bytes] using taken
  | posted held _ taken => simpa [held, Post.bytes] using taken
  | handled held _ taken => simpa [held, Post.bytes] using taken
  | answered held _ taken => simpa [held, Post.bytes] using taken
  | closing held _ taken => simpa [held, Post.bytes] using taken
  | closed held _ taken => simpa [held, Post.bytes] using taken
  | ended held _ taken => simpa [held, Post.bytes] using taken

/-- A processed `Close` follows everything that the app sent. -/
theorem Uplink.complete {connId : ConnId} {app : Source} {server : TcpRelay.State}
    {read : ClientRelay.ReadHalf} {post : Post} (uplink : Uplink connId app server read post)
    (processed : server.closeProcessed = true) :
    app.closed = true ∧ server.accepted.flatten = app.sent := by
  cases uplink with
  | idle _ open_ | posted _ open_ | handled _ open_ | answered _ open_ | closing _ open_ =>
      cases open_.symm.trans processed
  | closed _ _ taken left closed =>
      exact ⟨closed, by rw [Source.sent, left, List.append_nil, taken]⟩
  | ended _ _ taken left closed =>
      exact ⟨closed, by rw [Source.sent, left, List.append_nil, taken]⟩

/-- No byte of the upload is lost on its way. -/
theorem Linked.upload_kept {connId : ConnId} {state : State} (linked : Linked connId state) :
    state.app.sent = state.server.target.written ++ state.uploading := by
  rw [Source.sent, ← linked.uplink.taken, ← upload_accepted linked.upload, State.uploading]
  simp only [List.append_assoc]

/-- The queued chunks and the one in delivery are all that was read from the target. -/
theorem Linked.download_taken {connId : ConnId} {state : State} (linked : Linked connId state) :
    (TcpRelay.chunks state.server.queued).flatten ++ state.server.read.pending.flatten =
      state.target.taken := by
  rw [← linked.produced, ← List.flatten_append]
  rcases linked.server.reading with lossless | done
  · rw [linked.reports.whole lossless]
  · have close : .close ∈ state.server.queued := by
      rw [linked.server.ended done]
      exact List.mem_append_right _ (List.mem_singleton.mpr rfl)
    rw [done, TcpRelay.ReadTask.pending, List.append_nil, linked.reports.closed close]

/-- The app has every handled byte but those still handed to `write_all`. -/
theorem Linked.download_handled {connId : ConnId} {state : State} (linked : Linked connId state) :
    state.client.app.written ++ state.client.unsent = payload state.client.processed := by
  cases closed : state.client.responseClosed with
  | false =>
      have sent := (linked.ordered.response.unclosed closed).sent
      refine sent.resolve_left ?_
      rintro ⟨abort, ended⟩
      exact Bool.false_ne_true (closed.symm.trans (linked.client.writing abort ended).1)
  | true =>
      have response := linked.ordered.response.closed closed
      have unsent : state.client.unsent = [] := by
        unfold ClientRelay.State.unsent
        cases write : state.client.write with
        | selecting | shuttingDown | ended => rfl
        | writing rest => exact absurd write (linked.unwriting closed rest)
      rw [unsent, List.append_nil, response.complete, (linked.processed_all response.close).1,
        beforeClose_append_close (by simp)]
      simp [TunnelEvent.bytes]

/-- Every event that arrived is handled or still queued for the write half. -/
theorem Linked.download_arrived {connId : ConnId} {state : State} (linked : Linked connId state) :
    payload state.client.processed ++ payload state.client.events.items =
      payload state.client.arrived := by
  cases receiving : state.client.events.receiving with
  | true => rw [linked.arrival.queued receiving, payload_append]
  | false =>
      have empty := state.client.events.held.resolve_left (by rw [receiving]; exact Bool.false_ne_true)
      cases write : state.client.write with
      | ended abort =>
          have closed := (linked.client.writing abort write).1
          have all := linked.processed_all (linked.ordered.response.closed closed).close
          rw [empty, payload_nil, List.append_nil, all.2]
      | selecting | writing | shuttingDown =>
          have hears : state.client.hearing = true := by rw [ClientRelay.State.hearing, write]
          cases receiving.symm.trans (linked.held hears)

/-- No byte of the download is lost on its way. -/
theorem Linked.download_kept {connId : ConnId} {state : State} (linked : Linked connId state) :
    state.target.sent = state.client.app.written ++ state.downloading := by
  have queued : payload state.client.arrived ++
      payload ((state.server.queued.drop state.dispatched).map TcpRelay.Report.event) =
      (TcpRelay.chunks state.server.queued).flatten := by
    rw [linked.arrived, ← payload_append, ← List.map_append, List.take_append_drop,
      TcpRelay.payload_event]
  rw [Source.sent, ← linked.download_taken, ← queued, ← linked.download_arrived,
    ← linked.download_handled, State.downloading]
  simp only [List.append_assoc]

/-- The target's FIN follows everything that the app sent. -/
theorem Linked.upload_end {connId : ConnId} {state : State} (linked : Linked connId state)
    (fin : state.server.target.fin = true) :
    state.app.closed = true ∧ state.server.target.written = state.app.sent := by
  obtain ⟨processed, written⟩ := linked.upload.complete fin
  rw [written]
  exact linked.uplink.complete processed

/-- The app's FIN follows everything that the target sent. -/
theorem Linked.download_end {connId : ConnId} {state : State} (linked : Linked connId state)
    (close : .close ∈ state.client.processed) :
    state.target.closed = true ∧ state.client.app.written = state.target.sent := by
  obtain ⟨all, arrived⟩ := linked.processed_all close
  have queued : .close ∈ state.server.queued := by
    rw [← arrived, linked.arrived] at close
    obtain ⟨report, member, same⟩ := List.mem_map.mp close
    have isClose : report = .close := by
      cases report with
      | close => rfl
      | data | readFailed | writeFailed | clientUnreachable => cases same
    exact isClose ▸ (List.take_prefix _ _).subset member
  have done : state.server.read = .done := by
    by_contra running
    exact linked.reports.unclosed running queued
  obtain ⟨left, closed⟩ := linked.drained (by rw [done]; nofun) (by rw [done]; nofun)
  have earned := (linked.ordered.response.earned linked.arrival).complete close
  refine ⟨closed, ?_⟩
  rw [earned, arrived, all, beforeClose_append_close (by simp), Source.sent, left, List.append_nil,
    ← linked.produced, ← linked.reports.closed queued, payload_data]

/-- Two linked relays keep their directions independent. -/
theorem Linked.halfClose {connId : ConnId} {state : State} (linked : Linked connId state) :
    HalfClose state where
  upload := linked.upload_kept
  download := linked.download_kept
  upload_end := linked.upload_end
  download_end fin := by
    apply linked.download_end
    by_contra unclosed
    have earned := linked.ordered.response.earned linked.arrival
    exact Bool.false_ne_true ((earned.no_fin unclosed).symm.trans fin)
  finished returned settled := by
    obtain ⟨-, write⟩ := linked.settled settled
    obtain ⟨abort, ended⟩ := linked.ordered.response.finished returned
    have closed := (linked.client.writing abort ended).1
    have close := (linked.ordered.response.closed closed).close
    have earned := linked.ordered.response.earned linked.arrival
    exact ⟨linked.shut.shut write, linked.shut.unreset,
      earned.fin returned close linked.client.standing, (earned.clean_iff returned).mpr close⟩

/-- Every run of the composition keeps the two directions independent. -/
theorem half_close {connId : ConnId} {actions : List Action} {final : State}
    (ran : Machine.run (step connId) start actions = some final) :
    HalfClose final ∧ final.server.target.written <+: final.app.sent ∧
      final.client.app.written <+: final.target.sent := by
  have kept := (Machine.run_invariant Linked.step (.start connId) ran).halfClose
  exact ⟨kept, ⟨_, kept.upload.symm⟩, ⟨_, kept.download.symm⟩⟩

/-- An app that sends one byte and closes, and a target that answers with one byte and closes,
finish with both bytes delivered. -/
theorem half_close_one_byte_each : ∃ final,
    Machine.run (step 7) start [.appSends [1], .client (.readApp [1]), .arrive, .server (.enqueue 0),
      .client (.sent true), .appCloses, .client .readEof, .arrive, .client (.closed true),
      .client .takeUpload, .server .takeData, .server (.writeSome 1), .server .takeData,
      .targetSends [2], .server (.readTarget [2]), .server (.delivered true), .dispatch,
      .client .takeEvent, .client (.writeSome 1), .targetCloses, .server .readEof, .server .settle,
      .server (.reported true), .dispatch, .client .takeEvent, .client (.shutdown true),
      .client .finish, .server .cleanup] = some final ∧
    HalfClose final ∧ final.server.target.written <+: final.app.sent ∧
      final.client.app.written <+: final.target.sent := by
  obtain ⟨final, ran, -⟩ := Option.map_eq_some_iff.mp
    (show (Machine.run (step 7) start [.appSends [1], .client (.readApp [1]), .arrive,
      .server (.enqueue 0), .client (.sent true), .appCloses, .client .readEof, .arrive,
      .client (.closed true), .client .takeUpload, .server .takeData, .server (.writeSome 1),
      .server .takeData, .targetSends [2], .server (.readTarget [2]), .server (.delivered true),
      .dispatch, .client .takeEvent, .client (.writeSome 1), .targetCloses, .server .readEof,
      .server .settle, .server (.reported true), .dispatch, .client .takeEvent,
      .client (.shutdown true), .client .finish, .server .cleanup]).map (fun final =>
        (final.client.returned, final.server.finished)) = some (true, true) by decide +kernel)
  exact ⟨final, ran, half_close ran⟩

end Tunnix.Composition
