import Tunnix.Server.TcpRelay

namespace Tunnix.TcpRelay

/-- These bytes are handed to `write_all` and not yet accepted by the target's socket. -/
def State.unwritten (state : State) : Bytes :=
  match state.write with
  | .writing rest => rest
  | .selecting | .failing _ | .reporting _ | .done => []

/-- The writer leaves the session only with the client's `Close`, and the watchdog of the write task
ends its loop only once that writer is drained. -/
def ClosedFirst (state : State) : Action → Prop
  | .handleAbort | .loseWriter | .releaseUnsent => state.closeProcessed = true
  | .settle => state.read = .ended .eof ∨ state.closeProcessed = true
  | .watchdog => state.closeProcessed = true ∧ state.writer.items = []
  | _ => True

/-- The target was sent FIN only after a `Close` and after all accepted data. -/
def CompleteUpload (state : State) : Prop :=
  state.target.fin = true →
    state.closeProcessed = true ∧ state.target.written = state.accepted.flatten

/-- The upload direction is whole as long as its end is the client's. -/
structure Upload (state : State) : Prop where
  released : state.registered = false → state.closeProcessed = true
  flowing : state.write ≠ .done →
    state.writer.receiving = true ∧ state.target.fin = false ∧
      state.target.written ++ state.unwritten ++ state.writer.items.flatten =
        state.accepted.flatten
  looping : state.write = .done ∨ state.write = .selecting ∨ ∃ rest, state.write = .writing rest
  ended : state.write = .done → state.writer.receiving = false ∧ state.closeProcessed = true ∧
    state.target.written = state.accepted.flatten

theorem Upload.start : Upload start where
  released := nofun
  flowing _ := ⟨rfl, rfl, rfl⟩
  looping := .inr (.inl rfl)
  ended := nofun

/-- Only the writer, the write task and the target enter the upload direction. -/
theorem Upload.of_same {state next : State} (upload : Upload state)
    (released : next.registered = false → next.closeProcessed = true)
    (writer : next.writer = state.writer) (write : next.write = state.write)
    (target : next.target = state.target) (accepted : next.accepted = state.accepted)
    (closed : state.closeProcessed = true → next.closeProcessed = true) : Upload next where
  released := released
  flowing running := by
    rw [State.unwritten, write, writer, target, accepted]
    exact upload.flowing (write ▸ running)
  looping := by rw [write]; exact upload.looping
  ended done := by
    obtain ⟨gone, processed, complete⟩ := upload.ended (write ▸ done)
    rw [writer, target, accepted]
    exact ⟨gone, closed processed, complete⟩

/-- The data that a handler sends joins the end of the upload. -/
theorem Upload.enqueue {state : State} (upload : Upload state) {data : Bytes}
    {writer : Channel writerCapacity Bytes} (sent : state.writer.send data = some writer)
    (handlers : List Bytes) :
    Upload { state with writer, handlers, accepted := state.accepted ++ [data] } := by
  obtain ⟨held, items, receiving⟩ := Channel.send_some sent
  have running : state.write ≠ .done := by
    intro done
    have gone := (upload.ended done).1
    exact Bool.false_ne_true (gone.symm.trans held)
  obtain ⟨-, open_, flows⟩ := upload.flowing running
  refine ⟨upload.released, fun _ => ⟨receiving, open_, ?_⟩, upload.looping,
    fun done => absurd done running⟩
  have flattened : writer.items.flatten = state.writer.items.flatten ++ data := by
    rw [items, List.flatten_append]
    simp
  show state.target.written ++ state.unwritten ++ writer.items.flatten =
    (state.accepted ++ [data]).flatten
  rw [flattened, ← List.append_assoc, flows, List.flatten_append]
  simp

/-- The write task moves bytes from the writer towards the target. -/
theorem Upload.move {state : State} (upload : Upload state) (running : state.write ≠ .done)
    {writer : Channel writerCapacity Bytes} {write : WriteTask} {target : Socket}
    (receiving : writer.receiving = state.writer.receiving)
    (looping : write = .selecting ∨ ∃ rest, write = .writing rest)
    (fin : target.fin = state.target.fin)
    (flows : target.written ++ State.unwritten { state with write } ++ writer.items.flatten =
      state.target.written ++ state.unwritten ++ state.writer.items.flatten) :
    Upload { state with writer, write, target } := by
  obtain ⟨held, open_, before⟩ := upload.flowing running
  refine ⟨upload.released,
    fun _ => ⟨receiving.trans held, fin.trans open_, flows.trans before⟩, .inr looping, ?_⟩
  rintro rfl
  rcases looping with looping | ⟨rest, looping⟩ <;> cases looping

/-- A write task that ends with a drained writer after `Close` has completed the upload. -/
theorem Upload.endWrite {state : State} (upload : Upload state)
    (selecting : state.write = .selecting) (drained : state.writer.items = [])
    (closed : state.closeProcessed = true) : Upload state.endWrite := by
  obtain ⟨-, -, flows⟩ := upload.flowing (by rw [selecting]; nofun)
  rw [State.unwritten, selecting, drained, List.flatten_nil, List.append_nil, List.append_nil]
    at flows
  exact ⟨upload.released, fun running => absurd rfl running, .inl rfl, fun _ => ⟨rfl, closed, flows⟩⟩

/-- A write has failed, and the write task reports it or has ended. -/
structure Failed (state : State) : Prop where
  broken : state.target.broken = true
  unfinished : state.target.fin = false
  left : state.write ≠ .selecting ∧ ∀ rest, state.write ≠ .writing rest

/-- A target whose write has failed is sent no FIN. -/
theorem Failed.step {state next : State} {action : Action} (failed : Failed state)
    (moved : step state action = some next) : Failed next := by
  obtain ⟨broken, unfinished, idle, unwriting⟩ := failed
  have ended {state : State} (broken : state.target.broken = true)
      (unfinished : state.target.fin = false) : Failed state.endWrite :=
    ⟨broken, by simp [State.endWrite, broken, unfinished], by simp [State.endWrite]⟩
  cases step_move moved with
  | handleData | discardData | enqueue | refuse | forget | loseAbort | loseWriter | handleClose |
    handleAbort | readTarget | readEof | readFails | takeAbort | clientLost | delivered |
    undelivered | releaseUnsent | cleanup => exact ⟨broken, unfinished, idle, unwriting⟩
  | @settle reason => cases reason <;> exact ⟨broken, unfinished, idle, unwriting⟩
  | @reported report ok => cases ok <;> exact ⟨broken, unfinished, idle, unwriting⟩
  | takeEmpty selecting | takeData selecting | sendersGone selecting | watchdog selecting =>
      exact absurd selecting idle
  | writeSome writing | writeAll writing | writeFails writing => exact absurd writing (unwriting _)
  | releaseFailed => exact ⟨broken, unfinished, nofun, nofun⟩
  | failureReported | failureUnreported => exact ended broken unfinished

/-- This step breaks the target's socket. -/
def Action.breaks : Action → Bool
  | .writeFails _ => true
  | _ => false

/-- Every other admitted step keeps the upload direction whole. -/
theorem Upload.step {state next : State} {action : Action} (upload : Upload state)
    (admitted : ClosedFirst state action) (stands : action.breaks = false)
    (moved : step state action = some next) : Upload next := by
  have looping {claim : Prop} {write : WriteTask} (same : state.write = write)
      (failing : (∃ error, write = .failing error) ∨ ∃ error, write = .reporting error) : claim := by
    have loops := upload.looping
    rw [same] at loops
    rcases failing with ⟨error, rfl⟩ | ⟨error, rfl⟩ <;> simp at loops
  cases step_move moved with
  | handleData | discardData | refuse | forget | loseAbort | readTarget | readEof | readFails |
    takeAbort | clientLost | delivered | undelivered =>
      exact upload.of_same upload.released rfl rfl rfl rfl id
  | enqueue _ sent => exact upload.enqueue sent _
  | handleClose => exact upload.of_same (fun _ => rfl) rfl rfl rfl rfl fun _ => rfl
  | handleAbort => exact upload.of_same (fun _ => admitted) rfl rfl rfl rfl id
  | loseWriter => exact upload.of_same (fun _ => admitted) rfl rfl rfl rfl id
  | releaseUnsent => exact upload.of_same (fun _ => admitted) rfl rfl rfl rfl id
  | @settle reason ended =>
      cases reason with
      | eof => exact upload.of_same upload.released rfl rfl rfl rfl id
      | failed | clientGone | aborted =>
          have closed : state.closeProcessed = true := by simpa [ClosedFirst, ended] using admitted
          exact upload.of_same (fun _ => closed) rfl rfl rfl rfl id
  | @reported report ok _ =>
      cases ok <;> exact upload.of_same upload.released rfl rfl rfl rfl id
  | takeEmpty selecting received =>
      obtain ⟨items, held, still⟩ := Channel.receive_some received
      refine upload.move (by rw [selecting]; nofun) (still.trans held.symm) (.inl selecting) rfl ?_
      rw [items, List.flatten_cons, List.nil_append]
  | @takeData data writer selecting received _ =>
      obtain ⟨items, held, still⟩ := Channel.receive_some received
      refine upload.move (by rw [selecting]; nofun) (still.trans held.symm) (.inr ⟨data, rfl⟩) rfl ?_
      simp only [State.unwritten, selecting, items, List.flatten_cons, List.append_nil,
        List.append_assoc]
  | sendersGone selecting drained released _ =>
      exact upload.endWrite selecting drained (upload.released released)
  | watchdog selecting _ => exact upload.endWrite selecting admitted.2 admitted.1
  | @writeSome rest count writing _ _ =>
      refine upload.move (by rw [writing]; nofun) rfl (.inr ⟨_, rfl⟩) rfl ?_
      simp only [State.unwritten, writing, Socket.accept_written, List.append_assoc]
      rw [← List.append_assoc (rest.take count), List.take_append_drop]
  | @writeAll rest writing _ =>
      refine upload.move (by rw [writing]; nofun) rfl (.inl rfl) rfl ?_
      simp only [State.unwritten, writing, Socket.accept_written, List.append_nil]
  | writeFails => cases stands
  | releaseFailed failing => exact looping failing (.inl ⟨_, rfl⟩)
  | failureReported reporting => exact looping reporting (.inr ⟨_, rfl⟩)
  | failureUnreported reporting => exact looping reporting (.inr ⟨_, rfl⟩)
  | cleanup _ done _ =>
      exact upload.of_same (fun _ => (upload.ended done).2.1) rfl rfl rfl rfl id

/-- The upload direction is whole, or its target can no longer be shown an end. -/
def Sound (state : State) : Prop := Upload state ∨ Failed state

theorem Sound.step {state next : State} {action : Action} (sound : Sound state)
    (admitted : ClosedFirst state action) (moved : TcpRelay.step state action = some next) :
    Sound next := by
  rcases sound with upload | failed
  · cases breaks : action.breaks with
    | false => exact .inl (upload.step admitted breaks moved)
    | true =>
        cases step_move moved with
        | writeFails writing =>
            have open_ := (upload.flowing (by rw [writing]; nofun)).2.1
            exact .inr ⟨rfl, open_, nofun, nofun⟩
        | _ => cases breaks
  · exact .inr (failed.step moved)

/-- A whole upload is shown to the target as complete only when it is. -/
theorem Upload.complete {state : State} (upload : Upload state) : CompleteUpload state := by
  intro fin
  have done : state.write = .done := by
    by_contra running
    have open_ := (upload.flowing running).2.1
    exact Bool.false_ne_true (open_.symm.trans fin)
  exact (upload.ended done).2

theorem Sound.complete {state : State} (sound : Sound state) : CompleteUpload state := by
  rcases sound with upload | failed
  · exact upload.complete
  · exact fun fin => absurd (failed.unfinished.symm.trans fin) Bool.false_ne_true

/-- In a run whose steps release the writer only after `Close` and drain it, the target is shown
the end of the upload only after all accepted data. -/
theorem upload_complete_of_closed_first {actions : List Action} {final : State}
    (admitted : Machine.Along step ClosedFirst start actions)
    (ran : Machine.run step start actions = some final) : CompleteUpload final :=
  (Machine.run_along Sound.step (.inl .start) admitted ran).complete

/-- A client that sends one byte and `Close` has its upload completed. -/
theorem upload_complete_of_one_byte : ∃ final,
    Machine.run step start [.handleData [1], .enqueue 0, .handleClose, .takeData, .writeSome 1,
      .takeData] = some final ∧
    CompleteUpload final := by
  obtain ⟨final, ran⟩ := Option.isSome_iff_exists.mp
    (show (Machine.run step start [.handleData [1], .enqueue 0, .handleClose, .takeData,
      .writeSome 1, .takeData]).isSome = true by decide)
  have admitted : Machine.Along step ClosedFirst start [.handleData [1], .enqueue 0, .handleClose,
      .takeData, .writeSome 1, .takeData] :=
    Machine.along_of_forall (by simp [ClosedFirst]) start
  exact ⟨final, ran, upload_complete_of_closed_first admitted ran⟩

/-- An aborted upload ends with FIN, although the client never sent `Close`. -/
theorem aborted_upload_looks_complete : ∃ final,
    Machine.run step start [.handleData [1], .enqueue 0, .handleAbort, .takeData, .writeSome 1,
      .takeData] = some final ∧
    ¬ CompleteUpload final := by
  obtain ⟨final, ran, ended⟩ := Option.map_eq_some_iff.mp
    (show (Machine.run step start [.handleData [1], .enqueue 0, .handleAbort, .takeData,
      .writeSome 1, .takeData]).map (fun final => (final.target.fin, final.closeProcessed)) =
      some (true, false) by decide)
  rw [Prod.mk.injEq] at ended
  refine ⟨final, ran, fun complete => ?_⟩
  exact Bool.false_ne_true (ended.2.symm.trans (complete ended.1).1)

end Tunnix.TcpRelay
