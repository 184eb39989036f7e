import Tunnix.Server.TcpRelay
import Tunnix.Server.Delivery

namespace Tunnix.TcpRelay

/-- Only a `Data` report carries a chunk of the target's output. -/
def Report.chunk? : Report → Option Bytes
  | .data chunk => some chunk
  | .close | .readFailed _ | .writeFailed _ | .clientUnreachable => none

/-- The read task ends with a terminal report; the write task's report is none. -/
def Report.terminal : Report → Bool
  | .close | .readFailed _ | .clientUnreachable => true
  | .data _ | .writeFailed _ => false

/-- These chunks of the target's output are queued for the client. -/
def chunks (reports : List Report) : List Bytes := reports.filterMap Report.chunk?

@[simp] theorem chunks_nil : chunks [] = [] := rfl

@[simp] theorem chunks_append (first second : List Report) :
    chunks (first ++ second) = chunks first ++ chunks second := List.filterMap_append

@[simp] theorem chunks_data (chunk : Bytes) : chunks [.data chunk] = [chunk] := rfl

theorem chunks_silent {report : Report} (silent : report.chunk? = none) : chunks [report] = [] := by
  rw [chunks, List.filterMap_cons_none silent, List.filterMap_nil]

theorem Report.chunk?_terminal {report : Report} (terminal : report.terminal = true) :
    report.chunk? = none := by
  cases report with
  | data => cases terminal
  | _ => rfl

/-- This is the event that the client's dispatch loop makes of a report. -/
def Report.event : Report → TunnelEvent
  | .data chunk => .data chunk
  | .close => .close
  | .readFailed error => .error ("target read failed: " ++ error)
  | .writeFailed error => .error ("target write failed: " ++ error)
  | .clientUnreachable => .error "client unreachable; target relay abandoned"

@[simp] theorem Report.message_event (connId : ConnId) (report : Report) :
    (report.message connId).event connId = some report.event := by
  cases report <;> exact if_pos rfl

/-- The event of a report carries its chunk. -/
theorem Report.event_data? (report : Report) : report.event.data? = report.chunk? := by
  cases report <;> rfl

/-- The events of the queued reports carry the queued chunks. -/
theorem datas_event (reports : List Report) : datas (reports.map Report.event) = chunks reports := by
  unfold datas chunks
  rw [List.filterMap_map]
  congr
  funext report
  exact report.event_data?

/-- The payload that the client is handed consists of the queued chunks. -/
theorem payload_event (reports : List Report) :
    payload (reports.map Report.event) = (chunks reports).flatten := by
  rw [payload_datas, datas_event]

/-- This chunk was read from the target and is not yet delivered. -/
def ReadTask.pending : ReadTask → List Bytes
  | .sending chunk => [chunk]
  | .selecting | .ended _ | .reporting _ | .unsent | .done => []

/-- No chunk was lost as long as the read task is in one of these places. -/
def ReadTask.lossless : ReadTask → Bool
  | .selecting | .sending _ | .ended .eof | .reporting .close => true
  | .ended _ | .reporting _ | .unsent | .done => false

/-- The relay queues the target's output in order and ends it with one terminal report. -/
structure Reports (state : State) : Prop where
  whole : state.read.lossless = true → chunks state.queued ++ state.read.pending = state.produced
  part : chunks state.queued <+: state.produced
  unended : state.read ≠ .done → ∀ report ∈ state.queued, report.terminal = false
  terminal : ∀ report, state.read = .reporting report → report.terminal = true
  closed : .close ∈ state.queued → chunks state.queued = state.produced

theorem Reports.start : Reports start where
  whole _ := rfl
  part := List.prefix_refl _
  unended _ := nofun
  terminal := nofun
  closed := nofun

/-- A queue without terminal reports holds no `Close`. -/
theorem Reports.unclosed {state : State} (reports : Reports state) (running : state.read ≠ .done) :
    .close ∉ state.queued :=
  fun close => nomatch reports.unended running _ close

/-- Only the read task, its output and its reports enter the order of reports. -/
theorem Reports.of_same {state next : State} (reports : Reports state)
    (read : next.read = state.read) (queued : next.queued = state.queued)
    (produced : next.produced = state.produced) : Reports next where
  whole := by rw [read, queued, produced]; exact reports.whole
  part := by rw [queued, produced]; exact reports.part
  unended := by rw [read, queued]; exact reports.unended
  terminal := by rw [read]; exact reports.terminal
  closed := by rw [queued, produced]; exact reports.closed

/-- The read task moves on without queueing anything. -/
theorem Reports.move {state next : State} (reports : Reports state)
    (running : state.read ≠ .done) (queued : next.queued = state.queued)
    (produced : next.produced = state.produced)
    (whole : next.read.lossless = true →
      state.read.lossless = true ∧ next.read.pending = state.read.pending)
    (terminal : ∀ report, next.read = .reporting report → report.terminal = true) :
    Reports next where
  whole lossless := by
    obtain ⟨before, pending⟩ := whole lossless
    rw [queued, produced, pending]
    exact reports.whole before
  part := by rw [queued, produced]; exact reports.part
  unended _ := by rw [queued]; exact reports.unended running
  terminal := terminal
  closed close := absurd (queued ▸ close) (reports.unclosed running)

/-- The read task takes one more chunk from the target. -/
theorem Reports.readTarget {state : State} (reports : Reports state)
    (selecting : state.read = .selecting) (chunk : Bytes) :
    Reports { state with read := .sending chunk, produced := state.produced ++ [chunk] } := by
  have running : state.read ≠ .done := by rw [selecting]; nofun
  have whole : chunks state.queued = state.produced := by
    have before := reports.whole (by rw [selecting]; rfl)
    rwa [selecting, ReadTask.pending, List.append_nil] at before
  refine ⟨fun _ => ?_, reports.part.trans (List.prefix_append _ _),
    fun _ => reports.unended running, nofun, fun close => absurd close (reports.unclosed running)⟩
  rw [ReadTask.pending, whole]

/-- A delivered chunk is the next one of the target's output. -/
theorem Reports.delivered {state : State} (reports : Reports state) {chunk : Bytes}
    (sending : state.read = .sending chunk) :
    Reports { state.queue (.data chunk) with read := .selecting } := by
  have running : state.read ≠ .done := by rw [sending]; nofun
  have whole : chunks (state.queued ++ [.data chunk]) = state.produced := by
    have before := reports.whole (by rw [sending]; rfl)
    rwa [sending, ReadTask.pending, ← chunks_data, ← chunks_append] at before
  refine ⟨fun _ => ?_, ?_, fun _ report queued => ?_, nofun, fun _ => whole⟩
  · rw [ReadTask.pending, List.append_nil]
    exact whole
  · rw [State.queue_queued, whole]
    exact List.prefix_refl _
  · rcases List.mem_append.mp queued with earlier | last
    · exact reports.unended running report earlier
    · rw [List.mem_singleton.mp last, Report.terminal]

/-- The terminal report is the last one of the read task. -/
theorem Reports.reported {state : State} (reports : Reports state) {report : Report}
    (reporting : state.read = .reporting report) (ok : Bool) :
    Reports (state.reported report ok) := by
  have running : state.read ≠ .done := by rw [reporting]; nofun
  cases ok with
  | false =>
      refine reports.move running rfl rfl ?_ ?_
      · rw [State.reported]
        split <;> nofun
      · rw [State.reported]
        split <;> nofun
  | true =>
      have terminal := reports.terminal report reporting
      have same : chunks (state.queued ++ [report]) = chunks state.queued := by
        rw [chunks_append, chunks_silent (Report.chunk?_terminal terminal), List.append_nil]
      refine ⟨nofun, ?_, fun unended => absurd rfl unended, nofun, fun close => ?_⟩
      · show chunks (state.queued ++ [report]) <+: state.produced
        rw [same]
        exact reports.part
      · show chunks (state.queued ++ [report]) = state.produced
        have last : report = .close := by
          rcases List.mem_append.mp close with earlier | last
          · exact absurd earlier (reports.unclosed running)
          · exact (List.mem_singleton.mp last).symm
        have whole := reports.whole (by rw [reporting, last]; rfl)
        rwa [reporting, ReadTask.pending, List.append_nil, ← same] at whole

/-- The write task's report changes nothing in the order of the read task's reports. -/
theorem Reports.writeFailed {state : State} (reports : Reports state) (error : String) :
    Reports (state.queue (.writeFailed error)) := by
  have same : chunks (state.queued ++ [.writeFailed error]) = chunks state.queued := by
    rw [chunks_append, chunks_silent rfl, List.append_nil]
  refine ⟨fun lossless => ?_, ?_, fun running report queued => ?_, reports.terminal, fun close => ?_⟩
  · rw [State.queue_queued, same]
    exact reports.whole lossless
  · rw [State.queue_queued, same]
    exact reports.part
  · rcases List.mem_append.mp queued with earlier | last
    · exact reports.unended running report earlier
    · rw [List.mem_singleton.mp last, Report.terminal]
  · rw [State.queue_queued, same]
    rcases List.mem_append.mp close with earlier | last
    · exact reports.closed earlier
    · cases List.mem_singleton.mp last

/-- Every step of the relay keeps its reports in order. -/
theorem Reports.step {state next : State} {action : Action} (reports : Reports state)
    (moved : step state action = some next) : Reports next := by
  have running {read : ReadTask} (same : state.read = read) (unended : read ≠ .done) :
      state.read ≠ .done := same ▸ unended
  cases step_move moved with
  | readTarget selecting _ _ => exact reports.readTarget selecting _
  | readEof selecting =>
      exact reports.move (running selecting nofun) rfl rfl
        (fun _ => by rw [selecting]; exact ⟨rfl, rfl⟩) nofun
  | readFails selecting => exact reports.move (running selecting nofun) rfl rfl nofun nofun
  | takeAbort selecting _ => exact reports.move (running selecting nofun) rfl rfl nofun nofun
  | clientLost selecting => exact reports.move (running selecting nofun) rfl rfl nofun nofun
  | delivered sending => exact reports.delivered sending
  | undelivered sending => exact reports.move (running sending nofun) rfl rfl nofun nofun
  | @settle reason ended =>
      have unended := running ended nofun
      cases reason with
      | eof =>
          refine reports.move unended rfl rfl (fun _ => by rw [ended]; exact ⟨rfl, rfl⟩) ?_
          rintro report ⟨⟩
          rfl
      | failed error =>
          refine reports.move unended rfl rfl nofun ?_
          rintro report ⟨⟩
          rfl
      | clientGone =>
          refine reports.move unended rfl rfl nofun ?_
          rintro report ⟨⟩
          rfl
      | aborted => exact reports.move unended rfl rfl nofun nofun
  | reported reporting => exact reports.reported reporting _
  | releaseUnsent unsent => exact reports.move (running unsent nofun) rfl rfl nofun nofun
  | failureReported _ => exact (reports.writeFailed _).of_same rfl rfl rfl
  | handleData | discardData | enqueue | refuse | forget | handleClose | handleAbort | loseWriter |
    loseAbort | takeEmpty | takeData | sendersGone | watchdog | writeSome | writeAll | writeFails |
    releaseFailed | failureUnreported | cleanup => exact reports.of_same rfl rfl rfl

theorem close_mem_event {reports : List Report} :
    .close ∈ reports.map Report.event ↔ .close ∈ reports := by
  rw [List.mem_map]
  constructor
  · rintro ⟨report, member, same⟩
    cases report with
    | close => exact member
    | data | readFailed | writeFailed | clientUnreachable => contradiction
  · intro member
    exact ⟨.close, member, rfl⟩

/-- The relay's reports are in order as events. -/
def Ordered (state : State) : Prop := Orderly (state.queued.map Report.event) state.produced

theorem Ordered.start : Ordered start := Orderly.nil

/-- The reports of a relay whose read task runs are in order, since no `Close` is among them. -/
theorem Reports.ordered {state : State} (reports : Reports state) (running : state.read ≠ .done) :
    Ordered state where
  part := by
    rw [datas_event]
    exact reports.part
  closed close := absurd (close_mem_event.mp close) (reports.unclosed running)

theorem Ordered.of_same {state next : State} (ordered : Ordered state)
    (queued : next.queued = state.queued) (produced : next.produced = state.produced) :
    Ordered next := by
  unfold Ordered
  rw [queued, produced]
  exact ordered

/-- The terminal report is in order after the output that it ends. -/
theorem Reports.ordered_reported {state : State} (reports : Reports state) {report : Report}
    (reporting : state.read = .reporting report) (ok : Bool) :
    Ordered (state.reported report ok) := by
  have running : state.read ≠ .done := by rw [reporting]; nofun
  have ordered := reports.ordered running
  have terminal := reports.terminal report reporting
  cases ok with
  | false => exact ordered.of_same rfl rfl
  | true =>
      change Orderly ((state.queued ++ [report]).map Report.event) state.produced
      rw [List.map_append]
      apply ordered.report
      · rw [report.event_data?, Report.chunk?_terminal terminal]
      · exact mt close_mem_event.mp (reports.unclosed running)
      · intro same
        have close : report = .close := by
          cases report <;> first | rfl | contradiction
        have whole := reports.whole (by rw [reporting, close]; rfl)
        rwa [reporting, ReadTask.pending, List.append_nil, ← datas_event] at whole

/-- Every step of the relay keeps its reports in order as events. -/
theorem Ordered.step {state next : State} {action : Action} (ordered : Ordered state)
    (reports : Reports state) (moved : step state action = some next) : Ordered next := by
  have reports' := reports.step moved
  cases step_move moved with
  | readTarget => exact reports'.ordered nofun
  | delivered => exact reports'.ordered nofun
  | @settle reason => cases reason <;> exact ordered.of_same rfl rfl
  | reported reporting => exact reports.ordered_reported reporting _
  | failureReported =>
      change Orderly ((state.queued ++ [_]).map Report.event) state.produced
      rw [List.map_append]
      exact ordered.silent rfl nofun
  | handleData | discardData | enqueue | refuse | forget | handleClose | handleAbort | loseWriter |
    loseAbort | readEof | readFails | takeAbort | clientLost | undelivered | releaseUnsent |
    takeEmpty | takeData | sendersGone | watchdog | writeSome | writeAll | writeFails |
    releaseFailed | failureUnreported | cleanup => exact ordered.of_same rfl rfl

end Tunnix.TcpRelay
