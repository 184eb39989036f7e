import Tunnix.Server.PtyTeardown
import Tunnix.Server.PullArchive
import Tunnix.Server.PushRelay

namespace Tunnix

/-- A relay reports an exit status, and perhaps a `Close` after it. -/
def Exited (code : Int32) (events : List TunnelEvent) : Prop :=
  events = [.exit code] ∨ events = [.exit code, .close]

/-- No `Close` comes without an exit status before it. -/
def ExitsFirst (events : List TunnelEvent) : Prop :=
  ∀ before after, events = before ++ .close :: after → ∃ code, .exit code ∈ before

/-- A `Close` is queued by a relay at the end only, behind its exit status. -/
theorem exitsFirst_of_tail (chunks : List Bytes) {tail : List TunnelEvent}
    (ending : tail = [] ∨ (∃ message, tail = [.error message]) ∨ ∃ code, Exited code tail) :
    ExitsFirst (chunks.map .data ++ tail) := by
  intro before after split
  have silent : .close ∉ chunks.map TunnelEvent.data := by simp
  have member : .close ∈ chunks.map TunnelEvent.data ++ tail := by
    rw [split]
    exact List.mem_append_right _ List.mem_cons_self
  have last := (List.mem_append.mp member).resolve_left silent
  rcases ending with rfl | ⟨message, rfl⟩ | ⟨code, rfl | rfl⟩
  · exact absurd last List.not_mem_nil
  · simp at last
  · simp at last
  · have exits : .close ∉ chunks.map TunnelEvent.data ++ [.exit code] := by simp
    have whole : (chunks.map .data ++ [.exit code]) ++ .close :: [] = before ++ .close :: after := by
      rw [List.append_assoc]
      exact split
    obtain ⟨rfl, -⟩ := (List.append_cons_inj_of_notMem exits List.not_mem_nil).mp whole
    exact ⟨code, List.mem_append_right _ (List.mem_singleton_self _)⟩

/-- One more chunk follows the chunks so far. -/
theorem chunks_append (chunks : List Bytes) (chunk : Bytes) :
    chunks.map TunnelEvent.data ++ [.data chunk] = (chunks ++ [chunk]).map .data := by
  rw [List.map_append, List.map_singleton]

/-- The chunks of `Data` events are those that they were made from. -/
theorem datas_chunks (chunks : List Bytes) : datas (chunks.map .data) = chunks := by
  rw [datas, List.filterMap_map]
  exact List.filterMap_some

namespace PtyRelay

/-- These events may follow the chunks at each stage. -/
def Main.Tail : Main → List TunnelEvent → Prop
  | .reporting .close, tail => ∃ code, tail = [.exit code]
  | .leaving, tail | .finished, tail => tail = [] ∨ ∃ code, Exited code tail
  | .setup, tail | .waiting, tail | .killed, tail | .draining _, tail | .stopping _, tail
  | .reporting _, tail | .panicked, tail => tail = []

/-- The relay has queued its chunks and the reports of its stage. -/
def Shape (state : State) : Prop :=
  ∃ (chunks : List Bytes) (tail : List TunnelEvent),
    state.queued = chunks.map .data ++ tail ∧ state.main.Tail tail

section Shape
variable {state next : State} {action : Action}

/-- The relay moves on to a stage that allows the same reports. -/
theorem Shape.move (shape : Shape state) (queued : next.queued = state.queued)
    (allows : ∀ tail, state.main.Tail tail → next.main.Tail tail) : Shape next := by
  obtain ⟨chunks, tail, same, allowed⟩ := shape
  exact ⟨chunks, tail, queued.trans same, allows tail allowed⟩

/-- An awaited handle lets the relay move on, or it panics before it has reported. -/
theorem Shape.await (shape : Shape state) {handle : JoinHandle} {joined : JoinHandle → State}
    (silent : ∀ tail, state.main.Tail tail → tail = []) (moves : ∀ after, Shape (joined after)) :
    Shape (state.await handle joined) := by
  rcases state.await_cases handle joined with ⟨-, same⟩ | ⟨-, same⟩
  · rw [same]
    exact moves .taken
  · rw [same]
    exact shape.move rfl silent

/-- A relay that does not report yet has queued chunks alone. -/
theorem Main.tail_nil {main : Main} (unreported : main.reports = false) {tail : List TunnelEvent}
    (allowed : main.Tail tail) : tail = [] := by
  cases main with
  | reporting | leaving | finished | stopping => cases unreported
  | _ => exact allowed

/-- The reports of every stage are an exit status and a `Close`, as far as they were queued. -/
theorem Main.Tail.ending {main : Main} {tail : List TunnelEvent} (allowed : main.Tail tail) :
    tail = [] ∨ ∃ code, Exited code tail := by
  unfold Main.Tail at allowed
  split at allowed
  · exact .inr (allowed.imp fun _ => .inl)
  all_goals first | exact allowed | exact .inl allowed

/-- A delivered report follows the chunks, and the `Close` follows the exit status. -/
theorem Shape.reported (shape : Shape state) {event : TunnelEvent}
    (reporting : state.main = .reporting event)
    (ending : event = .close ∨ ∃ code, event = .exit code) (ok : Bool)
    (tried : List (TunnelEvent × Nat)) :
    Shape { state.queue event ok with main := afterReport event ok, tried } := by
  obtain ⟨chunks, tail, queued, allowed⟩ := shape
  rw [reporting] at allowed
  rcases ending with rfl | ⟨code, rfl⟩
  · obtain ⟨code, rfl⟩ := allowed
    cases ok with
    | true =>
        refine ⟨chunks, [.exit code, .close], ?_, .inr ⟨code, .inr rfl⟩⟩
        change state.queued ++ [.close] = _
        rw [queued, List.append_assoc]
        rfl
    | false => exact ⟨chunks, [.exit code], queued, .inr ⟨code, .inl rfl⟩⟩
  · change tail = [] at allowed
    subst allowed
    cases ok with
    | true =>
        refine ⟨chunks, [.exit code], ?_, code, rfl⟩
        change state.queued ++ [.exit code] = _
        rw [queued, List.append_nil]
    | false => exact ⟨chunks, [], queued, .inl rfl⟩

/-- Every step keeps the shape of what is queued. -/
theorem Shape.step (stages : Stages state) (shape : Shape state)
    (moved : step state action = some next) : Shape next := by
  cases step_move moved with
  | handleClose | handleAbort | handleResize | writerGone | writeFails | takeResize | readMaster
  | readEnds => exact shape.move rfl fun _ => id
  | setupDone setup | setupFails setup => exact absurd setup stages.spawned
  | @delivered chunk ok sending =>
      cases ok with
      | false => exact shape.move rfl fun _ => id
      | true =>
          have unreported : state.main.reports = false := by
            apply Bool.eq_false_iff.mpr
            intro reports
            have joined := stages.joined reports
            rw [sending] at joined
            cases joined
          obtain ⟨chunks, tail, queued, allowed⟩ := shape
          obtain rfl := Main.tail_nil unreported allowed
          refine ⟨chunks ++ [chunk], [], ?_, allowed⟩
          change state.queued ++ [.data chunk] = _
          rw [queued, List.append_nil, List.append_nil, chunks_append]
  | childExits alive =>
      have silent (tail : List TunnelEvent) (allowed : state.main.Tail tail) : tail = [] := by
        apply Main.tail_nil _ allowed
        rcases alive with main | main <;> rw [main] <;> rfl
      exact shape.await silent fun _ => shape.move rfl silent
  | clientLeaves waiting =>
      have silent (tail : List TunnelEvent) (allowed : state.main.Tail tail) : tail = [] :=
        Main.tail_nil (by rw [waiting]; rfl) allowed
      exact shape.await silent fun _ => shape.move rfl silent
  | watchdog waiting =>
      refine shape.move rfl fun tail allowed => ?_
      rw [waiting] at allowed
      exact allowed
  | drained draining | drainTimesOut draining =>
      have silent (tail : List TunnelEvent) (allowed : state.main.Tail tail) : tail = [] :=
        Main.tail_nil (by rw [draining]; rfl) allowed
      exact shape.await silent fun _ => shape.move rfl silent
  | writeStopped stopping =>
      have silent (tail : List TunnelEvent) (allowed : state.main.Tail tail) : tail = [] := by
        rw [stopping] at allowed
        exact allowed
      exact shape.await silent fun _ => shape.move rfl silent
  | reported reporting => exact shape.reported reporting (stages.exits _ reporting) _ _
  | cleanup leaving =>
      refine shape.move rfl fun tail allowed => ?_
      rw [leaving] at allowed
      exact allowed

/-- The relay sets its PTY up, and it has not reported or awaited anything. -/
structure Fresh (state : State) : Prop where
  setup : state.main = .setup
  unspawned : state.read = .unspawned
  queued : state.queued = []
  tried : state.tried = []
  handles : state.readHandle = .owed ∧ state.writeHandle = .owed ∧ state.waitHandle = .owed

/-- A relay whose setup has failed reports the error, and nothing else. -/
structure Failed (error : String) (history : List Action) (state : State) : Prop where
  known : ∀ other, .setupFails other ∈ history ↔ other = error
  unspawned : state.read = .unspawned
  stage : state.main = .reporting (.error ("PTY setup failed: " ++ error)) ∧
    .reported true ∉ history ∨ state.main = .finished
  queued : state.queued =
    if .reported true ∈ history then [.error ("PTY setup failed: " ++ error)] else []

/-- The setup goes on, has failed, or has succeeded. -/
def Course (history : List Action) (state : State) : Prop :=
  ((∀ error, .setupFails error ∉ history) ∧
    (Fresh state ∧ .reported true ∉ history ∨ Stages state ∧ Shape state)) ∨
  ∃ error, Failed error history state

/-- A setup goes on until it fails or spawns the tasks. -/
theorem Fresh.step (fresh : Fresh state) (moved : step state action = some next) :
    Fresh next ∧ (∀ error, action ≠ .setupFails error) ∧ action ≠ .reported true ∨
      Stages next ∧ Shape next ∧ action = .setupDone ∨
      ∃ error, action = .setupFails error ∧ next.queued = [] ∧ next.read = .unspawned ∧
        next.main = .reporting (.error ("PTY setup failed: " ++ error)) := by
  obtain ⟨setup, unspawned, queued, tried, handles⟩ := fresh
  cases step_move moved with
  | handleClose | handleAbort | handleResize =>
      exact .inl ⟨⟨setup, unspawned, queued, tried, handles⟩, nofun, nofun⟩
  | setupDone =>
      refine .inr (.inl ⟨?_, ⟨[], [], queued, rfl⟩, rfl⟩)
      exact ⟨nofun, fun _ => handles.2.2, fun _ _ => handles.1, fun _ => handles.2.1, nofun, nofun,
        fun _ => tried, by simp [Main.left], nofun⟩
  | @setupFails error => exact .inr (.inr ⟨error, rfl, queued, unspawned, rfl⟩)
  | readMaster selecting | readEnds selecting =>
      rw [unspawned] at selecting
      cases selecting
  | delivered sending =>
      rw [unspawned] at sending
      cases sending
  | writerGone spawned | writeFails spawned => exact absurd setup spawned
  | childExits alive =>
      rw [setup] at alive
      simp at alive
  | clientLeaves waiting | watchdog waiting | takeResize waiting =>
      rw [setup] at waiting
      cases waiting
  | drained draining | drainTimesOut draining =>
      rw [setup] at draining
      cases draining
  | writeStopped stopping =>
      rw [setup] at stopping
      cases stopping
  | reported reporting =>
      rw [setup] at reporting
      cases reporting
  | cleanup leaving =>
      rw [setup] at leaving
      cases leaving

/-- A step that does not concern the error leaves a failed setup as it is. -/
theorem Failed.of_same {error : String} {history : List Action}
    (failed : Failed error history state) (read : next.read = state.read)
    (main : next.main = state.main) (queued : next.queued = state.queued)
    (other : ∀ error, action ≠ .setupFails error) (unreported : action ≠ .reported true) :
    Failed error (history ++ [action]) next where
  known also := by
    rw [← failed.known also, List.mem_append, List.mem_singleton]
    exact or_iff_left fun same => other also same.symm
  unspawned := read.trans failed.unspawned
  stage := by
    rw [main, List.mem_append, List.mem_singleton, not_or]
    exact failed.stage.imp_left fun stage => ⟨stage.1, stage.2, fun same => unreported same.symm⟩
  queued := by
    rw [queued, failed.queued]
    simp [unreported.symm]

/-- A relay whose setup has failed does nothing else than report it. -/
theorem Failed.main {error : String} {history : List Action} (failed : Failed error history state) :
    state.main = .reporting (.error ("PTY setup failed: " ++ error)) ∨ state.main = .finished :=
  failed.stage.imp_left And.left

/-- A relay whose setup has failed delivers its error at most once. -/
theorem Failed.step {error : String} {history : List Action} (failed : Failed error history state)
    (moved : step state action = some next) : Failed error (history ++ [action]) next := by
  have reads : state.read.runs = false := by rw [failed.unspawned]; rfl
  cases step_move moved with
  | handleClose | handleAbort | handleResize | writerGone | writeFails =>
      exact failed.of_same rfl rfl rfl nofun nofun
  | readMaster selecting | readEnds selecting =>
      rw [selecting] at reads
      cases reads
  | delivered sending =>
      rw [sending] at reads
      cases reads
  | @reported event ok reporting =>
      rcases failed.stage with ⟨same, unreported⟩ | finished
      · obtain rfl := Main.reporting.inj (reporting.symm.trans same)
        have silent : state.queued = [] := by rw [failed.queued, if_neg unreported]
        constructor
        case known =>
          intro other
          rw [← failed.known other]
          simp
        case unspawned =>
          rw [← failed.unspawned]
          cases ok <;> rfl
        case stage => exact .inr rfl
        case queued =>
          cases ok with
          | true =>
              rw [if_pos (List.mem_append_right _ (List.mem_singleton_self _))]
              change state.queued ++ [_] = _
              rw [silent]
              rfl
          | false =>
              rw [if_neg (by simpa using unreported)]
              exact silent
      · rw [finished] at reporting
        cases reporting
  | setupDone main | setupFails main | clientLeaves main | watchdog main | takeResize main
  | drained main | drainTimesOut main | writeStopped main | cleanup main =>
      rcases failed.main with same | same
      · rw [main] at same
        cases same
      · rw [main] at same
        cases same
  | childExits alive =>
      rcases failed.main with same | same
      · rw [same] at alive
        simp at alive
      · rw [same] at alive
        simp at alive

/-- Every step continues the course of the relay. -/
theorem Course.step {history : List Action} (course : Course history state)
    (moved : step state action = some next) : Course (history ++ [action]) next := by
  rcases course with ⟨unfailed, ⟨fresh, unreported⟩ | ⟨stages, shape⟩⟩ | ⟨error, failed⟩
  · rcases fresh.step moved with ⟨after, other, quiet⟩ | ⟨stages, shape, rfl⟩ |
      ⟨error, rfl, queued, unspawned, main⟩
    · refine .inl ⟨fun error => ?_, .inl ⟨after, ?_⟩⟩
      · simpa using ⟨unfailed error, (other error).symm⟩
      · simpa using ⟨unreported, quiet.symm⟩
    · exact .inl ⟨fun error => by simpa using unfailed error, .inr ⟨stages, shape⟩⟩
    · refine .inr ⟨error, ?_, unspawned, .inl ⟨main, by simpa using unreported⟩, ?_⟩
      · simp [unfailed]
      · rw [queued, if_neg (by simpa using unreported)]
  · refine .inl ⟨fun error => ?_, .inr ⟨stages.step moved, shape.step stages moved⟩⟩
    have other : action ≠ .setupFails error := by
      rintro rfl
      cases step_move moved with
      | setupFails setup => exact stages.spawned setup
    simpa using ⟨unfailed error, other.symm⟩
  · exact .inr ⟨error, failed.step moved⟩

theorem Course.start : Course [] start :=
  .inl ⟨nofun, .inl ⟨⟨rfl, rfl, rfl, rfl, rfl, rfl, rfl⟩, nofun⟩⟩

end Shape

/-- A relay whose setup fails queues its error if that is delivered, and any other relay queues chunks
before its exit status and its `Close`. -/
theorem queued_shape {actions : List Action} {final : State}
    (ran : Machine.run step start actions = some final) :
    (∀ error, .setupFails error ∈ actions → final.queued =
      if .reported true ∈ actions then [.error ("PTY setup failed: " ++ error)] else []) ∧
    ((∀ error, .setupFails error ∉ actions) → ∃ (chunks : List Bytes) (tail : List TunnelEvent),
      final.queued = chunks.map .data ++ tail ∧ (tail = [] ∨ ∃ code, Exited code tail)) := by
  have course := Machine.run_history Course Course.step Course.start ran
  constructor
  · intro error fails
    rcases course with ⟨unfailed, -⟩ | ⟨other, failed⟩
    · exact absurd fails (unfailed error)
    · obtain rfl := (failed.known error).mp fails
      exact failed.queued
  · intro unfailed
    rcases course with ⟨-, ⟨fresh, -⟩ | ⟨-, chunks, tail, queued, allowed⟩⟩ | ⟨error, failed⟩
    · exact ⟨[], [], fresh.queued, .inl rfl⟩
    · exact ⟨chunks, tail, queued, allowed.ending⟩
    · exact absurd ((failed.known error).mpr rfl) (unfailed error)

end PtyRelay

namespace PullRelay

/-- These events may follow the chunks in each phase. -/
def Phase.Tail : Phase → List TunnelEvent → Prop
  | .reporting .close, tail => tail = [.exit 0]
  | .done, tail => tail = [] ∨ (∃ message, tail = [.error message]) ∨ Exited 0 tail
  | .receiving, tail | .sending _, tail | .joining, tail | .gone, tail | .reporting _, tail =>
      tail = []

/-- An exit status comes after every received chunk and the compressor's success. -/
structure Shape (history : List Action) (state : State) : Prop where
  queued : ∃ (chunks : List Bytes) (tail : List TunnelEvent),
    state.queued = chunks.map .data ++ tail ∧ state.phase.Tail tail ∧
      (Exited 0 tail → chunks = state.produced)
  reports : ∀ event, state.phase = .reporting event →
    event = .close ∨ event = .exit 0 ∨ ∃ message, event = .error message
  joined : (state.phase = .reporting (.exit 0) ∨ ∃ code, .exit code ∈ state.queued) →
    .joined none ∈ history

section Shape
variable {history : List Action} {state next : State} {action : Action}

theorem Shape.start : Shape [] start where
  queued := ⟨[], [], rfl, rfl, nofun⟩
  reports := nofun
  joined := by simp [PullRelay.start]

/-- A relay that does not report yet has queued chunks alone. -/
theorem Phase.tail_nil {phase : Phase} {tail : List TunnelEvent} (allowed : phase.Tail tail)
    (unclosed : phase ≠ .reporting .close) (running : phase ≠ .done) : tail = [] := by
  unfold Phase.Tail at allowed
  split at allowed
  · exact absurd rfl unclosed
  · exact absurd rfl running
  all_goals exact allowed

/-- The reports of every phase are an error, or the exit status 0 and a `Close`. -/
theorem Phase.Tail.ending {phase : Phase} {tail : List TunnelEvent} (allowed : phase.Tail tail) :
    tail = [] ∨ (∃ message, tail = [.error message]) ∨ Exited 0 tail := by
  unfold Phase.Tail at allowed
  split at allowed
  · exact .inr (.inr (.inl allowed))
  all_goals first | exact allowed | exact .inl allowed

/-- The relay moves on without queueing anything. -/
theorem Shape.move (shape : Shape history state) {phase : Phase} {produced : List Bytes}
    (unclosed : state.phase ≠ .reporting .close) (running : state.phase ≠ .done)
    (allows : phase.Tail []) (reports : ∀ event, phase = .reporting event →
      event = .close ∨ event = .exit 0 ∨ ∃ message, event = .error message)
    (joined : phase = .reporting (.exit 0) → .joined none ∈ history ++ [action]) :
    Shape (history ++ [action]) { state with phase, produced } := by
  obtain ⟨chunks, tail, queued, allowed, -⟩ := shape.queued
  obtain rfl := Phase.tail_nil allowed unclosed running
  constructor
  case queued => exact ⟨chunks, [], queued, allows, nofun⟩
  case reports => exact reports
  case joined =>
    rintro (exit | member)
    · exact joined exit
    · exact List.mem_append_left _ (shape.joined (.inr member))

/-- A chunk is queued behind the others if it is delivered. -/
theorem Shape.delivered (shape : Shape history state) {chunk : Bytes}
    (sending : state.phase = .sending chunk) (ok : Bool) :
    Shape (history ++ [action])
      { state.queue (.data chunk) ok with phase := if ok then .receiving else .gone } := by
  obtain ⟨chunks, tail, queued, allowed, -⟩ := shape.queued
  rw [sending] at allowed
  obtain rfl : tail = [] := allowed
  rw [List.append_nil] at queued
  have joined (exits : ∃ code, .exit code ∈ state.queued) : .joined none ∈ history ++ [action] :=
    List.mem_append_left _ (shape.joined (.inr exits))
  cases ok with
  | false => exact ⟨⟨chunks, [], queued.trans (List.append_nil _).symm, rfl, nofun⟩, nofun,
      fun exits => joined (exits.resolve_left nofun)⟩
  | true =>
      constructor
      case queued =>
        refine ⟨chunks ++ [chunk], [], ?_, rfl, nofun⟩
        change state.queued ++ [.data chunk] = _
        rw [queued, List.append_nil, chunks_append]
      case reports => exact nofun
      case joined =>
        rintro (exit | ⟨code, member⟩)
        · cases exit
        · refine joined ⟨code, ?_⟩
          change .exit code ∈ state.queued ++ [.data chunk] at member
          simpa using member

/-- No exit status has been reported yet. -/
theorem unexited {code : Int32} : ¬ Exited code [] := by simp [Exited]

/-- A relay that is done has queued its last report. -/
theorem Shape.finish (done : next.phase = .done) {chunks : List Bytes} {tail : List TunnelEvent}
    (queued : next.queued = chunks.map .data ++ tail)
    (ending : tail = [] ∨ (∃ message, tail = [.error message]) ∨ Exited 0 tail)
    (complete : Exited 0 tail → chunks = next.produced)
    (joined : (∃ code, .exit code ∈ next.queued) → .joined none ∈ history) :
    Shape history next where
  queued := ⟨chunks, tail, queued, by rw [done]; exact ending, complete⟩
  reports event reporting := by
    rw [done] at reporting
    cases reporting
  joined exits := by
    apply joined
    apply exits.resolve_left
    rw [done]
    simp

/-- A report is queued behind the chunks if it is delivered. -/
theorem Shape.reported (shape : Shape history state) (reports : Reports state)
    {event : TunnelEvent} (reporting : state.phase = .reporting event) (ok : Bool) :
    Shape (history ++ [action]) { state.queue event ok with phase := afterReport event ok } := by
  obtain ⟨chunks, tail, queued, allowed, complete⟩ := shape.queued
  rw [reporting] at allowed
  have earlier (exits : ∃ code, .exit code ∈ state.queued) : .joined none ∈ history ++ [action] :=
    List.mem_append_left _ (shape.joined (.inr exits))
  rcases shape.reports event reporting with rfl | rfl | ⟨message, rfl⟩
  · obtain rfl : tail = [.exit 0] := allowed
    have whole := complete (.inl rfl)
    have exits : .exit 0 ∈ state.queued := by
      rw [queued]
      exact List.mem_append_right _ (List.mem_singleton_self _)
    cases ok with
    | false => exact .finish rfl queued (.inr (.inr (.inl rfl))) (fun _ => whole) earlier
    | true =>
        have closed : state.queued ++ [.close] = chunks.map .data ++ [.exit 0, .close] := by
          rw [queued, List.append_assoc]
          rfl
        exact .finish rfl closed (.inr (.inr (.inr rfl))) (fun _ => whole)
          fun _ => earlier ⟨0, exits⟩
  · obtain rfl : tail = [] := allowed
    cases ok with
    | false => exact .finish rfl queued (.inl rfl) (fun exits => absurd exits unexited) earlier
    | true =>
        rw [List.append_nil] at queued
        have whole := reports.whole (by rw [reporting]; rfl)
        rw [reporting, Phase.pending, List.append_nil, queued, datas_chunks] at whole
        constructor
        case queued => exact ⟨chunks, [.exit 0], congrArg (· ++ [_]) queued, rfl, fun _ => whole⟩
        case reports =>
          rintro event ⟨⟩
          exact .inl rfl
        case joined => exact fun _ => List.mem_append_left _ (shape.joined (.inl reporting))
  · obtain rfl : tail = [] := allowed
    cases ok with
    | false => exact .finish rfl queued (.inl rfl) (fun exits => absurd exits unexited) earlier
    | true =>
        rw [List.append_nil] at queued
        have failed : state.queued ++ [.error message] = chunks.map .data ++ [.error message] :=
          congrArg (· ++ [_]) queued
        refine .finish rfl failed (.inr (.inl ⟨message, rfl⟩)) (by simp [Exited]) ?_
        rintro ⟨code, member⟩
        apply earlier
        change .exit code ∈ state.queued ++ [.error message] at member
        exact ⟨code, by simpa using member⟩

/-- Every step keeps the shape of what is queued. -/
theorem Shape.step (shape : Shape history state) (reports : Reports state)
    (moved : step state action = some next) : Shape (history ++ [action]) next := by
  cases step_move moved with
  | receive receiving =>
      exact shape.move (by rw [receiving]; simp) (by rw [receiving]; simp) rfl (by simp) (by simp)
  | endOfChunks receiving =>
      exact shape.move (by rw [receiving]; simp) (by rw [receiving]; simp) rfl (by simp) (by simp)
  | delivered sending => exact shape.delivered sending _
  | joined joining =>
      refine shape.move (by rw [joining]; simp) (by rw [joining]; simp) rfl ?_ ?_
      · rintro event ⟨⟩
        exact .inr (.inl rfl)
      · exact fun _ => List.mem_append_right _ (List.mem_singleton_self _)
  | @failed message joining =>
      refine shape.move (by rw [joining]; simp) (by rw [joining]; simp) rfl ?_ (by simp)
      rintro event ⟨⟩
      exact .inr (.inr ⟨message, rfl⟩)
  | silenced gone =>
      exact shape.move (by rw [gone]; simp) (by rw [gone]; simp) (.inl rfl) (by simp) (by simp)
  | reported reporting => exact shape.reported reports reporting _

end Shape

/-- The relay queues chunks, and then an error, or an exit status behind every received chunk and
perhaps its `Close`. -/
theorem queued_shape {actions : List Action} {final : State}
    (ran : Machine.run step start actions = some final) :
    ∃ (chunks : List Bytes) (tail : List TunnelEvent), final.queued = chunks.map .data ++ tail ∧
      (tail = [] ∨ (∃ message, tail = [.error message]) ∨
        Exited 0 tail ∧ chunks = final.produced ∧ .joined none ∈ actions) := by
  have kept {history : List Action} {state next : State} {action : Action}
      (before : Shape history state ∧ Reports state) (moved : step state action = some next) :
      Shape (history ++ [action]) next ∧ Reports next :=
    ⟨before.1.step before.2 moved, before.2.step moved⟩
  obtain ⟨shape, -⟩ := Machine.run_history (fun history state => Shape history state ∧ Reports state)
    kept ⟨Shape.start, Reports.start⟩ ran
  obtain ⟨chunks, tail, queued, allowed, complete⟩ := shape.queued
  refine ⟨chunks, tail, queued, ?_⟩
  rcases allowed.ending with none_ | failed | exited
  · exact .inl none_
  · exact .inr (.inl failed)
  · refine .inr (.inr ⟨exited, complete exited, shape.joined (.inr ⟨0, ?_⟩)⟩)
    rw [queued]
    apply List.mem_append_right
    rcases exited with rfl | rfl
    · exact List.mem_cons_self
    · exact List.mem_cons_self

end PullRelay

namespace PullArchive

/-- The relay queues chunks, and then an error, or the exit status of a compressor that has succeeded,
behind every chunk that it has emitted, and perhaps its `Close`. -/
theorem queued_shape {actions : List Action} {final : State}
    (ran : Machine.run step start actions = some final) :
    ∃ (chunks : List Bytes) (tail : List TunnelEvent),
      final.relay.queued = chunks.map .data ++ tail ∧
      (tail = [] ∨ (∃ message, tail = [.error message]) ∨
        Exited 0 tail ∧ chunks = final.emitted ∧ final.compHandle = some .ok) := by
  obtain ⟨taken, relayRan⟩ := relay_runs ran
  obtain ⟨chunks, tail, queued, ending⟩ := PullRelay.queued_shape relayRan
  refine ⟨chunks, tail, queued, ending.imp_right (Or.imp_right ?_)⟩
  rintro ⟨exited, -, -⟩
  have whole := Machine.run_invariant Whole.step Whole.start ran
  have silent : datas tail = [] := by
    rcases exited with rfl | rfl <;> rfl
  have exits : .exit 0 ∈ final.relay.queued := by
    rw [queued]
    rcases exited with rfl | rfl <;> simp
  obtain ⟨-, succeeded, emitted⟩ := whole.earned 0 exits
  rw [queued, datas_append, silent, datas_chunks, List.append_nil] at emitted
  exact ⟨exited, emitted, succeeded⟩

end PullArchive

namespace PushRelay

/-- A relay reports how the unpack has ended, and it queues its reports in order. -/
structure Shape (state : State) : Prop where
  early : state.main.past = false → state.queued = []
  joined : ∀ unpacked, state.main = .joined unpacked → state.unpacked = some unpacked
  reporting : ∀ event, state.main = .reporting event →
    (∃ unpacked, state.unpacked = some unpacked ∧ event = unpacked.event ∧ state.queued = []) ∨
      event = .close ∧ state.unpacked = some .ok ∧ state.queued = [.exit 0]
  finished : state.main = .finished → state.queued = [] ∨
    (∃ message, state.queued = [.error message]) ∨
      Exited 0 state.queued ∧ state.unpacked = some .ok

section Shape
variable {state next : State} {action : Action}

theorem Shape.start : Shape start where
  early _ := rfl
  joined := nofun
  reporting := nofun
  finished := nofun

/-- The reports do not depend on the writer, the handlers and the watchdog. -/
theorem Shape.of_same (shape : Shape state) (main : next.main = state.main)
    (unpacked : ∀ unpacked, state.unpacked = some unpacked → next.unpacked = some unpacked)
    (queued : next.queued = state.queued) : Shape next where
  early past := by
    rw [main] at past
    rw [queued, shape.early past]
  joined result same := unpacked result (shape.joined result (main.symm.trans same))
  reporting event same := by
    rw [queued]
    rcases shape.reporting event (main.symm.trans same) with ⟨result, ended, report⟩ | ⟨rfl, ok, report⟩
    · exact .inl ⟨result, unpacked result ended, report⟩
    · exact .inr ⟨rfl, unpacked .ok ok, report⟩
  finished same := by
    rw [queued]
    rcases shape.finished (main.symm.trans same) with none_ | failed | ⟨exited, ok⟩
    · exact .inl none_
    · exact .inr (.inl failed)
    · exact .inr (.inr ⟨exited, unpacked .ok ok⟩)

/-- A relay that waits for the unpack task has queued nothing. -/
theorem Shape.of_early (queued : next.queued = []) (past : next.main.past = false)
    (joined : ∀ unpacked, next.main = .joined unpacked → next.unpacked = some unpacked) :
    Shape next where
  early _ := queued
  joined := joined
  reporting event same := by
    rw [same] at past
    cases past
  finished same := by
    rw [same] at past
    cases past

/-- A report is queued if it is delivered, and a `Close` follows the exit status alone. -/
theorem Shape.reported (shape : Shape state) {event : TunnelEvent}
    (reporting : state.main = .reporting event) (ok : Bool) :
    Shape { state.queue event ok with main := afterReport event ok } := by
  rcases shape.reporting event reporting with ⟨unpacked, ended, rfl, silent⟩ | ⟨rfl, ended, queued⟩
  · cases unpacked with
    | ok =>
        cases ok with
        | true =>
            refine ⟨nofun, nofun, ?_, nofun⟩
            rintro event ⟨⟩
            exact .inr ⟨rfl, ended, congrArg (· ++ [_]) silent⟩
        | false => exact ⟨nofun, nofun, nofun, fun _ => .inl silent⟩
    | failed | panicked =>
        cases ok with
        | true =>
            refine ⟨nofun, nofun, nofun, fun _ => .inr (.inl ⟨_, congrArg (· ++ [_]) silent⟩)⟩
        | false => exact ⟨nofun, nofun, nofun, fun _ => .inl silent⟩
  · cases ok with
    | true =>
        refine ⟨nofun, nofun, nofun, fun _ => .inr (.inr ⟨.inr ?_, ended⟩)⟩
        exact congrArg (· ++ [_]) queued
    | false => exact ⟨nofun, nofun, nofun, fun _ => .inr (.inr ⟨.inl queued, ended⟩)⟩

/-- Every step keeps the reports in order. -/
theorem Shape.step (shape : Shape state) (moved : step state action = some next) : Shape next := by
  cases step_move moved with
  | handleData | discardData | enqueue | refuse | forget | handleClose | handleAbort | takeChunk =>
      exact shape.of_same rfl (fun _ => id) rfl
  | unpackEnds running =>
      refine shape.of_same rfl (fun result ended => ?_) rfl
      rw [running] at ended
      contradiction
  | join ended waiting =>
      refine .of_early (shape.early ?_) rfl ?_
      · rcases waiting with main | main <;> rw [main] <;> rfl
      · rintro other ⟨⟩
        exact ended
  | watchdog selecting => exact .of_early (shape.early (by rw [selecting]; rfl)) rfl (by simp)
  | forceEof expired => exact .of_early (shape.early (by rw [expired]; rfl)) rfl (by simp)
  | @release unpacked joined =>
      have queued := shape.early (by rw [joined]; rfl)
      refine ⟨fun _ => queued, (by simp), ?_, (by simp)⟩
      rintro event ⟨⟩
      exact .inl ⟨unpacked, shape.joined unpacked joined, rfl, queued⟩
  | reported reporting => exact shape.reported reporting _

/-- The relay queues nothing, an error, or its exit status and perhaps its `Close`. -/
theorem Shape.queued (shape : Shape state) : state.queued = [] ∨
    (∃ message, state.queued = [.error message]) ∨
      Exited 0 state.queued ∧ state.unpacked = some .ok := by
  cases main : state.main with
  | reporting event =>
      rcases shape.reporting event main with ⟨-, -, -, queued⟩ | ⟨-, ended, queued⟩
      · exact .inl queued
      · exact .inr (.inr ⟨.inl queued, ended⟩)
  | finished => exact shape.finished main
  | selecting | expired | forced | joined => exact .inl (shape.early (by rw [main]; rfl))

end Shape

end PushRelay

/-- A PTY relay whose setup has failed queues its error or nothing, and otherwise chunks and then at
most an exit status and a `Close`. A pull relay queues chunks, and then an error, or the exit status 0
and perhaps a `Close` after the whole archive and the compressor's success. A push relay queues an
error, or the exit status 0 and perhaps a `Close` after the unpack's success. -/
theorem relays_queue :
    (∀ (actions : List PtyRelay.Action) (final : PtyRelay.State),
      Machine.run PtyRelay.step PtyRelay.start actions = some final →
      (∀ error, .setupFails error ∈ actions → final.queued =
        if .reported true ∈ actions then [.error ("PTY setup failed: " ++ error)] else []) ∧
      ((∀ error, .setupFails error ∉ actions) → ∃ (chunks : List Bytes) (tail : List TunnelEvent),
        final.queued = chunks.map .data ++ tail ∧ (tail = [] ∨ ∃ code, Exited code tail)) ∧
      ExitsFirst final.queued) ∧
    (∀ (actions : List PullArchive.Action) (final : PullArchive.State),
      Machine.run PullArchive.step PullArchive.start actions = some final →
      (∃ (chunks : List Bytes) (tail : List TunnelEvent),
        final.relay.queued = chunks.map .data ++ tail ∧
        (tail = [] ∨ (∃ message, tail = [.error message]) ∨
          Exited 0 tail ∧ chunks = final.emitted ∧ final.compHandle = some .ok)) ∧
      ExitsFirst final.relay.queued) ∧
    (∀ (actions : List PushRelay.Action) (final : PushRelay.State),
      Machine.run PushRelay.step PushRelay.start actions = some final →
      (final.queued = [] ∨ (∃ message, final.queued = [.error message]) ∨
        Exited 0 final.queued ∧ final.unpacked = some .ok) ∧
      ExitsFirst final.queued) := by
  refine ⟨fun actions final ran => ?_, fun actions final ran => ?_, fun actions final ran => ?_⟩
  · obtain ⟨failed, spawned⟩ := PtyRelay.queued_shape ran
    refine ⟨failed, spawned, ?_⟩
    by_cases fails : ∃ error, .setupFails error ∈ actions
    · obtain ⟨error, fails⟩ := fails
      rw [failed error fails]
      split
      · exact exitsFirst_of_tail [] (.inr (.inl ⟨_, rfl⟩))
      · exact exitsFirst_of_tail [] (.inl rfl)
    · obtain ⟨chunks, tail, queued, ending⟩ := spawned fun error fails' => fails ⟨error, fails'⟩
      rw [queued]
      exact exitsFirst_of_tail chunks (ending.imp_right .inr)
  · obtain ⟨chunks, tail, queued, ending⟩ := PullArchive.queued_shape ran
    refine ⟨⟨chunks, tail, queued, ending⟩, ?_⟩
    rw [queued]
    exact exitsFirst_of_tail chunks (ending.imp_right (Or.imp_right fun exits => ⟨0, exits.1⟩))
  · have shape := (Machine.run_invariant PushRelay.Shape.step PushRelay.Shape.start ran).queued
    refine ⟨shape, ?_⟩
    exact exitsFirst_of_tail [] (shape.imp_right (Or.imp_right fun exits => ⟨0, exits.1⟩))

/-- The compressor emits a second chunk while the relay delivers the first one. -/
def twoChunks : List PullArchive.Action :=
  [.begin [1], .write, .begin [2, 3], .receive, .write, .delivered true, .finish .ok, .receive,
    .delivered true, .endOfChunks, .join, .reported true, .reported true]

/-- A pull of two chunks queues its exit status behind them, and its `Close` behind that. -/
theorem relays_queue_of_pull : ∃ final,
    Machine.run PullArchive.step PullArchive.start twoChunks = some final ∧
    final.emitted = [[1], [2, 3]] ∧ .close ∈ final.relay.queued ∧ ExitsFirst final.relay.queued := by
  obtain ⟨final, ran, same⟩ := Option.map_eq_some_iff.mp (show (Machine.run PullArchive.step
    PullArchive.start twoChunks).map (fun final => (final.emitted, final.relay.queued)) =
    some ([[1], [2, 3]], [.data [1], .data [2, 3], .exit 0, .close]) by decide)
  obtain ⟨emitted, queued⟩ := Prod.mk.inj same
  exact ⟨final, ran, emitted, by simp [queued], (relays_queue.2.1 _ _ ran).2⟩

/-- A failed setup leaves nothing behind if its error cannot be delivered. -/
theorem undelivered_setup_error : ∃ final,
    Machine.run PtyRelay.step PtyRelay.start [.setupFails "no fd", .reported false] = some final ∧
    final.main = .finished ∧ ∀ message, final.queued ≠ [.error message] :=
  ⟨_, rfl, rfl, nofun⟩

end Tunnix
