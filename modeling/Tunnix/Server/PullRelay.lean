import Tunnix.Library.Machine
import Tunnix.Server.Delivery

namespace Tunnix.PullRelay

/-- The relay takes the archive's chunks, delivers each of them, awaits the compressor and reports
its result. It is silent once the client is gone. -/
inductive Phase where
  | receiving
  | sending (chunk : Bytes)
  | joining
  | gone
  | reporting (event : TunnelEvent)
  | done
deriving DecidableEq, Repr

/-- The last two fields record the chunks that the relay has received and what was queued for the
client. -/
structure State where
  phase : Phase
  produced : List Bytes
  queued : List TunnelEvent
deriving DecidableEq, Repr

/-- A `Pull` spawns the relay and its compressor. -/
def start : State := ⟨.receiving, [], []⟩

/-- The compressor hands over chunks and a result, and deliveries succeed or fail. -/
inductive Action where
  | receive (chunk : Bytes)
  | endOfChunks
  | delivered (ok : Bool)
  | joined (failure : Option String)
  | reported (ok : Bool)
deriving DecidableEq, Repr

/-- The `Close` follows only a delivered exit status. -/
def afterReport : TunnelEvent → Bool → Phase
  | .exit _, true => .reporting .close
  | .exit _, false | .close, _ | .error _, _ | .data _, _ => .done

/-- A delivered event is queued for the client. -/
def State.queue (state : State) (event : TunnelEvent) (ok : Bool) : State :=
  if ok then { state with queued := state.queued ++ [event] } else state

/-- The relay moves by one action, or refuses one that its state does not allow. -/
def step (state : State) : Action → Option State
  | .receive chunk =>
      if state.phase = .receiving then
        some { state with phase := .sending chunk, produced := state.produced ++ [chunk] }
      else none
  | .endOfChunks =>
      if state.phase = .receiving then some { state with phase := .joining } else none
  | .delivered ok =>
      match state.phase with
      | .sending chunk => some { state.queue (.data chunk) ok with
          phase := if ok then .receiving else .gone }
      | _ => none
  | .joined failure =>
      match state.phase, failure with
      | .joining, none => some { state with phase := .reporting (.exit 0) }
      | .joining, some message => some { state with phase := .reporting (.error message) }
      | .gone, _ => some { state with phase := .done }
      | _, _ => none
  | .reported ok =>
      match state.phase with
      | .reporting event => some { state.queue event ok with phase := afterReport event ok }
      | _ => none

/-- These are the relay's possible steps, one for each branch of the source. -/
inductive Move (state : State) : Action → State → Prop
  | receive {chunk} : state.phase = .receiving →
      Move state (.receive chunk)
        { state with phase := .sending chunk, produced := state.produced ++ [chunk] }
  | endOfChunks : state.phase = .receiving →
      Move state .endOfChunks { state with phase := .joining }
  | delivered {chunk ok} : state.phase = .sending chunk →
      Move state (.delivered ok) { state.queue (.data chunk) ok with
        phase := if ok then .receiving else .gone }
  | joined : state.phase = .joining →
      Move state (.joined none) { state with phase := .reporting (.exit 0) }
  | failed {message} : state.phase = .joining →
      Move state (.joined (some message)) { state with phase := .reporting (.error message) }
  | silenced {failure} : state.phase = .gone →
      Move state (.joined failure) { state with phase := .done }
  | reported {event ok} : state.phase = .reporting event →
      Move state (.reported ok) { state.queue event ok with phase := afterReport event ok }

/-- Each accepted action is one of the possible steps. -/
theorem step_move {state next : State} {action : Action}
    (moved : step state action = some next) : Move state action next := by
  cases action with
  | receive chunk =>
      rw [step, Option.ite_none_right_eq_some, Option.some.injEq] at moved
      obtain ⟨receiving, rfl⟩ := moved
      exact .receive receiving
  | endOfChunks =>
      rw [step, Option.ite_none_right_eq_some, Option.some.injEq] at moved
      obtain ⟨receiving, rfl⟩ := moved
      exact .endOfChunks receiving
  | delivered ok =>
      simp only [step] at moved
      split at moved
      · next sending =>
          cases moved
          exact .delivered sending
      · contradiction
  | joined failure =>
      simp only [step] at moved
      split at moved
      · next joining =>
          cases moved
          exact .joined joining
      · next joining =>
          cases moved
          exact .failed joining
      · next gone =>
          cases moved
          exact .silenced gone
      · contradiction
  | reported ok =>
      simp only [step] at moved
      split at moved
      · next reporting =>
          cases moved
          exact .reported reporting
      · contradiction

/-- This chunk is not yet delivered. -/
def Phase.pending : Phase → List Bytes
  | .sending chunk => [chunk]
  | .receiving | .joining | .gone | .reporting _ | .done => []

/-- Everything was delivered so far, and the relay is not done. -/
def Phase.whole : Phase → Bool
  | .receiving | .sending _ | .joining | .reporting _ => true
  | .gone | .done => false

/-- The relay queues its chunks in order and reports after them. -/
structure Reports (state : State) : Prop where
  whole : state.phase.whole = true → datas state.queued ++ state.phase.pending = state.produced
  silent : ∀ event, state.phase = .reporting event → event.data? = none
  unclosed : state.phase ≠ .done → .close ∉ state.queued
  orderly : Orderly state.queued state.produced

theorem Reports.start : Reports start where
  whole _ := rfl
  silent := nofun
  unclosed _ := nofun
  orderly := Orderly.nil

section Reports
variable {state next : State}

/-- The relay moves on without taking and without queueing anything. -/
theorem Reports.move (reports : Reports state) {phase : Phase}
    (whole : phase.whole = true → state.phase.whole = true ∧ phase.pending = state.phase.pending)
    (silent : ∀ event, phase = .reporting event → event.data? = none)
    (running : state.phase ≠ .done) : Reports { state with phase } where
  whole kept := by
    obtain ⟨before, pending⟩ := whole kept
    rw [pending]
    exact reports.whole before
  silent := silent
  unclosed _ := reports.unclosed running
  orderly := reports.orderly

/-- The relay receives one more chunk. -/
theorem Reports.receive (reports : Reports state) (receiving : state.phase = .receiving)
    (chunk : Bytes) :
    Reports { state with phase := .sending chunk, produced := state.produced ++ [chunk] } := by
  have unclosed := reports.unclosed (by rw [receiving]; nofun)
  have whole := reports.whole (by rw [receiving]; rfl)
  rw [receiving, Phase.pending, List.append_nil] at whole
  constructor
  case whole =>
    intro _
    rw [Phase.pending, whole]
  case silent => exact nofun
  case unclosed => exact fun _ => unclosed
  case orderly => exact reports.orderly.produce chunk unclosed

/-- A delivered chunk is the next one, and an undelivered one silences the relay. -/
theorem Reports.delivered (reports : Reports state) {chunk : Bytes}
    (sending : state.phase = .sending chunk) (ok : Bool) :
    Reports { state.queue (.data chunk) ok with phase := if ok then .receiving else .gone } := by
  have running : state.phase ≠ .done := by rw [sending]; nofun
  cases ok with
  | false =>
      change Reports { state with phase := .gone }
      exact reports.move nofun nofun running
  | true =>
      have unclosed := reports.unclosed running
      have whole := reports.whole (by rw [sending]; rfl)
      rw [sending, Phase.pending] at whole
      have orderly := Orderly.data unclosed whole
      constructor
      case whole =>
        intro _
        change datas (state.queued ++ [.data chunk]) ++ [] = state.produced
        rw [datas_append, datas_data, List.append_nil, whole]
      case silent => exact nofun
      case unclosed => exact fun _ => unclosed_append unclosed nofun
      case orderly => exact orderly

/-- After a report comes the `Close`, or the relay is done. -/
theorem afterReport_cases (event : TunnelEvent) (ok : Bool) :
    afterReport event ok = .reporting .close ∧ event ≠ .close ∨ afterReport event ok = .done := by
  cases event with
  | exit code =>
      cases ok with
      | true => exact .inl ⟨rfl, nofun⟩
      | false => exact .inr rfl
  | close | error | data => exact .inr rfl

/-- A report comes after all the chunks. -/
theorem Reports.reported (reports : Reports state) {event : TunnelEvent}
    (reporting : state.phase = .reporting event) (ok : Bool) :
    Reports { state.queue event ok with phase := afterReport event ok } := by
  have silent := reports.silent event reporting
  have running : state.phase ≠ .done := by rw [reporting]; nofun
  have unclosed := reports.unclosed running
  have whole := reports.whole (by rw [reporting]; rfl)
  rw [reporting, Phase.pending, List.append_nil] at whole
  have after := afterReport_cases event ok
  have close : ∀ other, afterReport event ok = .reporting other → other.data? = none := by
    intro other same
    rcases after with ⟨close, -⟩ | done
    · rw [close] at same
      cases same
      rfl
    · rw [done] at same
      contradiction
  cases ok with
  | false =>
      change Reports { state with phase := afterReport event false }
      refine reports.move ?_ close running
      intro kept
      rw [reporting]
      rcases after with ⟨same, -⟩ | done
      · rw [same]
        exact ⟨rfl, rfl⟩
      · rw [done] at kept
        contradiction
  | true =>
      constructor
      case whole =>
        intro kept
        change datas (state.queued ++ [event]) ++ (afterReport event true).pending = state.produced
        rcases after with ⟨same, -⟩ | done
        · rw [datas_append, datas_silent silent, same, Phase.pending, List.append_nil,
            List.append_nil, whole]
        · change (afterReport event true).whole = true at kept
          rw [done] at kept
          contradiction
      case silent => exact close
      case unclosed =>
        intro running
        rcases after with ⟨-, other⟩ | done
        · exact unclosed_append unclosed other
        · exact absurd done running
      case orderly => exact reports.orderly.report silent unclosed fun _ => whole

/-- Every step of the relay keeps its reports in order. -/
theorem Reports.step {action : Action} (reports : Reports state)
    (moved : step state action = some next) : Reports next := by
  cases step_move moved with
  | receive receiving => exact reports.receive receiving _
  | endOfChunks receiving =>
      apply reports.move
      · intro _
        rw [receiving]
        exact ⟨rfl, rfl⟩
      · exact nofun
      · rw [receiving]
        nofun
  | delivered sending => exact reports.delivered sending _
  | joined joining =>
      apply reports.move
      · intro _
        rw [joining]
        exact ⟨rfl, rfl⟩
      · rintro event ⟨⟩
        rfl
      · rw [joining]
        nofun
  | failed joining =>
      apply reports.move
      · intro _
        rw [joining]
        exact ⟨rfl, rfl⟩
      · rintro event ⟨⟩
        rfl
      · rw [joining]
        nofun
  | silenced gone => exact reports.move nofun nofun (by rw [gone]; nofun)
  | reported reporting => exact reports.reported reporting _

end Reports

end Tunnix.PullRelay
