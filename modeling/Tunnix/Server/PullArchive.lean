import Tunnix.Archive
import Tunnix.Server.PullRelay

namespace Tunnix.PullArchive
open Archive
open PullRelay (Phase)
open PushRelay (channelCap)

/-- The compressor returns, or it fails, or it panics. -/
inductive Compressed where
  | ok
  | failed (error : String)
  | panicked (error : String)
deriving DecidableEq, Repr

/-- The relay reports how the compressor has failed. -/
def Compressed.failure : Compressed → Option String
  | .ok => none
  | .failed error => some error
  | .panicked error => some ("compress task failed: " ++ error)

/-- The state joins the relay with its compressor, which may be in a `write` of some buffer. The
last field records the chunks that it has emitted. -/
structure State where
  relay : PullRelay.State
  chunks : Channel channelCap Bytes
  writing : Option Bytes
  compHandle : Option Compressed
  emitted : List Bytes
deriving DecidableEq

/-- `spawn_compress` creates the channel and starts the compressor. -/
def start : State where
  relay := PullRelay.start
  chunks := .empty _ _
  writing := none
  compHandle := none
  emitted := []

/-- The first group of actions belongs to the compressor, and the other one to the relay. -/
inductive Action where
  | begin (buf : Bytes)
  | write
  | finish (outcome : Compressed)
  | receive
  | endOfChunks
  | delivered (ok : Bool)
  | join
  | reported (ok : Bool)
deriving DecidableEq, Repr

/-- The compressor's writes have sent these bytes. -/
def State.written (state : State) : Bytes := state.emitted.flatten

/-- The compressor has not returned, and it is in no `write`. -/
def State.compressing (state : State) : Bool := state.writing.isNone && state.compHandle.isNone

/-- The compressor or the relay moves by one action, or the action is refused. -/
def step (state : State) : Action → Option State
  | .begin buf => if state.compressing then some { state with writing := some buf } else none
  | .write =>
      match state.writing with
      | some buf => (ChannelWriter.write state.chunks buf).map fun wrote =>
          { state with
            chunks := wrote.2
            writing := none
            emitted := state.emitted ++ emits buf wrote.1 }
      | none => none
  | .finish outcome =>
      if state.compressing then some { state with compHandle := some outcome } else none
  | .receive =>
      match state.chunks.receive with
      | some (chunk, chunks) => (PullRelay.step state.relay (.receive chunk)).map fun relay =>
          { state with relay, chunks }
      | none => none
  | .endOfChunks =>
      -- The channel ends once the compressor has dropped its sender.
      if state.chunks.items = [] ∧ state.compHandle.isSome then
        (PullRelay.step state.relay .endOfChunks).map fun relay => { state with relay }
      else none
  | .delivered ok =>
      (PullRelay.step state.relay (.delivered ok)).map fun relay =>
        { state with relay, chunks := if ok then state.chunks else state.chunks.drop }
  | .join =>
      match state.compHandle with
      | some outcome => (PullRelay.step state.relay (.joined outcome.failure)).map fun relay =>
          { state with relay }
      | none => none
  | .reported ok =>
      (PullRelay.step state.relay (.reported ok)).map fun relay => { state with relay }

/-- These are the possible steps of the relay and its compressor, one for each branch of the
source. -/
inductive Move (state : State) : Action → State → Prop
  | begin {buf} : state.compHandle = none →
      Move state (.begin buf) { state with writing := some buf }
  | write {buf result chunks} : state.writing = some buf →
      ChannelWriter.write state.chunks buf = some (result, chunks) →
      Move state .write { state with
        chunks, writing := none, emitted := state.emitted ++ emits buf result }
  | finish {outcome} : state.writing = none → state.compHandle = none →
      Move state (.finish outcome) { state with compHandle := some outcome }
  | receive {chunk chunks} : state.chunks.receive = some (chunk, chunks) →
      state.relay.phase = .receiving → Move state .receive { state with
        relay := { state.relay with
          phase := .sending chunk, produced := state.relay.produced ++ [chunk] }
        chunks }
  | endOfChunks {outcome} : state.chunks.items = [] → state.compHandle = some outcome →
      state.relay.phase = .receiving →
      Move state .endOfChunks { state with relay := { state.relay with phase := .joining } }
  | delivered {chunk ok} : state.relay.phase = .sending chunk →
      Move state (.delivered ok) { state with
        relay := { state.relay.queue (.data chunk) ok with
          phase := if ok then .receiving else .gone }
        chunks := if ok then state.chunks else state.chunks.drop }
  | joined : state.compHandle = some .ok → state.relay.phase = .joining →
      Move state .join { state with relay := { state.relay with phase := .reporting (.exit 0) } }
  | failed {outcome message} : state.compHandle = some outcome → outcome.failure = some message →
      state.relay.phase = .joining → Move state .join
        { state with relay := { state.relay with phase := .reporting (.error message) } }
  | silenced {outcome} : state.compHandle = some outcome → state.relay.phase = .gone →
      Move state .join { state with relay := { state.relay with phase := .done } }
  | reported {event ok} : state.relay.phase = .reporting event →
      Move state (.reported ok) { state with
        relay := { state.relay.queue event ok with phase := PullRelay.afterReport event ok } }

section Steps
variable {state next : State} {action : Action}

/-- Only a compressor that has returned without an error reports none. -/
theorem failure_none {outcome : Compressed} : outcome.failure = none ↔ outcome = .ok := by
  cases outcome <;> simp [Compressed.failure]

/-- Each accepted action is one of the possible steps. -/
theorem step_move (moved : step state action = some next) : Move state action next := by
  cases action with
  | begin buf =>
      rw [step, Option.ite_none_right_eq_some, Option.some.injEq] at moved
      obtain ⟨free, rfl⟩ := moved
      simp only [State.compressing, Bool.and_eq_true, Option.isNone_iff_eq_none] at free
      exact .begin free.2
  | write =>
      simp only [step] at moved
      split at moved
      · next buf writing =>
          obtain ⟨⟨result, chunks⟩, wrote, rfl⟩ := Option.map_eq_some_iff.mp moved
          exact .write writing wrote
      · contradiction
  | finish outcome =>
      rw [step, Option.ite_none_right_eq_some, Option.some.injEq] at moved
      obtain ⟨free, rfl⟩ := moved
      simp only [State.compressing, Bool.and_eq_true, Option.isNone_iff_eq_none] at free
      exact .finish free.1 free.2
  | receive =>
      simp only [step] at moved
      split at moved
      · next chunk chunks received =>
          obtain ⟨relay, taken, rfl⟩ := Option.map_eq_some_iff.mp moved
          cases PullRelay.step_move taken with
          | receive receiving => exact .receive received receiving
      · contradiction
  | endOfChunks =>
      rw [step, Option.ite_none_right_eq_some] at moved
      obtain ⟨⟨none_, ended⟩, moved⟩ := moved
      obtain ⟨outcome, found⟩ := Option.isSome_iff_exists.mp ended
      obtain ⟨relay, taken, rfl⟩ := Option.map_eq_some_iff.mp moved
      cases PullRelay.step_move taken with
      | endOfChunks receiving => exact .endOfChunks none_ found receiving
  | delivered ok =>
      obtain ⟨relay, taken, rfl⟩ := Option.map_eq_some_iff.mp moved
      cases PullRelay.step_move taken with
      | delivered sending => exact .delivered sending
  | join =>
      simp only [step] at moved
      split at moved
      · next outcome found =>
          obtain ⟨relay, taken, rfl⟩ := Option.map_eq_some_iff.mp moved
          cases failure : outcome.failure with
          | none =>
              obtain rfl := failure_none.mp failure
              cases PullRelay.step_move taken with
              | joined joining => exact .joined found joining
              | silenced gone => exact .silenced found gone
          | some message =>
              rw [failure] at taken
              cases PullRelay.step_move taken with
              | failed joining => exact .failed found failure joining
              | silenced gone => exact .silenced found gone
      · contradiction
  | reported ok =>
      obtain ⟨relay, taken, rfl⟩ := Option.map_eq_some_iff.mp moved
      cases PullRelay.step_move taken with
      | reported reporting => exact .reported reporting

/-- Once the compressor has returned, it is in no write, and the relay waits for that before it
reports. A relay without a client has dropped its receiver. -/
structure Joint (state : State) : Prop where
  returned : state.compHandle ≠ none → state.writing = none
  ended : state.compHandle = none →
    state.relay.phase ≠ .joining ∧ (∀ event, state.relay.phase ≠ .reporting event) ∧
      state.relay.phase ≠ .done
  dropped : state.relay.phase = .gone → state.chunks.receiving = false

theorem Joint.start : Joint start := ⟨nofun, fun _ => ⟨nofun, nofun, nofun⟩, nofun⟩

/-- Every step keeps the relay and its compressor together. -/
theorem Joint.step (joint : Joint state) (moved : PullArchive.step state action = some next) :
    Joint next := by
  cases step_move moved with
  | begin running => exact ⟨fun ended => absurd running ended, joint.ended, joint.dropped⟩
  | write writing wrote =>
      refine ⟨fun _ => rfl, joint.ended, fun gone => ?_⟩
      rw [(ChannelWriter.write_some wrote).2.1]
      exact joint.dropped gone
  | finish idle => exact ⟨fun _ => idle, nofun, joint.dropped⟩
  | receive => exact ⟨joint.returned, fun _ => ⟨nofun, nofun, nofun⟩, nofun⟩
  | endOfChunks _ ended =>
      exact ⟨joint.returned, fun running => by simp [ended] at running, nofun⟩
  | @delivered chunk ok =>
      cases ok with
      | true => exact ⟨joint.returned, fun _ => ⟨nofun, nofun, nofun⟩, nofun⟩
      | false => exact ⟨joint.returned, fun _ => ⟨nofun, nofun, nofun⟩, fun _ => rfl⟩
  | joined ended | failed ended | silenced ended =>
      exact ⟨joint.returned, fun running => by simp [ended] at running, nofun⟩
  | @reported event ok reporting =>
      refine ⟨joint.returned, fun running => absurd reporting ((joint.ended running).2.1 event), ?_⟩
      rcases PullRelay.afterReport_cases event ok with ⟨close, -⟩ | done
      · simp [close]
      · simp [done]

end Steps

section Whole
variable {state next : State} {action : Action}

/-- The relay moves by steps of its own. -/
theorem relay_run (moved : step state action = some next) : ∃ taken,
    Machine.run PullRelay.step state.relay taken = some next.relay := by
  cases step_move moved with
  | begin | write | finish => exact ⟨[], rfl⟩
  | @receive chunk _ _ receiving =>
      exact ⟨[.receive chunk], by simp [Machine.run, PullRelay.step, receiving]⟩
  | endOfChunks _ _ receiving =>
      exact ⟨[.endOfChunks], by simp [Machine.run, PullRelay.step, receiving]⟩
  | @delivered _ ok sending =>
      exact ⟨[.delivered ok], by simp [Machine.run, PullRelay.step, sending]⟩
  | joined _ joining => exact ⟨[.joined none], by simp [Machine.run, PullRelay.step, joining]⟩
  | @failed _ message _ _ joining =>
      exact ⟨[.joined (some message)], by simp [Machine.run, PullRelay.step, joining]⟩
  | silenced _ gone => exact ⟨[.joined none], by simp [Machine.run, PullRelay.step, gone]⟩
  | @reported _ ok reporting =>
      exact ⟨[.reported ok], by simp [Machine.run, PullRelay.step, reporting]⟩

/-- What the compressor has sent is taken by the relay in order. The relay reports success only
after the whole archive of a compressor that has succeeded. -/
structure Whole (state : State) : Prop where
  joint : Joint state
  reports : PullRelay.Reports state.relay
  part : state.relay.produced <+: state.emitted
  flow : state.relay.phase.whole = true →
    state.relay.produced ++ state.chunks.items = state.emitted
  drained : (state.relay.phase = .joining ∨ ∃ event, state.relay.phase = .reporting event) →
    state.chunks.items = []
  told : ∀ code, state.relay.phase = .reporting (.exit code) → state.compHandle = some .ok
  earned : ∀ code, .exit code ∈ state.relay.queued →
    (state.relay.phase = .reporting .close ∨ state.relay.phase = .done) ∧
      state.compHandle = some .ok ∧ datas state.relay.queued = state.emitted

theorem Whole.start : Whole start where
  joint := .start
  reports := .start
  part := List.prefix_refl _
  flow _ := rfl
  drained _ := rfl
  told := nofun
  earned := nofun

/-- A relay that still takes chunks or awaits its compressor has reported no success. -/
theorem Whole.unreported (whole : Whole state)
    (busy : state.relay.phase ≠ .reporting .close ∧ state.relay.phase ≠ .done) (code : Int32) :
    .exit code ∉ state.relay.queued := by
  intro queued
  rcases (whole.earned code queued).1 with close | done
  · exact busy.1 close
  · exact busy.2 done

/-- A relay that reports has queued the whole archive. -/
theorem Whole.archive (whole : Whole state) {event : TunnelEvent}
    (reporting : state.relay.phase = .reporting event) :
    datas state.relay.queued = state.emitted := by
  have running : state.relay.phase.whole = true := by rw [reporting]; rfl
  have flow := whole.flow running
  have queued := whole.reports.whole running
  rw [reporting, Phase.pending, List.append_nil] at queued
  rw [whole.drained (.inr ⟨event, reporting⟩), List.append_nil] at flow
  rw [queued, flow]

/-- The report of a success comes after the whole archive. -/
theorem Whole.reported (whole : Whole state) {event : TunnelEvent} {ok : Bool}
    (reporting : state.relay.phase = .reporting event) {code : Int32}
    (queued : .exit code ∈ (state.relay.queue event ok).queued) :
    (PullRelay.afterReport event ok = .reporting .close ∨
      PullRelay.afterReport event ok = .done) ∧
      state.compHandle = some .ok ∧
      datas (state.relay.queue event ok).queued = state.emitted := by
  have silent := whole.reports.silent event reporting
  have archive := whole.archive reporting
  have earlier (told : .exit code ∈ state.relay.queued) : event = .close := by
    rcases (whole.earned code told).1 with close | done
    · exact Phase.reporting.inj (reporting.symm.trans close)
    · rw [reporting] at done
      cases done
  cases ok with
  | false =>
      have told : .exit code ∈ state.relay.queued := queued
      obtain rfl := earlier told
      exact ⟨.inr rfl, (whole.earned code told).2.1, archive⟩
  | true =>
      have same : datas (state.relay.queue event true).queued = datas state.relay.queued := by
        change datas (state.relay.queued ++ [event]) = _
        rw [datas_append, datas_silent silent, List.append_nil]
      have told : .exit code ∈ state.relay.queued ++ [event] := queued
      rw [same]
      rcases List.mem_append.mp told with before | last
      · obtain rfl := earlier before
        exact ⟨.inr rfl, (whole.earned code before).2.1, archive⟩
      · obtain rfl := List.mem_singleton.mp last
        exact ⟨.inl rfl, whole.told code reporting, archive⟩

/-- The relay still does what it has done so far. -/
theorem Whole.again (whole : Whole state) (moved : PullArchive.step state action = some next) :
    Joint next ∧ PullRelay.Reports next.relay := by
  obtain ⟨taken, ran⟩ := relay_run moved
  exact ⟨whole.joint.step moved, Machine.run_invariant PullRelay.Reports.step whole.reports ran⟩

/-- Every step keeps the archive whole. -/
theorem Whole.step (whole : Whole state) (moved : PullArchive.step state action = some next) :
    Whole next := by
  obtain ⟨joint, reports⟩ := whole.again moved
  cases step_move moved with
  | begin running =>
      exact ⟨joint, reports, whole.part, whole.flow, whole.drained, whole.told, whole.earned⟩
  | @write buf result chunks writing wrote =>
      -- The compressor writes only before it returns, and the relay reports only after that.
      have running : state.compHandle = none := by
        by_contra ended
        rw [whole.joint.returned ended] at writing
        cases writing
      obtain ⟨notJoining, notReporting, -⟩ := whole.joint.ended running
      refine ⟨joint, reports, whole.part.trans (List.prefix_append _ _), fun kept => ?_,
        fun late => ?_, whole.told, fun code queued => ?_⟩
      · rw [ChannelWriter.write_emits wrote, ← List.append_assoc, whole.flow kept]
      · rcases late with joining | ⟨event, reporting⟩
        · exact absurd joining notJoining
        · exact absurd reporting (notReporting event)
      · have told := (whole.earned code queued).2.1
        rw [running] at told
        cases told
  | finish idle running =>
      obtain ⟨-, notReporting, -⟩ := whole.joint.ended running
      refine ⟨joint, reports, whole.part, whole.flow, whole.drained, fun code reporting => ?_,
        fun code queued => ?_⟩
      · exact absurd reporting (notReporting _)
      · have told := (whole.earned code queued).2.1
        rw [running] at told
        cases told
  | receive received receiving =>
      obtain ⟨items, -⟩ := Channel.receive_some received
      have flow := whole.flow (by rw [receiving]; rfl)
      rw [items, List.append_cons] at flow
      refine ⟨joint, reports, ⟨_, flow⟩, fun _ => flow, by simp, nofun, fun code queued => ?_⟩
      exact absurd queued (whole.unreported (by simp [receiving]) code)
  | endOfChunks empty ended receiving =>
      refine ⟨joint, reports, whole.part, fun _ => whole.flow (by rw [receiving]; rfl),
        fun _ => empty, nofun, fun code queued => ?_⟩
      exact absurd queued (whole.unreported (by simp [receiving]) code)
  | @delivered chunk ok sending =>
      have quiet := whole.unreported (by simp [sending])
      cases ok with
      | true =>
          refine ⟨joint, reports, whole.part, fun _ => whole.flow (by rw [sending]; rfl), by simp,
            nofun, fun code queued => ?_⟩
          rcases List.mem_append.mp queued with before | last
          · exact absurd before (quiet code)
          · simp at last
      | false => exact ⟨joint, reports, whole.part, nofun, by simp, nofun, fun code queued =>
          absurd queued (quiet code)⟩
  | joined ended joining =>
      refine ⟨joint, reports, whole.part, fun _ => whole.flow (by rw [joining]; rfl),
        fun _ => whole.drained (.inl joining), fun _ _ => ended, fun code queued => ?_⟩
      exact absurd queued (whole.unreported (by simp [joining]) code)
  | failed ended failure joining =>
      refine ⟨joint, reports, whole.part, fun _ => whole.flow (by rw [joining]; rfl),
        fun _ => whole.drained (.inl joining), nofun, fun code queued => ?_⟩
      exact absurd queued (whole.unreported (by simp [joining]) code)
  | silenced ended gone =>
      refine ⟨joint, reports, whole.part, nofun, by simp, nofun, fun code queued => ?_⟩
      exact absurd queued (whole.unreported (by simp [gone]) code)
  | @reported event ok reporting =>
      have produced : (state.relay.queue event ok).produced = state.relay.produced := by
        cases ok <;> rfl
      refine ⟨joint, reports, produced ▸ whole.part, fun _ => ?_, fun _ => ?_, fun code told => ?_,
        fun code queued => ?_⟩
      · change (state.relay.queue event ok).produced ++ _ = _
        rw [produced]
        exact whole.flow (by rw [reporting]; rfl)
      · exact whole.drained (.inr ⟨event, reporting⟩)
      · have after : PullRelay.afterReport event ok = .reporting (.exit code) := told
        rcases PullRelay.afterReport_cases event ok with ⟨close, -⟩ | done
        · simp [close] at after
        · simp [done] at after
      · exact whole.reported reporting queued

/-- A run of the relay with its compressor is a run of the relay. -/
theorem relay_runs {actions : List Action}
    (ran : Machine.run PullArchive.step PullArchive.start actions = some state) :
    ∃ taken, Machine.run PullRelay.step PullRelay.start taken = some state.relay := by
  have continues {state next : State} {action : Action}
      (runs : ∃ taken, Machine.run PullRelay.step PullRelay.start taken = some state.relay)
      (moved : PullArchive.step state action = some next) :
      ∃ taken, Machine.run PullRelay.step PullRelay.start taken = some next.relay := by
    obtain ⟨earlier, before⟩ := runs
    obtain ⟨taken, after⟩ := relay_run moved
    exact ⟨earlier ++ taken, Machine.run_append.mpr ⟨_, before, after⟩⟩
  exact Machine.run_invariant continues ⟨[], rfl⟩ ran

end Whole

end Tunnix.PullArchive
