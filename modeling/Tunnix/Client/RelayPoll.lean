import Tunnix.Client.RelayHalves

namespace Tunnix.RelayPoll
open ClientRelay (bufferSize Coordinated Joined Reporting)

/-- `tcp_read.read` yields bytes, the end of the stream or an error. -/
inductive Outcome where
  | chunk (bytes : Bytes)
  | eof
  | failed
deriving DecidableEq, Repr

/-- The read half is outside a poll of its `select!`, in one that has found the stop signal pending,
or past one that has read. -/
inductive Poll where
  | parked
  | polling
  | ready (outcome : Outcome)
deriving DecidableEq, Repr

/-- The relay runs as before, while its read half may be in the middle of a poll. -/
structure State where
  relay : ClientRelay.State
  poll : Poll
deriving DecidableEq

/-- A run begins outside any poll. -/
def start : State := ⟨ClientRelay.start, .parked⟩

/-- The first four actions split a poll of the read half. -/
inductive Action where
  | pollStop
  | readPending
  | readReady (outcome : Outcome)
  | proceed
  | relay (action : ClientRelay.Action)
deriving DecidableEq, Repr

/-- A read of no bytes is the end of the stream, and the buffer bounds every other one. -/
def Outcome.fits : Outcome → Prop
  | .chunk bytes => bytes ≠ [] ∧ bytes.length ≤ bufferSize
  | .eof | .failed => True

instance : (outcome : Outcome) → Decidable outcome.fits
  | .chunk _ => inferInstanceAs (Decidable (_ ∧ _))
  | .eof | .failed => isTrue trivial

/-- The read half acts on what it has read. -/
def Outcome.follow (connId : ConnId) (relay : ClientRelay.State) : Outcome → ClientRelay.State
  | .chunk bytes => { relay with
      read := .sending bytes
      posts := relay.posts ++ [.data connId bytes] }
  | .eof => { relay with
      read := .closing
      posts := relay.posts ++ [.close connId] }
  | .failed => relay.endRead connId .failed

/-- These actions take a whole poll of the read half in one step. -/
def polls : ClientRelay.Action → Bool
  | .readApp _ | .readEof | .readError => true
  | _ => false

/-- The relay moves by one action, or refuses one that its state does not allow. The two halves are
tasks of their own, so that the write half moves between any two steps of a poll. -/
def step (connId : ConnId) (state : State) : Action → Option State
  -- The `select!` is biased, so a signal that is there by now wins.
  | .pollStop =>
      if state.poll = .parked ∧ state.relay.read = .selecting ∧ state.relay.stop = .waiting then
        some { state with poll := .polling }
      else none
  | .readPending => if state.poll = .polling then some { state with poll := .parked } else none
  | .readReady outcome =>
      if state.poll = .polling ∧ outcome.fits then some { state with poll := .ready outcome }
      else none
  | .proceed =>
      match state.poll with
      | .ready outcome => some ⟨outcome.follow connId state.relay, .parked⟩
      | .parked | .polling => none
  | .relay action =>
      if polls action = true ∨ action = .readStop ∧ state.poll ≠ .parked then none
      else (ClientRelay.step connId state.relay action).map fun relay => { state with relay }

/-- These are the possible steps. -/
inductive Move (connId : ConnId) (state : State) : Action → State → Prop
  | pollStop : state.poll = .parked → state.relay.read = .selecting →
      state.relay.stop = .waiting → Move connId state .pollStop { state with poll := .polling }
  | readPending : state.poll = .polling →
      Move connId state .readPending { state with poll := .parked }
  | readReady {outcome} : state.poll = .polling → outcome.fits →
      Move connId state (.readReady outcome) { state with poll := .ready outcome }
  | proceed {outcome} : state.poll = .ready outcome →
      Move connId state .proceed ⟨outcome.follow connId state.relay, .parked⟩
  | relay {action relay} : polls action = false → (action = .readStop → state.poll = .parked) →
      ClientRelay.step connId state.relay action = some relay →
      Move connId state (.relay action) { state with relay }

section Steps
variable {connId : ConnId} {state next : State} {action : Action}

/-- Each accepted action is one of the possible steps. -/
theorem step_move (moved : step connId state action = some next) :
    Move connId state action next := by
  cases action with
  | pollStop =>
      simp only [step, Option.ite_none_right_eq_some, Option.some.injEq] at moved
      obtain ⟨⟨parked, selecting, waiting⟩, rfl⟩ := moved
      exact .pollStop parked selecting waiting
  | readPending =>
      simp only [step, Option.ite_none_right_eq_some, Option.some.injEq] at moved
      obtain ⟨polling, rfl⟩ := moved
      exact .readPending polling
  | readReady outcome =>
      simp only [step, Option.ite_none_right_eq_some, Option.some.injEq] at moved
      obtain ⟨⟨polling, fits⟩, rfl⟩ := moved
      exact .readReady polling fits
  | proceed =>
      simp only [step] at moved
      split at moved
      · next ready => cases moved; exact .proceed ready
      · cases moved
      · cases moved
  | relay action =>
      simp only [step, Option.ite_none_left_eq_some, not_or, not_and, not_not] at moved
      obtain ⟨⟨whole, parked⟩, taken⟩ := moved
      obtain ⟨relay, moved, rfl⟩ := Option.map_eq_some_iff.mp taken
      exact .relay (Bool.eq_false_iff.mpr whole) parked moved

end Steps

/-- The relay with whole polls reaches this state. -/
def Reached (connId : ConnId) (relay : ClientRelay.State) : Prop :=
  ∃ actions, Machine.run (ClientRelay.step connId) ClientRelay.start actions = some relay

section Reached
variable {connId : ConnId} {relay after : ClientRelay.State} {outcome : Outcome}
  {action : ClientRelay.Action}

theorem Reached.start (connId : ConnId) : Reached connId ClientRelay.start := ⟨[], rfl⟩

theorem Reached.step (reached : Reached connId relay)
    (moved : ClientRelay.step connId relay action = some after) : Reached connId after := by
  obtain ⟨actions, ran⟩ := reached
  exact ⟨actions ++ [action], Machine.run_append.mpr
    ⟨relay, ran, Machine.run_cons.mpr ⟨after, moved, rfl⟩⟩⟩

theorem Reached.joined (reached : Reached connId relay) : Joined connId relay := by
  obtain ⟨actions, ran⟩ := reached
  exact Machine.run_invariant Joined.step (Joined.start connId) ran

/-- A whole poll acts on what it has read. -/
theorem Reached.follow (reached : Reached connId relay) (selecting : relay.read = .selecting)
    (waiting : relay.stop = .waiting) (fits : outcome.fits) :
    Reached connId (outcome.follow connId relay) := by
  cases outcome with
  | chunk bytes =>
      have moved : ClientRelay.step connId relay (.readApp bytes) =
          some (Outcome.follow connId relay (.chunk bytes)) :=
        if_pos ⟨selecting, waiting, fits.1, fits.2⟩
      exact reached.step moved
  | eof =>
      have moved : ClientRelay.step connId relay .readEof =
          some (Outcome.follow connId relay .eof) := if_pos ⟨selecting, waiting⟩
      exact reached.step moved
  | failed =>
      have moved : ClientRelay.step connId relay .readError =
          some (Outcome.follow connId relay .failed) := if_pos ⟨selecting, waiting⟩
      exact reached.step moved

end Reached

/-- The read half has acted: it is elsewhere, has posted and may have reported the upload's end. -/
def acted (read : ClientRelay.ReadHalf) (posts : List Message) (upload : OneShot ClientRelay.UploadEnd)
    (relay : ClientRelay.State) : ClientRelay.State := { relay with read, posts, upload }

/-- These actions belong to the environment and to the write half, apart from its receipt of the
upload's end. -/
def others : ClientRelay.Action → Bool
  | .event _ | .dropChannel | .takeEvent | .writeSome _ | .writeFails | .shutdown _ => true
  | _ => false

/-- They neither see nor change what the read half does. -/
theorem step_acted {connId : ConnId} {relay after : ClientRelay.State}
    {action : ClientRelay.Action} (other : others action = true)
    (moved : ClientRelay.step connId relay action = some after) (read : ClientRelay.ReadHalf)
    (posts : List Message) (upload : OneShot ClientRelay.UploadEnd) :
    after.read = relay.read ∧ after.posts = relay.posts ∧ after.upload = relay.upload ∧
      ClientRelay.step connId (acted read posts upload relay) action =
        some (acted read posts upload after) := by
  cases ClientRelay.step_move moved with
  | event registered sent =>
      refine ⟨rfl, rfl, rfl, ?_⟩
      simp only [ClientRelay.step, acted, registered, sent]
      rfl
  | dropChannel registered =>
      refine ⟨rfl, rfl, rfl, ?_⟩
      simp only [ClientRelay.step, acted, registered]
      rfl
  | @takeEvent event events hears received =>
      simp only [ClientRelay.step, acted, received]
      rw [if_pos hears]
      cases event with
      | data bytes => cases bytes <;> exact ⟨rfl, rfl, rfl, rfl⟩
      | close | error | exit => exact ⟨rfl, rfl, rfl, rfl⟩
  | channelGone hears empty gone =>
      refine ⟨rfl, rfl, rfl, ?_⟩
      simp only [ClientRelay.step, acted, Channel.receive_none.mpr empty]
      rw [if_pos hears]
      exact if_neg (Bool.eq_false_iff.mp gone)
  | writeSome writing positive less writable =>
      refine ⟨rfl, rfl, rfl, ?_⟩
      simp only [ClientRelay.step, acted, writing]
      rw [if_pos ⟨positive, Nat.le_of_lt less, writable⟩, if_neg (Nat.ne_of_lt less)]
  | writeAll writing positive writable =>
      refine ⟨rfl, rfl, rfl, ?_⟩
      simp only [ClientRelay.step, acted, writing]
      rw [if_pos ⟨positive, Nat.le_refl _, writable⟩, List.take_length]
      rfl
  | writeFails writing =>
      refine ⟨rfl, rfl, rfl, ?_⟩
      simp only [ClientRelay.step, acted, writing]
      rfl
  | shutdown shutting running same stands =>
      refine ⟨rfl, rfl, rfl, ?_⟩
      subst same
      simp only [ClientRelay.step, acted, shutting, running]
      exact if_pos ⟨trivial, stands⟩
  | shutdownLast shutting ended same stands =>
      refine ⟨rfl, rfl, rfl, ?_⟩
      subst same
      simp only [ClientRelay.step, acted, shutting, ended]
      exact if_pos ⟨trivial, stands⟩
  | _ => contradiction

section Follow
variable {connId : ConnId} {relay after : ClientRelay.State} {action : ClientRelay.Action}

/-- While the read half is in its `select!`, nobody else reports the end of the upload. -/
theorem others_of_selecting (reporting : Reporting connId relay)
    (selecting : relay.read = .selecting) (whole : polls action = false)
    (signal : action ≠ .readStop) (moved : ClientRelay.step connId relay action = some after) :
    others action = true := by
  have unended (outcome) : relay.read ≠ .ended outcome := by simp [selecting]
  cases ClientRelay.step_move moved with
  | event | dropChannel | takeEvent | channelGone | writeSome | writeAll | writeFails | shutdown
  | shutdownLast => rfl
  | readStop | readApp | readEof | readError => contradiction
  | sent sending | sendFailed sending => simp [selecting] at sending
  | closed closing => simp [selecting] at closing
  | finish ended => exact absurd ended (unended _)
  | takeUpload _ _ _ _ report =>
      rcases report with sent | ⟨dropped, -⟩
      · obtain ⟨outcome, ended, -⟩ := reporting.upload _ sent
        exact absurd ended (unended outcome)
      · exact absurd dropped reporting.held

/-- What the read half does with its poll commutes with every step of the others. -/
theorem follow_step (other : others action = true)
    (moved : ClientRelay.step connId relay action = some after) (outcome : Outcome) :
    ClientRelay.step connId (outcome.follow connId relay) action =
      some (outcome.follow connId after) := by
  cases outcome with
  | chunk bytes =>
      obtain ⟨-, posts, upload, same⟩ := step_acted other moved (.sending bytes)
        (relay.posts ++ [.data connId bytes]) relay.upload
      refine same.trans (congrArg some ?_)
      simp only [Outcome.follow, acted, posts, upload]
  | eof =>
      obtain ⟨-, posts, upload, same⟩ := step_acted other moved .closing
        (relay.posts ++ [.close connId]) relay.upload
      refine same.trans (congrArg some ?_)
      simp only [Outcome.follow, acted, posts, upload]
  | failed =>
      obtain ⟨-, posts, -, same⟩ := step_acted other moved (.ended .failed)
        (relay.posts ++ [.abort connId]) (.sent .failed)
      refine same.trans (congrArg some ?_)
      simp only [Outcome.follow, acted, posts, ClientRelay.State.endRead]

/-- The read half posts at most one chunk for a poll. -/
theorem follow_chunks (outcome : Outcome) :
    (outcome.follow connId relay).chunks = relay.chunks ∨
      ∃ chunk, (outcome.follow connId relay).chunks = relay.chunks ++ [chunk] := by
  cases outcome with
  | chunk bytes => exact .inr ⟨bytes, List.filterMap_append ..⟩
  | eof =>
      left
      exact (List.filterMap_append ..).trans (List.append_nil _)
  | failed => exact .inl (ClientRelay.endRead_chunks _)

theorem follow_stop (outcome : Outcome) : (outcome.follow connId relay).stop = relay.stop := by
  cases outcome <;> rfl

end Follow

/-- A poll can still yield one of these outcomes. -/
def Poll.admits : Poll → Outcome → Prop
  | .parked, _ => False
  | .polling, outcome => outcome.fits
  | .ready read, outcome => outcome = read

/-- The relay with whole polls reaches the same state, and also every state that the open poll can
lead to: there it took the poll when the signal was found pending. -/
structure Simulated (connId : ConnId) (state : State) : Prop where
  reached : Reached connId state.relay
  selecting : state.poll ≠ .parked → state.relay.read = .selecting
  follows : ∀ outcome, state.poll.admits outcome → Reached connId (outcome.follow connId state.relay)

/-- The signal was sent when these chunks had been posted. A poll that was open then posts at most
one more. -/
structure Stopped (chunks : List Bytes) (midway : Prop) (state : State) : Prop where
  signal : state.relay.stop ≠ .waiting
  waits : state.poll ≠ .parked → midway ∧ state.relay.chunks = chunks
  chunks : state.relay.chunks = chunks ∨ midway ∧ ∃ chunk, state.relay.chunks = chunks ++ [chunk]

section Simulated
variable {connId : ConnId} {state next : State} {action : Action}

theorem Simulated.start (connId : ConnId) : Simulated connId start where
  reached := .start connId
  selecting parked := absurd rfl parked
  follows := nofun

theorem Simulated.step (simulated : Simulated connId state)
    (moved : step connId state action = some next) : Simulated connId next := by
  obtain ⟨reached, reads, follows⟩ := simulated
  cases step_move moved with
  | pollStop parked selecting waiting =>
      exact ⟨reached, fun _ => selecting, fun _ fits => reached.follow selecting waiting fits⟩
  | readPending => exact ⟨reached, fun parked => absurd rfl parked, nofun⟩
  | @readReady outcome polling fits =>
      refine ⟨reached, fun _ => reads (by simp [polling]), ?_⟩
      intro read same
      rw [show read = outcome from same]
      exact follows outcome (by rw [polling]; exact fits)
  | @proceed outcome ready =>
      exact ⟨follows outcome (by rw [ready]; rfl), fun parked => absurd rfl parked, nofun⟩
  | @relay action relay whole signal taken =>
      have apart (opened : state.poll ≠ .parked) : others action = true :=
        others_of_selecting reached.joined.reporting (reads opened) whole (mt signal opened) taken
      refine ⟨reached.step taken, ?_, ?_⟩
      · intro opened
        have same := (step_acted (apart opened) taken .selecting [] .waiting).1
        exact same.trans (reads opened)
      · intro outcome admits
        have opened : state.poll ≠ .parked := by
          intro parked
          rw [parked] at admits
          exact admits
        exact (follows outcome admits).step (follow_step (apart opened) taken outcome)

theorem Stopped.step {chunks : List Bytes} {midway : Prop} (stopped : Stopped chunks midway state)
    (moved : RelayPoll.step connId state action = some next) : Stopped chunks midway next := by
  obtain ⟨signal, waits, posted⟩ := stopped
  cases step_move moved with
  | pollStop _ _ waiting => exact absurd waiting signal
  | readPending => exact ⟨signal, fun parked => absurd rfl parked, posted⟩
  | readReady polling => exact ⟨signal, fun _ => waits (by simp [polling]), posted⟩
  | @proceed outcome ready =>
      obtain ⟨midway, same⟩ := waits (by simp [ready])
      refine ⟨by rw [follow_stop]; exact signal, fun parked => absurd rfl parked, ?_⟩
      rw [← same]
      exact (follow_chunks outcome).imp_right fun more => ⟨midway, more⟩
  | @relay action relay _ _ taken =>
      obtain ⟨signal, same⟩ := ClientRelay.chunks_of_signal signal taken
      exact ⟨signal, by rw [same]; exact waits, by rw [same]; exact posted⟩

end Simulated

/-- The relay reaches this state outside any poll. -/
def Parked (connId : ConnId) (relay : ClientRelay.State) : Prop :=
  ∃ actions, Machine.run (step connId) start actions = some ⟨relay, .parked⟩

/-- A whole poll is one that nobody else interrupts. -/
theorem Parked.step {connId : ConnId} {relay after : ClientRelay.State}
    {action : ClientRelay.Action} (parked : Parked connId relay)
    (moved : ClientRelay.step connId relay action = some after) : Parked connId after := by
  obtain ⟨actions, ran⟩ := parked
  have more (taken : List Action)
      (split : Machine.run (RelayPoll.step connId) ⟨relay, .parked⟩ taken =
        some ⟨after, .parked⟩) : Parked connId after :=
    ⟨actions ++ taken, Machine.run_append.mpr ⟨⟨relay, .parked⟩, ran, split⟩⟩
  have poll (outcome : Outcome) (selecting : relay.read = .selecting)
      (waiting : relay.stop = .waiting) (fits : outcome.fits) :
      Machine.run (RelayPoll.step connId) ⟨relay, .parked⟩
        [.pollStop, .readReady outcome, .proceed] =
          some ⟨outcome.follow connId relay, .parked⟩ := by
    simp [Machine.run, RelayPoll.step, selecting, waiting, fits]
  cases whole : polls action with
  | false =>
      apply more [.relay action]
      simp [Machine.run, RelayPoll.step, whole, moved]
  | true =>
      cases ClientRelay.step_move moved with
      | @readApp bytes selecting waiting some_ fits =>
          exact more _ (poll (.chunk bytes) selecting waiting ⟨some_, fits⟩)
      | readEof selecting waiting => exact more _ (poll .eof selecting waiting trivial)
      | readError selecting waiting => exact more _ (poll .failed selecting waiting trivial)
      | _ => contradiction

/-- Outside its polls, the relay reaches exactly the states that it reaches with whole polls. -/
theorem parked_iff {connId : ConnId} {relay : ClientRelay.State} :
    Parked connId relay ↔ Reached connId relay := by
  constructor
  · rintro ⟨actions, ran⟩
    exact (Machine.run_invariant Simulated.step (Simulated.start connId) ran).reached
  · rintro ⟨actions, ran⟩
    exact Machine.run_invariant Parked.step ⟨[], rfl⟩ ran

/-- In every run the two halves stay coordinated in every state. After the write half has sent its
stop signal, the read half starts at most one further `Data` POST, and only if the signal came in
the middle of a poll. -/
theorem halves_coordinated {connId : ConnId} {before after : List Action} {middle final : State}
    (reached : Machine.run (step connId) start before = some middle)
    (ran : Machine.run (step connId) middle after = some final) :
    Coordinated connId middle.relay ∧ Coordinated connId final.relay ∧
      ((∃ stop, middle.relay.stop = .sent stop) →
        final.relay.chunks = middle.relay.chunks ∨
          middle.poll ≠ .parked ∧
            ∃ chunk, final.relay.chunks = middle.relay.chunks ++ [chunk]) := by
  have simulated := Machine.run_invariant Simulated.step (Simulated.start connId) reached
  have later := Machine.run_invariant Simulated.step simulated ran
  refine ⟨simulated.reached.joined.coordinated, later.reached.joined.coordinated, ?_⟩
  rintro ⟨stop, sent⟩
  have stopped : Stopped middle.relay.chunks (middle.poll ≠ .parked) middle :=
    ⟨by simp [sent], fun opened => ⟨opened, rfl⟩, .inl rfl⟩
  exact (Machine.run_invariant Stopped.step stopped ran).chunks

/-- An exit status fails the connection while the second poll of the read half has found the signal
pending. -/
def interrupted : List Action :=
  [.pollStop, .readReady (.chunk [1, 2]), .proceed, .relay (.sent true), .pollStop,
    .relay (.event (.exit 3)), .relay .takeEvent]

/-- The read half then posts one more chunk and ends at its next poll. -/
def resumed : List Action :=
  [.readReady (.chunk [3]), .proceed, .relay (.sent true), .relay .readStop, .relay .finish]

theorem halves_coordinated_of_exit : ∃ middle final,
    Machine.run (step 7) start interrupted = some middle ∧
    Machine.run (step 7) middle resumed = some final ∧
    middle.relay.stop = .sent .localFailure ∧ final.relay.chunks = [[1, 2], [3]] ∧
    Coordinated 7 middle.relay ∧ Coordinated 7 final.relay ∧
    ((∃ stop, middle.relay.stop = .sent stop) →
      final.relay.chunks = middle.relay.chunks ∨
        middle.poll ≠ .parked ∧ ∃ chunk, final.relay.chunks = middle.relay.chunks ++ [chunk]) := by
  obtain ⟨middle, reached, rest⟩ := Option.bind_eq_some_iff.mp
    (show (Machine.run (step 7) start interrupted).bind
      (fun middle => (Machine.run (step 7) middle resumed).map
        fun final => (middle.relay.stop, final.relay.chunks)) =
      some (.sent .localFailure, [[1, 2], [3]]) by decide)
  obtain ⟨final, ran, same⟩ := Option.map_eq_some_iff.mp rest
  obtain ⟨sent, chunks⟩ := Prod.mk.inj same
  exact ⟨middle, final, reached, ran, sent, chunks, halves_coordinated reached ran⟩

/-- The signal is sent between the two parts of a poll, while no `Data` POST is in progress. The read
half then posts the chunk that it reads. -/
theorem chunk_posted_after_stop : ∃ middle final,
    Machine.run (step 7) start
      [.pollStop, .relay (.event (.exit 3)), .relay .takeEvent] = some middle ∧
    Machine.run (step 7) middle [.readReady (.chunk [1]), .proceed] = some final ∧
    middle.relay.stop = .sent .localFailure ∧ middle.relay.read = .selecting ∧
    middle.relay.chunks = [] ∧ final.relay.chunks = [[1]] := by
  obtain ⟨middle, reached, rest⟩ := Option.bind_eq_some_iff.mp
    (show (Machine.run (step 7) start
        [.pollStop, .relay (.event (.exit 3)), .relay .takeEvent]).bind
      (fun middle => (Machine.run (step 7) middle [.readReady (.chunk [1]), .proceed]).map
        fun final => (middle.relay.stop, middle.relay.read, middle.relay.chunks,
          final.relay.chunks)) =
      some (.sent .localFailure, .selecting, [], [[1]]) by decide)
  obtain ⟨final, ran, same⟩ := Option.map_eq_some_iff.mp rest
  simp only [Prod.mk.injEq] at same
  exact ⟨middle, final, reached, ran, same⟩

end Tunnix.RelayPoll
