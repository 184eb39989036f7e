import Tunnix.Server.Registry

namespace Tunnix.TcpRelay

/-- A finished relay has no entry left. -/
def Released (state : State) : Prop :=
  state.finished = true → state.registered = false ∧ state.abortable = false

/-- Every step keeps a finished relay without entries. -/
theorem Released.step {state next : State} {action : Action} (released : Released state)
    (moved : TcpRelay.step state action = some next) : Released next := by
  cases step_move moved with
  | discardData | enqueue | refuse | forget | readTarget | readEof | readFails | takeAbort |
    clientLost | delivered | undelivered | takeEmpty | takeData | sendersGone | watchdog |
    writeSome | writeAll | writeFails | failureReported | failureUnreported => exact released
  | handleData registered =>
      intro finished
      exact released finished
  | handleClose | loseWriter | releaseUnsent | releaseFailed =>
      exact fun finished => ⟨rfl, (released finished).2⟩
  | handleAbort => exact fun _ => ⟨rfl, rfl⟩
  | loseAbort => exact fun finished => ⟨(released finished).1, rfl⟩
  | @settle reason ended =>
      intro finished
      cases reason with
      | eof => exact released finished
      | failed | clientGone | aborted => exact ⟨rfl, (released finished).2⟩
  | @reported report ok reporting =>
      intro finished
      cases ok <;> exact released finished
  | cleanup => exact fun _ => ⟨rfl, rfl⟩

/-- Nothing has disturbed the relay: it holds its entries, and its tasks are in their loops or at
the clean end of the target's output. -/
structure Quiet (state : State) : Prop where
  registered : state.registered = true
  abortable : state.abortable = true
  unnotified : state.notified = false
  reading : state.read.lossless = true ∨ state.read = .done
  writing : state.write = .selecting ∨ ∃ rest, state.write = .writing rest

theorem Quiet.start : Quiet start := ⟨rfl, rfl, rfl, .inl rfl, .inl rfl⟩

/-- The entries, the signal and both tasks are as they were. -/
theorem Quiet.of_same {state next : State} (quiet : Quiet state)
    (registered : next.registered = state.registered)
    (abortable : next.abortable = state.abortable) (notified : next.notified = state.notified)
    (read : next.read = state.read) (write : next.write = state.write) : Quiet next where
  registered := registered.trans quiet.registered
  abortable := abortable.trans quiet.abortable
  unnotified := notified.trans quiet.unnotified
  reading := read ▸ quiet.reading
  writing := write ▸ quiet.writing

theorem Quiet.read_eq {state : State} {read : ReadTask} (quiet : Quiet state)
    (same : state.read = read) : read.lossless = true ∨ read = .done := same ▸ quiet.reading

/-- The write task has no failure to report, and it has not ended. -/
theorem Quiet.write_ne {state : State} (quiet : Quiet state) (error : String) :
    state.write ≠ .failing error ∧ state.write ≠ .reporting error ∧ state.write ≠ .done := by
  rcases quiet.writing with selecting | ⟨rest, writing⟩
  · rw [selecting]
    exact ⟨nofun, nofun, nofun⟩
  · rw [writing]
    exact ⟨nofun, nofun, nofun⟩

/-- A step that disturbs nothing keeps the relay quiet, and it removes no entry. -/
theorem Quiet.step {state next : State} {action : Action} (quiet : Quiet state)
    (calm : action.quiet = true) (unclosed : action ≠ .handleClose)
    (moved : TcpRelay.step state action = some next) :
    Quiet next ∧ (action = .settle → state.read = .ended .eof) ∧ action ≠ .releaseUnsent ∧
      action ≠ .releaseFailed ∧ action ≠ .cleanup := by
  have unfailing (error : String) := quiet.write_ne error
  cases step_move moved with
  | handleClose => exact absurd rfl unclosed
  | handleAbort | loseWriter | loseAbort | readFails | clientLost | undelivered | watchdog |
    writeFails => cases calm
  | handleData | discardData | enqueue | refuse | forget | takeEmpty =>
      exact ⟨quiet.of_same rfl rfl rfl rfl rfl, nofun, nofun, nofun, nofun⟩
  | readTarget | readEof | delivered =>
      exact ⟨⟨quiet.registered, quiet.abortable, quiet.unnotified, .inl rfl, quiet.writing⟩,
        nofun, nofun, nofun, nofun⟩
  | takeAbort _ notified => cases quiet.unnotified.symm.trans notified
  | takeData | writeSome =>
      exact ⟨⟨quiet.registered, quiet.abortable, quiet.unnotified, quiet.reading, .inr ⟨_, rfl⟩⟩,
        nofun, nofun, nofun, nofun⟩
  | writeAll =>
      exact ⟨⟨quiet.registered, quiet.abortable, quiet.unnotified, quiet.reading, .inl rfl⟩,
        nofun, nofun, nofun, nofun⟩
  | sendersGone _ _ unregistered => cases quiet.registered.symm.trans unregistered
  | @settle reason ended =>
      have lossless := (quiet.read_eq ended).resolve_right nofun
      cases reason with
      | eof =>
          exact ⟨⟨quiet.registered, quiet.abortable, quiet.unnotified, .inl rfl, quiet.writing⟩,
            fun _ => ended, nofun, nofun, nofun⟩
      | failed | clientGone | aborted => cases lossless
  | @reported report ok reporting =>
      cases ok with
      | false => cases calm
      | true =>
          exact ⟨⟨quiet.registered, quiet.abortable, quiet.unnotified, .inr rfl, quiet.writing⟩,
            nofun, nofun, nofun, nofun⟩
  | releaseUnsent unsent =>
      rcases quiet.read_eq unsent with lossless | done
      · cases lossless
      · cases done
  | releaseFailed failing => exact absurd failing (unfailing _).1
  | failureReported reporting | failureUnreported reporting =>
      exact absurd reporting (unfailing _).2.1
  | cleanup _ done => exact absurd done (unfailing "").2.2

/-- A relay's own step changes an entry only by removing it. -/
theorem step_entries {state next : State} {action : Action}
    (moved : TcpRelay.step state action = some next)
    (own : action ≠ .handleClose ∧ action ≠ .handleAbort ∧ action ≠ .loseWriter ∧
      action ≠ .loseAbort) :
    next.registered = (state.registered &&
        ((Registry.Body.tcp state).removes (.tcp action)).keepsWriter) ∧
      next.abortable = (state.abortable &&
        ((Registry.Body.tcp state).removes (.tcp action)).keepsAbort) := by
  obtain ⟨unclosed, unaborted, unlost, unlost'⟩ := own
  cases step_move moved with
  | handleClose => exact absurd rfl unclosed
  | handleAbort => exact absurd rfl unaborted
  | loseWriter => exact absurd rfl unlost
  | loseAbort => exact absurd rfl unlost'
  | handleData | discardData | enqueue | refuse | forget | readTarget | readEof | readFails |
    takeAbort | clientLost | delivered | undelivered | takeEmpty | takeData | sendersGone |
    watchdog | writeSome | writeAll | writeFails | failureReported | failureUnreported =>
      exact ⟨(Bool.and_true _).symm, (Bool.and_true _).symm⟩
  | @settle reason ended =>
      rw [Registry.Body.removes, ended]
      cases reason with
      | eof => exact ⟨(Bool.and_true _).symm, (Bool.and_true _).symm⟩
      | failed | clientGone | aborted =>
          exact ⟨(Bool.and_false _).symm, (Bool.and_true _).symm⟩
  | @reported report ok reporting =>
      cases ok <;> exact ⟨(Bool.and_true _).symm, (Bool.and_true _).symm⟩
  | releaseUnsent | releaseFailed => exact ⟨(Bool.and_false _).symm, (Bool.and_true _).symm⟩
  | cleanup => exact ⟨(Bool.and_false _).symm, (Bool.and_false _).symm⟩

end Tunnix.TcpRelay

namespace Tunnix.PtyRelay

/-- The relay has removed its entries, or it reports a failed setup. -/
def Main.past : Main → Bool
  | .reporting (.error _) | .reporting (.data _) | .finished => true
  | .reporting (.exit _) | .reporting .close | .setup | .waiting | .killed | .draining _
  | .stopping _ | .leaving | .panicked => false

/-- A relay past its cleanup has no entry left. -/
def Released (state : State) : Prop := state.main.past = true → state.registered = false

theorem Released.await {state : State} {handle : JoinHandle} {joined : JoinHandle → State}
    (unfinished : ∀ handle, (joined handle).main.past = false) :
    Released (state.await handle joined) := by
  unfold State.await
  split
  · next after =>
      intro past
      rw [unfinished] at past
      cases past
  · exact nofun

/-- Every step keeps a relay past its cleanup without an entry. -/
theorem Released.step {state next : State} {action : Action} (released : Released state)
    (moved : PtyRelay.step state action = some next) : Released next := by
  cases step_move moved with
  | handleClose | handleAbort => exact fun _ => rfl
  | handleResize | readMaster | readEnds | writerGone | writeFails | takeResize => exact released
  | setupDone | watchdog => exact nofun
  | setupFails => exact fun _ => rfl
  | @delivered chunk ok => cases ok <;> exact released
  | childExits | clientLeaves | drained | drainTimesOut | writeStopped =>
      exact Released.await fun _ => rfl
  | @reported event ok reporting =>
      intro past
      cases event with
      | exit code => cases ok <;> cases past
      | close => cases past
      | data | error =>
          have before := released (by rw [reporting]; rfl)
          cases ok <;> exact before
  | cleanup => exact fun _ => rfl

/-- A relay's own step changes its entry only by removing it. -/
theorem step_entry {state next : State} {action : Action}
    (moved : PtyRelay.step state action = some next) (unclosed : action ≠ .handleClose)
    (unaborted : action ≠ .handleAbort) : next.registered = (state.registered &&
      ((Registry.Body.pty state).removes (.pty action)).keepsWriter) := by
  have kept (registered : Bool) : registered = (registered && true) := (Bool.and_true _).symm
  have awaited {handle : JoinHandle} {joined : JoinHandle → State}
      (same : ∀ handle, (joined handle).registered = state.registered) :
      (state.await handle joined).registered = (state.registered && true) := by
    rw [Bool.and_true]
    rcases State.await_cases state handle joined with ⟨-, result⟩ | ⟨-, result⟩
    · rw [result, same]
    · rw [result]
  cases step_move moved with
  | handleClose => exact absurd rfl unclosed
  | handleAbort => exact absurd rfl unaborted
  | handleResize | readMaster | readEnds | writerGone | writeFails | takeResize | setupDone |
    watchdog => exact kept _
  | setupFails => exact (Bool.and_false _).symm
  | @delivered chunk ok => cases ok <;> exact kept _
  | childExits | clientLeaves | drained | drainTimesOut | writeStopped => exact awaited fun _ => rfl
  | @reported event ok reporting => cases ok <;> exact kept _
  | cleanup => exact (Bool.and_false _).symm

end Tunnix.PtyRelay

namespace Tunnix.Registry

/-- A body that has finished, or that only reports its end, has no entry left. -/
def Body.Released : Body → Prop
  | .tcp state => TcpRelay.Released state
  | .pty state => PtyRelay.Released state
  | .push state => PushRelay.Released state

/-- Nothing has disturbed a TCP relay. -/
def Body.Quiet : Body → Prop
  | .tcp state => TcpRelay.Quiet state
  | .pty _ | .push _ => True

section Body
variable {body next : Body} {action : RelayAction} {removal : Removal} {data : Bytes}
  {size : PtyRelay.PtySize}

/-- A relay with an entry has not finished. -/
theorem Body.Released.unfinished (released : body.Released) (calm : body.panicked = false)
    (entry : body.registered = true ∨ body.abortable = true) : body.finished = false := by
  cases body with
  | tcp state =>
      by_contra finished
      obtain ⟨unregistered, unabortable⟩ := released (Bool.not_eq_false _ ▸ finished)
      rcases entry with registered | abortable
      · cases unregistered.symm.trans registered
      · cases unabortable.symm.trans abortable
  | pty state =>
      have registered : state.registered = true := entry.resolve_right nofun
      refine decide_eq_false ?_
      rintro (finished | panicked)
      · have unregistered := released (by rw [finished]; rfl)
        cases unregistered.symm.trans registered
      · exact absurd panicked (of_decide_eq_false calm)
  | push state =>
      have registered : state.registered = true := entry.resolve_right nofun
      refine decide_eq_false fun finished => ?_
      have unregistered := released (by rw [finished]; rfl)
      cases unregistered.symm.trans registered

theorem Body.release_registered :
    (body.release removal).registered = (body.registered && removal.keepsWriter) := by
  cases body <;> rfl

theorem Body.release_abortable :
    (body.release removal).abortable = (body.abortable && removal.keepsAbort) := by
  cases body <;> rfl

theorem getD_of {State : Type} (Part : State → Prop) {moved : Option State} {state : State}
    (before : Part state) (after : ∀ next, moved = some next → Part next) :
    Part (moved.getD state) := by
  cases moved with
  | none => exact before
  | some next => exact after next rfl

theorem Body.Released.handleData (released : body.Released) : (body.handleData data).Released := by
  cases body with
  | tcp state => exact getD_of TcpRelay.Released released fun _ => TcpRelay.Released.step released
  | pty state => exact released
  | push state => exact getD_of PushRelay.Released released fun _ => PushRelay.Released.step released

theorem Body.Released.handleClose (released : body.Released) : body.handleClose.Released := by
  cases body with
  | tcp state => exact getD_of TcpRelay.Released released fun _ => TcpRelay.Released.step released
  | pty state => exact getD_of PtyRelay.Released released fun _ => PtyRelay.Released.step released
  | push state => exact getD_of PushRelay.Released released fun _ => PushRelay.Released.step released

theorem Body.Released.handleAbort (released : body.Released) : body.handleAbort.Released := by
  cases body with
  | tcp state => exact getD_of TcpRelay.Released released fun _ => TcpRelay.Released.step released
  | pty state => exact getD_of PtyRelay.Released released fun _ => PtyRelay.Released.step released
  | push state => exact getD_of PushRelay.Released released fun _ => PushRelay.Released.step released

theorem Body.Released.handleResize (released : body.Released) :
    (body.handleResize size).Released := by
  cases body with
  | tcp state => exact released
  | pty state => exact getD_of PtyRelay.Released released fun _ => PtyRelay.Released.step released
  | push state => exact released

/-- A body keeps its entries but for those that are removed. -/
structure Body.Loses (removal : Removal) (body next : Body) : Prop where
  registered : next.registered = (body.registered && removal.keepsWriter)
  abortable : next.abortable = (body.abortable && removal.keepsAbort)

theorem Body.Loses.refl (body : Body) : body.Loses .nothing body :=
  ⟨(Bool.and_true _).symm, (Bool.and_true _).symm⟩

theorem Body.Loses.handleData (data : Bytes) (body : Body) :
    body.Loses .nothing (body.handleData data) := by
  cases body with
  | tcp state =>
      refine getD_of (fun next => Body.Loses .nothing (.tcp state) (.tcp next)) (.refl _) ?_
      intro next moved
      obtain ⟨registered, abortable⟩ := TcpRelay.step_entries moved ⟨nofun, nofun, nofun, nofun⟩
      exact ⟨registered, abortable⟩
  | pty state => exact .refl _
  | push state =>
      refine getD_of (fun next => Body.Loses .nothing (.push state) (.push next)) (.refl _) ?_
      exact fun next moved => ⟨(PushRelay.step_entry moved).1, rfl⟩

theorem Body.Loses.handleClose (body : Body) : body.Loses .writer body.handleClose := by
  cases body <;> exact ⟨(Bool.and_false _).symm, (Bool.and_true _).symm⟩

theorem Body.Loses.handleAbort (body : Body) : body.Loses .both body.handleAbort := by
  cases body <;> exact ⟨(Bool.and_false _).symm, (Bool.and_false _).symm⟩

theorem Body.Loses.handleResize (size : PtyRelay.PtySize) (body : Body) :
    body.Loses .nothing (body.handleResize size) := by
  cases body with
  | pty state =>
      refine getD_of (fun next => Body.Loses .nothing (.pty state) (.pty next)) (.refl _) ?_
      exact fun next moved => ⟨PtyRelay.step_entry moved nofun nofun, rfl⟩
  | tcp state => exact .refl _
  | push state => exact .refl _

/-- A step of a body is a step of its relay, and not one that belongs to `handle_send`. -/
theorem Body.step_cases (moved : body.step action = some next) :
    (∃ state after inner, body = .tcp state ∧ next = .tcp after ∧ action = .tcp inner ∧
      TcpRelay.step state inner = some after ∧ inner ≠ .handleClose ∧ inner ≠ .handleAbort ∧
      inner ≠ .loseWriter ∧ inner ≠ .loseAbort) ∨
    (∃ state after inner, body = .pty state ∧ next = .pty after ∧ action = .pty inner ∧
      PtyRelay.step state inner = some after ∧ inner ≠ .handleClose ∧ inner ≠ .handleAbort) ∨
    (∃ state after inner, body = .push state ∧ next = .push after ∧ action = .push inner ∧
      PushRelay.step state inner = some after ∧ inner ≠ .handleClose ∧ inner ≠ .handleAbort) := by
  unfold Body.step at moved
  split at moved
  · next state inner =>
      split at moved
      · contradiction
      · contradiction
      · contradiction
      · contradiction
      · contradiction
      · next unclosed unaborted unlost unlost' =>
          obtain ⟨after, stepped, rfl⟩ := Option.map_eq_some_iff.mp moved
          exact .inl ⟨state, after, inner, rfl, rfl, rfl, stepped, unclosed, unaborted, unlost, unlost'⟩
  · next state inner =>
      split at moved
      · contradiction
      · contradiction
      · contradiction
      · next unclosed unaborted _ =>
          obtain ⟨after, stepped, rfl⟩ := Option.map_eq_some_iff.mp moved
          exact .inr (.inl ⟨state, after, inner, rfl, rfl, rfl, stepped, unclosed, unaborted⟩)
  · next state inner =>
      split at moved
      · contradiction
      · contradiction
      · contradiction
      · next _ unclosed unaborted =>
          obtain ⟨after, stepped, rfl⟩ := Option.map_eq_some_iff.mp moved
          exact .inr (.inr ⟨state, after, inner, rfl, rfl, rfl, stepped, unclosed, unaborted⟩)
  · contradiction

theorem Body.Released.step (released : body.Released) (moved : body.step action = some next) :
    next.Released := by
  rcases Body.step_cases moved with ⟨state, after, inner, rfl, rfl, -, moved, -⟩ |
    ⟨state, after, inner, rfl, rfl, -, moved, -⟩ | ⟨state, after, inner, rfl, rfl, -, moved, -⟩
  · exact TcpRelay.Released.step released moved
  · exact PtyRelay.Released.step released moved
  · exact PushRelay.Released.step released moved

/-- A step removes exactly the entries that its relay loses. -/
theorem Body.Loses.step (moved : body.step action = some next) :
    body.Loses (body.removes action) next := by
  rcases Body.step_cases moved with
    ⟨state, after, inner, rfl, rfl, rfl, moved, own⟩ |
    ⟨state, after, inner, rfl, rfl, rfl, moved, unclosed, unaborted⟩ |
    ⟨state, after, inner, rfl, rfl, rfl, moved, unclosed, unaborted⟩
  · obtain ⟨registered, abortable⟩ := TcpRelay.step_entries moved own
    exact ⟨registered, abortable⟩
  · exact ⟨PtyRelay.step_entry moved unclosed unaborted, rfl⟩
  · refine ⟨(PushRelay.step_entry moved).1.trans ?_, rfl⟩
    cases inner with
    | handleClose => exact absurd rfl unclosed
    | handleAbort => exact absurd rfl unaborted
    | _ => rfl

/-- A step that disturbs nothing keeps its relay quiet, and it removes no entry of a TCP relay. -/
theorem Body.Quiet.step (quiet : body.Quiet) (calm : action.disturbs = false)
    (moved : body.step action = some next) :
    next.Quiet ∧ (body.isTcp = true → body.removes action = .nothing) := by
  rcases Body.step_cases moved with
    ⟨state, after, inner, rfl, rfl, rfl, moved, unclosed, -⟩ |
    ⟨state, after, inner, rfl, rfl, -⟩ | ⟨state, after, inner, rfl, rfl, -⟩
  · have calm : inner.quiet = true := by
      cases inner with
      | failureReported => rfl
      | _ => exact Bool.not_eq_false' .. ▸ calm
    obtain ⟨after, settle, unsent, failed, cleanup⟩ := TcpRelay.Quiet.step quiet calm unclosed moved
    refine ⟨after, fun _ => ?_⟩
    cases inner with
    | settle => exact if_pos (settle rfl)
    | releaseUnsent => exact absurd rfl unsent
    | releaseFailed => exact absurd rfl failed
    | cleanup => exact absurd rfl cleanup
    | _ => rfl
  · exact ⟨trivial, nofun⟩
  · exact ⟨trivial, nofun⟩

theorem Body.Quiet.handleData (quiet : body.Quiet) : (body.handleData data).Quiet := by
  cases body with
  | tcp state =>
      refine getD_of TcpRelay.Quiet quiet fun next moved => ?_
      exact (TcpRelay.Quiet.step quiet (by rfl) (by nofun) moved).1
  | pty state | push state => trivial

theorem Body.Quiet.handleResize (quiet : body.Quiet) : (body.handleResize size).Quiet := by
  cases body with
  | tcp state => exact quiet
  | pty state | push state => trivial

end Body

/-- A map holds exactly the entries of the flagged relays. -/
def Holds (flag : Body → Bool) (map : ConnId → Option Nat) (relays : List Relay) : Prop :=
  ∀ key index, map key = some index ↔
    ∃ relay, relays[index]? = some relay ∧ relay.connId = key ∧ flag relay.body = true

section Holds
variable {flag : Body → Bool} {map : ConnId → Option Nat} {relays : List Relay}

/-- Removing an entry matches the relays of its key losing it. -/
theorem Holds.change (holds : Holds flag map relays) {connId : ConnId} {keeps : Bool}
    {change : Relay → Relay} (named : ∀ relay, (change relay).connId = relay.connId)
    (loses : ∀ relay, flag (change relay).body = (flag relay.body && keeps)) :
    Holds flag (if keeps then map else Function.update map connId none)
      (relays.map fun relay => if relay.connId = connId then change relay else relay) := by
  have flagged (relay : Relay) :
      flag (if relay.connId = connId then change relay else relay).body =
        (flag relay.body && (keeps || decide (relay.connId ≠ connId))) := by
    split
    · next same =>
        rw [loses, decide_eq_false (not_not_intro same), Bool.or_false]
    · next other => rw [decide_eq_true other, Bool.or_true, Bool.and_true]
  have kept (relay : Relay) :
      (if relay.connId = connId then change relay else relay).connId = relay.connId := by
    split
    · exact named relay
    · rfl
  intro key index
  have now : (if keeps then map else Function.update map connId none) key = some index ↔
      map key = some index ∧ (keeps || decide (key ≠ connId)) = true := by
    cases keeps with
    | true => exact (and_iff_left rfl).symm
    | false =>
        rw [if_neg Bool.false_ne_true, Bool.false_or, decide_eq_true_iff]
        by_cases same : key = connId
        · rw [same, Function.update_self]
          exact iff_of_false nofun fun both => both.2 rfl
        · rw [Function.update_of_ne same, and_iff_left same]
  rw [now, holds key index]
  constructor
  · rintro ⟨⟨relay, found, rfl, held⟩, keeps⟩
    refine ⟨_, List.getElem?_map .. ▸ congrArg _ found, kept relay, ?_⟩
    rw [flagged, held, keeps]
    rfl
  · rintro ⟨relay, found, rfl, held⟩
    rw [List.getElem?_map, Option.map_eq_some_iff] at found
    obtain ⟨before, found, rfl⟩ := found
    rw [flagged, Bool.and_eq_true] at held
    rw [kept]
    exact ⟨⟨before, found, rfl, held.1⟩, held.2⟩

/-- A relay that changes on its own keeps its entry. -/
theorem Holds.modify (holds : Holds flag map relays) {index : Nat} {change : Relay → Relay}
    (named : ∀ relay, relays[index]? = some relay → (change relay).connId = relay.connId)
    (same : ∀ relay, relays[index]? = some relay → flag (change relay).body = flag relay.body) :
    Holds flag map (relays.modify index change) := by
  intro key place
  rw [holds key place]
  constructor
  · rintro ⟨relay, found, rfl, held⟩
    by_cases here : index = place
    · subst here
      exact ⟨_, Table.modify_self found, named relay found, (same relay found).trans held⟩
    · refine ⟨relay, ?_, rfl, held⟩
      rw [List.getElem?_modify_ne _ _ here, found]
  · rintro ⟨relay, found, rfl, held⟩
    rcases Table.modify_cases found with ⟨before, was, rfl, rfl⟩ | ⟨was, -⟩
    · exact ⟨before, was, (named before was).symm, (same before was).symm.trans held⟩
    · exact ⟨relay, was, rfl, held⟩

/-- A new relay is the last one, and it brings its entry if its key has none. -/
theorem Holds.append (holds : Holds flag map relays) (new : Relay)
    (absent : flag new.body = true → map new.connId = none) :
    Holds flag (if flag new.body then Function.update map new.connId (some relays.length) else map)
      (relays ++ [new]) := by
  intro key index
  have now : (if flag new.body then Function.update map new.connId (some relays.length) else map)
      key = some index ↔ map key = some index ∨
        index = relays.length ∧ new.connId = key ∧ flag new.body = true := by
    by_cases flagged : flag new.body = true
    · rw [if_pos flagged]
      by_cases same : key = new.connId
      · subst same
        rw [Function.update_self, absent flagged]
        simp [flagged, eq_comm]
      · rw [Function.update_of_ne same]
        simp [Ne.symm same]
    · rw [if_neg flagged]
      simp [flagged]
  rw [now, holds key index]
  constructor
  · rintro (⟨relay, found, named, held⟩ | ⟨rfl, named, held⟩)
    · exact ⟨relay, Table.append_of found, named, held⟩
    · exact ⟨new, List.getElem?_concat_length, named, held⟩
  · rintro ⟨relay, found, named, held⟩
    rcases Table.concat_iff.mp found with old | ⟨last, rfl⟩
    · exact .inl ⟨relay, old, named, held⟩
    · exact .inr ⟨last, named, held⟩

end Holds

section Apart
variable {session next : Session} {connId key : ConnId}

/-- A removal touches the entries of its own key alone. -/
theorem change_apart (session : Session) (removal : Removal) (change : Relay → Relay)
    (other : key ≠ connId) :
    (session.change connId removal change).tcpWriters key = session.tcpWriters key ∧
      (session.change connId removal change).aborts key = session.aborts key := by
  cases removal with
  | nothing => exact ⟨rfl, rfl⟩
  | writer => exact ⟨Function.update_of_ne other .., rfl⟩
  | both => exact ⟨Function.update_of_ne other .., Function.update_of_ne other ..⟩

theorem insert_apart (other : key ≠ connId) (body : Body) :
    (session.insert connId body).tcpWriters key = session.tcpWriters key ∧
      (session.insert connId body).aborts key = session.aborts key := by
  have before (removal : Removal) := change_apart session removal (Relay.release removal) other
  unfold Session.insert
  cases body.isTcp with
  | true => exact ⟨(Function.update_of_ne other ..).trans (before .both).1,
      (Function.update_of_ne other ..).trans (before .both).2⟩
  | false => exact ⟨(Function.update_of_ne other ..).trans (before .writer).1, (before .writer).2⟩

/-- A step for one `conn_id` leaves the entries of every other one alone. -/
theorem step_apart {action : Action} (moved : step session action = some next)
    (other : session.subject action ≠ some key) :
    next.tcpWriters key = session.tcpWriters key ∧ next.aborts key = session.aborts key := by
  cases action with
  | handle message starts =>
      cases moved
      have apart {connId : ConnId} (named : message.connId? = some connId) : key ≠ connId := by
        rintro rfl
        exact other named
      have started {connId : ConnId} (differ : key ≠ connId) (body : Body) :
          (if starts then session.insert connId body else session).tcpWriters key =
              session.tcpWriters key ∧
            (if starts then session.insert connId body else session).aborts key =
              session.aborts key := by
        split
        · exact insert_apart differ body
        · exact ⟨rfl, rfl⟩
      cases message with
      | connect | exec | push => exact started (apart rfl) _
      | data connId data =>
          simp only [Session.handleSend]
          split <;> exact ⟨rfl, rfl⟩
      | close | abort | resize => exact change_apart _ _ _ (apart rfl)
      | pull | ping | pong | error | reset | exitStatus => exact ⟨rfl, rfl⟩
  | relay index action =>
      rw [step] at moved
      split at moved
      · contradiction
      · next relay found =>
          obtain ⟨body, -, rfl⟩ := Option.map_eq_some_iff.mp moved
          have differ : key ≠ relay.connId := by
            rintro rfl
            exact other (congrArg (Option.map Relay.connId) found)
          exact change_apart session _ (Relay.release (relay.body.removes action)) differ

end Apart

/-- The maps agree with the relays, whose `conn_id`s differ. -/
structure Inv (session : Session) : Prop where
  writers : Holds Body.registered session.tcpWriters session.relays
  aborts : Holds Body.abortable session.aborts session.relays
  released : ∀ relay ∈ session.relays, relay.body.Released
  calm : ∀ relay ∈ session.relays, relay.body.panicked = false
  distinct : (session.relays.map Relay.connId).Nodup
  quiet : ∀ relay ∈ session.relays, relay.disturbed = false → relay.body.Quiet

theorem Holds.empty (flag : Body → Bool) : Holds flag (fun _ => none) [] := by
  intro key index
  constructor
  · intro entry
    cases entry
  · rintro ⟨relay, found, -⟩
    rw [List.getElem?_nil] at found
    cases found

theorem Inv.start : Inv start where
  writers := .empty _
  aborts := .empty _
  released _ member := absurd member List.not_mem_nil
  calm _ member := absurd member List.not_mem_nil
  distinct := .nil
  quiet _ member := absurd member List.not_mem_nil

/-- These maps are exact. -/
theorem Inv.exact {session : Session} (inv : Inv session) : Exact session := by
  have unfinished (key : ConnId) (index : Nat)
      (entry : session.tcpWriters key = some index ∨ session.aborts key = some index) :
      ∃ relay, session.relays[index]? = some relay ∧ relay.connId = key ∧
        relay.body.finished = false := by
    have flagged : ∃ relay, session.relays[index]? = some relay ∧ relay.connId = key ∧
        (relay.body.registered = true ∨ relay.body.abortable = true) := by
      rcases entry with writer | abort
      · obtain ⟨relay, found, named, held⟩ := (inv.writers key index).mp writer
        exact ⟨relay, found, named, .inl held⟩
      · obtain ⟨relay, found, named, held⟩ := (inv.aborts key index).mp abort
        exact ⟨relay, found, named, .inr held⟩
    obtain ⟨relay, found, named, held⟩ := flagged
    have member := List.mem_of_getElem? found
    exact ⟨relay, found, named, (inv.released relay member).unfinished (inv.calm relay member) held⟩
  refine ⟨unfinished, ?_, ?_, ?_⟩
  · intro index relay found tcp _ undisturbed
    have quiet := inv.quiet relay (List.mem_of_getElem? found) undisturbed
    have held : relay.body.registered = true ∧ relay.body.abortable = true := by
      cases body : relay.body with
      | tcp state =>
          rw [body] at quiet
          exact ⟨TcpRelay.Quiet.registered quiet, TcpRelay.Quiet.abortable quiet⟩
      | pty state | push state =>
          rw [body] at tcp
          cases tcp
    exact ⟨(inv.writers _ _).mpr ⟨relay, found, rfl, held.1⟩,
      (inv.aborts _ _).mpr ⟨relay, found, rfl, held.2⟩⟩
  · intro action next key moved
    exact step_apart moved
  · intro finished key
    have absent {index : Nat}
        (entry : session.tcpWriters key = some index ∨ session.aborts key = some index) :
        False := by
      obtain ⟨relay, found, -, running⟩ := unfinished key index entry
      cases running.symm.trans (finished relay (List.mem_of_getElem? found))
    constructor
    · exact Option.eq_none_iff_forall_ne_some.mpr fun index writer => absent (.inl writer)
    · exact Option.eq_none_iff_forall_ne_some.mpr fun index abort => absent (.inr abort)

section Steps
variable {session next : Session} {connId : ConnId}

/-- One place holds the only relay of a `conn_id`. -/
theorem Inv.only (inv : Inv session) {i j : Nat} {relay other : Relay}
    (found : session.relays[i]? = some relay) (found' : session.relays[j]? = some other)
    (same : relay.connId = other.connId) : i = j := by
  have inside : i < (session.relays.map Relay.connId).length := by
    rw [List.length_map]
    exact (List.getElem?_eq_some_iff.mp found).1
  apply (List.getElem?_inj inside inv.distinct).mp
  rw [List.getElem?_map, List.getElem?_map, found, found']
  exact congrArg some same

/-- A change keeps every `conn_id`. -/
theorem change_connIds {removal : Removal} {change : Relay → Relay}
    (named : ∀ relay, (change relay).connId = relay.connId) :
    (session.change connId removal change).relays.map Relay.connId =
      session.relays.map Relay.connId := by
  rw [Session.change, List.map_map]
  apply List.map_congr_left
  intro relay _
  rw [Function.comp]
  split
  · exact named relay
  · rfl

/-- The maps agree with the relays when entries of one `conn_id` are removed. -/
theorem Inv.release (inv : Inv session) (connId : ConnId) (removal : Removal) :
    Holds Body.registered (session.change connId removal (Relay.release removal)).tcpWriters
        (session.change connId removal (Relay.release removal)).relays ∧
      Holds Body.abortable (session.change connId removal (Relay.release removal)).aborts
        (session.change connId removal (Relay.release removal)).relays :=
  ⟨inv.writers.change (fun _ => rfl) fun _ => Body.release_registered,
    inv.aborts.change (fun _ => rfl) fun _ => Body.release_abortable⟩

/-- The relays of one `conn_id` lose their entries and change in a way that keeps what is known. -/
theorem Inv.change (inv : Inv session) {removal : Removal} {change : Relay → Relay}
    (named : ∀ relay, (change relay).connId = relay.connId)
    (loses : ∀ relay : Relay, relay.body.Loses removal (change relay).body)
    (released : ∀ relay : Relay, relay.body.Released → (change relay).body.Released)
    (calm : ∀ relay ∈ (session.change connId removal change).relays, relay.body.panicked = false)
    (quiet : ∀ relay ∈ session.relays, relay.connId = connId →
      (relay.disturbed = false → relay.body.Quiet) → (change relay).disturbed = false →
        (change relay).body.Quiet) : Inv (session.change connId removal change) := by
  refine ⟨inv.writers.change named fun relay => (loses relay).registered,
    inv.aborts.change named fun relay => (loses relay).abortable, ?_, calm, ?_, ?_⟩
  · intro relay member
    obtain ⟨before, inside, rfl⟩ := List.mem_map.mp member
    split
    · exact released before (inv.released before inside)
    · exact inv.released before inside
  · rw [change_connIds named]
    exact inv.distinct
  · intro relay member
    obtain ⟨before, inside, rfl⟩ := List.mem_map.mp member
    split
    · next own => exact quiet before inside own (inv.quiet before inside)
    · exact inv.quiet before inside

/-- A new relay begins quiet and with its entries. -/
theorem Inv.insert (inv : Inv session) {body : Body}
    (fresh : ∀ relay ∈ session.relays, relay.connId ≠ connId) (registered : body.registered = true)
    (abortable : body.abortable = body.isTcp) (released : body.Released)
    (calm : body.panicked = false) (quiet : body.Quiet) : Inv (session.insert connId body) := by
  have unchanged (removal : Removal) :
      (session.change connId removal (Relay.release removal)).relays = session.relays := by
    have same : ∀ relay ∈ session.relays,
        (if relay.connId = connId then relay.release removal else relay) = id relay :=
      fun relay member => if_neg (fresh relay member)
    exact (List.map_congr_left same).trans (List.map_id _)
  let new : Relay := ⟨connId, body, false⟩
  have members {Part : Relay → Prop} (old : ∀ relay ∈ session.relays, Part relay) (last : Part new) :
      ∀ relay ∈ (session.insert connId body).relays, Part relay := by
    intro relay member
    rw [Session.insert, List.mem_append, unchanged, List.mem_singleton] at member
    rcases member with inside | rfl
    · exact old relay inside
    · exact last
  let removal : Removal := if body.isTcp then .both else .writer
  let before := session.change connId removal (Relay.release removal)
  have count : before.relays.length = session.relays.length := List.length_map _
  obtain ⟨writers, aborts⟩ := inv.release connId removal
  refine ⟨?_, ?_, members inv.released released, members inv.calm calm, ?_,
    members inv.quiet fun _ => quiet⟩
  · have absent : before.tcpWriters connId = none := by
      cases tcp : body.isTcp <;> simp [before, removal, Session.change, Removal.keepsWriter, tcp]
    have holds := writers.append new fun _ => absent
    rw [if_pos registered, count] at holds
    exact holds
  · have absent (tcp : body.abortable = true) : before.aborts connId = none := by
      rw [abortable] at tcp
      simp [before, removal, Session.change, Removal.keepsAbort, tcp]
    have holds := aborts.append new absent
    rw [count, show new.body.abortable = body.isTcp from abortable] at holds
    exact holds
  · rw [Session.insert, unchanged, List.map_append]
    refine List.nodup_append.mpr ⟨inv.distinct, List.pairwise_singleton _ _, ?_⟩
    intro key member other last
    obtain ⟨relay, inside, rfl⟩ := List.mem_map.mp member
    rw [List.map_singleton, List.mem_singleton] at last
    rw [last]
    exact fresh relay inside

/-- A relay's own step changes that relay alone. -/
theorem Inv.relay (inv : Inv session) {index : Nat} {action : RelayAction}
    (moved : Registry.step session (.relay index action) = some next)
    (calm : ∀ relay ∈ next.relays, relay.body.panicked = false) : Inv next := by
  rw [Registry.step] at moved
  split at moved
  · contradiction
  · next relay found =>
      obtain ⟨body, stepped, rfl⟩ := Option.map_eq_some_iff.mp moved
      have loses := Body.Loses.step stepped
      have changed {before : Relay} (was : (session.change relay.connId (relay.body.removes action)
          (Relay.release (relay.body.removes action))).relays[index]? = some before) :
          before = relay.release (relay.body.removes action) := by
        rw [Session.change, List.getElem?_map, found] at was
        cases was
        exact if_pos rfl
      -- The relay's entries are the only ones of its `conn_id`.
      have others {place : Nat} {after : Relay}
          (inside : ((session.change relay.connId (relay.body.removes action)
            (Relay.release (relay.body.removes action))).put index body
              action.disturbs).relays[place]? = some after) :
          place = index ∧
              after = ⟨relay.connId, body, relay.disturbed || action.disturbs⟩ ∨
            session.relays[place]? = some after := by
        rcases Table.modify_cases inside with ⟨before, was, rfl, result⟩ | ⟨was, apart⟩
        · rw [result, changed was]
          exact .inl ⟨rfl, rfl⟩
        · rw [Session.change, List.getElem?_map, Option.map_eq_some_iff] at was
          obtain ⟨before, was, rfl⟩ := was
          have other : before.connId ≠ relay.connId := fun same =>
            apart (inv.only was found same).symm
          rw [if_neg other]
          exact .inr was
      refine ⟨?_, ?_, ?_, calm, ?_, ?_⟩
      · refine (inv.release _ _).1.modify (fun _ _ => rfl) fun before was => ?_
        rw [changed was]
        exact loses.registered.trans Body.release_registered.symm
      · refine (inv.release _ _).2.modify (fun _ _ => rfl) fun before was => ?_
        rw [changed was]
        exact loses.abortable.trans Body.release_abortable.symm
      · intro after member
        obtain ⟨place, inside⟩ := List.mem_iff_getElem?.mp member
        rcases others inside with ⟨-, rfl⟩ | was
        · exact (inv.released relay (List.mem_of_getElem? found)).step stepped
        · exact inv.released after (List.mem_of_getElem? was)
      · rw [Session.put, Table.map_modify, change_connIds]
        · exact inv.distinct
        · exact fun _ => rfl
        · exact fun _ => rfl
      · intro after member undisturbed
        obtain ⟨place, inside⟩ := List.mem_iff_getElem?.mp member
        rcases others inside with ⟨-, rfl⟩ | was
        · have both := Bool.or_eq_false_iff.mp undisturbed
          have quiet := inv.quiet relay (List.mem_of_getElem? found) both.1
          exact (quiet.step both.2 stepped).1
        · exact inv.quiet after (List.mem_of_getElem? was) undisturbed

/-- The chunk of a `Data` goes to one relay and changes no entry. -/
theorem Inv.data (inv : Inv session) {index : Nat} {data : Bytes}
    (calm : ∀ relay ∈ session.relays.modify index fun relay =>
      { relay with body := relay.body.handleData data }, relay.body.panicked = false) :
    Inv { session with relays := session.relays.modify index fun relay =>
      { relay with body := relay.body.handleData data } } := by
  have members {Part : Relay → Prop} (old : ∀ relay ∈ session.relays, Part relay)
      (changed : ∀ relay ∈ session.relays,
        Part { relay with body := relay.body.handleData data }) :
      ∀ relay ∈ session.relays.modify index fun relay =>
        { relay with body := relay.body.handleData data }, Part relay := by
    intro relay member
    obtain ⟨place, inside⟩ := List.mem_iff_getElem?.mp member
    rcases Table.modify_cases inside with ⟨before, was, -, rfl⟩ | ⟨was, -⟩
    · exact changed before (List.mem_of_getElem? was)
    · exact old relay (List.mem_of_getElem? was)
  have loses (relay : Relay) := Body.Loses.handleData data relay.body
  refine ⟨inv.writers.modify (fun _ _ => rfl) fun relay _ => ?_,
    inv.aborts.modify (fun _ _ => rfl) fun relay _ => ?_, ?_, calm, ?_, ?_⟩
  · exact (loses relay).registered.trans (Bool.and_true _)
  · exact (loses relay).abortable.trans (Bool.and_true _)
  · exact members inv.released fun relay inside => (inv.released relay inside).handleData
  · rw [Table.map_modify]
    · exact inv.distinct
    · exact fun _ => rfl
  · exact members inv.quiet fun relay inside undisturbed =>
      (inv.quiet relay inside undisturbed).handleData

/-- Every admitted step keeps the maps in agreement with the relays. -/
theorem Inv.step (inv : Inv session) {action : Action} (admitted : Admitted session action)
    (moved : Registry.step session action = some next) : Inv next := by
  obtain ⟨fresh, calm⟩ := admitted
  replace calm := calm next moved
  cases action with
  | relay index action => exact inv.relay moved calm
  | handle message starts =>
      cases moved
      have started {connId : ConnId} {body : Body}
          (fresh : starts = true → ∀ relay ∈ session.relays, relay.connId ≠ connId)
          (registered : body.registered = true) (abortable : body.abortable = body.isTcp)
          (released : body.Released) (unpanicked : body.panicked = false) (quiet : body.Quiet) :
          Inv (if starts then session.insert connId body else session) := by
        split
        · next yes => exact inv.insert (fresh yes) registered abortable released unpanicked quiet
        · exact inv
      cases message with
      | connect connId host port =>
          refine started ?_ rfl rfl nofun rfl TcpRelay.Quiet.start
          rintro rfl
          exact fresh connId rfl
      | exec connId cmd cols rows term =>
          refine started ?_ rfl rfl nofun rfl trivial
          rintro rfl
          exact fresh connId rfl
      | push connId path =>
          refine started ?_ rfl rfl nofun rfl trivial
          rintro rfl
          exact fresh connId rfl
      | data connId data =>
          simp only [Session.handleSend]
          split
          · next index found =>
              simp only [Session.handleSend, found] at calm
              exact inv.data calm
          · exact inv
      | close connId =>
          refine inv.change (fun _ => rfl) (fun _ => Body.Loses.handleClose _) ?_ calm ?_
          · exact fun relay released => released.handleClose
          · exact fun relay _ _ _ => nofun
      | abort connId =>
          refine inv.change (fun _ => rfl) (fun _ => Body.Loses.handleAbort _) ?_ calm ?_
          · exact fun relay released => released.handleAbort
          · exact fun relay _ _ _ => nofun
      | resize connId cols rows =>
          refine inv.change (fun _ => rfl) (fun _ => Body.Loses.handleResize _ _) ?_ calm ?_
          · exact fun relay released => released.handleResize
          · intro relay _ _ quiet undisturbed
            exact Body.Quiet.handleResize (quiet undisturbed)
      | pull | ping | pong | error | reset | exitStatus => exact inv

end Steps

/-- The maps of a session are exact in every state that it reaches, if no `conn_id` starts two
relays and no relay panics. -/
theorem registry_exact {actions : List Action} {session : Session}
    (admitted : Machine.Along step Admitted start actions)
    (ran : Machine.run step start actions = some session) : Exact session :=
  (Machine.run_along (fun inv admitted moved => Inv.step inv admitted moved) Inv.start admitted
    ran).exact

/-- A session starts a TCP relay and a push relay and processes a `Close` for the first one, whose
writer is removed while its signal stays. -/
theorem registry_exact_of_two_relays : ∃ session, Machine.run step start
    [.handle (.connect 1 "host" 80) true, .handle (.push 2 "/tmp") true,
      .handle (.close 1) true] = some session ∧
    session.tcpWriters 1 = none ∧ session.aborts 1 = some 0 ∧ session.tcpWriters 2 = some 1 ∧
    Exact session := by
  let actions : List Action := [.handle (.connect 1 "host" 80) true, .handle (.push 2 "/tmp") true,
    .handle (.close 1) true]
  have exact_of : Machine.Along step Admitted start actions → ∀ session,
      Machine.run step start actions = some session → Exact session :=
    fun admitted _ ran => registry_exact admitted ran
  refine ⟨_, rfl, rfl, rfl, rfl, exact_of ⟨⟨?_, ?_⟩, ⟨?_, ?_⟩, ⟨?_, ?_⟩, trivial⟩ _ rfl⟩
  · intro connId starts relay member
    exact absurd member List.not_mem_nil
  · intro next moved relay member
    cases moved
    rw [List.mem_singleton.mp member]
    rfl
  · intro connId starts relay member
    cases starts
    rw [List.mem_singleton.mp member]
    decide +kernel
  · intro next moved relay member
    cases moved
    rcases List.mem_cons.mp member with rfl | member
    · rfl
    · rw [List.mem_singleton.mp member]
      rfl
  · intro connId starts
    cases starts
  · intro next moved relay member
    cases moved
    rcases List.mem_cons.mp member with rfl | member
    · rfl
    · rw [List.mem_singleton.mp member]
      rfl

end Tunnix.Registry
