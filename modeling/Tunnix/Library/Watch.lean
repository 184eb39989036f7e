import Tunnix.Library.Machine

namespace Watch

/-- A version of the file has a modification time, and it parses or does not. -/
structure Version (Config : Type*) where
  mtime : Nat
  content : Option Config
deriving DecidableEq

/-- A process reads the file once when it starts, and then its watcher polls the modification time. A
pass of the watcher waits before it reads a new version and before it reads it again. -/
inductive Phase (Config : Type*) where
  | reading
  | starting (config : Config)
  | polling
  | debouncing (mtime : Nat)
  | retrying (mtime : Nat)
  | applying (config : Config)
deriving DecidableEq

/-- The last two fields record whether the pass underway began after the last edit, and whether such
a pass has been completed. -/
structure State (Config Live : Type*) where
  file : Option (Version Config)
  clock : Nat
  phase : Phase Config
  lastMtime : Nat
  live : Option Live
  fresh : Bool
  passed : Bool
deriving DecidableEq

/-- The first two actions belong to the writers of the file, the others to the process. -/
inductive Action (Config Input : Type*) where
  | edit (content : Option Config)
  | remove
  | start
  | watch
  | poll
  | read
  | retry
  | apply (input : Input)
deriving DecidableEq

variable {Config Live Input : Type*}

/-- A run begins without the file and without the process. -/
def State.start : State Config Live := ⟨none, 0, .reading, 0, none, false, false⟩

/-- The file is read if it is there and parses. -/
def State.parsed (state : State Config Live) : Option Config :=
  state.file.bind Version.content

/-- A pass ends, and the next one polls again. -/
def State.endPass (state : State Config Live) : State Config Live :=
  { state with phase := .polling, passed := state.passed || state.fresh }

/-- A new version that was read is applied, and the time of the poll counts as its time. -/
def State.take (state : State Config Live) (mtime : Nat) (config : Config) : State Config Live :=
  { state with phase := .applying config, lastMtime := mtime }

section Step
variable (boot : Config → Option Live) (process : Input → Config → Live → Live)

/-- Every edit has a fresh modification time. A file that is missing when the watcher begins counts
as one of time zero. -/
def step (state : State Config Live) : Action Config Input → Option (State Config Live)
  | .edit content =>
      some { state with
        file := some ⟨state.clock + 1, content⟩
        clock := state.clock + 1
        fresh := false
        passed := false }
  | .remove => some { state with file := none, fresh := false, passed := false }
  | .start =>
      match state.phase with
      | .reading =>
          state.parsed.bind fun config => (boot config).map fun live =>
            { state with phase := .starting config, live := some live }
      | _ => none
  | .watch =>
      match state.phase with
      | .starting _ =>
          some { state with
            phase := .polling
            lastMtime := (state.file.map Version.mtime).getD 0 }
      | _ => none
  | .poll =>
      match state.phase with
      | .polling =>
          match state.file with
          | none => some { state with passed := true }
          | some version =>
              if version.mtime = state.lastMtime then some { state with passed := true }
              else some { state with phase := .debouncing version.mtime, fresh := true }
      | _ => none
  | .read =>
      match state.phase with
      | .debouncing mtime =>
          match state.parsed with
          | some config => some (state.take mtime config)
          | none => some { state with phase := .retrying mtime }
      | _ => none
  | .retry =>
      match state.phase with
      | .retrying mtime =>
          match state.parsed with
          | some config => some (state.take mtime config)
          | none => some state.endPass
      | _ => none
  | .apply input =>
      match state.phase with
      | .applying config =>
          some { state with live := state.live.map (process input config) }.endPass
      | _ => none

end Step

/-- When the watcher begins, the file is missing or still says what the process has read, and every
applied version is good. -/
def Timely (good : Config → Live → Prop) (state : State Config Live) : Action Config Input → Prop
  | .watch => ∀ config, state.phase = .starting config → ∀ version, state.file = some version →
      version.content = some config
  | .apply _ => ∀ config, state.phase = .applying config → ∀ live, state.live = some live →
      good config live
  | _ => True

section Invariant
variable (sound : Live → Prop) (agrees : Config → Live → Prop)

/-- A version whose time the watcher knows is in force. -/
def State.Known (state : State Config Live) (live : Live) : Prop :=
  ∀ version, state.file = some version → version.mtime = state.lastMtime →
    ∃ config, version.content = some config ∧ agrees config live

/-- The pass underway polled this time, which is the one of the last version if the pass is fresh. -/
def State.Polled (state : State Config Live) (mtime : Nat) : Prop :=
  mtime ≤ state.clock ∧
    (state.fresh = true → ∀ version, state.file = some version → version.mtime = mtime)

/-- Each phase has its own part of the invariant. -/
def State.Stage (state : State Config Live) : Prop :=
  match state.phase with
  | .reading => state.passed = false
  | .starting config => state.passed = false ∧
      ∃ live, state.live = some live ∧ sound live ∧ agrees config live
  | .polling => ∃ live, state.live = some live ∧ sound live ∧ state.Known agrees live
  | .debouncing mtime | .retrying mtime => state.Polled mtime ∧
      ∃ live, state.live = some live ∧ sound live ∧ state.Known agrees live
  | .applying config => state.Polled state.lastMtime ∧
      ∃ live, state.live = some live ∧ sound live ∧ ∀ version, state.file = some version →
        version.mtime = state.lastMtime → version.content = some config

/-- Times never lie in the future, and a completed pass knows the last version. -/
structure Inv (state : State Config Live) : Prop where
  old : ∀ version, state.file = some version → 0 < version.mtime ∧ version.mtime ≤ state.clock
  last : state.lastMtime ≤ state.clock
  stage : state.Stage sound agrees
  passed : state.passed = true → ∀ version config, state.file = some version →
    version.content = some config → version.mtime = state.lastMtime ∧ state.phase = .polling

end Invariant

section Preservation
variable {boot : Config → Option Live} {process : Input → Config → Live → Live}
variable {sound : Live → Prop} {agrees : Config → Live → Prop} {good : Config → Live → Prop}
variable {state next : State Config Live}

theorem Inv.start : Inv sound agrees (State.start : State Config Live) where
  old version file := by cases file
  last := Nat.le_refl _
  stage := rfl
  passed done := by cases done

/-- A new version is later than all times that the watcher knows. -/
theorem Inv.write (inv : Inv sound agrees state) {file : Option (Version Config)} {clock : Nat}
    (later : state.clock ≤ clock)
    (new : ∀ version, file = some version → state.clock < version.mtime ∧ version.mtime ≤ clock) :
    Inv sound agrees { state with file, clock, fresh := false, passed := false } where
  old version some_ := by
    have bounds := new version some_
    change 0 < version.mtime ∧ version.mtime ≤ clock
    omega
  last := Nat.le_trans inv.last later
  stage := by
    have stage := inv.stage
    have unknown {version : Version Config} (some_ : file = some version)
        (time : version.mtime = state.lastMtime) : False := by
      have bounds := new version some_
      have last := inv.last
      omega
    unfold State.Stage at stage ⊢
    cases phase : state.phase with
    | reading => rfl
    | starting config =>
        rw [phase] at stage
        exact ⟨rfl, stage.2⟩
    | polling =>
        rw [phase] at stage
        obtain ⟨live, built, sound, -⟩ := stage
        exact ⟨live, built, sound, fun version some_ time => (unknown some_ time).elim⟩
    | debouncing mtime | retrying mtime =>
        rw [phase] at stage
        obtain ⟨⟨bound, -⟩, live, built, sound, -⟩ := stage
        exact ⟨⟨Nat.le_trans bound later, nofun⟩, live, built, sound,
          fun version some_ time => (unknown some_ time).elim⟩
    | applying config =>
        rw [phase] at stage
        obtain ⟨⟨bound, -⟩, live, built, sound, -⟩ := stage
        exact ⟨⟨Nat.le_trans bound later, nofun⟩, live, built, sound,
          fun version some_ time => (unknown some_ time).elim⟩
  passed done := by cases done

/-- The process begins in agreement with the version that it has read. -/
theorem Inv.startup (inv : Inv sound agrees state)
    (boots : ∀ config live, boot config = some live → sound live ∧ agrees config live)
    (moved : step boot process state .start = some next) : Inv sound agrees next := by
  have stage := inv.stage
  simp only [step] at moved
  split at moved
  · next phase =>
      obtain ⟨config, -, moved⟩ := Option.bind_eq_some_iff.mp moved
      obtain ⟨live, built, rfl⟩ := Option.map_eq_some_iff.mp moved
      rw [State.Stage, phase] at stage
      constructor
      case old => exact inv.old
      case last => exact inv.last
      case stage => exact ⟨stage, live, rfl, boots config live built⟩
      case passed => exact fun done => absurd (stage.symm.trans done) Bool.false_ne_true
  · contradiction

/-- The watcher begins with the time of the version that the process has read. -/
theorem Inv.watch (inv : Inv sound agrees state)
    (timely : Timely good state (.watch : Action Config Input))
    (moved : step boot process state .watch = some next) : Inv sound agrees next := by
  have stage := inv.stage
  simp only [step] at moved
  split at moved
  · next config phase =>
      cases moved
      rw [State.Stage, phase] at stage
      obtain ⟨quiet, live, built, sound, agrees⟩ := stage
      constructor
      case old => exact inv.old
      case last =>
        change (state.file.map Version.mtime).getD 0 ≤ state.clock
        cases file : state.file with
        | none => exact Nat.zero_le _
        | some version => exact (inv.old version file).2
      case stage =>
        exact ⟨live, built, sound, fun version file _ =>
          ⟨config, timely config phase version file, agrees⟩⟩
      case passed => exact fun done => absurd (quiet.symm.trans done) Bool.false_ne_true
  · contradiction

/-- A pass that finds no new time has nothing to do. -/
theorem Inv.poll (inv : Inv sound agrees state)
    (moved : step boot process state .poll = some next) : Inv sound agrees next := by
  have stage := inv.stage
  simp only [step] at moved
  split at moved
  · next phase =>
      rw [State.Stage, phase] at stage
      split at moved
      · next missing =>
          cases moved
          constructor
          case old => exact inv.old
          case last => exact inv.last
          case stage =>
            rw [State.Stage, phase]
            exact stage
          case passed =>
            intro _ version config file
            change state.file = some version at file
            rw [missing] at file
            cases file
      · next version present =>
          split at moved
          · next same =>
              cases moved
              constructor
              case old => exact inv.old
              case last => exact inv.last
              case stage =>
                rw [State.Stage, phase]
                exact stage
              case passed =>
                intro _ other config file _
                obtain rfl := Option.some.inj (present.symm.trans file)
                exact ⟨same, phase⟩
          · next differs =>
              cases moved
              constructor
              case old => exact inv.old
              case last => exact inv.last
              case stage =>
                refine ⟨⟨(inv.old version present).2, fun _ other file => ?_⟩, stage⟩
                obtain rfl := Option.some.inj (present.symm.trans file)
                rfl
              case passed =>
                intro done other config file content
                obtain rfl := Option.some.inj (present.symm.trans file)
                exact absurd (inv.passed done version config present content).1 differs
  · contradiction

/-- A version that was read is applied next. -/
theorem Inv.take (inv : Inv sound agrees state) {mtime : Nat} {config : Config}
    (polled : state.Polled mtime)
    (stage : ∃ live, state.live = some live ∧ sound live ∧ state.Known agrees live)
    (parsed : state.parsed = some config) (busy : state.phase ≠ .polling) :
    Inv sound agrees (state.take mtime config) where
  old := inv.old
  last := polled.1
  stage := by
    obtain ⟨live, built, sound, -⟩ := stage
    refine ⟨polled, live, built, sound, fun version file _ => ?_⟩
    change state.file = some version at file
    rw [State.parsed, file] at parsed
    exact parsed
  passed done version other file content :=
    absurd (inv.passed done version other file content).2 busy

/-- A read without success is repeated once. -/
theorem Inv.read (inv : Inv sound agrees state)
    (moved : step boot process state .read = some next) : Inv sound agrees next := by
  have stage := inv.stage
  simp only [step] at moved
  split at moved
  · next mtime phase =>
      rw [State.Stage, phase] at stage
      have busy : state.phase ≠ .polling := by
        rw [phase]
        nofun
      split at moved
      · next config parsed =>
          cases moved
          exact inv.take stage.1 stage.2 parsed busy
      · next failed =>
          cases moved
          constructor
          case old => exact inv.old
          case last => exact inv.last
          case stage => exact stage
          case passed =>
            exact fun done version config file content =>
              absurd (inv.passed done version config file content).2 busy
  · contradiction

/-- A pass that could not read the version leaves its time unknown. -/
theorem Inv.retry (inv : Inv sound agrees state)
    (moved : step boot process state .retry = some next) : Inv sound agrees next := by
  have stage := inv.stage
  simp only [step] at moved
  split at moved
  · next mtime phase =>
      rw [State.Stage, phase] at stage
      split at moved
      · next config parsed =>
          cases moved
          apply inv.take stage.1 stage.2 parsed
          rw [phase]
          nofun
      · next failed =>
          cases moved
          constructor
          case old => exact inv.old
          case last => exact inv.last
          case stage => exact stage.2
          case passed =>
            intro _ version config file content
            change state.file = some version at file
            rw [State.parsed, file] at failed
            exact absurd (failed.symm.trans content) nofun
  · contradiction

/-- An applied version is in force if it is still the last one. -/
theorem Inv.apply (inv : Inv sound agrees state) {input : Input}
    (keeps : ∀ config live, sound live → sound (process input config live))
    (applies : ∀ config live, sound live → good config live →
      agrees config (process input config live))
    (timely : Timely good state (.apply input : Action Config Input))
    (moved : step boot process state (.apply input) = some next) : Inv sound agrees next := by
  have stage := inv.stage
  simp only [step] at moved
  split at moved
  · next config phase =>
      cases moved
      rw [State.Stage, phase] at stage
      obtain ⟨polled, live, built, sound, current⟩ := stage
      have reached : state.live.map (process input config) = some (process input config live) := by
        rw [built]
        rfl
      constructor
      case old => exact inv.old
      case last => exact inv.last
      case stage =>
        refine ⟨_, reached, keeps config live sound, fun version file time => ?_⟩
        exact ⟨config, current version file time, applies config live sound
          (timely config phase live built)⟩
      case passed =>
        intro done version other file content
        change (state.passed || state.fresh) = true at done
        rw [Bool.or_eq_true] at done
        rcases done with before | fresh
        · have idle := (inv.passed before version other file content).2
          rw [phase] at idle
          cases idle
        · exact ⟨polled.2 fresh version file, rfl⟩
  · contradiction

/-- Every timely step keeps the invariant. -/
theorem Inv.step {action : Action Config Input}
    (boots : ∀ config live, boot config = some live → sound live ∧ agrees config live)
    (keeps : ∀ input config live, sound live → sound (process input config live))
    (applies : ∀ input config live, sound live → good config live →
      agrees config (process input config live))
    (inv : Inv sound agrees state) (timely : Timely good state action)
    (moved : Watch.step boot process state action = some next) : Inv sound agrees next := by
  cases action with
  | edit content =>
      cases moved
      refine inv.write (Nat.le_succ _) fun version some_ => ?_
      cases some_
      exact ⟨Nat.lt_succ_self _, Nat.le_refl _⟩
  | remove =>
      cases moved
      exact inv.write (Nat.le_refl _) nofun
  | start => exact inv.startup boots moved
  | watch => exact inv.watch timely moved
  | poll => exact inv.poll moved
  | read => exact inv.read moved
  | retry => exact inv.retry moved
  | apply input => exact inv.apply (keeps input) (applies input) timely moved

/-- Every timely run keeps the invariant. -/
theorem Inv.run {actions : List (Action Config Input)}
    (boots : ∀ config live, boot config = some live → sound live ∧ agrees config live)
    (keeps : ∀ input config live, sound live → sound (process input config live))
    (applies : ∀ input config live, sound live → good config live →
      agrees config (process input config live))
    (timely : Machine.Along (Watch.step boot process) (Timely good) .start actions)
    (ran : Machine.run (Watch.step boot process) .start actions = some state) :
    Inv sound agrees state :=
  Machine.run_along (fun inv now moved => Inv.step boots keeps applies inv now moved) Inv.start
    timely ran

/-- A completed pass has applied the last version. -/
theorem Inv.in_force (inv : Inv sound agrees state) (done : state.passed = true)
    {version : Version Config} {config : Config} (file : state.file = some version)
    (content : version.content = some config) : ∃ live, state.live = some live ∧
      agrees config live := by
  obtain ⟨time, phase⟩ := inv.passed done version config file content
  have stage := inv.stage
  rw [State.Stage, phase] at stage
  obtain ⟨live, built, -, known⟩ := stage
  obtain ⟨other, parsed, agrees⟩ := known version file time
  obtain rfl := Option.some.inj (content.symm.trans parsed)
  exact ⟨live, built, agrees⟩

/-- Every pass tries a version that does not parse, and leaves everything as it is. -/
theorem Inv.unparsed (inv : Inv sound agrees state) (idle : state.phase = .polling)
    {version : Version Config} (file : state.file = some version) (fails : version.content = none) :
    ∃ next, Machine.run (Watch.step boot process) state [.poll, .read, .retry] = some next ∧
      next.live = state.live ∧ next.lastMtime = state.lastMtime ∧ next.phase = .polling ∧
      next.file = state.file := by
  have stage := inv.stage
  rw [State.Stage, idle] at stage
  obtain ⟨live, -, -, known⟩ := stage
  have new : version.mtime ≠ state.lastMtime := by
    intro time
    obtain ⟨config, parsed, -⟩ := known version file time
    exact absurd (fails.symm.trans parsed) nofun
  obtain ⟨present, clock, phase, lastMtime, live, fresh, passed⟩ := state
  change present = some version at file
  change phase = .polling at idle
  subst file idle
  change version.mtime ≠ lastMtime at new
  have ran : Machine.run (Watch.step boot process)
      ⟨some version, clock, .polling, lastMtime, live, fresh, passed⟩ [.poll, .read, .retry] =
      some ⟨some version, clock, .polling, lastMtime, live, true, passed || true⟩ := by
    simp [Machine.run, Watch.step, State.parsed, State.endPass, fails, new]
  exact ⟨_, ran, rfl, rfl, rfl, rfl⟩

variable (sound agrees) in
/-- In a timely run, a completed pass has applied the last version, and every pass tries a version
that does not parse. -/
theorem last_version {actions : List (Action Config Input)}
    (boots : ∀ config live, boot config = some live → sound live ∧ agrees config live)
    (keeps : ∀ input config live, sound live → sound (process input config live))
    (applies : ∀ input config live, sound live → good config live →
      agrees config (process input config live))
    (timely : Machine.Along (Watch.step boot process) (Timely good) .start actions)
    (ran : Machine.run (Watch.step boot process) .start actions = some state)
    {version : Version Config} (file : state.file = some version) :
    (state.passed = true → ∀ config, version.content = some config →
      ∃ live, state.live = some live ∧ agrees config live) ∧
    (state.phase = .polling → version.content = none → ∃ next,
      Machine.run (Watch.step boot process) state [.poll, .read, .retry] = some next ∧
      next.live = state.live ∧ next.lastMtime = state.lastMtime ∧ next.phase = .polling ∧
      next.file = state.file) := by
  have inv : Inv sound agrees state := Inv.run boots keeps applies timely ran
  constructor
  · intro done config content
    exact inv.in_force done file content
  · intro idle fails
    exact inv.unparsed idle file fails

end Preservation

end Watch
