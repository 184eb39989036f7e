import Tunnix.Client.Rotation
import Tunnix.Library.Notify

namespace Tunnix.StreamRotation
variable {Key : Type}

/-- The GET of a stream carries the URL and the headers of one hot config and a session id. The flag
records that the id belongs to a rotation whose hot config came after the one that was loaded. -/
structure Opened where
  hot : HotClientConfig
  sessionId : UInt64
  torn : Bool
deriving DecidableEq

/-- `sse_read_loop` loads the hot config, reads the session id, awaits the response, compares the
ids, drains one permit under the read lock, and streams. -/
inductive Loop where
  | resting
  | loaded (hot : HotClientConfig)
  | requesting (opened : Opened)
  | answered (opened : Opened)
  | draining (opened : Opened)
  | streaming (opened : Opened)
deriving DecidableEq

/-- These GETs have not led to a stream yet. -/
def Loop.asked : Loop → Option Opened
  | .requesting opened | .answered opened | .draining opened => some opened
  | .resting | .loaded _ | .streaming _ => none

/-- The watcher and the SSE loop share the hot config, the session id and the reconnect signal. -/
structure State where
  rotation : Rotation.State
  loop : Loop
  reconnectSignal : Notify
deriving DecidableEq

def State.start (hot : HotClientConfig) (sessionId : UInt64) : State :=
  ⟨.start hot sessionId, .resting, .fresh⟩

/-- The last two actions belong to the watcher and to any `send_message` whose POST failed, and the
others to the loop. -/
inductive Action where
  | load
  | readSession
  | respond (ok : Bool)
  | compare
  | drain
  | select
  | chunk
  | wake
  | leave
  | watch (move : Rotation.Move)
  | sendFails
deriving DecidableEq

/-- Two hot configs lead to the same server with the same headers. -/
def sameTarget (first second : HotClientConfig) : Bool :=
  decide (first.serverBaseUrl = second.serverBaseUrl) &&
    decide (first.httpClient.source = second.httpClient.source)

/-- An id that is read between a store and its rotation is older than the hot config in force. -/
def Opened.read (hot : HotClientConfig) (rotation : Rotation.State) : Opened where
  hot := hot
  sessionId := rotation.shared.sessionId
  torn := decide (rotation.watcher ≠ .stored) && !sameTarget hot rotation.shared.hot

/-- A rotation may draw the id again that the GET carries. -/
def Opened.rotate (opened : Opened) (random : UInt64) (hot : HotClientConfig) : Opened :=
  { opened with
    torn := if opened.sessionId = random then !sameTarget opened.hot hot else opened.torn }

/-- The GET of the loop is unaware of a rotation. -/
def Loop.rotate (loop : Loop) (random : UInt64) (hot : HotClientConfig) : Loop :=
  match loop with
  | .requesting opened => .requesting (opened.rotate random hot)
  | .answered opened => .answered (opened.rotate random hot)
  | other => other

/-- The watcher needs the write lock to rotate the session id. -/
def State.watch (env : Env Key) (overrides : CliOverrides) (state : State) (move : Rotation.Move) :
    Option State :=
  match state.rotation.move env overrides move with
  | none => none
  | some rotation =>
      match move with
      | .rotate random =>
          match state.loop with
          | .draining _ => none
          | loop => some { state with
              rotation
              loop := loop.rotate random rotation.shared.hot }
      | .signal => some { state with rotation, reconnectSignal := state.reconnectSignal.notifyOne }
      | .store _ | .clear | .traffic _ => some { state with rotation }

/-- The client moves by one action, or refuses one that its state does not allow. -/
def step (env : Env Key) (overrides : CliOverrides) (state : State) : Action → Option State
  | .load =>
      match state.loop with
      | .resting => some { state with loop := .loaded state.rotation.shared.hot }
      | _ => none
  | .readSession =>
      match state.loop with
      | .loaded hot => some { state with loop := .requesting (.read hot state.rotation) }
      | _ => none
  | .respond ok =>
      match state.loop with
      | .requesting opened =>
          some { state with loop := if ok then .answered opened else .resting }
      | _ => none
  | .compare =>
      match state.loop with
      | .answered opened => some { state with
          loop :=
            if state.rotation.shared.sessionId = opened.sessionId then .draining opened
            else .resting }
      | _ => none
  | .drain =>
      match state.loop with
      | .draining opened => some { state with
          loop := .streaming opened
          reconnectSignal := state.reconnectSignal.drain }
      | _ => none
  -- `select!` polls `notified()` and finds a permit, or begins to wait.
  | .select =>
      match state.loop, state.reconnectSignal.waiter with
      | .streaming opened, .absent => some { state with
          loop := if state.reconnectSignal.poll.1 then .resting else .streaming opened
          reconnectSignal := state.reconnectSignal.poll.2 }
      | _, _ => none
  | .chunk =>
      match state.loop with
      | .streaming opened => some { state with
          loop := .streaming opened
          reconnectSignal := state.reconnectSignal.forget }
      | _ => none
  | .wake =>
      match state.loop, state.reconnectSignal.waiter with
      | .streaming _, .notified => some { state with
          loop := .resting
          reconnectSignal := { state.reconnectSignal with waiter := .absent } }
      | _, _ => none
  -- The stream ended, failed, or was silent for too long.
  | .leave =>
      match state.loop with
      | .streaming _ => some { state with
          loop := .resting
          reconnectSignal := state.reconnectSignal.forget }
      | _ => none
  | .watch move => state.watch env overrides move
  | .sendFails => some { state with reconnectSignal := state.reconnectSignal.notifyOne }

/-- These are the client's possible steps, one for each branch of the source. -/
inductive Move (env : Env Key) (overrides : CliOverrides) (state : State) : Action → State → Prop
  | load : state.loop = .resting →
      Move env overrides state .load { state with loop := .loaded state.rotation.shared.hot }
  | readSession {hot} : state.loop = .loaded hot →
      Move env overrides state .readSession
        { state with loop := .requesting (.read hot state.rotation) }
  | answered {opened} : state.loop = .requesting opened →
      Move env overrides state (.respond true) { state with loop := .answered opened }
  | refused {opened} : state.loop = .requesting opened →
      Move env overrides state (.respond false) { state with loop := .resting }
  | same {opened} : state.loop = .answered opened →
      state.rotation.shared.sessionId = opened.sessionId →
      Move env overrides state .compare { state with loop := .draining opened }
  | rotated {opened} : state.loop = .answered opened →
      Move env overrides state .compare { state with loop := .resting }
  | drain {opened} : state.loop = .draining opened →
      Move env overrides state .drain
        { state with loop := .streaming opened, reconnectSignal := state.reconnectSignal.drain }
  | waits {opened} : state.loop = .streaming opened → state.reconnectSignal.waiter = .absent →
      state.reconnectSignal.poll.1 = false →
      Move env overrides state .select
        { state with loop := .streaming opened, reconnectSignal := state.reconnectSignal.poll.2 }
  | takes {opened} : state.loop = .streaming opened → state.reconnectSignal.waiter = .absent →
      state.reconnectSignal.poll.1 = true →
      Move env overrides state .select
        { state with loop := .resting, reconnectSignal := state.reconnectSignal.poll.2 }
  | chunk {opened} : state.loop = .streaming opened →
      Move env overrides state .chunk
        { state with loop := .streaming opened, reconnectSignal := state.reconnectSignal.forget }
  | wake {opened} : state.loop = .streaming opened →
      Move env overrides state .wake { state with
        loop := .resting
        reconnectSignal := { state.reconnectSignal with waiter := .absent } }
  | leave {opened} : state.loop = .streaming opened →
      Move env overrides state .leave
        { state with loop := .resting, reconnectSignal := state.reconnectSignal.forget }
  | watch {move next} : state.watch env overrides move = some next →
      Move env overrides state (.watch move) next
  | sendFails :
      Move env overrides state .sendFails
        { state with reconnectSignal := state.reconnectSignal.notifyOne }

/-- Each accepted action is one of the possible steps. -/
theorem step_move {env : Env Key} {overrides : CliOverrides} {state next : State} {action : Action}
    (moved : step env overrides state action = some next) :
    Move env overrides state action next := by
  cases action with
  | load =>
      simp only [step] at moved
      split at moved
      · next resting =>
          rw [← Option.some.inj moved]
          exact .load resting
      · contradiction
  | readSession =>
      simp only [step] at moved
      split at moved
      · next loaded =>
          rw [← Option.some.inj moved]
          exact .readSession loaded
      · contradiction
  | respond ok =>
      simp only [step] at moved
      split at moved
      · next requesting =>
          rw [← Option.some.inj moved]
          cases ok with
          | true => exact .answered requesting
          | false => exact .refused requesting
      · contradiction
  | compare =>
      simp only [step] at moved
      split at moved
      · next answered =>
          rw [← Option.some.inj moved]
          split
          · next equal => exact .same answered equal
          · exact .rotated answered
      · contradiction
  | drain =>
      simp only [step] at moved
      split at moved
      · next draining =>
          rw [← Option.some.inj moved]
          exact .drain draining
      · contradiction
  | select =>
      simp only [step] at moved
      split at moved
      · next streaming absent =>
          rw [← Option.some.inj moved]
          cases found : state.reconnectSignal.poll.1 with
          | true => exact .takes streaming absent found
          | false => exact .waits streaming absent found
      · contradiction
  | chunk =>
      simp only [step] at moved
      split at moved
      · next streaming =>
          rw [← Option.some.inj moved]
          exact .chunk streaming
      · contradiction
  | wake =>
      simp only [step] at moved
      split at moved
      · next streaming _ =>
          rw [← Option.some.inj moved]
          exact .wake streaming
      · contradiction
  | leave =>
      simp only [step] at moved
      split at moved
      · next streaming =>
          rw [← Option.some.inj moved]
          exact .leave streaming
      · contradiction
  | watch move => exact .watch moved
  | sendFails =>
      rw [← Option.some.inj moved]
      exact .sendFails

/-- The stream that the loop reads was opened with what is in force, unless a reconnect is due. -/
structure Settled (state : State) : Prop where
  current : ∀ opened, state.loop = .streaming opened → state.reconnectSignal.pending = false →
    state.rotation.watcher = .idle →
      opened.hot.serverBaseUrl = state.rotation.shared.hot.serverBaseUrl ∧
      opened.hot.httpClient.source = state.rotation.shared.hot.httpClient.source ∧
      opened.sessionId = state.rotation.shared.sessionId

/-- The loop is about to drain a permit for its GET. -/
def Loop.drains : Loop → Option Opened
  | .draining opened => some opened
  | .resting | .loaded _ | .requesting _ | .answered _ | .streaming _ => none

/-- After the watcher's signal, the loop drains no permit for a GET that took its URL and headers from
before a store and its session id from the rotation after it. -/
def Untorn (state : State) : Action → Prop
  | .drain => ∀ opened ∈ state.loop.drains, state.rotation.watcher = .idle → opened.torn = false
  | _ => True

instance (state : State) : (action : Action) → Decidable (Untorn state action)
  | .drain => inferInstanceAs (Decidable (∀ _ ∈ _, _ → _))
  | .load | .readSession | .respond _ | .compare | .select | .chunk | .wake | .leave | .watch _
  | .sendFails => isTrue trivial

/-- A GET with the session id in force is torn exactly if it leads elsewhere than the hot config in
force, and the loop keeps the id in force while it drains. -/
structure Sound (state : State) : Prop where
  torn : ∀ opened, state.loop.asked = some opened → state.rotation.watcher ≠ .stored →
    opened.sessionId = state.rotation.shared.sessionId →
      opened.torn = !sameTarget opened.hot state.rotation.shared.hot
  locked : ∀ opened, state.loop = .draining opened →
    opened.sessionId = state.rotation.shared.sessionId
  alone : state.reconnectSignal.waiter = .absent ∨ ∃ opened, state.loop = .streaming opened

section Sound
variable {env : Env Key} {overrides : CliOverrides} {state next : State} {action : Action}

theorem sameTarget_iff {first second : HotClientConfig} : sameTarget first second = true ↔
    first.serverBaseUrl = second.serverBaseUrl ∧
      first.httpClient.source = second.httpClient.source := by
  simp [sameTarget]

/-- A loop without a GET and without a stream is sound as soon as it waits for nothing. -/
theorem Sound.of_unasked (unasked : state.loop.asked = none)
    (alone : state.reconnectSignal.waiter = .absent ∨ ∃ opened, state.loop = .streaming opened) :
    Sound state where
  torn opened asked := by
    rw [unasked] at asked
    cases asked
  locked opened draining := by
    rw [draining] at unasked
    cases unasked
  alone := alone

/-- A step that leaves the GET and what it is compared with alone keeps the loop sound. -/
theorem Sound.of_same (sound : Sound state) (loop : next.loop = state.loop)
    (stored : next.rotation.watcher ≠ .stored → state.rotation.watcher ≠ .stored)
    (hot : next.rotation.shared.hot = state.rotation.shared.hot)
    (sessionId : next.rotation.shared.sessionId = state.rotation.shared.sessionId)
    (waiter : state.reconnectSignal.waiter = .absent → next.reconnectSignal.waiter = .absent) :
    Sound next where
  torn := by
    rw [loop, hot, sessionId]
    exact fun opened asked later => sound.torn opened asked (stored later)
  locked := by
    rw [loop, sessionId]
    exact sound.locked
  alone := by
    rw [loop]
    exact sound.alone.imp_left waiter

/-- Only a loop that streams waits for the reconnect signal. -/
theorem Sound.absent (sound : Sound state) (elsewhere : ∀ opened, state.loop ≠ .streaming opened) :
    state.reconnectSignal.waiter = .absent := by
  refine sound.alone.resolve_right ?_
  rintro ⟨opened, streaming⟩
  exact elsewhere opened streaming

theorem Loop.rotate_asked {loop : Loop} (unlocked : ∀ opened, loop ≠ .draining opened)
    (random : UInt64) (hot : HotClientConfig) :
    (loop.rotate random hot).asked = loop.asked.map fun opened => opened.rotate random hot := by
  cases loop with
  | draining opened => exact absurd rfl (unlocked opened)
  | _ => rfl

/-- A rotation takes place only while the loop does not drain. -/
theorem watch_rotate {random : UInt64}
    (moved : state.watch env overrides (.rotate random) = some next) :
    ∃ rotation, state.rotation.move env overrides (.rotate random) = some rotation ∧
      (∀ opened, state.loop ≠ .draining opened) ∧
      next = { state with rotation, loop := state.loop.rotate random rotation.shared.hot } := by
  unfold State.watch at moved
  split at moved
  · cases moved
  · next rotation shared =>
      refine ⟨rotation, shared, ?_⟩
      cases loop : state.loop with
      | draining opened =>
          rw [loop] at moved
          cases moved
      | _ =>
          rw [loop] at moved
          exact ⟨nofun, (Option.some.inj moved).symm⟩

/-- The other moves of the watcher leave the loop alone, and its last one leaves a permit. -/
theorem watch_other {move : Rotation.Move} (other : ∀ random, move ≠ .rotate random)
    (moved : state.watch env overrides move = some next) :
    state.rotation.move env overrides move = some next.rotation ∧ next.loop = state.loop ∧
      (move = .signal ∧ next.reconnectSignal = state.reconnectSignal.notifyOne ∨
        move ≠ .signal ∧ next.reconnectSignal = state.reconnectSignal) := by
  unfold State.watch at moved
  split at moved
  · cases moved
  · next rotation shared =>
      cases move with
      | rotate random => exact absurd rfl (other random)
      | signal =>
          rw [← Option.some.inj moved]
          exact ⟨shared, rfl, .inl ⟨rfl, rfl⟩⟩
      | store | clear | traffic =>
          rw [← Option.some.inj moved]
          exact ⟨shared, rfl, .inr ⟨nofun, rfl⟩⟩

/-- A watcher's move keeps the loop sound: only a rotation concerns the GET, and it waits for the
drain. -/
theorem Sound.watch (sound : Sound state) {move : Rotation.Move}
    (moved : state.watch env overrides move = some next) : Sound next := by
  by_cases rotates : ∃ random, move = .rotate random
  · obtain ⟨random, rfl⟩ := rotates
    obtain ⟨rotation, shared, unlocked, rfl⟩ := watch_rotate moved
    have drawn : rotation.shared.sessionId = random := by
      cases Rotation.move_effect shared with
      | rotated _ _ stored rotated hot stores drawn => exact drawn
    constructor
    · intro opened asked later same
      rw [Loop.rotate_asked unlocked, Option.map_eq_some_iff] at asked
      obtain ⟨before, asked, rfl⟩ := asked
      exact if_pos (same.trans drawn)
    · intro opened draining
      cases loop : state.loop with
      | draining other => exact absurd loop (unlocked other)
      | _ =>
          rw [loop] at draining
          cases draining
    · refine sound.alone.imp_right ?_
      rintro ⟨opened, streaming⟩
      rw [streaming]
      exact ⟨opened, rfl⟩
  · obtain ⟨shared, loop, signal⟩ :=
      watch_other (fun random same => rotates ⟨random, same⟩) moved
    have waiter (absent : state.reconnectSignal.waiter = .absent) :
        next.reconnectSignal.waiter = .absent := by
      rcases signal with ⟨-, signal⟩ | ⟨-, signal⟩
      · rw [signal]
        exact Notify.notifyOne_waiter absent
      · rw [signal]
        exact absent
    generalize rotated : next.rotation = rotation at shared
    cases Rotation.move_effect shared with
    | unchanged file =>
        exact sound.of_same loop (by rw [rotated]; exact id) (by rw [rotated]) (by rw [rotated]) waiter
    | stored file _ idle stored sessionId stores =>
        subst rotated
        refine ⟨fun opened asked later => absurd stored later, ?_, ?_⟩
        · rw [loop, sessionId]
          exact sound.locked
        · rw [loop]
          exact sound.alone.imp_left waiter
    | rotated random _ => exact absurd ⟨random, rfl⟩ rotates
    | cleared _ before after hot stores sessionId =>
        subst rotated
        exact sound.of_same loop (by rw [before]; nofun) hot sessionId waiter
    | signalled _ before after hot stores sessionId =>
        subst rotated
        exact sound.of_same loop (by rw [before]; nofun) hot sessionId waiter
    | traffic channels _ watcher hot stores sessionId =>
        subst rotated
        exact sound.of_same loop (by rw [watcher]; exact id) hot sessionId waiter

/-- Every step keeps the loop sound. -/
theorem Sound.step (sound : Sound state) (moved : step env overrides state action = some next) :
    Sound next := by
  cases step_move moved with
  | load resting => exact .of_unasked rfl (.inl (sound.absent (by rw [resting]; nofun)))
  | readSession loaded =>
      refine ⟨?_, nofun, .inl (sound.absent (by rw [loaded]; nofun))⟩
      rintro opened asked later -
      rw [← Option.some.inj asked]
      simp only [Opened.read, later, ne_eq, not_false_eq_true, decide_true, Bool.true_and]
  | @answered opened requesting =>
      have absent := sound.absent (by rw [requesting]; nofun)
      have asked : state.loop.asked = some opened := by rw [requesting, Loop.asked]
      exact ⟨fun _ same => sound.torn _ (asked.trans same), nofun, .inl absent⟩
  | refused requesting => exact .of_unasked rfl (.inl (sound.absent (by rw [requesting]; nofun)))
  | @same opened answered equal =>
      have absent := sound.absent (by rw [answered]; nofun)
      have asked : state.loop.asked = some opened := by rw [answered, Loop.asked]
      refine ⟨fun _ also => sound.torn _ (asked.trans also), ?_, .inl absent⟩
      intro other draining
      rw [← Loop.draining.inj draining]
      exact equal.symm
  | rotated answered => exact .of_unasked rfl (.inl (sound.absent (by rw [answered]; nofun)))
  | drain => exact .of_unasked rfl (.inl (Notify.drain_waiter _))
  | @waits opened => exact .of_unasked rfl (.inr ⟨opened, rfl⟩)
  | takes _ absent found => exact .of_unasked rfl (.inl (Notify.poll_takes absent found))
  | chunk => exact .of_unasked rfl (.inl (Notify.forget_waiter _))
  | wake => exact .of_unasked rfl (.inl rfl)
  | leave => exact .of_unasked rfl (.inl (Notify.forget_waiter _))
  | watch moved => exact sound.watch moved
  | sendFails => exact sound.of_same rfl id rfl rfl Notify.notifyOne_waiter

/-- A client that has only started is sound and settled. -/
theorem start_sound (hot : HotClientConfig) (sessionId : UInt64) :
    Sound (.start hot sessionId) ∧ Settled (.start hot sessionId) :=
  ⟨.of_unasked rfl (.inl rfl), ⟨nofun⟩⟩

/-- A loop that does not stream is settled. -/
theorem Settled.of_elsewhere (elsewhere : ∀ opened, state.loop ≠ .streaming opened) :
    Settled state :=
  ⟨fun opened streaming => absurd streaming (elsewhere opened)⟩

/-- The watcher's moves keep the stream settled, since the last one leaves a permit. -/
theorem Settled.watch (settled : Settled state) {move : Rotation.Move}
    (moved : state.watch env overrides move = some next) : Settled next := by
  by_cases rotates : ∃ random, move = .rotate random
  · obtain ⟨random, rfl⟩ := rotates
    obtain ⟨rotation, shared, unlocked, rfl⟩ := watch_rotate moved
    cases Rotation.move_effect shared with
    | rotated _ _ stored rotated hot stores drawn =>
        refine ⟨fun opened streaming quiet idle => ?_⟩
        cases rotated.symm.trans idle
  · obtain ⟨shared, loop, signal⟩ :=
      watch_other (fun random same => rotates ⟨random, same⟩) moved
    rcases signal with ⟨rfl, signal⟩ | ⟨unsignalled, signal⟩
    · refine ⟨fun opened streaming quiet => ?_⟩
      rw [signal, Notify.notifyOne_pending] at quiet
      cases quiet
    · generalize rotated : next.rotation = rotation at shared
      cases Rotation.move_effect shared with
      | unchanged file =>
          constructor
          rw [loop, signal, rotated]
          exact settled.current
      | stored file _ idle stored sessionId stores =>
          refine ⟨fun opened streaming quiet after => ?_⟩
          rw [rotated, stored] at after
          cases after
      | rotated random _ => exact absurd ⟨random, rfl⟩ rotates
      | cleared _ before after hot stores sessionId =>
          refine ⟨fun opened streaming quiet idle => ?_⟩
          rw [rotated, after] at idle
          cases idle
      | signalled _ before after hot stores sessionId => exact absurd rfl unsignalled
      | traffic channels _ watcher hot stores sessionId =>
          constructor
          rw [loop, signal, rotated, watcher, hot, sessionId]
          exact settled.current

/-- A drain settles the stream exactly if the GET is not torn or the signal is yet to come. -/
theorem Sound.drain_settles (sound : Sound state) {opened : Opened}
    (draining : state.loop = .draining opened) :
    Settled { state with
      loop := .streaming opened
      reconnectSignal := state.reconnectSignal.drain } ↔ Untorn state .drain := by
  have asked : state.loop.asked = some opened := by rw [draining, Loop.asked]
  have absent := sound.absent (by rw [draining]; nofun)
  have same := sound.locked opened draining
  constructor
  · rintro settled other also idle
    rw [draining, Loop.drains, Option.mem_some_iff] at also
    subst also
    obtain ⟨url, headers, -⟩ := settled.current opened rfl (Notify.drain_pending absent) idle
    rw [sound.torn opened asked (by rw [idle]; nofun) same, sameTarget_iff.mpr ⟨url, headers⟩]
    rfl
  · intro untorn
    refine ⟨fun other streaming quiet idle => ?_⟩
    obtain rfl := Loop.streaming.inj streaming
    have whole := untorn opened (congrArg Loop.drains draining) idle
    rw [sound.torn opened asked (by rw [idle]; nofun) same, Bool.not_eq_false'] at whole
    obtain ⟨url, headers⟩ := sameTarget_iff.mp whole
    exact ⟨url, headers, same⟩

/-- A step keeps the stream settled exactly if it is admitted. -/
theorem Sound.settled_iff (sound : Sound state) (settled : Settled state)
    (moved : StreamRotation.step env overrides state action = some next) :
    Settled next ↔ Untorn state action := by
  cases step_move moved with
  | drain draining => exact sound.drain_settles draining
  | load | readSession | answered | refused | same | rotated | takes | wake | leave =>
      exact iff_of_true (.of_elsewhere nofun) trivial
  | waits streaming absent found =>
      refine iff_of_true ?_ trivial
      constructor
      rw [Notify.poll_waits absent found]
      exact fun other same => settled.current other (streaming.trans same)
  | chunk streaming =>
      refine iff_of_true ?_ trivial
      constructor
      rw [Notify.forget_pending]
      exact fun other same => settled.current other (streaming.trans same)
  | watch moved => exact iff_of_true (settled.watch moved) trivial
  | sendFails =>
      refine iff_of_true ⟨fun opened streaming quiet => ?_⟩ trivial
      rw [Notify.notifyOne_pending] at quiet
      cases quiet

end Sound

/-- In every run, each state reached is settled exactly if no torn GET is drained after the watcher's
signal. -/
theorem stream_settles_iff {env : Env Key} {overrides : CliOverrides} {hot : HotClientConfig}
    {sessionId : UInt64} {actions : List Action} {final : State}
    (ran : Machine.run (step env overrides) (.start hot sessionId) actions = some final) :
    (∀ before reached, before <+: actions →
      Machine.run (step env overrides) (.start hot sessionId) before = some reached →
        Settled reached) ↔
      Machine.Along (step env overrides) Untorn (.start hot sessionId) actions :=
  Machine.always_iff Sound.step Sound.settled_iff (start_sound hot sessionId).1
    (start_sound hot sessionId).2 ran

/-- This client was started with another URL than the one of the file. -/
def oldHot : HotClientConfig := ⟨⟨0, "p"⟩, ⟨1, ∅⟩, "http://old"⟩

def newFile : Config where
  server := ⟨"p", "", none, none, "ok", false, false⟩
  client := ⟨"http://new", "p", ∅⟩

def reloaded : List Action :=
  [.watch (.store newFile), .watch (.rotate 9), .watch .clear, .watch .signal]

/-- A stream that was opened before the reload is left for one on the new URL. -/
theorem stream_settles_of_reload : ∃ final,
    Machine.run (step Env.lenient (ClientArgs.overrides ⟨none, none, none⟩)) (.start oldHot 7)
        ([.load, .readSession, .respond true, .compare, .drain, .select] ++ reloaded ++
          [.wake, .load, .readSession, .respond true, .compare, .drain]) = some final ∧
      Settled final := by
  obtain ⟨final, ran⟩ := Option.isSome_iff_exists.mp (show (Machine.run
    (step Env.lenient (ClientArgs.overrides ⟨none, none, none⟩)) (.start oldHot 7)
      ([.load, .readSession, .respond true, .compare, .drain, .select] ++ reloaded ++
        [.wake, .load, .readSession, .respond true, .compare, .drain])).isSome = true by decide +kernel)
  exact ⟨final, ran, (stream_settles_iff ran).mpr (by decide +kernel) _ _ List.prefix_rfl ran⟩

/-- A reload between the load and the read of the session id leaves the stream on the old URL. -/
theorem torn_read_keeps_url : ∃ final,
    Machine.run (step Env.lenient (ClientArgs.overrides ⟨none, none, none⟩)) (.start oldHot 7)
        ([.load] ++ reloaded ++ [.readSession, .respond true, .compare, .drain]) = some final ∧
      ¬ Settled final := by
  refine ⟨_, rfl, fun settled => ?_⟩
  exact absurd (settled.current _ rfl (by decide +kernel) rfl).1 (by decide +kernel)

end Tunnix.StreamRotation
