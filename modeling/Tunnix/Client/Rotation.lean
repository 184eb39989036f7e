import Tunnix.Client.Reload
import Tunnix.Library.Machine

namespace Tunnix.Rotation
variable {Key : Type}

/-- A reload stores its hot config, rotates the session id, clears the channels, and signals the
reconnect. -/
inductive Watcher where
  | idle
  | stored
  | rotated
  | cleared
deriving DecidableEq, Repr

/-- Other tasks read what is shared between any two steps of `config_watcher_client`. -/
structure State where
  shared : ClientReload.State
  watcher : Watcher
deriving DecidableEq

def State.start (hot : HotClientConfig) (sessionId : UInt64) : State :=
  ⟨.start hot sessionId, .idle⟩

/-- The watcher takes four steps for a version, and the tunnel's traffic goes on meanwhile. -/
inductive Move where
  | store (file : Config)
  | rotate (random : UInt64)
  | clear
  | signal
  | traffic (channels : List ConnId)
deriving DecidableEq

/-- The watcher compares a version with what it holds before it stores anything. -/
def State.move (env : Env Key) (overrides : CliOverrides) (state : State) : Move → Option State
  | .store file =>
      match state.watcher with
      | .idle =>
          if state.shared.changed env overrides file.client = [] then some state
          else some {
            shared := { state.shared with
              hot := state.shared.nextHot env overrides file.client
              lastPassword := file.client.password
              lastHeaders := file.client.headers
              instances := state.shared.instances + 2
              stores := state.shared.stores + 1 }
            watcher :=
              if state.shared.needsReconnect env overrides file.client then .stored else .idle }
      | _ => none
  | .rotate random =>
      match state.watcher with
      | .stored => some ⟨{ state.shared with sessionId := random }, .rotated⟩
      | _ => none
  | .clear =>
      match state.watcher with
      | .rotated => some ⟨{ state.shared with channels := [] }, .cleared⟩
      | _ => none
  | .signal =>
      match state.watcher with
      | .cleared => some ⟨{ state.shared with reconnects := state.shared.reconnects + 1 }, .idle⟩
      | _ => none
  | .traffic channels => some { state with shared := { state.shared with channels } }

section Move
variable {env : Env Key} {overrides : CliOverrides} {state next : State} {file : Config}

/-- Whatever has changed needs a reconnect. -/
theorem needsReconnect_of_changed {state : ClientReload.State} {cc : ClientConfig}
    (differs : state.changed env overrides cc ≠ []) :
    state.needsReconnect env overrides cc = true := by
  by_contra settled
  apply differs
  rw [ClientReload.changed_nil]
  simpa [ClientReload.State.needsReconnect, and_assoc] using settled

/-- The four steps of the watcher together are a reload. -/
theorem moves_reload {shared : ClientReload.State} {random : UInt64}
    (differs : shared.changed env overrides file.client ≠ []) :
    Machine.run (State.move env overrides) ⟨shared, .idle⟩
        [.store file, .rotate random, .clear, .signal] =
      some ⟨shared.reload env overrides random file, .idle⟩ := by
  have reconnects := needsReconnect_of_changed differs
  simp [Machine.run, State.move, ClientReload.State.reload, ClientReload.State.reconnect, differs,
    reconnects]

/-- A move of the watcher has one of these effects on what other tasks read. -/
inductive Effect (state : State) : Move → State → Prop
  | unchanged (file : Config) : Effect state (.store file) state
  | stored (file : Config) (next : State) : state.watcher = .idle → next.watcher = .stored →
      next.shared.sessionId = state.shared.sessionId →
      next.shared.stores = state.shared.stores + 1 → Effect state (.store file) next
  | rotated (random : UInt64) (next : State) : state.watcher = .stored → next.watcher = .rotated →
      next.shared.hot = state.shared.hot → next.shared.stores = state.shared.stores →
      next.shared.sessionId = random → Effect state (.rotate random) next
  | cleared (next : State) : state.watcher = .rotated → next.watcher = .cleared →
      next.shared.hot = state.shared.hot → next.shared.stores = state.shared.stores →
      next.shared.sessionId = state.shared.sessionId → Effect state .clear next
  | signalled (next : State) : state.watcher = .cleared → next.watcher = .idle →
      next.shared.hot = state.shared.hot → next.shared.stores = state.shared.stores →
      next.shared.sessionId = state.shared.sessionId → Effect state .signal next
  | traffic (channels : List ConnId) (next : State) : next.watcher = state.watcher →
      next.shared.hot = state.shared.hot → next.shared.stores = state.shared.stores →
      next.shared.sessionId = state.shared.sessionId → Effect state (.traffic channels) next

theorem move_effect {move : Move} (moved : state.move env overrides move = some next) :
    Effect state move next := by
  cases move with
  | store file =>
      simp only [State.move] at moved
      split at moved
      · next idle =>
          split at moved
          · rw [← Option.some.inj moved]
            exact .unchanged file
          · next differs =>
              rw [needsReconnect_of_changed differs, if_pos rfl, Option.some.injEq] at moved
              subst moved
              exact .stored file _ idle rfl rfl rfl
      · cases moved
  | rotate random =>
      simp only [State.move] at moved
      split at moved
      · next stored =>
          rw [← Option.some.inj moved]
          exact .rotated random _ stored rfl rfl rfl rfl
      · cases moved
  | clear =>
      simp only [State.move] at moved
      split at moved
      · next rotated =>
          rw [← Option.some.inj moved]
          exact .cleared _ rotated rfl rfl rfl rfl
      · cases moved
  | signal =>
      simp only [State.move] at moved
      split at moved
      · next cleared =>
          rw [← Option.some.inj moved]
          exact .signalled _ cleared rfl rfl rfl rfl
      · cases moved
  | traffic channels =>
      rw [← Option.some.inj moved]
      exact .traffic channels _ rfl rfl rfl rfl

end Move

end Tunnix.Rotation
