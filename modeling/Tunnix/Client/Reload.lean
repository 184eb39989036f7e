import Tunnix.Reload

namespace Tunnix.ClientReload
variable {Key : Type}

/-- `config_watcher_client` keeps the last password and headers that it stored. The fields
`instances` and `stores` count the objects that were built and the hot configs that were stored. The
last three fields are shared with the tunnel; the session id is the number that it prints, and
`reconnects` counts the reconnect signals. -/
structure State where
  hot : HotClientConfig
  lastPassword : String
  lastHeaders : Headers
  instances : Nat
  stores : Nat
  sessionId : UInt64
  channels : List ConnId
  reconnects : Nat
deriving DecidableEq

/-- The watcher begins without a password and headers of its own. -/
def State.start (hot : HotClientConfig) (sessionId : UInt64) : State :=
  ⟨hot, "", ∅, 2, 0, sessionId, [], 0⟩

/-- The new password is the one of the section `[client]`. -/
def State.newCrypto (env : Env Key) (overrides : CliOverrides) (state : State)
    (cc : ClientConfig) : Option (Instance String) :=
  Tunnix.newCrypto env overrides.clientPassword state.lastPassword state.instances cc.password

/-- A client is built unless a cookie was set on the command line or the headers were stored last. -/
def State.newClient (env : Env Key) (overrides : CliOverrides) (state : State)
    (cc : ClientConfig) : Option (Instance Headers) :=
  if !overrides.clientHeaders && cc.headers != state.lastHeaders then
    if env.buildHttpClient cc.headers then some ⟨state.instances + 1, cc.headers⟩ else none
  else none

/-- A version of the file leads to this hot config. -/
def State.nextHot (env : Env Key) (overrides : CliOverrides) (state : State) (cc : ClientConfig) :
    HotClientConfig where
  crypto := (state.newCrypto env overrides cc).getD state.hot.crypto
  httpClient := (state.newClient env overrides cc).getD state.hot.httpClient
  serverBaseUrl := trimSlashes cc.serverUrl

/-- The watcher compares the URL with the one in force. -/
def State.changed (env : Env Key) (overrides : CliOverrides) (state : State) (cc : ClientConfig) :
    List String :=
  changedField (state.newCrypto env overrides cc).isSome "password" ++
    changedField (state.newClient env overrides cc).isSome "headers" ++
    changedField (trimSlashes cc.serverUrl != state.hot.serverBaseUrl) "server_url"

/-- Every change needs a reconnect. -/
def State.needsReconnect (env : Env Key) (overrides : CliOverrides) (state : State)
    (cc : ClientConfig) : Bool :=
  (state.newCrypto env overrides cc).isSome || (state.newClient env overrides cc).isSome ||
    trimSlashes cc.serverUrl != state.hot.serverBaseUrl

/-- The session id is rotated before the connections are dropped and the reconnect is signalled. -/
def State.reconnect (state : State) (random : UInt64) : State :=
  { state with sessionId := random, channels := [], reconnects := state.reconnects + 1 }

/-- The watcher stores a hot config if any field has changed. -/
def State.reload (env : Env Key) (overrides : CliOverrides) (state : State) (random : UInt64)
    (file : Config) : State :=
  if state.changed env overrides file.client = [] then state
  else
    let stored := { state with
      hot := state.nextHot env overrides file.client
      lastPassword := file.client.password
      lastHeaders := file.client.headers
      instances := state.instances + 2
      stores := state.stores + 1 }
    if state.needsReconnect env overrides file.client then stored.reconnect random else stored

/-- Between two reloads the tunnel registers and unregisters connections. -/
inductive Event where
  | version (random : UInt64) (file : Config)
  | traffic (channels : List ConnId)
deriving DecidableEq

def State.after (env : Env Key) (overrides : CliOverrides) (state : State) : Event → State
  | .version random file => state.reload env overrides random file
  | .traffic channels => { state with channels }

section Reload
variable {env : Env Key} {overrides : CliOverrides} {state : State} {random : UInt64}
  {file : Config} {cc : ClientConfig}

/-- The new client is built from the headers of the version. -/
theorem newClient_some {client : Instance Headers}
    (found : state.newClient env overrides cc = some client) :
    overrides.clientHeaders = false ∧ client.source = cc.headers ∧
      env.buildHttpClient cc.headers = true := by
  unfold State.newClient at found
  split at found
  · next new =>
      simp only [Bool.and_eq_true, Bool.not_eq_true'] at new
      split at found
      · next built =>
          cases found
          exact ⟨new.1, rfl, built⟩
      · cases found
  · cases found

/-- There is no new client exactly if one of the three conditions fails. -/
theorem newClient_none : state.newClient env overrides cc = none ↔
    overrides.clientHeaders = true ∨ cc.headers = state.lastHeaders ∨
      env.buildHttpClient cc.headers = false := by
  unfold State.newClient
  cases overrides.clientHeaders with
  | true => simp
  | false =>
      by_cases last : cc.headers = state.lastHeaders
      · simp [last]
      · simp [last]

/-- Nothing has changed if the hot config would be the same. -/
theorem changed_nil : state.changed env overrides cc = [] ↔
    state.newCrypto env overrides cc = none ∧ state.newClient env overrides cc = none ∧
      trimSlashes cc.serverUrl = state.hot.serverBaseUrl := by
  simp only [State.changed, List.append_eq_nil_iff, changedField_nil, Option.isSome_eq_false_iff,
    Option.isNone_iff_eq_none, bne_eq_false_iff_eq, and_assoc]

/-- The hot config after a reload is the one of the version, whether it was stored or not. -/
theorem reload_hot : (state.reload env overrides random file).hot =
    state.nextHot env overrides file.client := by
  simp only [State.reload]
  split
  · next same =>
      obtain ⟨crypto, client, url⟩ := changed_nil.mp same
      rw [State.nextHot, crypto, client, url]
      rfl
  · split
    · rfl
    · rfl

/-- A version that stores nothing changes nothing. -/
theorem reload_stores : (state.reload env overrides random file).stores = state.stores ↔
    state.changed env overrides file.client = [] := by
  simp only [State.reload]
  split
  · next same => exact iff_of_true rfl same
  · next differs =>
      apply iff_of_false _ differs
      split
      · exact Nat.succ_ne_self _
      · exact Nat.succ_ne_self _

/-- The password in force can be derived, and the headers in force make a client. -/
structure Keyed (env : Env Key) (state : State) : Prop where
  crypto : state.hot.crypto.source ≠ "" ∧ env.derives state.hot.crypto.source = true
  client : env.buildHttpClient state.hot.httpClient.source = true

theorem Keyed.reload (keyed : Keyed env state) :
    Keyed env (state.reload env overrides random file) := by
  constructor
  · rw [reload_hot]
    exact derives_getD keyed.crypto
  · rw [reload_hot, State.nextHot]
    cases found : state.newClient env overrides file.client with
    | none => exact keyed.client
    | some client =>
        obtain ⟨-, source, builds⟩ := newClient_some found
        rw [Option.getD_some, source]
        exact builds

end Reload

end Tunnix.ClientReload
