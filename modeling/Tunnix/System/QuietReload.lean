import Tunnix.Server.Reload
import Tunnix.Client.Reload

namespace Tunnix.QuietReload
variable {Key : Type}

/-- The effective values of a version are in force at a server. -/
structure ServerUnchanged (overrides : CliOverrides) (hot : HotServerConfig) (sc : ServerConfig) :
    Prop where
  password : overrides.serverPassword = true ∨ sc.password = hot.crypto.source
  pathPrefix : trimSlashes sc.pathPrefix = hot.pathPrefix
  rootRedirect : sc.rootRedirect = hot.rootRedirect
  rootHtml : sc.rootHtml = hot.rootHtml
  healthBody : sc.healthResponse = hot.healthBody
  allowExec : overrides.serverAllowExec = true ∨ sc.allowExec = hot.allowExec
  allowTransfer : overrides.serverAllowTransfer = true ∨ sc.allowTransfer = hot.allowTransfer

/-- The effective values of a version are in force at a client. -/
structure ClientUnchanged (overrides : CliOverrides) (hot : HotClientConfig) (cc : ClientConfig) :
    Prop where
  password : overrides.clientPassword = true ∨ cc.password = hot.crypto.source
  headers : overrides.clientHeaders = true ∨ cc.headers = hot.httpClient.source
  serverUrl : trimSlashes cc.serverUrl = hot.serverBaseUrl

/-- A server that stored nothing still has its `Crypto` instance. -/
structure ServerUntouched (before after : ServerReload.State) : Prop where
  stores : after.stores = before.stores
  crypto : after.hot.crypto = before.hot.crypto

/-- A client that stored nothing still has its `Crypto` instance, its session and its connections,
and it signals no reconnect. -/
structure ClientUntouched (before after : ClientReload.State) : Prop where
  stores : after.stores = before.stores
  crypto : after.hot.crypto = before.hot.crypto
  sessionId : after.sessionId = before.sessionId
  channels : after.channels = before.channels
  reconnects : after.reconnects = before.reconnects

section Server
variable {env : Env Key} {overrides : CliOverrides} {state : ServerReload.State}

/-- An unchanged version leads to the hot config in force if it yields no new `Crypto`. -/
theorem ServerUnchanged.nextHot {sc : ServerConfig}
    (unchanged : ServerUnchanged overrides state.hot sc)
    (none_ : state.newCrypto env overrides sc = none) :
    state.nextHot env overrides sc = state.hot := by
  apply HotServerConfig.ext
  · rw [ServerReload.State.nextHot, none_]
    rfl
  · exact unchanged.pathPrefix
  · exact unchanged.rootRedirect
  · exact unchanged.rootHtml
  · exact unchanged.healthBody
  · rcases unchanged.allowExec with given | same
    · exact if_pos given
    · exact ite_eq_left_iff.mpr fun _ => same
  · rcases unchanged.allowTransfer with given | same
    · exact if_pos given
    · exact ite_eq_left_iff.mpr fun _ => same

/-- An unchanged version touches a server exactly if its password is taken for a new one. -/
theorem ServerUnchanged.untouched_iff {file : Config} (keyed : ServerReload.Keyed env state)
    (unchanged : ServerUnchanged overrides state.hot file.server) :
    ServerUntouched state (state.reload env overrides file) ↔
      overrides.serverPassword = true ∨ file.server.password = state.lastPassword := by
  constructor
  · intro untouched
    have none_ := (ServerReload.reload_stores.mp untouched.stores).1
    rcases newCrypto_none.mp none_ with given | empty | last | failed
    · exact .inl given
    · rcases unchanged.password with given | same
      · exact .inl given
      · exact absurd (same.symm.trans empty) keyed.1
    · exact .inr last
    · rcases unchanged.password with given | same
      · exact .inl given
      · rw [same, keyed.2] at failed
        cases failed
  · intro known
    have none_ : state.newCrypto env overrides file.server = none := by
      apply newCrypto_none.mpr
      rcases known with given | last
      · exact .inl given
      · exact .inr (.inr (.inl last))
    have same := unchanged.nextHot none_
    constructor
    · exact ServerReload.reload_stores.mpr ⟨none_, same⟩
    · rw [ServerReload.reload_hot, same]

/-- The password in force stays derivable over all versions. -/
theorem serverKeyed {args : ServerArgs} {file : Config} {hot : HotServerConfig}
    (started : serverMain env args file = .ok hot) (versions : List Config) :
    ServerReload.Keyed env
      (versions.foldl (ServerReload.State.reload env overrides) (.start hot)) := by
  apply List.foldlRecOn versions
  · exact (serverMain_ok started).2
  · exact fun state keyed version _ => ServerReload.Keyed.reload keyed

end Server

section Client
variable {env : Env Key} {overrides : CliOverrides} {state : ClientReload.State}

/-- An unchanged version touches a client exactly if its password or its headers are taken for new
ones. -/
theorem ClientUnchanged.untouched_iff {random : UInt64} {file : Config}
    (keyed : ClientReload.Keyed env state)
    (unchanged : ClientUnchanged overrides state.hot file.client) :
    ClientUntouched state (state.reload env overrides random file) ↔
      (overrides.clientPassword = true ∨ file.client.password = state.lastPassword) ∧
      (overrides.clientHeaders = true ∨ file.client.headers = state.lastHeaders) := by
  constructor
  · intro untouched
    obtain ⟨crypto, client, -⟩ :=
      ClientReload.changed_nil.mp (ClientReload.reload_stores.mp untouched.stores)
    constructor
    · rcases newCrypto_none.mp crypto with given | empty | last | failed
      · exact .inl given
      · rcases unchanged.password with given | same
        · exact .inl given
        · exact absurd (same.symm.trans empty) keyed.crypto.1
      · exact .inr last
      · rcases unchanged.password with given | same
        · exact .inl given
        · rw [same, keyed.crypto.2] at failed
          cases failed
    · rcases ClientReload.newClient_none.mp client with given | last | failed
      · exact .inl given
      · exact .inr last
      · rcases unchanged.headers with given | same
        · exact .inl given
        · rw [same, keyed.client] at failed
          cases failed
  · rintro ⟨password, headers⟩
    have crypto : state.newCrypto env overrides file.client = none := by
      apply newCrypto_none.mpr
      rcases password with given | last
      · exact .inl given
      · exact .inr (.inr (.inl last))
    have client : state.newClient env overrides file.client = none := by
      apply ClientReload.newClient_none.mpr
      rcases headers with given | last
      · exact .inl given
      · exact .inr (.inl last)
    have quiet : state.reload env overrides random file = state :=
      if_pos (ClientReload.changed_nil.mpr ⟨crypto, client, unchanged.serverUrl⟩)
    rw [quiet]
    exact ⟨rfl, rfl, rfl, rfl, rfl⟩

/-- What is in force can be built again over all events. -/
theorem clientKeyed {args : ClientArgs} {file : Config} {hot : HotClientConfig} {sessionId : UInt64}
    (started : clientMain env args file = .ok hot) (events : List ClientReload.Event) :
    ClientReload.Keyed env
      (events.foldl (ClientReload.State.after env overrides) (.start hot sessionId)) := by
  obtain ⟨-, some_, derives, builds⟩ := clientMain_ok started
  apply List.foldlRecOn events
  · exact ⟨⟨some_, derives⟩, builds⟩
  · intro state keyed event _
    cases event with
    | version random file => exact keyed.reload
    | traffic channels => exact ⟨keyed.crypto, keyed.client⟩

end Client

/-- In every reachable state, a version with the values in force leaves the process untouched exactly
if its password was given on the command line or stored last, and likewise the headers of a
client. -/
theorem unchanged_reload_iff :
    (∀ (env : Env Key) (args : ServerArgs) (start : Config) (hot : HotServerConfig),
      serverMain env args start = .ok hot → ∀ (versions : List Config) (file : Config),
        let state := versions.foldl (ServerReload.State.reload env args.overrides) (.start hot)
        ServerUnchanged args.overrides state.hot file.server →
          (ServerUntouched state (state.reload env args.overrides file) ↔
            args.overrides.serverPassword = true ∨ file.server.password = state.lastPassword)) ∧
    (∀ (env : Env Key) (args : ClientArgs) (start : Config) (hot : HotClientConfig)
        (sessionId : UInt64), clientMain env args start = .ok hot →
      ∀ (events : List ClientReload.Event) (random : UInt64) (file : Config),
        let state := events.foldl (ClientReload.State.after env args.overrides) (.start hot sessionId)
        ClientUnchanged args.overrides state.hot file.client →
          (ClientUntouched state (state.reload env args.overrides random file) ↔
            (args.overrides.clientPassword = true ∨ file.client.password = state.lastPassword) ∧
            (args.overrides.clientHeaders = true ∨ file.client.headers = state.lastHeaders))) := by
  constructor
  · intro env args start hot started versions file state unchanged
    exact unchanged.untouched_iff (serverKeyed started versions)
  · intro env args start hot sessionId started events random file state unchanged
    exact unchanged.untouched_iff (clientKeyed started events)

/-- This file gives a client its password and no headers. -/
def plainFile : Config where
  server := ⟨"p", "", none, none, "ok", false, false⟩
  client := ⟨"http://s", "p", ∅⟩

/-- The second pass over the same file leaves a client untouched. -/
theorem unchanged_reload_of_second :
    ClientUntouched
      ([ClientReload.Event.version 1 plainFile, .traffic [5]].foldl
        (ClientReload.State.after Env.lenient (ClientArgs.overrides ⟨none, none, none⟩))
        (.start ⟨⟨0, "p"⟩, ⟨1, ∅⟩, "http://s"⟩ 7))
      (([ClientReload.Event.version 1 plainFile, .traffic [5]].foldl
        (ClientReload.State.after Env.lenient (ClientArgs.overrides ⟨none, none, none⟩))
        (.start ⟨⟨0, "p"⟩, ⟨1, ∅⟩, "http://s"⟩ 7)).reload Env.lenient
          (ClientArgs.overrides ⟨none, none, none⟩) 2 plainFile) := by
  have started : clientMain Env.lenient ⟨none, none, none⟩ plainFile =
      .ok ⟨⟨0, "p"⟩, ⟨1, ∅⟩, "http://s"⟩ := by decide +kernel
  refine (unchanged_reload_iff.2 _ _ _ _ 7 started [.version 1 plainFile, .traffic [5]] 2 plainFile
    ⟨?_, ?_, ?_⟩).mpr ⟨?_, ?_⟩
  · decide +kernel
  · decide +kernel
  · decide +kernel
  · decide +kernel
  · decide +kernel

/-- The first pass over the unchanged file of a client drops its connections. -/
theorem first_reload_drops_connections :
    ¬ ∀ (args : ClientArgs) (start : Config) (hot : HotClientConfig) (sessionId : UInt64),
      clientMain Env.lenient args start = .ok hot →
      ∀ (events : List ClientReload.Event) (random : UInt64) (file : Config),
        let state := events.foldl (ClientReload.State.after Env.lenient args.overrides)
          (.start hot sessionId)
        ClientUnchanged args.overrides state.hot file.client →
          ClientUntouched state (state.reload Env.lenient args.overrides random file) := by
  intro quiet
  have started : clientMain Env.lenient ⟨none, none, none⟩ plainFile =
      .ok ⟨⟨0, "p"⟩, ⟨1, ∅⟩, "http://s"⟩ := by decide +kernel
  have untouched := quiet _ _ _ 7 started [.traffic [5]] 1 plainFile
    ⟨by decide +kernel, by decide +kernel, by decide +kernel⟩
  exact absurd untouched.channels (by decide +kernel)

end Tunnix.QuietReload
