import Tunnix.Server.Reload
import Tunnix.Client.Reload
import Tunnix.Library.Watch

namespace Tunnix.LastEdit
variable {Key : Type}

/-- The file decides each field of a server that was not set on the command line. -/
structure ServerInForce (args : ServerArgs) (hot : HotServerConfig) (sc : ServerConfig) : Prop where
  password : args.password = none → hot.crypto.source = sc.password
  pathPrefix : hot.pathPrefix = trimSlashes sc.pathPrefix
  rootRedirect : hot.rootRedirect = sc.rootRedirect
  rootHtml : hot.rootHtml = sc.rootHtml
  healthBody : hot.healthBody = sc.healthResponse
  allowExec : args.allowExec = false → hot.allowExec = sc.allowExec
  allowTransfer : args.allowTransfer = false → hot.allowTransfer = sc.allowTransfer

/-- The file decides each field of a client that was not set on the command line. -/
structure ClientInForce (args : ClientArgs) (hot : HotClientConfig) (cc : ClientConfig) : Prop where
  password : args.password = none → hot.crypto.source = cc.password
  headers : args.cookie = none → hot.httpClient.source = cc.headers
  serverUrl : args.server = none → hot.serverBaseUrl = trimSlashes cc.serverUrl

/-- Only a value becomes an option with a value. -/
theorem toOption_some {Error Value : Type} {result : Except Error Value} {value : Value}
    (some_ : result.toOption = some value) : result = .ok value := by
  cases result with
  | error error => cases some_
  | ok same =>
      cases some_
      rfl

section Server
variable (env : Env Key) (args : ServerArgs)

/-- `main` reads the file and builds the first hot config. -/
def serverBoot (file : Config) : Option ServerReload.State :=
  (serverMain env args file).toOption.map .start

def serverReload (_ : Unit) (file : Config) (state : ServerReload.State) : ServerReload.State :=
  state.reload env args.overrides file

/-- The key derivation of a version succeeds if it is needed. -/
def ServerSucceeds (file : Config) : Prop :=
  args.password = none → env.derives file.server.password = true

/-- An empty password is not derived, even if it could be. -/
def ServerGood (file : Config) (_ : ServerReload.State) : Prop :=
  args.password = none → env.derives file.server.password = true → file.server.password ≠ ""

def ServerAgrees (file : Config) (state : ServerReload.State) : Prop :=
  ServerSucceeds env args file → ServerInForce args state.hot file.server

/-- Without a password on the command line, the one that was stored last is in force. -/
def ServerSound (state : ServerReload.State) : Prop :=
  args.password = none → LastInForce env state.lastPassword state.hot.crypto

variable {env args} {file : Config} {state : ServerReload.State}

theorem server_unset (unset : args.password = none) : args.overrides.serverPassword = false := by
  change args.password.isSome = false
  rw [unset]
  rfl

/-- A stored version leaves its password behind, and any other version changes nothing. -/
theorem server_lastPassword (env : Env Key) (args : ServerArgs) (state : ServerReload.State)
    (file : Config) :
    state.reload env args.overrides file = state ∨
      (state.reload env args.overrides file).lastPassword = file.server.password := by
  unfold ServerReload.State.reload
  split
  · exact .inl rfl
  · exact .inr rfl

/-- A derivable password is in force after its version. -/
theorem server_password (sound : ServerSound env args state) (unset : args.password = none) :
    LastInForce env file.server.password (state.reload env args.overrides file).hot.crypto := by
  rw [ServerReload.reload_hot]
  exact (sound unset).next (server_unset unset)

theorem server_boots (live : ServerReload.State) (built : serverBoot env args file = some live) :
    ServerSound env args live ∧ ServerAgrees env args file live := by
  obtain ⟨hot, started, rfl⟩ := Option.map_eq_some_iff.mp built
  obtain ⟨rfl, -⟩ := serverMain_ok (toOption_some started)
  refine ⟨fun _ some_ => absurd rfl some_, fun _ => ?_⟩
  constructor
  case password =>
    intro unset
    change args.password.getD _ = _
    rw [unset]
    rfl
  case allowExec =>
    intro unset
    change (if args.allowExec then true else _) = _
    rw [unset]
    rfl
  case allowTransfer =>
    intro unset
    change (if args.allowTransfer then true else _) = _
    rw [unset]
    rfl
  all_goals rfl

theorem server_keeps (sound : ServerSound env args state) :
    ServerSound env args (serverReload env args () file state) := by
  intro unset
  rcases server_lastPassword env args state file with same | last
  · rw [serverReload, same]
    exact sound unset
  · rw [serverReload, last]
    exact server_password sound unset

theorem server_applies (sound : ServerSound env args state) (good : ServerGood env args file state) :
    ServerAgrees env args file (serverReload env args () file state) := by
  intro succeeds
  have hot : (serverReload env args () file state).hot =
      state.nextHot env args.overrides file.server := ServerReload.reload_hot
  constructor
  case password =>
    intro unset
    have derives := succeeds unset
    exact server_password sound unset (good unset derives) derives
  case allowExec =>
    intro unset
    rw [hot]
    change (if args.allowExec then _ else _) = _
    rw [unset]
    rfl
  case allowTransfer =>
    intro unset
    rw [hot]
    change (if args.allowTransfer then _ else _) = _
    rw [unset]
    rfl
  all_goals
    rw [hot]
    rfl

end Server

section Client
variable (env : Env Key) (args : ClientArgs)

/-- `main` and `Tunnel::connect` read the file and build the first hot config. -/
def clientBoot (sessionId : UInt64) (file : Config) : Option ClientReload.State :=
  (clientMain env args file).toOption.map (.start · sessionId)

def clientReload (random : UInt64) (file : Config) (state : ClientReload.State) :
    ClientReload.State :=
  state.reload env args.overrides random file

/-- The key derivation and the header build of a version succeed if they are needed. -/
def ClientSucceeds (file : Config) : Prop :=
  (args.password = none → env.derives file.client.password = true) ∧
  (args.cookie = none → env.buildHttpClient file.client.headers = true)

/-- An empty password is not derived, and headers that count as the last ones are not built. -/
def ClientGood (file : Config) (state : ClientReload.State) : Prop :=
  ClientSucceeds env args file →
    (args.password = none → file.client.password ≠ "") ∧
    (args.cookie = none → file.client.headers = state.lastHeaders →
      state.hot.httpClient.source = file.client.headers)

def ClientAgrees (file : Config) (state : ClientReload.State) : Prop :=
  ClientSucceeds env args file → ClientInForce args state.hot file.client

/-- Without a password on the command line, the one that was stored last is in force. -/
def ClientSound (state : ClientReload.State) : Prop :=
  args.password = none → LastInForce env state.lastPassword state.hot.crypto

variable {env args} {file : Config} {state : ClientReload.State} {random : UInt64}

theorem client_unset (unset : args.password = none) : args.overrides.clientPassword = false := by
  change args.password.isSome = false
  rw [unset]
  rfl

/-- A stored version leaves its password behind, and any other version changes nothing. -/
theorem client_lastPassword (env : Env Key) (args : ClientArgs) (state : ClientReload.State)
    (random : UInt64) (file : Config) :
    state.reload env args.overrides random file = state ∨
      (state.reload env args.overrides random file).lastPassword = file.client.password := by
  simp only [ClientReload.State.reload]
  split
  · exact .inl rfl
  · split
    · exact .inr rfl
    · exact .inr rfl

/-- A derivable password is in force after its version. -/
theorem client_password (sound : ClientSound env args state) (unset : args.password = none) :
    LastInForce env file.client.password
      (state.reload env args.overrides random file).hot.crypto := by
  rw [ClientReload.reload_hot]
  exact (sound unset).next (client_unset unset)

/-- Headers that can be built are in force after their version, unless they count as the last ones
without being in force. -/
theorem client_headers (unset : args.cookie = none)
    (builds : env.buildHttpClient file.client.headers = true)
    (good : file.client.headers = state.lastHeaders →
      state.hot.httpClient.source = file.client.headers) :
    (state.reload env args.overrides random file).hot.httpClient.source = file.client.headers := by
  rw [ClientReload.reload_hot, ClientReload.State.nextHot]
  cases found : state.newClient env args.overrides file.client with
  | some client => exact (ClientReload.newClient_some found).2.1
  | none =>
      rcases ClientReload.newClient_none.mp found with given | last | failed
      · change args.cookie.isSome = true at given
        rw [unset] at given
        cases given
      · exact good last
      · rw [builds] at failed
        cases failed

theorem client_boots {sessionId : UInt64} (live : ClientReload.State)
    (built : clientBoot env args sessionId file = some live) :
    ClientSound env args live ∧ ClientAgrees env args file live := by
  obtain ⟨hot, started, rfl⟩ := Option.map_eq_some_iff.mp built
  obtain ⟨rfl, -⟩ := clientMain_ok (toOption_some started)
  refine ⟨fun _ some_ => absurd rfl some_, fun _ => ?_⟩
  constructor
  case password =>
    intro unset
    change args.password.getD _ = _
    rw [unset]
    rfl
  case headers =>
    intro unset
    simp only [ClientArgs.apply, unset]
    rfl
  case serverUrl =>
    intro unset
    change trimSlashes (args.server.getD _) = _
    rw [unset]
    rfl

theorem client_keeps (sound : ClientSound env args state) :
    ClientSound env args (clientReload env args random file state) := by
  intro unset
  rcases client_lastPassword env args state random file with same | last
  · rw [clientReload, same]
    exact sound unset
  · rw [clientReload, last]
    exact client_password sound unset

theorem client_applies (sound : ClientSound env args state) (good : ClientGood env args file state) :
    ClientAgrees env args file (clientReload env args random file state) := by
  intro succeeds
  have fresh := good succeeds
  obtain ⟨derives, builds⟩ := succeeds
  constructor
  case password => exact fun unset => client_password sound unset (fresh.1 unset) (derives unset)
  case headers => exact fun unset => client_headers unset (builds unset) (fresh.2 unset)
  case serverUrl =>
    intro _
    rw [clientReload, ClientReload.reload_hot]
    rfl

end Client

/-- In a run in which the watcher begins with the version that the process has read, and all applied
versions are good, a completed pass that began after the last edit has put the last version in
force. A pass over a version that does not parse tries it, and leaves the process as it is. -/
theorem last_edit_in_force :
    (∀ (env : Env Key) (args : ServerArgs) (actions : List (Watch.Action Config Unit))
        (final : Watch.State Config ServerReload.State),
      Machine.Along (Watch.step (serverBoot env args) (serverReload env args))
        (Watch.Timely (ServerGood env args)) .start actions →
      Machine.run (Watch.step (serverBoot env args) (serverReload env args)) .start actions =
        some final →
      ∀ version, final.file = some version →
        (final.passed = true → ∀ config, version.content = some config →
          ServerSucceeds env args config → ∃ live, final.live = some live ∧
            ServerInForce args live.hot config.server) ∧
        (final.phase = .polling → version.content = none → ∃ next,
          Machine.run (Watch.step (serverBoot env args) (serverReload env args)) final
            [.poll, .read, .retry] = some next ∧
          next.live = final.live ∧ next.lastMtime = final.lastMtime ∧ next.phase = .polling ∧
          next.file = final.file)) ∧
    (∀ (env : Env Key) (args : ClientArgs) (sessionId : UInt64)
        (actions : List (Watch.Action Config UInt64))
        (final : Watch.State Config ClientReload.State),
      Machine.Along (Watch.step (clientBoot env args sessionId) (clientReload env args))
        (Watch.Timely (ClientGood env args)) .start actions →
      Machine.run (Watch.step (clientBoot env args sessionId) (clientReload env args)) .start
        actions = some final →
      ∀ version, final.file = some version →
        (final.passed = true → ∀ config, version.content = some config →
          ClientSucceeds env args config → ∃ live, final.live = some live ∧
            ClientInForce args live.hot config.client) ∧
        (final.phase = .polling → version.content = none → ∃ next,
          Machine.run (Watch.step (clientBoot env args sessionId) (clientReload env args)) final
            [.poll, .read, .retry] = some next ∧
          next.live = final.live ∧ next.lastMtime = final.lastMtime ∧ next.phase = .polling ∧
          next.file = final.file)) := by
  constructor
  · intro env args actions final timely ran version file
    obtain ⟨applied, retried⟩ := Watch.last_version (ServerSound env args) (ServerAgrees env args)
      (fun _ => server_boots) (fun _ _ _ => server_keeps) (fun _ _ _ => server_applies) timely ran
      file
    refine ⟨fun done config content succeeds => ?_, retried⟩
    obtain ⟨live, built, agrees⟩ := applied done config content
    exact ⟨live, built, agrees succeeds⟩
  · intro env args sessionId actions final timely ran version file
    obtain ⟨applied, retried⟩ := Watch.last_version (ClientSound env args) (ClientAgrees env args)
      (fun _ => client_boots) (fun _ _ _ => client_keeps) (fun _ _ _ => client_applies) timely ran
      file
    refine ⟨fun done config content succeeds => ?_, retried⟩
    obtain ⟨live, built, agrees⟩ := applied done config content
    exact ⟨live, built, agrees succeeds⟩

/-- This file sets a password and a path prefix of a server. -/
def serverFile (password pathPrefix : String) : Config where
  server := ⟨password, pathPrefix, none, none, "ok", false, false⟩
  client := ⟨"", "", ∅⟩

/-- A server without flags reads the file and watches it. -/
def serverStep : Watch.State Config ServerReload.State → Watch.Action Config Unit →
    Option (Watch.State Config ServerReload.State) :=
  Watch.step (serverBoot Env.lenient ⟨none, false, false⟩)
    (serverReload Env.lenient ⟨none, false, false⟩)

/-- The file is truncated and then written, and the next pass puts it in force. -/
theorem last_edit_in_force_of_rewrite : ∃ final, Machine.run serverStep .start
    [.edit (some (serverFile "p" "/a/")), .start, .watch, .poll, .edit none,
      .edit (some (serverFile "q" "/b/")), .poll, .read, .apply ()] = some final ∧
    ∃ live, final.live = some live ∧
      ServerInForce ⟨none, false, false⟩ live.hot (serverFile "q" "/b/").server := by
  obtain ⟨final, ran, same⟩ := Option.map_eq_some_iff.mp (show (Machine.run serverStep .start
    [.edit (some (serverFile "p" "/a/")), .start, .watch, .poll, .edit none,
      .edit (some (serverFile "q" "/b/")), .poll, .read, .apply ()]).map
        (fun final => (final.passed, final.file)) =
    some (true, some ⟨3, some (serverFile "q" "/b/")⟩) by decide +kernel)
  obtain ⟨done, file⟩ := Prod.mk.injEq .. ▸ same
  refine ⟨final, ran, ?_⟩
  refine (last_edit_in_force.1 Env.lenient ⟨none, false, false⟩ _ final ?_ ran _ file).1 done _ rfl
    fun _ => rfl
  refine ⟨trivial, trivial, ?_, trivial, trivial, trivial, trivial, trivial, ?_, trivial⟩
  · rintro config ⟨⟩ version ⟨⟩
    rfl
  · rintro config ⟨⟩ live - -
    decide +kernel

/-- An edit before the watcher begins is lost. -/
theorem startup_edit_lost :
    ¬ ∀ actions final, Machine.run serverStep .start actions = some final →
      final.passed = true → ∀ version config, final.file = some version →
        version.content = some config →
        ServerSucceeds Env.lenient ⟨none, false, false⟩ config → ∃ live, final.live = some live ∧
          ServerInForce ⟨none, false, false⟩ live.hot config.server := by
  intro kept
  obtain ⟨final, ran, same⟩ := Option.map_eq_some_iff.mp (show (Machine.run serverStep .start
    [.edit (some (serverFile "p" "/a/")), .start, .edit (some (serverFile "p" "/b/")), .watch,
      .poll]).map
        (fun final => (final.passed, final.file, final.live.map fun live => live.hot.pathPrefix)) =
    some (true, some ⟨2, some (serverFile "p" "/b/")⟩, some "/a") by decide +kernel)
  rw [Prod.mk.injEq, Prod.mk.injEq] at same
  obtain ⟨done, file, reached⟩ := same
  obtain ⟨live, built, inForce⟩ := kept _ final ran done _ _ file rfl (fun _ => rfl)
  rw [built] at reached
  have stale : live.hot.pathPrefix = "/a" := Option.some.inj reached
  rw [inForce.pathPrefix] at stale
  exact absurd stale (by decide +kernel)

end Tunnix.LastEdit
