import Tunnix.Reload

namespace Tunnix.ServerReload
variable {Key : Type}

/-- `config_watcher_server` keeps the last password that it stored. The last two fields count the
objects that were built and the hot configs that were stored. -/
structure State where
  hot : HotServerConfig
  lastPassword : String
  instances : Nat
  stores : Nat
deriving DecidableEq

/-- The watcher begins without a password of its own. -/
def State.start (hot : HotServerConfig) : State := ⟨hot, "", 1, 0⟩

/-- The new password is the one of the section `[server]`. -/
def State.newCrypto (env : Env Key) (overrides : CliOverrides) (state : State)
    (sc : ServerConfig) : Option (Instance String) :=
  Tunnix.newCrypto env overrides.serverPassword state.lastPassword state.instances sc.password

/-- A version of the file leads to this hot config. -/
def State.nextHot (env : Env Key) (overrides : CliOverrides) (state : State) (sc : ServerConfig) :
    HotServerConfig where
  crypto := (state.newCrypto env overrides sc).getD state.hot.crypto
  pathPrefix := trimSlashes sc.pathPrefix
  rootRedirect := sc.rootRedirect
  rootHtml := sc.rootHtml
  healthBody := sc.healthResponse
  allowExec := if overrides.serverAllowExec then state.hot.allowExec else sc.allowExec
  allowTransfer :=
    if overrides.serverAllowTransfer then state.hot.allowTransfer else sc.allowTransfer

/-- The watcher compares the fields one by one, except for the password. -/
def State.changed (env : Env Key) (overrides : CliOverrides) (state : State) (sc : ServerConfig) :
    List String :=
  let next := state.nextHot env overrides sc
  changedField (state.newCrypto env overrides sc).isSome "password" ++
    changedField (next.pathPrefix != state.hot.pathPrefix) "path_prefix" ++
    changedField (next.rootRedirect != state.hot.rootRedirect) "root_redirect" ++
    changedField (next.rootHtml != state.hot.rootHtml) "root_html" ++
    changedField (next.healthBody != state.hot.healthBody) "health_body" ++
    changedField (next.allowExec != state.hot.allowExec) "allow_exec" ++
    changedField (next.allowTransfer != state.hot.allowTransfer) "allow_transfer"

/-- The watcher stores a hot config if any field has changed. -/
def State.reload (env : Env Key) (overrides : CliOverrides) (state : State) (file : Config) :
    State :=
  if state.changed env overrides file.server = [] then state
  else {
    hot := state.nextHot env overrides file.server
    lastPassword := file.server.password
    instances := state.instances + 1
    stores := state.stores + 1 }

section Reload
variable {env : Env Key} {overrides : CliOverrides} {state : State} {file : Config}

/-- Nothing has changed if the hot config would be the same. -/
theorem changed_nil {sc : ServerConfig} : state.changed env overrides sc = [] ↔
    state.newCrypto env overrides sc = none ∧ state.nextHot env overrides sc = state.hot := by
  simp only [State.changed, List.append_eq_nil_iff, changedField_nil, Option.isSome_eq_false_iff,
    Option.isNone_iff_eq_none, bne_eq_false_iff_eq]
  constructor
  · rintro ⟨⟨⟨⟨⟨⟨crypto, pathPrefix⟩, redirect⟩, html⟩, health⟩, exec⟩, transfer⟩
    refine ⟨crypto, ?_⟩
    have same : (state.nextHot env overrides sc).crypto = state.hot.crypto := by
      rw [State.nextHot, crypto]
      rfl
    exact HotServerConfig.ext same pathPrefix redirect html health exec transfer
  · rintro ⟨crypto, same⟩
    rw [same]
    exact ⟨⟨⟨⟨⟨⟨crypto, rfl⟩, rfl⟩, rfl⟩, rfl⟩, rfl⟩, rfl⟩

/-- The hot config after a reload is the one of the version, whether it was stored or not. -/
theorem reload_hot : (state.reload env overrides file).hot =
    state.nextHot env overrides file.server := by
  unfold State.reload
  split
  · next same => exact (changed_nil.mp same).2.symm
  · rfl

/-- A version that stores nothing changes nothing. -/
theorem reload_stores : (state.reload env overrides file).stores = state.stores ↔
    state.newCrypto env overrides file.server = none ∧
      state.nextHot env overrides file.server = state.hot := by
  rw [← changed_nil]
  unfold State.reload
  split
  · next same => exact iff_of_true rfl same
  · next differs => exact iff_of_false (Nat.succ_ne_self _) differs

/-- The password in force can be derived. -/
def Keyed (env : Env Key) (state : State) : Prop :=
  state.hot.crypto.source ≠ "" ∧ env.derives state.hot.crypto.source = true

theorem Keyed.reload (keyed : Keyed env state) : Keyed env (state.reload env overrides file) := by
  unfold Keyed
  rw [reload_hot]
  exact derives_getD keyed

end Reload

end Tunnix.ServerReload
