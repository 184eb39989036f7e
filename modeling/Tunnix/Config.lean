import Tunnix.Crypto
import Mathlib.Data.Finmap
import Mathlib.Data.List.DropRight

namespace Tunnix

/-- Header names map to their values. -/
abbrev Headers := Finmap fun _ : String => String

/-- `HeaderName::from_bytes` does not distinguish upper and lower case. -/
def headerName (key : String) : String := String.ofList (key.toList.map Char.toLower)

/-- `build_http_client` inserts the headers in the order in which their map yields them, and a later one
replaces an earlier one of its name. -/
def defaultHeaders (entries : List (Sigma fun _ : String => String)) : Headers :=
  entries.foldl (fun built entry => built.insert (headerName entry.1) entry.2) ∅

/-- These fields of the section `[server]` can be reloaded. -/
structure ServerConfig where
  password : String
  pathPrefix : String
  rootRedirect : Option String
  rootHtml : Option String
  healthResponse : String
  allowExec : Bool
  allowTransfer : Bool
deriving DecidableEq

/-- These fields of the section `[client]` can be reloaded. -/
structure ClientConfig where
  serverUrl : String
  password : String
  headers : Headers
deriving DecidableEq

structure Config where
  server : ServerConfig
  client : ClientConfig
deriving DecidableEq

/-- A password may also come from the environment variable `TUNNIX_PASSWORD`. -/
structure ServerArgs where
  password : Option String
  allowExec : Bool
  allowTransfer : Bool
deriving DecidableEq, Repr

structure ClientArgs where
  server : Option String
  password : Option String
  cookie : Option String
deriving DecidableEq, Repr

/-- `CliOverrides` records which fields were set on the command line. -/
structure CliOverrides where
  serverPassword : Bool
  serverAllowExec : Bool
  serverAllowTransfer : Bool
  clientPassword : Bool
  clientHeaders : Bool
deriving DecidableEq, Repr

def ServerArgs.overrides (args : ServerArgs) : CliOverrides where
  serverPassword := args.password.isSome
  serverAllowExec := args.allowExec
  serverAllowTransfer := args.allowTransfer
  clientPassword := false
  clientHeaders := false

def ClientArgs.overrides (args : ClientArgs) : CliOverrides where
  serverPassword := false
  serverAllowExec := false
  serverAllowTransfer := false
  clientPassword := args.password.isSome
  clientHeaders := args.cookie.isSome

/-- The command line is applied to the section that was read from the file. -/
def ServerArgs.apply (args : ServerArgs) (config : ServerConfig) : ServerConfig :=
  { config with
    password := args.password.getD config.password
    allowExec := if args.allowExec then true else config.allowExec
    allowTransfer := if args.allowTransfer then true else config.allowTransfer }

/-- `--cookie` becomes a header. -/
def ClientArgs.apply (args : ClientArgs) (config : ClientConfig) : ClientConfig where
  serverUrl := args.server.getD config.serverUrl
  password := args.password.getD config.password
  headers :=
    match args.cookie with
    | some cookie => config.headers.insert "Cookie" cookie
    | none => config.headers

/-- A shared object is known by its identity, and it remembers what it was made from. -/
structure Instance (Source : Type) where
  id : Nat
  source : Source
deriving DecidableEq, Repr

@[ext] structure HotServerConfig where
  crypto : Instance String
  pathPrefix : String
  rootRedirect : Option String
  rootHtml : Option String
  healthBody : String
  allowExec : Bool
  allowTransfer : Bool
deriving DecidableEq

@[ext] structure HotClientConfig where
  crypto : Instance String
  httpClient : Instance Headers
  serverBaseUrl : String
deriving DecidableEq

/-- `trim_end_matches('/')` removes all slashes at the end. -/
def trimSlashes (text : String) : String := String.ofList (text.toList.rdropWhile (· = '/'))

/-- The key derivation and the HTTP library decide what can be built: `buildHttpClient` says whether all
names and values are valid and the builder succeeds. -/
structure Env (Key : Type) where
  primitives : Primitives Key
  buildHttpClient : Headers → Bool

/-- `main` ends with one of these errors before its tunnel runs. -/
inductive StartupError where
  | missing (message : String)
  | crypto (error : CryptoError)
  | httpClient
deriving DecidableEq, Repr

variable {Key : Type}

/-- A password has a key. -/
def Env.derives (env : Env Key) (password : String) : Bool :=
  (Crypto.new env.primitives password).isOk

/-- Every password has a key here, and every set of headers makes a client. -/
def Env.lenient : Env Unit where
  primitives := ⟨fun _ => .ok (), fun _ _ _ => none⟩
  buildHttpClient _ := true

/-- This text is the same for the server and the client. -/
def passwordRequired : String :=
  "Password is required. Set via --password, TUNNIX_PASSWORD env var, or config file."

/-- `main` builds the first hot config of a server. -/
def serverMain (env : Env Key) (args : ServerArgs) (file : Config) :
    Except StartupError HotServerConfig :=
  let config := args.apply file.server
  if config.password = "" then .error (.missing passwordRequired)
  else
    match Crypto.new env.primitives config.password with
    | .error error => .error (.crypto error)
    | .ok _ => .ok {
        crypto := ⟨0, config.password⟩
        pathPrefix := trimSlashes config.pathPrefix
        rootRedirect := config.rootRedirect
        rootHtml := config.rootHtml
        healthBody := config.healthResponse
        allowExec := config.allowExec
        allowTransfer := config.allowTransfer }

/-- `main` and `Tunnel::connect` build the first hot config of a client. -/
def clientMain (env : Env Key) (args : ClientArgs) (file : Config) :
    Except StartupError HotClientConfig :=
  let config := args.apply file.client
  if config.serverUrl = "" then
    .error (.missing "Server URL is required. Set via --server or config file.")
  else if config.password = "" then .error (.missing passwordRequired)
  else
    match Crypto.new env.primitives config.password with
    | .error error => .error (.crypto error)
    | .ok _ =>
        if env.buildHttpClient config.headers then
          .ok {
            crypto := ⟨0, config.password⟩
            httpClient := ⟨1, config.headers⟩
            serverBaseUrl := trimSlashes config.serverUrl }
        else .error .httpClient

/-- A started server uses the file with its command line applied. -/
theorem serverMain_ok {env : Env Key} {args : ServerArgs} {file : Config} {hot : HotServerConfig}
    (started : serverMain env args file = .ok hot) :
    hot = {
      crypto := ⟨0, (args.apply file.server).password⟩
      pathPrefix := trimSlashes file.server.pathPrefix
      rootRedirect := file.server.rootRedirect
      rootHtml := file.server.rootHtml
      healthBody := file.server.healthResponse
      allowExec := (args.apply file.server).allowExec
      allowTransfer := (args.apply file.server).allowTransfer } ∧
    hot.crypto.source ≠ "" ∧ env.derives hot.crypto.source = true := by
  simp only [serverMain] at started
  split at started
  · cases started
  · next some_ =>
      split at started
      · cases started
      · next derived =>
          cases started
          refine ⟨rfl, some_, ?_⟩
          rw [Env.derives, derived]
          rfl

/-- A started client uses the file with its command line applied. -/
theorem clientMain_ok {env : Env Key} {args : ClientArgs} {file : Config} {hot : HotClientConfig}
    (started : clientMain env args file = .ok hot) :
    hot = {
      crypto := ⟨0, (args.apply file.client).password⟩
      httpClient := ⟨1, (args.apply file.client).headers⟩
      serverBaseUrl := trimSlashes (args.apply file.client).serverUrl } ∧
    hot.crypto.source ≠ "" ∧ env.derives hot.crypto.source = true ∧
    env.buildHttpClient hot.httpClient.source = true := by
  simp only [clientMain] at started
  split at started
  · cases started
  · split at started
    · cases started
    · next some_ =>
        split at started
        · cases started
        · next derived =>
            split at started
            · next built =>
                cases started
                refine ⟨rfl, some_, ?_, built⟩
                rw [Env.derives, derived]
                rfl
            · cases started

end Tunnix
