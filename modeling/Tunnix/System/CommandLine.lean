import Tunnix.Server.Reload
import Tunnix.Client.Reload

namespace Tunnix.CommandLine
variable {Key : Type}

/-- The values of a server's command line are in force. -/
structure ServerKept (args : ServerArgs) (hot : HotServerConfig) : Prop where
  password : ∀ password, args.password = some password → hot.crypto.source = password
  allowExec : args.allowExec = true → hot.allowExec = true
  allowTransfer : args.allowTransfer = true → hot.allowTransfer = true

/-- The client that is built from these headers sends this one, in whichever order a map yields them. -/
def Sends (headers : Headers) (name value : String) : Prop :=
  ∀ order : AList fun _ : String => String, order.toFinmap = headers →
    (defaultHeaders order.entries).lookup (headerName name) = some value

/-- The values of a client's command line are in force. -/
structure ClientKept (args : ClientArgs) (hot : HotClientConfig) : Prop where
  password : ∀ password, args.password = some password → hot.crypto.source = password
  cookie : ∀ cookie, args.cookie = some cookie → Sends hot.httpClient.source "Cookie" cookie
  server : ∀ url, args.server = some url → hot.serverBaseUrl = trimSlashes url

/-- The file has no other spelling of the cookie's name with another value. -/
def Unrivalled (cookie : String) (headers : Headers) : Prop :=
  ∀ name value, headers.lookup name = some value → headerName name = headerName "Cookie" →
    name = "Cookie" ∨ value = cookie

section Headers
variable {entries : List (Sigma fun _ : String => String)} {headers : Headers} {name value : String}

theorem defaultHeaders_append (entries : List (Sigma fun _ : String => String))
    (entry : Sigma fun _ : String => String) : defaultHeaders (entries ++ [entry]) =
      (defaultHeaders entries).insert (headerName entry.1) entry.2 := by
  rw [defaultHeaders, List.foldl_append]
  rfl

/-- A header whose spellings agree is sent. -/
theorem lookup_defaultHeaders (given : ∃ entry ∈ entries, headerName entry.1 = name)
    (agree : ∀ entry ∈ entries, headerName entry.1 = name → entry.2 = value) :
    (defaultHeaders entries).lookup name = some value := by
  induction entries using List.reverseRecOn with
  | nil =>
      obtain ⟨entry, member, -⟩ := given
      cases member
  | append_singleton entries last ih =>
      rw [defaultHeaders_append]
      by_cases own : headerName last.1 = name
      · rw [own, Finmap.lookup_insert]
        exact congrArg some (agree last (by simp) own)
      · rw [Finmap.lookup_insert_of_ne _ (Ne.symm own)]
        apply ih
        · obtain ⟨entry, member, same⟩ := given
          rcases List.mem_append.mp member with earlier | later
          · exact ⟨entry, earlier, same⟩
          · exact absurd (List.mem_singleton.mp later ▸ same) own
        · exact fun entry member => agree entry (List.mem_append_left _ member)

/-- A map may yield any of its entries last. -/
theorem exists_order_last (found : headers.lookup name = some value) :
    ∃ order : AList fun _ : String => String, order.toFinmap = headers ∧
      ∃ front, order.entries = front ++ [⟨name, value⟩] := by
  induction headers using Finmap.induction_on with
  | H listed =>
      obtain ⟨before, after, split⟩ := List.append_of_mem (AList.mem_lookup_iff.mp found)
      have moved : (before ++ after ++ [Sigma.mk name value]).Perm listed.entries := by
        rw [split, List.append_assoc]
        exact (List.perm_append_singleton _ after).append_left before
      have distinct : (before ++ after ++ [Sigma.mk name value]).NodupKeys :=
        (List.perm_nodupKeys moved).mpr listed.nodupKeys
      exact ⟨⟨_, distinct⟩, AList.toFinmap_eq.mpr moved, before ++ after, rfl⟩

/-- A header is sent exactly if all its spellings agree. -/
theorem sends_iff (found : headers.lookup name = some value) : Sends headers name value ↔
    ∀ spelled text, headers.lookup spelled = some text →
      headerName spelled = headerName name → text = value := by
  constructor
  · intro sends spelled text other same
    obtain ⟨order, yields, front, split⟩ := exists_order_last other
    have last := sends order yields
    rw [split, defaultHeaders_append, same, Finmap.lookup_insert] at last
    exact Option.some.inj last
  · rintro agree order rfl
    apply lookup_defaultHeaders
    · exact ⟨⟨name, value⟩, AList.mem_lookup_iff.mp found, rfl⟩
    · exact fun entry member same => agree entry.1 entry.2 (AList.mem_lookup_iff.mpr member) same

/-- The cookie of the command line is sent exactly if the file has no rival for it. -/
theorem sends_cookie_iff {cookie : String} :
    Sends (headers.insert "Cookie" cookie) "Cookie" cookie ↔ Unrivalled cookie headers := by
  rw [sends_iff (Finmap.lookup_insert headers)]
  constructor
  · intro agree spelled text found same
    by_cases own : spelled = "Cookie"
    · exact .inl own
    · exact .inr (agree spelled text ((Finmap.lookup_insert_of_ne _ own).trans found) same)
  · intro unrivalled spelled text found same
    by_cases own : spelled = "Cookie"
    · rw [own, Finmap.lookup_insert] at found
      exact (Option.some.inj found).symm
    · rw [Finmap.lookup_insert_of_ne _ own] at found
      exact (unrivalled spelled text found same).resolve_left own

end Headers

section Server
variable {env : Env Key} {args : ServerArgs}

/-- A started server uses its command line. -/
theorem ServerKept.start {file : Config} {hot : HotServerConfig}
    (started : serverMain env args file = .ok hot) : ServerKept args hot := by
  obtain ⟨rfl, -⟩ := serverMain_ok started
  constructor
  case password =>
    intro password given
    change args.password.getD _ = password
    rw [given]
    rfl
  case allowExec => exact fun given => if_pos given
  case allowTransfer => exact fun given => if_pos given

/-- No version of the file changes a value of the command line. -/
theorem ServerKept.reload {state : ServerReload.State} (kept : ServerKept args state.hot)
    (file : Config) : ServerKept args (state.reload env args.overrides file).hot := by
  rw [ServerReload.reload_hot]
  constructor
  case password =>
    intro password given
    have none_ : state.newCrypto env args.overrides file.server = none := by
      apply newCrypto_none.mpr
      left
      change args.password.isSome = true
      rw [given]
      rfl
    rw [ServerReload.State.nextHot, none_]
    exact kept.password password given
  case allowExec =>
    intro given
    have current : (state.nextHot env args.overrides file.server).allowExec = state.hot.allowExec :=
      if_pos given
    rw [current]
    exact kept.allowExec given
  case allowTransfer =>
    intro given
    have current : (state.nextHot env args.overrides file.server).allowTransfer =
        state.hot.allowTransfer := if_pos given
    rw [current]
    exact kept.allowTransfer given

end Server

section Client
variable {env : Env Key} {args : ClientArgs}

/-- A started client was built with the cookie of its command line. -/
theorem start_cookie_iff {file : Config} {hot : HotClientConfig} {cookie : String}
    (started : clientMain env args file = .ok hot) (given : args.cookie = some cookie) :
    Sends hot.httpClient.source "Cookie" cookie ↔ Unrivalled cookie file.client.headers := by
  obtain ⟨rfl, -⟩ := clientMain_ok started
  simp only [ClientArgs.apply, given]
  exact sends_cookie_iff

/-- A started client uses its command line, unless its file has a rival for the cookie. -/
theorem ClientKept.start {file : Config} {hot : HotClientConfig}
    (started : clientMain env args file = .ok hot)
    (unrivalled : ∀ cookie, args.cookie = some cookie → Unrivalled cookie file.client.headers) :
    ClientKept args hot := by
  have cookies cookie (given : args.cookie = some cookie) :=
    (start_cookie_iff started given).mpr (unrivalled cookie given)
  obtain ⟨rfl, -⟩ := clientMain_ok started
  constructor
  case password =>
    intro password given
    change args.password.getD _ = password
    rw [given]
    rfl
  case cookie => exact cookies
  case server =>
    intro url given
    change trimSlashes (args.server.getD _) = trimSlashes url
    rw [given]
    rfl

/-- A version of the file keeps the command line as long as its URL is the one of the command
line. -/
theorem ClientKept.after {state : ClientReload.State} {event : ClientReload.Event}
    (kept : ClientKept args state.hot)
    (same : ∀ url, args.server = some url → ∀ random file, event = .version random file →
      trimSlashes file.client.serverUrl = trimSlashes url) :
    ClientKept args (state.after env args.overrides event).hot := by
  cases event with
  | traffic channels => exact kept
  | version random file =>
      rw [ClientReload.State.after, ClientReload.reload_hot]
      constructor
      case password =>
        intro password given
        have none_ : state.newCrypto env args.overrides file.client = none := by
          apply newCrypto_none.mpr
          left
          change args.password.isSome = true
          rw [given]
          rfl
        rw [ClientReload.State.nextHot, none_]
        exact kept.password password given
      case cookie =>
        intro cookie given
        have none_ : state.newClient env args.overrides file.client = none := by
          apply ClientReload.newClient_none.mpr
          left
          change args.cookie.isSome = true
          rw [given]
          rfl
        rw [ClientReload.State.nextHot, none_]
        exact kept.cookie cookie given
      case server => exact fun url given => same url given random file rfl

end Client

/-- A server keeps its command line over all versions of its file. A client keeps it exactly if it was
started without a server URL or if every version has that URL, and if it was started without a cookie or
if its first file has no rival for it. -/
theorem command_line_kept_iff :
    (∀ (env : Env Key) (args : ServerArgs) (file : Config) (hot : HotServerConfig),
      serverMain env args file = .ok hot → ∀ versions : List Config,
        ServerKept args (versions.foldl (ServerReload.State.reload env args.overrides)
          (.start hot)).hot) ∧
    (∀ (env : Env Key) (args : ClientArgs) (file : Config) (hot : HotClientConfig)
        (sessionId : UInt64), clientMain env args file = .ok hot →
      ∀ events : List ClientReload.Event,
        (∀ processed, processed <+: events →
          ClientKept args (processed.foldl (ClientReload.State.after env args.overrides)
            (.start hot sessionId)).hot) ↔
        (∀ url, args.server = some url → ∀ random version, .version random version ∈ events →
          trimSlashes version.client.serverUrl = trimSlashes url) ∧
        ∀ cookie, args.cookie = some cookie → Unrivalled cookie file.client.headers) := by
  constructor
  · intro env args file hot started versions
    apply List.foldlRecOn versions
      (motive := fun state : ServerReload.State => ServerKept args state.hot)
    · exact ServerKept.start started
    · exact fun state kept version _ => kept.reload version
  · intro env args file hot sessionId started events
    constructor
    · refine fun kept => ⟨fun url given random version member => ?_, fun cookie given => ?_⟩
      · obtain ⟨before, after, rfl⟩ := List.append_of_mem member
        have now := (kept (before ++ [.version random version]) ⟨after, by simp⟩).server url given
        rw [List.foldl_append, List.foldl_cons, List.foldl_nil, ClientReload.State.after,
          ClientReload.reload_hot] at now
        exact now
      · exact (start_cookie_iff started given).mp ((kept [] List.nil_prefix).cookie cookie given)
    · rintro ⟨same, unrivalled⟩ processed part
      apply List.foldlRecOn processed
        (motive := fun state : ClientReload.State => ClientKept args state.hot)
      · exact ClientKept.start started unrivalled
      · intro state kept event member
        apply kept.after
        rintro url given random file rfl
        exact same url given random file (part.subset member)

/-- This file names a server of its own, and one header. -/
def ownFile : Config where
  server := ⟨"p", "", none, none, "ok", false, false⟩
  client := ⟨"http://file", "p", (∅ : Headers).insert "X-A" "1"⟩

/-- This client names the server of its file, and a cookie. -/
def cookieArgs : ClientArgs := ⟨some "http://file/", none, some "c"⟩

def cookieHot : HotClientConfig :=
  ⟨⟨0, "p"⟩, ⟨1, ownFile.client.headers.insert "Cookie" "c"⟩, "http://file"⟩

/-- The theorem applies to a client whose command line names the same server as its file. -/
theorem command_line_kept_of_same :
    ClientKept cookieArgs ([ClientReload.Event.version 1 ownFile].foldl
      (ClientReload.State.after Env.lenient cookieArgs.overrides) (.start cookieHot 7)).hot := by
  have started : clientMain Env.lenient cookieArgs ownFile = .ok cookieHot := by decide +kernel
  refine (command_line_kept_iff.2 _ _ _ _ 7 started [.version 1 ownFile]).mpr ⟨?_, ?_⟩ _
    (List.prefix_refl _)
  · rintro url ⟨⟩ random version member
    obtain ⟨-, rfl⟩ := ClientReload.Event.version.inj (List.mem_singleton.mp member)
    decide +kernel
  · intro cookie _ name value found same
    by_cases own : name = "X-A"
    · rw [own] at same
      exact absurd same (by decide +kernel)
    · rw [show ownFile.client.headers = (∅ : Headers).insert "X-A" "1" from rfl,
        Finmap.lookup_insert_of_ne _ own, Finmap.lookup_empty] at found
      cases found

/-- A client that was started with a URL leaves it at the first change of its file. -/
theorem server_url_overwritten :
    ¬ ∀ (args : ClientArgs) (file : Config) (hot : HotClientConfig) (sessionId : UInt64),
      clientMain Env.lenient args file = .ok hot → ∀ events : List ClientReload.Event,
        ClientKept args (events.foldl (ClientReload.State.after Env.lenient args.overrides)
          (.start hot sessionId)).hot := by
  intro kept
  have started : clientMain Env.lenient ⟨some "http://cli", none, none⟩ ownFile =
      .ok ⟨⟨0, "p"⟩, ⟨1, ownFile.client.headers⟩, "http://cli"⟩ := by decide +kernel
  have server := (kept _ _ _ 7 started [.version 1 ownFile]).server "http://cli" rfl
  exact absurd server (by decide +kernel)

end Tunnix.CommandLine
