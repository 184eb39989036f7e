import Tunnix.Client.HttpRequest
import Tunnix.Client.EntryPoints

namespace Tunnix.HttpProxy
open Handler

/-- A message opens a connection to a target. -/
def opens (target : String × Nat) (connId : ConnId) : Message → Bool
  | .connect id host port => id = connId ∧ (host, port.toNat) = target
  | _ => false

/-- The bytes that a handler forwards to a target. -/
def forwardedTo (sent : List Message) (target : String × Nat) : Bytes :=
  sent.flatMap fun
    | .data connId bytes => if sent.any (opens target connId) then bytes else []
    | _ => []

/-- Every target gets the requests of its own URIs in their origin form, up to where the app's
stream was read. -/
def OwnHost (requests : List Request) (sent : List Message) : Prop :=
  ∀ target, forwardedTo sent target <+:
    (requests.filter fun request => request.uri.target = target).flatMap Request.originForm

/-- The proxy finds a target in what it reads first. -/
def accepts (input : Bytes) : Bool :=
  match readHeader [] input with
  | .error _ => false
  | .ok (header, _) =>
      match parseHeader header with
      | .error _ => false
      | .ok (request, _) => (parseHttpUri request.uri).isOk

section Run
variable {env : Environment} {world : World}

theorem handle_eq : handleHttpProxyClient env world =
    match readHeader [] world.input with
    | .error error => .error error world
    | .ok (header, rest) =>
        match parseHeader header with
        | .error error => .error error { world with input := rest }
        | .ok (request, headers) =>
            (if request.method.map lower = (utf8 "CONNECT").map lower then
              handleConnect env request.uri
            else
              handlePlainHttp env request.method request.uri request.version headers)
              { world with input := rest } := by
  unfold handleHttpProxyClient
  change EStateM.bind _ _ _ = _
  unfold EStateM.bind
  change EStateM.bind _ _ _ = _
  unfold EStateM.bind
  cases readHeader [] world.input with
  | error error => rfl
  | ok read =>
      obtain ⟨header, rest⟩ := read
      change EStateM.bind _ _ _ = _
      unfold EStateM.bind
      change EStateM.bind _ _ _ = _
      unfold EStateM.bind
      dsimp only
      cases parseHeader header with
      | error error => rfl
      | ok parsed => rfl

theorem handlePlainHttp_eq {method uri version headers : Bytes} :
    handlePlainHttp env method uri version headers world =
      match parseHttpUri uri with
      | .error error => .error error world
      | .ok (host, port, path) =>
          connectThrough env (text host) port badGateway (fun connId =>
            sendMessage env (.data connId (rewritten method path version headers))) world := by
  unfold handlePlainHttp
  change EStateM.bind _ _ _ = _
  unfold EStateM.bind
  cases parseHttpUri uri with
  | error error => rfl
  | ok target => rfl

/-- A request without an accepted target sends nothing. -/
theorem sent_of_refused {request : Request} {later : Bytes} (input : world.input =
    request.render ++ later) (refused : accepts world.input = false) (silent : world.sent = []) :
    (after (handleHttpProxyClient env world)).sent = [] := by
  unfold accepts at refused
  rw [handle_eq]
  cases read : readHeader [] world.input with
  | error error => exact silent
  | ok result =>
      obtain ⟨header, rest⟩ := result
      dsimp only
      cases parsed : parseHeader header with
      | error error => exact silent
      | ok result =>
          obtain ⟨line, headers⟩ := result
          dsimp only
          rw [input] at read
          obtain ⟨-, rfl, -⟩ := Request.parsed read parsed
          rw [if_neg request.plain, handlePlainHttp_eq]
          rw [input, read] at refused
          dsimp only at refused
          rw [parsed] at refused
          dsimp only at refused ⊢
          cases target : parseHttpUri request.uri.render with
          | error error => exact silent
          | ok target =>
              rw [target] at refused
              contradiction

/-- The chunks are the front of the stream. -/
theorem chunks_flatten (sizes : List Nat) (bytes : Bytes) :
    (chunks sizes bytes).flatten <+: bytes := by
  induction sizes, bytes using chunks.induct with
  | case1 bytes => exact List.nil_prefix
  | case2 size sizes => exact List.nil_prefix
  | case3 size sizes byte rest count ih =>
      obtain ⟨unread, same⟩ := ih
      refine ⟨unread, ?_⟩
      rw [chunks, List.flatten_cons, List.append_assoc, same, List.cons_append, List.take_append_drop]

/-- A stream that is read byte by byte is read to its end. -/
theorem chunks_bytewise (bytes : Bytes) :
    (chunks (List.replicate bytes.length 0) bytes).flatten = bytes := by
  induction bytes with
  | nil => rfl
  | cons byte rest ih =>
      rw [List.length_cons, List.replicate_succ, chunks, List.flatten_cons, Nat.zero_min,
        List.take_zero, List.drop_zero, ih]
      rfl

/-- In these surroundings every step succeeds, and the relay reads this many bytes. -/
def eager (count : Nat) : Environment where
  connect := ⟨.ok (some (.data 0 [])), true, fun _ => rfl⟩
  writes _ := true
  posts := true
  reads := List.replicate count 0
  upload := .eof

/-- A message ends a connection. -/
def isFarewell : Message → Bool
  | .close _ | .abort _ => true
  | _ => false

theorem farewell_all (connId : ConnId) (upload : ClientRelay.Upload) :
    ∀ message ∈ farewell connId upload, isFarewell message = true := by
  cases upload with
  | eof => exact List.forall_mem_singleton.mpr rfl
  | failed => exact List.forall_mem_singleton.mpr rfl
  | stopped ending =>
      cases ending with
      | localFailure => exact List.forall_mem_singleton.mpr rfl
      | serverReported => nofun

/-- An acknowledged connection gets the rewritten request and then what the relay reads. -/
theorem sent_of_acknowledged {env : Environment} {world : World}
    {host path method version headers uri : Bytes} {port : UInt16}
    (target : parseHttpUri uri = .ok (host, port, path)) (silent : world.sent = [])
    (acked : isAck env.connect.returned = true) (posts : env.posts = true) :
    (after (handlePlainHttp env method uri version headers world)).sent =
      .connect world.counter (text host) port ::
        ((rewritten method path version headers :: chunks env.reads world.input).map
          (.data world.counter) ++ farewell world.counter env.upload) := by
  rw [handlePlainHttp_eq, target]
  dsimp only
  rw [connectThrough_eq, if_pos acked]
  change (after (EStateM.bind _ _ _)).sent = _
  unfold EStateM.bind sendMessage
  rw [if_pos posts]
  change (world.sent ++ [_] ++ [_]) ++ (chunks env.reads world.input).map _ ++ _ = _
  rw [silent]
  rfl

/-- The handler sends a front of the rewritten request and of what follows it, and the whole of it
when the surroundings are eager. -/
theorem sent_of_accepted (env : Environment) (world : World)
    {host path method version headers rest uri : Bytes} {port : UInt16}
    (target : parseHttpUri uri = .ok (host, port, path)) (input : world.input = rest)
    (silent : world.sent = []) :
    ∃ (datas : List Bytes) (farewells : List Message),
      (after (handlePlainHttp env method uri version headers world)).sent =
        .connect world.counter (text host) port :: (datas.map (.data world.counter) ++ farewells) ∧
      (∀ message ∈ farewells, isFarewell message = true) ∧
      datas.flatten <+: rewritten method path version headers ++ rest ∧
      (env = eager rest.length → datas.flatten = rewritten method path version headers ++ rest) := by
  by_cases acked : isAck env.connect.returned = true
  · by_cases posts : env.posts = true
    · refine ⟨rewritten method path version headers :: chunks env.reads rest,
        farewell world.counter env.upload, ?_, farewell_all _ _, ?_, ?_⟩
      · rw [sent_of_acknowledged target silent acked posts, input]
      · rw [List.flatten_cons]
        exact (List.prefix_append_right_inj _).mpr (chunks_flatten _ _)
      · rintro rfl
        rw [List.flatten_cons]
        exact congrArg _ (chunks_bytewise rest)
    · refine ⟨[rewritten method path version headers], [], ?_, nofun, ?_, ?_⟩
      · rw [handlePlainHttp_eq, target]
        dsimp only
        rw [connectThrough_eq, if_pos acked]
        change (after (EStateM.bind _ _ _)).sent = _
        unfold EStateM.bind sendMessage
        rw [if_neg posts]
        change world.sent ++ [_] ++ [_] = _
        rw [silent]
        rfl
      · rw [List.flatten_singleton]
        exact List.prefix_append _ _
      · rintro rfl
        exact absurd rfl posts
  · refine ⟨[], [], ?_, nofun, List.nil_prefix, ?_⟩
    · rw [handlePlainHttp_eq, target]
      dsimp only
      rw [connectThrough_eq, if_neg acked]
      change (after (EStateM.bind _ _ _)).sent = _
      unfold EStateM.bind writeAll
      have sent : (world.request (text host) port).sent =
          [.connect world.counter (text host) port] := by
        change world.sent ++ [_] = _
        rw [silent]
        rfl
      split
      · next value next ran =>
          split at ran
          · cases ran
            exact sent
          · contradiction
      · next error next ran =>
          split at ran
          · contradiction
          · cases ran
            exact sent
    · rintro rfl
      exact absurd rfl acked

end Run

section Forwarded
variable {connId : ConnId} {host : String} {port : UInt16} {datas : List Bytes}
  {farewells : List Message}

/-- The data of a handler's only connection goes to the target of that connection. -/
theorem forwardedTo_eq (target : String × Nat)
    (ends : ∀ message ∈ farewells, isFarewell message = true) :
    forwardedTo (.connect connId host port :: (datas.map (.data connId) ++ farewells)) target =
      if (host, port.toNat) = target then datas.flatten else [] := by
  have named (id : ConnId) :
      (Message.connect connId host port :: (datas.map (.data connId) ++ farewells)).any
        (opens target id) = decide (connId = id ∧ (host, port.toNat) = target) := by
    have others : (datas.map (Message.data connId) ++ farewells).any (opens target id) = false := by
      rw [List.any_eq_false]
      intro message member
      rcases List.mem_append.mp member with data | farewell
      · obtain ⟨bytes, -, rfl⟩ := List.mem_map.mp data
        exact Bool.false_ne_true
      · have farewell := ends message farewell
        cases message with
        | close | abort => exact Bool.false_ne_true
        | _ => contradiction
    rw [List.any_cons, others, Bool.or_false]
    rfl
  unfold forwardedTo
  simp only [named]
  rw [List.flatMap_cons, List.nil_append, List.flatMap_append]
  have quiet : (farewells.flatMap fun message => match message with
      | .data id bytes =>
          if decide (connId = id ∧ (host, port.toNat) = target) = true then bytes else []
      | _ => []) = [] := by
    rw [List.flatMap_eq_nil_iff]
    intro message member
    have farewell := ends message member
    cases message with
    | close | abort => rfl
    | _ => contradiction
  rw [quiet, List.append_nil, List.flatMap_map]
  split
  · next same =>
      simp only [same, and_self, decide_true, if_true]
      exact List.flatMap_id
  · next other =>
      simp only [other, and_false, decide_false, Bool.false_eq_true, if_false]
      exact List.flatMap_eq_nil_iff.mpr fun _ _ => rfl

end Forwarded

/-- A host with this byte is not a host without it. -/
theorem text_ne {host host' : Bytes} {byte : UInt8} (small : 0 < byte ∧ byte < 0x80)
    (member : byte ∈ host) (absent : byte ∉ host') : text host ≠ text host' := by
  intro same
  have chars := String.ofList_injective same
  obtain ⟨before, after, rfl⟩ := List.append_of_mem member
  have inside : Utf8.ascii byte ∈ Utf8.lossy host' := by
    rw [← chars, Utf8.lossy, Utf8.lossyFrom_append_ascii small.2]
    exact List.mem_append_right _ List.mem_cons_self
  have least := UInt8.lt_iff_toNat_lt.mp small.1
  have most := UInt8.lt_iff_toNat_lt.mp small.2
  rw [← Utf8.toNat_ascii byte] at least most
  obtain ⟨byte', inside', same⟩ := Utf8.mem_lossyFrom inside most (Nat.ne_of_gt least)
  rw [Utf8.ascii_injective same] at absent
  exact absent inside'

theorem rewritten_eq (request : Request) (path : Bytes) :
    rewritten request.method path (utf8 "HTTP/1.1") (request.fields.flatMap (· ++ crlf)) =
      request.header path := by
  simp only [rewritten, Request.header, Request.line, List.flatMap_cons, List.append_assoc,
    List.cons_append, List.nil_append]

theorem header_eq (request : Request) (path : Bytes) :
    ∃ more, request.header path = request.method ++ 0x20 :: (path ++ more) := by
  refine ⟨0x20 :: utf8 "HTTP/1.1" ++ crlf ++ request.fields.flatMap (· ++ crlf) ++ crlf, ?_⟩
  simp only [Request.header, Request.line, List.flatMap_cons, List.append_assoc,
    List.cons_append]

/-- A rendered request does not begin like a request in origin form. -/
theorem not_prefix_originForm (request : Request) (more : Bytes) (others : List Request) :
    ¬ request.render ++ more <+: others.flatMap Request.originForm := by
  rintro ⟨unread, same⟩
  have spaceless (request : Request) : 0x20 ∉ request.method :=
    fun member => request.methodToken _ member (by decide)
  obtain ⟨_, absolute⟩ := header_eq request request.uri.render
  rw [Request.render, absolute] at same
  cases others with
  | nil =>
      rw [List.flatMap_nil] at same
      simp at same
  | cons other others =>
      obtain ⟨_, origin⟩ := header_eq other other.uri.originForm
      obtain ⟨path, rooted⟩ : ∃ path, other.uri.originForm = 0x2F :: path := by
        unfold Uri.originForm
        rcases other.uri.pathRooted with empty | ⟨rest, rooted⟩
        · exact ⟨other.uri.queryPart, by rw [if_pos empty]; rfl⟩
        · exact ⟨rest ++ other.uri.queryPart, by
            rw [rooted, if_neg (List.cons_ne_nil _ _)]; rfl⟩
      rw [List.flatMap_cons, Request.originForm, origin, rooted] at same
      simp only [List.append_assoc, List.cons_append] at same
      have targets := (mid_inj (spaceless request) (spaceless other) same).2
      rw [Uri.render] at targets
      cases scheme : request.uri.scheme with
      | nil =>
          rw [scheme] at targets
          exact absurd (List.cons.inj targets).1 (by decide)
      | cons byte rest =>
          rw [scheme] at targets
          refine (request.uri.schemePlain byte (scheme ▸ List.mem_cons_self)).1 ?_
          rw [(List.cons.inj targets).1]
          decide

section Accepted
variable {request : Request} {later : Bytes}

/-- An accepted request is handled with what the proxy has parsed of it. -/
theorem handle_of_accepted (accepted : accepts (request.render ++ later) = true) :
    ∃ host port path, parseHttpUri request.uri.render = .ok (host, port, path) ∧
      ∀ (env : Environment) (world : World), world.input = request.render ++ later →
        handleHttpProxyClient env world =
          handlePlainHttp env request.method request.uri.render (utf8 "HTTP/1.1")
            (request.fields.flatMap (· ++ crlf)) { world with input := request.body ++ later } := by
  unfold accepts at accepted
  split at accepted
  · contradiction
  · next header rest read =>
      split at accepted
      · contradiction
      · next line headers parsed =>
          obtain ⟨rfl, rfl, rfl⟩ := Request.parsed read parsed
          dsimp only at accepted
          generalize parsedUri : parseHttpUri request.uri.render = target at accepted
          cases target with
          | error error => contradiction
          | ok target =>
              obtain ⟨host, port, path⟩ := target
              refine ⟨host, port, path, rfl, fun env world input => ?_⟩
              rw [handle_eq, input, read]
              dsimp only
              rw [parsed]
              dsimp only
              rw [if_neg request.plain]

/-- An accepted request goes to the target that the proxy has parsed, and so does all that follows
it on the app's stream. -/
theorem forwarded_of_accepted (accepted : accepts (request.render ++ later) = true) :
    ∃ host port path, parseHttpUri request.uri.render = .ok (host, port, path) ∧
      ∀ env counter channels, ∃ bytes,
        (∀ target, forwardedTo (after (handleHttpProxyClient env
          (World.start (request.render ++ later) counter channels))).sent target =
            if (text host, port.toNat) = target then bytes else []) ∧
        bytes <+: request.header path ++ (request.body ++ later) ∧
        (env = eager (request.body ++ later).length →
          bytes = request.header path ++ (request.body ++ later)) := by
  obtain ⟨host, port, path, target, handled⟩ := handle_of_accepted accepted
  refine ⟨host, port, path, target, fun env counter channels => ?_⟩
  rw [handled env (World.start _ counter channels) rfl, ← rewritten_eq]
  obtain ⟨datas, farewells, sent, ends, front, whole⟩ :=
    sent_of_accepted env { World.start (request.render ++ later) counter channels
      with input := request.body ++ later } target rfl rfl
  refine ⟨datas.flatten, fun target => ?_, front, whole⟩
  rw [sent]
  exact forwardedTo_eq target ends

end Accepted

/-- A target is owed the first request of all if it is its own. -/
theorem owed_cons {request : Request} {target : String × Nat} (others : List Request)
    (own : request.uri.target = target) :
    ((request :: others).filter fun request => request.uri.target = target).flatMap
        Request.originForm =
      request.header request.uri.originForm ++ (request.body ++
        (others.filter fun request => request.uri.target = target).flatMap Request.originForm) := by
  rw [List.filter_cons, if_pos (decide_eq_true own), List.flatMap_cons, ← List.append_assoc]
  rfl

section Parsed
variable {request : Request} {host path : Bytes} {port : UInt16}

theorem own_target (parsed : parseHttpUri request.uri.render = .ok (host, port, path))
    (anonymous : request.uri.userinfo = none)
    (shaped : request.uri.path ≠ [] ∨ request.uri.query = none) :
    (text host, port.toNat) = request.uri.target := by
  obtain ⟨rfl, number, -⟩ := Uri.parsed_own parsed anonymous shaped
  rw [number]
  rfl

/-- Only a URI without user information, and with a path before its query, goes to a target that
may get the request. -/
theorem own_shape {rest : Bytes} {requests : List Request}
    (parsed : parseHttpUri request.uri.render = .ok (host, port, path))
    (received : request.header path ++ rest <+:
      (requests.filter fun request => request.uri.target = (text host, port.toNat)).flatMap
        Request.originForm) :
    request.uri.userinfo = none ∧ (request.uri.path ≠ [] ∨ request.uri.query = none) := by
  by_contra odd
  have odd : request.uri.userinfo ≠ none ∨
      (request.uri.path = [] ∧ request.uri.query ≠ none) := by
    by_cases anonymous : request.uri.userinfo = none
    · right
      rw [not_and, not_or, not_ne_iff] at odd
      exact odd anonymous
    · exact .inl anonymous
  have foreign (other : Request) : other.uri.target ≠ (text host, port.toNat) := by
    intro same
    have host_ : text host = text other.uri.host := (Prod.mk.inj same).1.symm
    rcases Uri.parsed_foreign parsed odd with member | member
    · exact text_ne (by decide) member
        (fun member => other.uri.hostPlain _ member (by decide)) host_
    · exact text_ne (by decide) member
        (fun member => other.uri.hostPlain _ member (by decide)) host_
  have none_ : (requests.filter fun request => request.uri.target = (text host, port.toNat)) = [] :=
    List.filter_eq_nil_iff.mpr fun other _ => by
      rw [decide_eq_true_iff]
      exact foreign other
  obtain ⟨more, header⟩ := header_eq request path
  rw [none_, List.flatMap_nil, List.prefix_nil, header] at received
  simp at received

end Parsed

/-- Every target gets its own requests in every surrounding exactly when the proxy finds no target
for the first request, or that request is the only one and its URI has no user information, and a
path before its query. -/
theorem ownHost_iff (requests : List Request) :
    (∀ env counter channels, OwnHost requests
      (after (handleHttpProxyClient env
        (World.start (requests.flatMap Request.render) counter channels))).sent) ↔
    accepts (requests.flatMap Request.render) = false ∨
      ∃ request, requests = [request] ∧ request.uri.userinfo = none ∧
        (request.uri.path ≠ [] ∨ request.uri.query = none) := by
  cases requests with
  | nil =>
      refine iff_of_true (fun env counter channels target => ?_) (.inl rfl)
      exact List.nil_prefix
  | cons request others =>
      rw [List.flatMap_cons]
      cases accepted : accepts (request.render ++ others.flatMap Request.render) with
      | false =>
          refine iff_of_true (fun env counter channels target => ?_) (.inl rfl)
          rw [sent_of_refused rfl accepted rfl]
          exact List.nil_prefix
      | true =>
          obtain ⟨host, port, path, parsed, forwarded⟩ := forwarded_of_accepted accepted
          rw [Bool.true_eq_false, false_or]
          constructor
          · intro own
            let env := eager (request.body ++ others.flatMap Request.render).length
            obtain ⟨bytes, sent, -, whole⟩ := forwarded env 0 ∅
            have received := own env 0 ∅ (text host, port.toNat)
            rw [sent, if_pos rfl, whole rfl] at received
            have shape := own_shape parsed received
            cases others with
            | nil => exact ⟨request, rfl, shape⟩
            | cons next others =>
                rw [own_target parsed shape.1 shape.2, (Uri.parsed_own parsed shape.1 shape.2).2.2,
                  owed_cons _ rfl, List.prefix_append_right_inj, List.prefix_append_right_inj,
                  List.flatMap_cons] at received
                exact absurd received (not_prefix_originForm next _ _)
          · rintro ⟨request', same, anonymous, shaped⟩ env counter channels target
            obtain ⟨rfl, rfl⟩ := List.cons.inj same
            obtain ⟨bytes, sent, front, -⟩ := forwarded env counter channels
            rw [sent, own_target parsed anonymous shaped]
            split
            · next goal =>
                rw [owed_cons [] goal, List.filter_nil, List.flatMap_nil]
                rw [(Uri.parsed_own parsed anonymous shaped).2.2, List.flatMap_nil] at front
                exact front
            · exact List.nil_prefix

/-- A request for the root of a host whose name is one letter. -/
def getRoot (letter : UInt8) (plain : letter ∉ delimiters ∧ letter ≠ 0x3A) : Request where
  method := utf8 "GET"
  uri :=
    { scheme := utf8 "http"
      userinfo := none
      host := [letter]
      port := none
      path := [0x2F]
      query := none
      schemePlain := List.all_iff_forall_prop.mp (by decide)
      userinfoPlain := nofun
      hostPlain := List.forall_mem_singleton.mpr plain.1
      hostLiteral := fun member => absurd (List.mem_singleton.mp member).symm plain.2
      pathRooted := .inr ⟨[], rfl⟩
      pathPlain := List.all_iff_forall_prop.mp (by decide)
      queryPlain := nofun }
  fields := []
  body := []
  methodToken := List.all_iff_forall_prop.mp (by decide)
  plain := by decide
  fieldLine := nofun

/-- A client sends two requests in a row. The target of the first one gets the second one as well,
in the form that was meant for the proxy. -/
theorem second_request_strays : ∃ first second : Request,
    first.uri.target = ("a", 80) ∧ second.uri.target = ("b", 80) ∧ ∃ env,
      forwardedTo (after (handleHttpProxyClient env
        (World.start ([first, second].flatMap Request.render) 7 ∅))).sent ("a", 80) =
          utf8 "GET / HTTP/1.1\r\n\r\nGET http://b/ HTTP/1.1\r\n\r\n" ∧
      ¬ OwnHost [first, second] (after (handleHttpProxyClient env
        (World.start ([first, second].flatMap Request.render) 7 ∅))).sent := by
  refine ⟨getRoot 0x61 (by decide), getRoot 0x62 (by decide), by decide, by decide, eager 40, ?_⟩
  have received : forwardedTo (after (handleHttpProxyClient (eager 40)
      (World.start ([getRoot 0x61 (by decide), getRoot 0x62 (by decide)].flatMap Request.render)
        7 ∅))).sent ("a", 80) =
      utf8 "GET / HTTP/1.1\r\n\r\nGET http://b/ HTTP/1.1\r\n\r\n" := by
    decide +kernel
  refine ⟨received, fun own => ?_⟩
  have front := own ("a", 80)
  rw [received] at front
  revert front
  decide +kernel

end Tunnix.HttpProxy
