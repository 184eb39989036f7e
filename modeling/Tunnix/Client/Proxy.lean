import Tunnix.System.SocksTarget
import Tunnix.Client.HttpExact

namespace Tunnix.Proxy
open Handler HttpProxy
open Socks5 (Greeting ConnectRequest handshake handleSocks5Client selection socks5Version)

/-- HTTP methods begin with a letter. -/
def letter (byte : UInt8) : Bool :=
  decide (0x41 ≤ byte ∧ byte ≤ 0x5A) || decide (0x61 ≤ byte ∧ byte ≤ 0x7A)

/-- `peek` leaves the app's first byte in its stream. At the end of the stream it leaves a zero. -/
def dispatch (env : Environment) : HandlerM Unit := fun world =>
  let first := world.input.headD 0
  if first = socks5Version then handleSocks5Client env world
  else if letter first then handleHttpProxyClient env world
  else .error ("Unknown protocol (first byte: 0x" ++ Socks5.hex first ++ ")") world

/-- The proxy takes an app's bytes for a request of this target, as its parsers read them. -/
inductive Takes (env : Environment) (input : Bytes) : String → UInt16 → Bytes → Prop
  | socks5 {greeting : Greeting} {request : ConnectRequest} {payload : Bytes} :
      env.writes selection = true → input = greeting.render ++ (request.render ++ payload) →
      Takes env input request.address.host request.port payload
  | connect {block rest headers host : Bytes} {line : RequestLine} {port : UInt16} :
      letter (input.headD 0) = true → HeaderBlock block → input = block ++ rest →
      parseHeader block = .ok (line, headers) →
      line.method.map lower = (utf8 "CONNECT").map lower →
      parseAuthority line.uri = .ok (host, port) → Takes env input (text host) port rest
  | plainHttp {block rest headers host path : Bytes} {line : RequestLine} {port : UInt16} :
      letter (input.headD 0) = true → HeaderBlock block → input = block ++ rest →
      parseHeader block = .ok (line, headers) →
      line.method.map lower ≠ (utf8 "CONNECT").map lower →
      parseHttpUri line.uri = .ok (host, port, path) →
      Takes env input (text host) port (rewritten line.method path line.version headers ++ rest)

/-- An HTTP request begins with a line of three words, and its header is small enough. -/
structure Begins (input method target version tail block rest : Bytes) : Prop where
  letter : letter (input.headD 0) = true
  methodWord : 0x20 ∉ method
  targetWord : 0x20 ∉ target
  unbroken : ¬ crlf <:+: requestLine method target version
  whole : input = requestLine method target version ++ crlf ++ tail
  split : input = block ++ rest
  header : HeaderBlock block
  valid : Utf8.valid block = true

/-- An app asks for a target in one of three protocols, and these bytes are for the target. An HTTP
request names it by the grammar of authorities and absolute URIs, with nothing that the proxy's
parsers take for another part of it. -/
inductive Asks (env : Environment) (input : Bytes) : String → UInt16 → Bytes → Prop
  | socks5 {greeting : Greeting} {request : ConnectRequest} {payload : Bytes} :
      env.writes selection = true → input = greeting.render ++ (request.render ++ payload) →
      Asks env input request.address.host request.port payload
  | connect {method version tail block rest host : Bytes} {authority : Authority} {port : UInt16} :
      Begins input method authority.render version tail block rest →
      method.map lower = (utf8 "CONNECT").map lower → authority.Clear [] [] →
      authority.target 443 = some (host, port) → Asks env input (text host) port rest
  | plainHttp {method version tail block rest host path : Bytes} {uri : AbsoluteUri}
      {port : UInt16} :
      Begins input method uri.render version tail block rest →
      method.map lower ≠ (utf8 "CONNECT").map lower → uri.Clear →
      uri.target = some (host, port, path) →
      Asks env input (text host) port (requestLine method path version ++ crlf ++ tail)

/-- These bytes are on their way to the target. -/
def forwarded (sent : List Message) : Bytes :=
  sent.flatMap fun
    | .data _ bytes => bytes
    | _ => []

/-- The proxy has registered one connection, and it requests this target first. All that it sends
belongs to the connection, and what it forwards is a front of this stream. A relay that reads often
enough forwards all of it. -/
structure Serves (reads : List Nat) (connId : ConnId) (final : World) (host : String)
    (port : UInt16) (stream : Bytes) : Prop where
  registers : final.registered = [connId]
  requests : final.sent.head? = some (.connect connId host port)
  own : ∀ message ∈ final.sent, message.connId? = some connId
  forwards : forwarded final.sent <+: stream
  whole : final.relayed ≠ [] → stream.length ≤ reads.length → forwarded final.sent = stream

section Forwarded
variable {first second : List Message} {connId : ConnId}

theorem forwarded_append : forwarded (first ++ second) = forwarded first ++ forwarded second :=
  List.flatMap_append

theorem forwarded_chunks (datas : List Bytes) :
    forwarded (datas.map (.data connId)) = datas.flatten := by
  induction datas with
  | nil => rfl
  | cons data rest ih =>
      change data ++ forwarded (rest.map (.data connId)) = _
      rw [ih, List.flatten_cons]

theorem forwarded_farewell (upload : ClientRelay.Upload) :
    forwarded (farewell connId upload) = [] := by
  unfold farewell
  split <;> rfl

theorem farewell_own (upload : ClientRelay.Upload) :
    ∀ message ∈ farewell connId upload, message.connId? = some connId := by
  unfold farewell
  split <;> simp [Message.connId?]

/-- Each read takes at least one byte. -/
theorem chunks_whole {sizes : List Nat} {bytes : Bytes} (enough : bytes.length ≤ sizes.length) :
    (chunks sizes bytes).flatten = bytes := by
  induction sizes, bytes using chunks.induct with
  | case1 bytes => exact (List.length_eq_zero_iff.mp (Nat.le_zero.mp enough)).symm
  | case2 size sizes => rfl
  | case3 size sizes byte rest count ih =>
      have shorter : (rest.drop count).length ≤ sizes.length := by
        simp only [List.length_cons] at enough
        simp only [List.length_drop]
        omega
      rw [chunks, List.flatten_cons, ih shorter, List.cons_append, List.take_append_drop]

end Forwarded

/-- The step between the acknowledgement and the relay forwards these bytes, unless it fails. -/
structure Opens (opening : HandlerM Unit) (connId : ConnId) (lead : Bytes) : Prop where
  sends : ∀ world, ∃ early, (after (opening world)).sent = world.sent ++ early ∧
    (∀ message ∈ early, message.connId? = some connId) ∧ forwarded early <+: lead ∧
    (succeeds (opening world) = true → forwarded early = lead)
  keeps : ∀ world, (after (opening world)).books = world.books ∧
    (after (opening world)).input = world.input

theorem writeAll_opens (env : Environment) (bytes : Bytes) (connId : ConnId) :
    Opens (writeAll env bytes) connId [] where
  sends world := by
    refine ⟨[], ?_, nofun, List.nil_prefix, fun _ => rfl⟩
    rw [List.append_nil]
    unfold writeAll
    split <;> rfl
  keeps world := by
    unfold writeAll
    split <;> exact ⟨rfl, rfl⟩

theorem sendMessage_opens (env : Environment) (bytes : Bytes) (connId : ConnId) :
    Opens (sendMessage env (.data connId bytes)) connId bytes where
  sends world := by
    have whole : forwarded [.data connId bytes] = bytes := List.flatMap_singleton ..
    refine ⟨[.data connId bytes], ?_, by simp [Message.connId?], by rw [whole], fun _ => whole⟩
    unfold sendMessage
    split <;> rfl
  keeps world := by
    unfold sendMessage
    split <;> exact ⟨rfl, rfl⟩

/-- A refused app is told so, and nothing else is sent. -/
theorem refused_quiet (env : Environment) (refusal : Bytes) (connId : ConnId) (world : World) :
    (after ((writeAll env refusal >>= fun _ => unregisterConnection connId) world)).sent =
        world.sent ∧
      (after ((writeAll env refusal >>= fun _ => unregisterConnection connId) world)).registered =
        world.registered ∧
      (after ((writeAll env refusal >>= fun _ => unregisterConnection connId) world)).relayed =
        world.relayed := by
  change (after (EStateM.bind _ _ _)).sent = _ ∧ (after (EStateM.bind _ _ _)).registered = _ ∧
    (after (EStateM.bind _ _ _)).relayed = _
  unfold EStateM.bind writeAll
  by_cases written : env.writes refusal = true
  · rw [if_pos written]
    exact ⟨rfl, rfl, rfl⟩
  · rw [if_neg written]
    exact ⟨rfl, rfl, rfl⟩

/-- A connection is served with what its opening forwards and then the rest of the app's stream. -/
theorem connectThrough_serves (world : World) (opening : ConnId → HandlerM Unit)
    {env : Environment} {host : String} {port : UInt16} {refusal lead : Bytes}
    (opens : Opens (opening world.counter) world.counter lead) (fresh : world.registered = [])
    (silent : world.sent = []) (unrelayed : world.relayed = []) :
    Serves env.reads world.counter (after (connectThrough env host port refusal opening world))
      host port (lead ++ world.input) := by
  have registered : (world.request host port).registered = [world.counter] := by
    change world.registered ++ _ = _
    rw [fresh, List.nil_append]
  have requested : (world.request host port).sent = [.connect world.counter host port] := by
    change world.sent ++ _ = _
    rw [silent, List.nil_append]
  -- Whatever is sent after the request belongs to the connection.
  have serves {final : World} (more : List Message) (same : final.registered = [world.counter])
      (sent : final.sent = .connect world.counter host port :: more)
      (own : ∀ message ∈ more, message.connId? = some world.counter)
      (forwards : forwarded more <+: lead ++ world.input)
      (whole : final.relayed ≠ [] → (lead ++ world.input).length ≤ env.reads.length →
        forwarded more = lead ++ world.input) :
      Serves env.reads world.counter final host port (lead ++ world.input) := by
    refine ⟨same, by rw [sent]; rfl, ?_, ?_, ?_⟩
    · rw [sent]
      exact List.forall_mem_cons.mpr ⟨rfl, own⟩
    · rw [sent]
      exact forwards
    · rw [sent]
      exact whole
  rw [connectThrough_eq]
  split
  · obtain ⟨early, sent, own, part, whole⟩ := opens.sends (world.request host port)
    obtain ⟨kept, input⟩ := opens.keeps (world.request host port)
    change Serves env.reads world.counter (after (EStateM.bind _ _ _)) host port _
    unfold EStateM.bind
    cases ran : opening world.counter (world.request host port) with
    | error error next =>
        rw [ran] at sent kept
        change next.sent = _ at sent
        rw [requested] at sent
        refine serves early ((congrArg Prod.fst kept).trans registered) sent own
          (part.trans (List.prefix_append _ _)) fun relayed => ?_
        exact absurd ((congrArg (·.2.2) kept).trans unrelayed) relayed
    | ok value next =>
        rw [ran] at sent kept input whole
        change next.sent = _ at sent
        change next.input = world.input at input
        rw [requested] at sent
        refine serves (early ++ ((chunks env.reads world.input).map (.data world.counter) ++
          farewell world.counter env.upload)) ((congrArg Prod.fst kept).trans registered)
          ?_ ?_ ?_ ?_
        · change next.sent ++ _ ++ _ = _
          rw [sent, input, List.append_assoc]
          rfl
        · intro message member
          rcases List.mem_append.mp member with before | after_
          · exact own message before
          rcases List.mem_append.mp after_ with chunk | last
          · obtain ⟨bytes, -, rfl⟩ := List.mem_map.mp chunk
            rfl
          · exact farewell_own env.upload message last
        · rw [forwarded_append, forwarded_append, forwarded_chunks, forwarded_farewell,
            List.append_nil, whole rfl]
          exact (List.prefix_append_right_inj _).mpr (chunks_flatten _ _)
        · intro _ enough
          rw [List.length_append] at enough
          rw [forwarded_append, forwarded_append, forwarded_chunks, forwarded_farewell,
            List.append_nil, whole rfl, chunks_whole (by omega)]
  · obtain ⟨sent, kept, relayed⟩ :=
      refused_quiet env refusal world.counter (world.request host port)
    exact serves [] (kept.trans registered) (sent.trans requested) nofun List.nil_prefix
      fun started => absurd (relayed.trans unrelayed) started

section Dispatch
variable {env : Environment} {world : World} {host : String} {port : UInt16} {stream : Bytes}

/-- No letter begins the SOCKS5 protocol. -/
theorem socks5Version_letter : letter socks5Version = false := by decide

/-- A greeting begins with the version of its protocol. -/
theorem greeting_head (greeting : Greeting) (rest : Bytes) :
    (greeting.render ++ rest).headD 0 = socks5Version := rfl

theorem dispatch_socks5 (first : world.input.headD 0 = socks5Version) :
    dispatch env world = handleSocks5Client env world := if_pos first

theorem dispatch_http (first : letter (world.input.headD 0) = true) :
    dispatch env world = handleHttpProxyClient env world := by
  have other : world.input.headD 0 ≠ socks5Version := by
    intro same
    rw [same, socks5Version_letter] at first
    cases first
  unfold dispatch
  dsimp only
  rw [if_neg other, if_pos first]

theorem handleConnect_eq {authority : Bytes} : handleConnect env authority world =
    match parseAuthority authority with
    | .error error => .error error world
    | .ok (host, port) =>
        connectThrough env (text host) port badGateway
          (fun _ => writeAll env established) world := by
  unfold handleConnect
  change EStateM.bind _ _ _ = _
  unfold EStateM.bind
  cases parseAuthority authority with
  | error error => rfl
  | ok target => rfl

/-- The proxy serves what it takes its app's bytes for. -/
theorem serves_of_takes (world : World) (takes : Takes env world.input host port stream)
    (fresh : world.registered = []) (silent : world.sent = []) (unrelayed : world.relayed = []) :
    Serves env.reads world.counter (after (dispatch env world)) host port stream := by
  cases takes with
  | @socks5 greeting request payload writes parsed =>
      have ran := Socks5.handshake_ok_iff.mpr
        ⟨writes, greeting, request, stream, parsed, rfl, rfl, rfl⟩
      have first : world.input.headD 0 = socks5Version := by rw [parsed, greeting_head]
      rw [dispatch_socks5 first, Socks5.handleSocks5Client_eq, ran]
      dsimp only
      have opens := writeAll_opens env (Socks5.reply Socks5.socks5RepSuccess) world.counter
      exact connectThrough_serves
        { world with input := stream, written := world.written ++ selection }
        (fun _ => writeAll env _) opens fresh silent unrelayed
  | @connect block _ headers host line _ first whole split parsed method target =>
      rw [dispatch_http first, handle_eq, readHeader_iff.mpr ⟨split, whole⟩]
      dsimp only
      rw [parsed]
      dsimp only
      rw [if_pos method, handleConnect_eq, target]
      have opens := writeAll_opens env established world.counter
      exact connectThrough_serves { world with input := stream } (fun _ => writeAll env _) opens
        fresh silent unrelayed
  | @plainHttp block rest headers host path line _ first whole split parsed method target =>
      rw [dispatch_http first, handle_eq, readHeader_iff.mpr ⟨split, whole⟩]
      dsimp only
      rw [parsed]
      dsimp only
      rw [if_neg method, handlePlainHttp_eq, target]
      have opens := sendMessage_opens env
        (rewritten line.method path line.version headers) world.counter
      exact connectThrough_serves { world with input := rest }
        (fun connId => sendMessage env (.data connId _)) opens fresh silent unrelayed

/-- The tunnel does not notice an app whose bytes the proxy takes for nothing. -/
theorem unnoticed (world : World)
    (untaken : ∀ host port stream, ¬ Takes env world.input host port stream) :
    (after (dispatch env world)).books = world.books ∧
      (after (dispatch env world)).sent = world.sent := by
  by_cases socks : world.input.headD 0 = socks5Version
  · rw [dispatch_socks5 socks, Socks5.handleSocks5Client_eq]
    have kept := Socks5.handshake_keeps env world
    cases ran : handshake env world with
    | ok target next =>
        obtain ⟨host, port⟩ := target
        obtain ⟨writes, greeting, request, payload, parsed, -⟩ := Socks5.handshake_ok_iff.mp ran
        exact absurd (.socks5 writes parsed) (untaken _ _ _)
    | error error next =>
        rw [ran] at kept
        exact Prod.mk.inj kept
  by_cases first : letter (world.input.headD 0) = true
  · rw [dispatch_http first, handle_eq]
    cases read : readHeader [] world.input with
    | error error => exact ⟨rfl, rfl⟩
    | ok result =>
        obtain ⟨block, rest⟩ := result
        obtain ⟨split, whole⟩ := readHeader_iff.mp read
        dsimp only
        cases parsed : parseHeader block with
        | error error => exact ⟨rfl, rfl⟩
        | ok result =>
            obtain ⟨line, headers⟩ := result
            dsimp only
            by_cases method : line.method.map lower = (utf8 "CONNECT").map lower
            · rw [if_pos method, handleConnect_eq]
              cases target : parseAuthority line.uri with
              | error error => exact ⟨rfl, rfl⟩
              | ok found =>
                  exact absurd (.connect first whole split parsed method target) (untaken _ _ _)
            · rw [if_neg method, handlePlainHttp_eq]
              cases target : parseHttpUri line.uri with
              | error error => exact ⟨rfl, rfl⟩
              | ok found =>
                  exact absurd (.plainHttp first whole split parsed method target) (untaken _ _ _)
  · unfold dispatch
    dsimp only
    rw [if_neg socks, if_neg first]
    exact ⟨rfl, rfl⟩

section Grammar
variable {input : Bytes}

theorem Begins.parsed {method target version tail block rest : Bytes}
    (begins : Begins input method target version tail block rest) : ∃ fields : List Bytes,
      parseHeader block = .ok (⟨method, target, version⟩, fields.flatMap (· ++ crlf)) ∧
        tail = fields.flatMap (· ++ crlf) ++ crlf ++ rest :=
  begins.header.parsed begins.methodWord begins.targetWord begins.unbroken
    (begins.split.symm.trans begins.whole) begins.valid

/-- The proxy takes an app's bytes for what the app asks for. -/
theorem Asks.takes (asks : Asks env input host port stream) : Takes env input host port stream := by
  cases asks with
  | socks5 writes whole => exact .socks5 writes whole
  | @connect _ _ _ _ _ _ authority _ begins method clear owed =>
      obtain ⟨fields, parsed, -⟩ := begins.parsed
      have split : hostPort 443 ([] ++ authority.render ++ []) = authority.target 443 :=
        (Authority.hostPort_iff (.inl rfl) (.inl rfl)).mpr clear
      rw [List.nil_append, List.append_nil, ← parseAuthority_toOption, owed] at split
      cases read : parseAuthority authority.render with
      | error error =>
          rw [read] at split
          cases split
      | ok target =>
          rw [read] at split
          cases split
          exact .connect begins.letter begins.header begins.split parsed method read
  | @plainHttp verb version tail _ rest _ path uri _ begins method clear owed =>
      obtain ⟨fields, parsed, whole⟩ := begins.parsed
      have found := uri.parseHttpUri_iff.mpr clear
      rw [owed] at found
      -- The lines that the proxy joins again are those that the app sent.
      have same : requestLine verb path version ++ crlf ++ tail =
          rewritten verb path version (fields.flatMap (· ++ crlf)) ++ rest := by
        rw [whole]
        simp [rewritten, requestLine]
      rw [same]
      cases read : parseHttpUri uri.render with
      | error error =>
          rw [read] at found
          cases found
      | ok target =>
          rw [read] at found
          cases found
          have taken : Takes env input _ _ _ :=
            .plainHttp begins.letter begins.header begins.split parsed method read
          exact taken

end Grammar

end Dispatch

/-- The proxy takes an app's bytes for what the app asks for. It serves the target that it takes the
bytes for, the tunnel does not notice an app whose bytes it takes for nothing, and it takes no bytes
for two requests. -/
theorem proxy_serves (env : Environment) (input : Bytes) (counter : ConnId)
    (channels : Finset ConnId) :
    (∀ host port stream, Asks env input host port stream → Takes env input host port stream) ∧
    (∀ host port stream, Takes env input host port stream →
      Serves env.reads counter (after (dispatch env (World.start input counter channels)))
        host port stream) ∧
    ((∀ host port stream, ¬ Takes env input host port stream) →
      (after (dispatch env (World.start input counter channels))).books = ([], channels, []) ∧
      (after (dispatch env (World.start input counter channels))).sent = []) ∧
    ∀ host port stream host' port' stream', Takes env input host port stream →
      Takes env input host' port' stream' → host = host' ∧ port = port' := by
  have served {host : String} {port : UInt16} {stream : Bytes}
      (takes : Takes env input host port stream) :
      Serves env.reads counter (after (dispatch env (World.start input counter channels)))
        host port stream :=
    serves_of_takes (World.start input counter channels) takes rfl rfl rfl
  refine ⟨fun _ _ _ => Asks.takes, fun _ _ _ => served, fun untaken => ?_,
    fun _ _ _ _ _ _ first second => ?_⟩
  · obtain ⟨books, sent⟩ := unnoticed (World.start input counter channels) untaken
    exact ⟨books, sent⟩
  · have same := (served first).requests.symm.trans (served second).requests
    simpa using same

/-- A literal with a port. -/
def literalAuthority : Authority where
  host := loopback.host
  port := some (utf8 "8080")
  portPlain text named := by
    have plain : ∀ byte ∈ utf8 "8080", byte ∉ delimiters :=
      List.all_iff_forall_prop.mp (by decide +kernel)
    rw [← Option.mem_some_iff.mp named]
    exact plain

/-- An app asks for a literal and sends a byte after its request. -/
def literalInput : Bytes := utf8 "CONNECT [::1]:8080 HTTP/1.1\r\n\r\n" ++ [7]

theorem literalInput_asks (env : Environment) :
    Asks env literalInput (text (utf8 "[::1]")) 8080 [7] := by
  have begins : Begins literalInput (utf8 "CONNECT") literalAuthority.render (utf8 "HTTP/1.1")
      (utf8 "\r\n" ++ [7]) (utf8 "CONNECT [::1]:8080 HTTP/1.1\r\n\r\n") [7] :=
    { letter := by decide +kernel
      methodWord := by decide +kernel
      targetWord := by decide +kernel
      unbroken := by decide +kernel
      whole := by decide +kernel
      split := rfl
      header := (readHeader_iff.mp (show readHeader [] literalInput = .ok (_, [7]) from rfl)).2
      valid := by decide +kernel }
  exact .connect begins rfl (by decide +kernel) (by decide +kernel)

theorem proxy_serves_of_literal :
    Serves (eager 1).reads 3 (after (dispatch (eager 1) (World.start literalInput 3 ∅)))
      (text (utf8 "[::1]")) 8080 [7] := by
  obtain ⟨takes, serves, -, -⟩ := proxy_serves (eager 1) literalInput 3 ∅
  exact serves _ _ _ (takes _ _ _ (literalInput_asks _))

end Tunnix.Proxy
