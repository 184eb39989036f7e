import Tunnix.Client.Handshake
import Tunnix.Client.Targets

namespace Tunnix.Socks5
open Handler HttpProxy

/-- `handle_send` names the target of a connection by its host and its port. -/
def target (host : String) (port : UInt16) : String := host ++ ":" ++ toString port.toNat

/-- One part of a dotted quad is a decimal number below 256. -/
def octet? (digits : List Char) : Option UInt8 :=
  if digits ≠ [] ∧ digits.all Char.isDigit ∧ Nat.ofDigitChars 10 digits 0 < 256 then
    some (UInt8.ofNat (Nat.ofDigitChars 10 digits 0))
  else none

/-- A dotted quad has four parts. -/
def dottedQuad? (text : String) : Option Bytes :=
  let parts := text.toList.splitOn '.'
  if parts.length = 4 then parts.mapM octet? else none

def hexDigit? (char : Char) : Option Nat :=
  if char.isDigit then some (char.toNat - 48)
  else if 'a' ≤ char ∧ char ≤ 'f' then some (char.toNat - 87)
  else none

/-- Two hexadecimal digits are a byte. -/
def hexByte? (high low : Char) : Option UInt8 :=
  match hexDigit? high, hexDigit? low with
  | some high, some low => some (UInt8.ofNat (high * 16 + low))
  | _, _ => none

/-- A group has four hexadecimal digits. -/
def group? : List Char → Option Bytes
  | [first, second, third, fourth] =>
      match hexByte? first second, hexByte? third fourth with
      | some high, some low => some [high, low]
      | _, _ => none
  | _ => none

/-- An IPv6 address has eight groups. -/
def hexGroups? (text : String) : Option Bytes :=
  let parts := text.toList.splitOn ':'
  if parts.length = 8 then (parts.mapM group?).map List.flatten else none

/-- The type of an address tells how its text is read. -/
def decodeHost (atyp : UInt8) (text : String) : Option Bytes :=
  if atyp = socks5AtypIpv4 then dottedQuad? text
  else if atyp = socks5AtypDomain then some (utf8 text)
  else hexGroups? text

section Decimal

theorem toList_toString (value : Nat) : (toString value).toList = Nat.toDigits 10 value :=
  Nat.toList_repr

theorem isDigit_toDigits {value : Nat} {char : Char} (member : char ∈ Nat.toDigits 10 value) :
    char.isDigit = true := Nat.isDigit_of_mem_toDigits (by decide) (by decide) member

theorem octet?_toDigits (octet : UInt8) : octet? (Nat.toDigits 10 octet.toNat) = some octet := by
  unfold octet?
  rw [Nat.ofDigitChars_ten_toDigits, if_pos, UInt8.ofNat_toNat]
  exact ⟨Nat.toDigits_ne_nil, List.all_eq_true.mpr fun _ => isDigit_toDigits, octet.toNat_lt⟩

theorem octets_toDigits (octets : Bytes) :
    (octets.map fun octet => Nat.toDigits 10 octet.toNat).mapM octet? = some octets := by
  induction octets with
  | nil => rfl
  | cons octet rest ih =>
      rw [List.map_cons, List.mapM_cons, octet?_toDigits, ih]
      rfl

/-- A dotted quad tells its bytes. -/
theorem dottedQuad?_ipv4 {octets : Bytes} (four : octets.length = 4) :
    dottedQuad? (ipv4 octets) = some octets := by
  have parts : (ipv4 octets).toList.splitOn '.' =
      octets.map fun octet => Nat.toDigits 10 octet.toNat := by
    rw [ipv4, String.toList_intercalate, List.map_map]
    have texts : octets.map (String.toList ∘ fun octet => toString octet.toNat) =
        octets.map fun octet => Nat.toDigits 10 octet.toNat :=
      List.map_congr_left fun octet _ => toList_toString octet.toNat
    rw [texts]
    apply List.splitOn_intercalate
    · intro part member dot
      obtain ⟨octet, -, rfl⟩ := List.mem_map.mp member
      exact absurd (isDigit_toDigits dot) (by decide)
    · intro empty
      rw [List.map_eq_nil_iff] at empty
      subst empty
      contradiction
  unfold dottedQuad?
  dsimp only
  rw [parts, List.length_map, four, if_pos rfl]
  exact octets_toDigits octets

end Decimal

section Hexadecimal

theorem hexDigit?_digitChar : ∀ value < 16, hexDigit? (Nat.digitChar value) = some value := by
  decide

theorem hexByte?_hex (byte : UInt8) :
    hexByte? (Nat.digitChar (byte.toNat / 16)) (Nat.digitChar (byte.toNat % 16)) = some byte := by
  have high := hexDigit?_digitChar (byte.toNat / 16) (Nat.div_lt_of_lt_mul byte.toNat_lt)
  have low := hexDigit?_digitChar (byte.toNat % 16) (Nat.mod_lt _ (by decide))
  rw [hexByte?, high, low]
  dsimp only
  rw [Nat.mul_comm, Nat.div_add_mod, UInt8.ofNat_toNat]

/-- A group tells its two bytes, and it has no colon. -/
theorem group?_hex (first second : UInt8) :
    group? (hex first ++ hex second).toList = some [first, second] := by
  rw [String.toList_append, hex, hex, String.toList_ofList, String.toList_ofList, List.cons_append,
    List.cons_append, List.nil_append, group?, hexByte?_hex, hexByte?_hex]

theorem colon_not_mem_hex (byte : UInt8) : ':' ∉ (hex byte).toList := by
  have digits : ∀ value < 16, ':' ≠ Nat.digitChar value := by decide
  rw [hex, String.toList_ofList, List.mem_cons, List.mem_singleton, not_or]
  exact ⟨digits _ (Nat.div_lt_of_lt_mul byte.toNat_lt), digits _ (Nat.mod_lt _ (by decide))⟩

/-- The groups of an even number of bytes are read one by one. -/
theorem groups_read (count : Nat) {octets : Bytes} (even : octets.length = 2 * count) :
    (groups octets).length = count ∧ (∀ group ∈ groups octets, ':' ∉ group.toList) ∧
      (((groups octets).map String.toList).mapM group?).map List.flatten = some octets := by
  induction count generalizing octets with
  | zero =>
      rw [List.length_eq_zero_iff.mp even]
      exact ⟨rfl, nofun, rfl⟩
  | succ count ih =>
      match octets, even with
      | first :: second :: rest, even =>
          have shorter : rest.length = 2 * count := by
            rw [List.length_cons, List.length_cons] at even
            omega
          obtain ⟨length, plain, read⟩ := ih shorter
          obtain ⟨chunks, read, flat⟩ := Option.map_eq_some_iff.mp read
          refine ⟨congrArg Nat.succ length, ?_, ?_⟩
          · rw [groups, List.forall_mem_cons, String.toList_append, List.mem_append, not_or]
            exact ⟨⟨colon_not_mem_hex first, colon_not_mem_hex second⟩, plain⟩
          · rw [groups, List.map_cons, List.mapM_cons, group?_hex, read]
            change some ([first, second] ++ chunks.flatten) = _
            rw [flat]
            rfl

/-- Eight groups tell their bytes. -/
theorem hexGroups?_ipv6 {octets : Bytes} (sixteen : octets.length = 16) :
    hexGroups? (ipv6 octets) = some octets := by
  obtain ⟨length, plain, read⟩ := groups_read 8 sixteen
  have parts : (ipv6 octets).toList.splitOn ':' = (groups octets).map String.toList := by
    rw [ipv6, String.toList_intercalate]
    apply List.splitOn_intercalate
    · intro part member
      obtain ⟨group, inside, rfl⟩ := List.mem_map.mp member
      exact plain group inside
    · intro empty
      rw [List.map_eq_nil_iff] at empty
      rw [empty] at length
      contradiction
  unfold hexGroups?
  dsimp only
  rw [parts, List.length_map, length, if_pos rfl]
  exact read

end Hexadecimal

/-- The text of a host is read back as the bytes of its address. -/
theorem decodeHost_host (address : Address) :
    decodeHost address.atyp address.host = some address.octets := by
  cases address with
  | ipv4 octets four => exact dottedQuad?_ipv4 four
  | domain name short => rfl
  | ipv6 octets sixteen => exact hexGroups?_ipv6 sixteen

section Port

/-- The bytes of decimal digits are read as these digits. -/
theorem digits_encode {chars : List Char} (decimal : ∀ char ∈ chars, char.isDigit = true) :
    (Utf8.encode chars).mapM digit? = some (chars.map (·.toNat - 48)) := by
  induction chars with
  | nil => rfl
  | cons char rest ih =>
      obtain ⟨now, later⟩ := List.forall_mem_cons.mp decimal
      have range : 48 ≤ char.toNat ∧ char.toNat ≤ 57 := Char.isDigit_iff_toNat.mp now
      have byte := Utf8.toNat_byte char.toNat (by omega)
      have digit : digit? (UInt8.ofNat char.toNat) = some (char.toNat - 48) := by
        have fits : 0x30 ≤ UInt8.ofNat char.toNat ∧ UInt8.ofNat char.toNat ≤ 0x39 := by
          rw [UInt8.le_iff_toNat_le, UInt8.le_iff_toNat_le, byte]
          exact range
        rw [digit?, if_pos fits, byte]
      rw [Utf8.encode_cons, Utf8.encodeChar_one (by omega), List.singleton_append, List.mapM_cons,
        digit, ih later]
      rfl

/-- The digits have the value of their characters. -/
theorem digitsValue_map (value : Nat) (chars : List Char) :
    digitsValue value (chars.map (·.toNat - 48)) = Nat.ofDigitChars 10 chars value := by
  induction chars generalizing value with
  | nil => rfl
  | cons char rest ih =>
      rw [Nat.ofDigitChars_cons, ← ih, Nat.mul_comm]
      rfl

/-- A port is read back from its decimal digits. -/
theorem decimalPort_toString (port : UInt16) :
    decimalPort (utf8 (toString port.toNat)) = some port := by
  have encoded : utf8 (toString port.toNat) = Utf8.encode (Nat.toDigits 10 port.toNat) := by
    rw [utf8, Utf8.toUTF8_eq, toList_toString]
  have read := digits_encode fun char (member : char ∈ Nat.toDigits 10 port.toNat) =>
    isDigit_toDigits member
  have value := digitsValue_map 0 (Nat.toDigits 10 port.toNat)
  have some_ : (Nat.toDigits 10 port.toNat).map (·.toNat - 48) ≠ [] :=
    fun empty => Nat.toDigits_ne_nil (List.map_eq_nil_iff.mp empty)
  rw [Nat.ofDigitChars_ten_toDigits] at value
  rw [decimalPort, encoded, read]
  cases digits : (Nat.toDigits 10 port.toNat).map (·.toNat - 48) with
  | nil => exact absurd digits some_
  | cons first rest =>
      rw [digits] at value
      dsimp only
      rw [value, if_pos (Nat.le_of_lt_succ port.toNat_lt), UInt16.ofNat_toNat]

/-- The server's target splits at its last colon into the host and the port. -/
theorem target_splits (host : String) (port : UInt16) :
    ∃ digits, rsplitOnce 0x3A (utf8 (target host port)) = some (utf8 host, digits) ∧
      parseU16 digits = some port := by
  have number := decimalPort_toString port
  have plain : 0x3A ∉ utf8 (toString port.toNat) := fun member =>
    absurd (decimalPort_bytes number _ member) (by decide)
  have text : utf8 (target host port) = utf8 host ++ 0x3A :: utf8 (toString port.toNat) := by
    unfold utf8 target
    rw [Utf8.toUTF8_eq, Utf8.toUTF8_eq, Utf8.toUTF8_eq, String.toList_append, String.toList_append,
      Utf8.encode, List.flatMap_append, List.flatMap_append, List.append_assoc]
    rfl
  refine ⟨utf8 (toString port.toNat), ?_, parseU16_of_decimalPort number⟩
  rcases rsplitOnce_cases 0x3A (utf8 (target host port)) with
    ⟨absent, -⟩ | ⟨front, last, halves, plain', split⟩
  · rw [text] at absent
    exact absurd (List.mem_append_right _ List.mem_cons_self) absent
  · rw [text] at halves
    obtain ⟨rfl, rfl⟩ := last_inj plain plain' halves
    exact split

end Port

section Served
variable {env : Environment} {world : World} {host : String} {port : UInt16}

theorem handleSocks5Client_eq (env : Environment) (world : World) : handleSocks5Client env world =
    match handshake env world with
    | .ok (host, port) next =>
        connectThrough env host port (reply socks5RepGeneralFailure)
          (fun _ => writeAll env (reply socks5RepSuccess)) next
    | .error error next => .error error next := by
  unfold handleSocks5Client
  change EStateM.bind _ _ _ = _
  unfold EStateM.bind
  cases handshake env world with
  | ok target next => rfl
  | error error next => rfl

/-- A connection is registered and requested, and an opened one is relayed from there on. -/
theorem connectThrough_opens (env : Environment) (world : World) (host : String) (port : UInt16)
    (refusal success : Bytes) :
    let final := after (connectThrough env host port refusal (fun _ => writeAll env success) world)
    final.registered = world.registered ++ [world.counter] ∧
      (∃ more, final.sent = world.sent ++ .connect world.counter host port :: more) ∧
      (isAck env.connect.returned = true → env.writes success = true →
        final.sent = world.sent ++ [.connect world.counter host port] ++
          (chunks env.reads world.input).map (.data world.counter) ++
            farewell world.counter env.upload) := by
  intro final
  have ran : final =
      after (connectThrough env host port refusal (fun _ => writeAll env success) world) := rfl
  rw [connectThrough_eq] at ran
  by_cases acked : isAck env.connect.returned = true
  · rw [if_pos acked] at ran
    change final = after (EStateM.bind _ _ _) at ran
    unfold EStateM.bind writeAll at ran
    by_cases written : env.writes success = true
    · rw [if_pos written] at ran
      rw [ran]
      refine ⟨rfl, ⟨(chunks env.reads world.input).map (.data world.counter) ++
        farewell world.counter env.upload, ?_⟩, fun _ _ => rfl⟩
      change world.sent ++ [_] ++ _ ++ _ = _
      rw [List.append_assoc, List.append_assoc]
      rfl
    · rw [if_neg written] at ran
      rw [ran]
      exact ⟨rfl, ⟨[], rfl⟩, fun _ writes => absurd writes written⟩
  · rw [if_neg acked] at ran
    change final = after (EStateM.bind _ _ _) at ran
    unfold EStateM.bind writeAll at ran
    by_cases written : env.writes refusal = true
    · rw [if_pos written] at ran
      rw [ran]
      exact ⟨rfl, ⟨[], rfl⟩, fun impossible => absurd impossible acked⟩
    · rw [if_neg written] at ran
      rw [ran]
      exact ⟨rfl, ⟨[], rfl⟩, fun impossible => absurd impossible acked⟩

/-- The handler registers and requests this target, and its relay begins with this payload. -/
structure Serves (env : Environment) (start : World) (host : String) (port : UInt16)
    (payload : Bytes) : Prop where
  consumes : handshake env start =
    .ok (host, port) { start with input := payload, written := start.written ++ selection }
  registers : (after (handleSocks5Client env start)).registered = [start.counter]
  requests : (after (handleSocks5Client env start)).sent.head? =
    some (.connect start.counter host port)
  relays : isAck env.connect.returned = true → env.writes (reply socks5RepSuccess) = true →
    (after (handleSocks5Client env start)).sent = .connect start.counter host port ::
      ((chunks env.reads payload).map (.data start.counter) ++ farewell start.counter env.upload)

/-- A handshake that succeeds leads to a connection of its own target. -/
theorem serves_of_handshake {payload : Bytes} (fresh : world.registered = [])
    (silent : world.sent = []) (ran : handshake env world =
      .ok (host, port) { world with input := payload, written := world.written ++ selection }) :
    Serves env world host port payload := by
  have opens := connectThrough_opens env
    { world with input := payload, written := world.written ++ selection } host port
    (reply socks5RepGeneralFailure) (reply socks5RepSuccess)
  obtain ⟨registered, ⟨more, sent⟩, relayed⟩ := opens
  have final := handleSocks5Client_eq env world
  rw [ran] at final
  dsimp only at final registered sent relayed
  rw [← final] at registered sent relayed
  rw [fresh, List.nil_append] at registered
  rw [silent, List.nil_append] at sent
  refine ⟨ran, registered, ?_, fun acked written => ?_⟩
  · rw [sent]
    rfl
  · rw [relayed acked written, silent, List.nil_append, List.append_assoc]
    rfl

end Served

/-- The handler registers a connection exactly for a greeting and a request to connect, once the app
has taken the choice of the method. It serves the host and the port of this request with the bytes
behind it, the text of the host is read back as the bytes of the address, and the server's target
splits into the host and the port. -/
theorem socks5_accepts_exactly (env : Environment) (input : Bytes) (counter : ConnId)
    (channels : Finset ConnId) :
    ((after (handleSocks5Client env (World.start input counter channels))).registered ≠ [] ↔
      env.writes selection = true ∧ ∃ (greeting : Greeting) (request : ConnectRequest)
        (payload : Bytes), input = greeting.render ++ (request.render ++ payload)) ∧
    (∀ (greeting : Greeting) (request : ConnectRequest) (payload : Bytes),
      env.writes selection = true → input = greeting.render ++ (request.render ++ payload) →
        Serves env (World.start input counter channels) request.address.host request.port
          payload) ∧
    ∀ request : ConnectRequest,
      decodeHost request.address.atyp request.address.host = some request.address.octets ∧
      ∃ digits, rsplitOnce 0x3A (utf8 (target request.address.host request.port)) =
        some (utf8 request.address.host, digits) ∧ parseU16 digits = some request.port := by
  have served (greeting : Greeting) (request : ConnectRequest) (payload : Bytes)
      (writes : env.writes selection = true)
      (parsed : input = greeting.render ++ (request.render ++ payload)) :
      Serves env (World.start input counter channels) request.address.host request.port
        payload :=
    serves_of_handshake rfl rfl
      (handshake_ok_iff.mpr ⟨writes, greeting, request, payload, parsed, rfl, rfl, rfl⟩)
  refine ⟨⟨fun registered => ?_, ?_⟩, served, fun request => ?_⟩
  · cases ran : handshake env (World.start input counter channels) with
    | ok result next =>
        obtain ⟨writes, greeting, request, payload, parsed, -⟩ := handshake_ok_iff.mp ran
        exact ⟨writes, greeting, request, payload, parsed⟩
    | error error next =>
        have kept := handshake_keeps env (World.start input counter channels)
        rw [ran] at kept
        rw [handleSocks5Client_eq, ran] at registered
        exact absurd (congrArg (fun books => books.1.1) kept) registered
  · rintro ⟨writes, greeting, request, payload, parsed⟩
    rw [(served greeting request payload writes parsed).registers]
    exact List.cons_ne_nil _ _
  · exact ⟨decodeHost_host request.address, target_splits _ _⟩

end Tunnix.Socks5
