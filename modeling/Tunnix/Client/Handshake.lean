import Tunnix.Client.EntryPoints
import Tunnix.Library.Utf8Encode

namespace Tunnix.Handler

section Success
variable {Value Next : Type} {world next : World}

/-- A sequence succeeds when both of its parts do. -/
theorem bind_ok_iff {first : HandlerM Value} {second : Value → HandlerM Next} {result : Next} :
    (first >>= second) world = .ok result next ↔
      ∃ value middle, first world = .ok value middle ∧ second value middle = .ok result next := by
  change EStateM.bind first second world = _ ↔ _
  unfold EStateM.bind
  cases ran : first world with
  | ok value middle =>
      dsimp only
      constructor
      · intro later
        exact ⟨value, middle, rfl, later⟩
      · rintro ⟨value', middle', same, later⟩
        cases same
        exact later
  | error error middle =>
      refine iff_of_false nofun ?_
      rintro ⟨value, middle', impossible, -⟩
      contradiction

theorem pure_ok_iff {value result : Value} :
    (pure value : HandlerM Value) world = .ok result next ↔ result = value ∧ next = world := by
  change EStateM.Result.ok value world = .ok result next ↔ _
  rw [EStateM.Result.ok.injEq, eq_comm, @eq_comm _ world]

/-- A read takes its bytes from the front of the stream. -/
theorem readExact_ok_iff {count : Nat} {bytes : Bytes} :
    readExact count world = .ok bytes next ↔ bytes.length = count ∧
      ∃ rest, world.input = bytes ++ rest ∧ next = { world with input := rest } := by
  unfold readExact
  constructor
  · intro ran
    split at ran
    · next enough =>
        cases ran
        exact ⟨List.length_take_of_le enough, _, (List.take_append_drop _ _).symm, rfl⟩
    · contradiction
  · rintro ⟨rfl, rest, input, rfl⟩
    rw [input, if_pos (by rw [List.length_append]; omega), List.take_left, List.drop_left]

theorem writeAll_ok_iff {env : Environment} {bytes : Bytes} :
    writeAll env bytes world = .ok () next ↔ env.writes bytes = true ∧
      next = { world with written := world.written ++ bytes } := by
  unfold writeAll
  split
  · next written =>
      rw [EStateM.Result.ok.injEq, eq_comm (a := next)]
      exact ⟨fun same => ⟨written, same.2⟩, fun same => ⟨rfl, same.2⟩⟩
  · next failed => exact iff_of_false nofun fun both => failed both.1

end Success

end Tunnix.Handler

namespace Tunnix.Socks5
open Handler

/-- A refusal never returns. -/
theorem demand_ok_iff {condition : Prop} [Decidable condition] {refuse : HandlerM Unit}
    {world next : World} (refuses : refuse world ≠ .ok () next) :
    demand condition refuse world = .ok () next ↔ condition ∧ next = world := by
  unfold demand
  split
  · next holds =>
      rw [pure_ok_iff]
      exact ⟨fun same => ⟨holds, same.2⟩, fun same => ⟨rfl, same.2⟩⟩
  · next fails => exact iff_of_false refuses fun both => fails both.1

theorem throw_refuses {error : String} {world next : World} :
    (throw error : HandlerM Unit) world ≠ .ok () next := nofun

theorem reply_refuses {env : Environment} {bytes : Bytes} {error : String} {world next : World} :
    (writeAll env bytes >>= fun _ => (throw error : HandlerM Unit)) world ≠ .ok () next := by
  intro ran
  obtain ⟨-, middle, -, thrown⟩ := bind_ok_iff.mp ran
  contradiction

/-- A greeting of the protocol's version offers at least one method, and among them to go without
authentication. -/
structure Greeting where
  methods : Bytes
  few : methods.length < 256
  offered : socks5AuthNone ∈ methods
deriving DecidableEq

def Greeting.render (greeting : Greeting) : Bytes :=
  [socks5Version, UInt8.ofNat greeting.methods.length] ++ greeting.methods

/-- An address is an IPv4 address, a domain or an IPv6 address. -/
inductive Address where
  | ipv4 (octets : Bytes) (four : octets.length = 4)
  | domain (name : String) (short : name.toUTF8.data.toList.length < 256)
  | ipv6 (octets : Bytes) (sixteen : octets.length = 16)
deriving DecidableEq

namespace Address

/-- The bytes of an address follow its type. -/
def octets : Address → Bytes
  | ipv4 octets _ => octets
  | domain name _ => name.toUTF8.data.toList
  | ipv6 octets _ => octets

def atyp : Address → UInt8
  | ipv4 .. => socks5AtypIpv4
  | domain .. => socks5AtypDomain
  | ipv6 .. => socks5AtypIpv6

/-- Only a domain tells its length. -/
def body (address : Address) : Bytes :=
  match address with
  | ipv4 .. | ipv6 .. => address.octets
  | domain .. => UInt8.ofNat address.octets.length :: address.octets

/-- The tunnel names its target by this text. -/
def host : Address → String
  | ipv4 octets _ => Socks5.ipv4 octets
  | domain name _ => name
  | ipv6 octets _ => Socks5.ipv6 octets

end Address

/-- A request to connect has a reserved byte, and the higher byte of its port comes first. -/
structure ConnectRequest where
  reserved : UInt8
  address : Address
  port : UInt16
deriving DecidableEq

def ConnectRequest.render (request : ConnectRequest) : Bytes :=
  [socks5Version, socks5CmdConnect, request.reserved, request.address.atyp] ++
    request.address.body ++
    [UInt8.ofNat (request.port.toNat / 256), UInt8.ofNat (request.port.toNat % 256)]

section Handshake
variable {env : Environment} {world next : World} {host : String} {port : UInt16}

/-- The reader of a host takes exactly the bytes of an address of its type. -/
theorem readHost_ok_iff {atyp : UInt8} :
    readHost atyp world = .ok host next ↔ ∃ (address : Address) (rest : Bytes),
      address.atyp = atyp ∧ world.input = address.body ++ rest ∧ address.host = host ∧
        next = { world with input := rest } := by
  unfold readHost
  constructor
  · intro ran
    split at ran
    · next four =>
        obtain ⟨addr, middle, read, made⟩ := bind_ok_iff.mp ran
        obtain ⟨length, rest, input, rfl⟩ := readExact_ok_iff.mp read
        obtain ⟨rfl, rfl⟩ := pure_ok_iff.mp made
        exact ⟨.ipv4 addr length, rest, four.symm, input, rfl, rfl⟩
    split at ran
    · next domain =>
        obtain ⟨len, middle, read, ran⟩ := bind_ok_iff.mp ran
        obtain ⟨one, rest, input, rfl⟩ := readExact_ok_iff.mp read
        obtain ⟨count, rfl⟩ := List.length_eq_one_iff.mp one
        obtain ⟨name, middle, read, made⟩ := bind_ok_iff.mp ran
        obtain ⟨length, rest', input', rfl⟩ := readExact_ok_iff.mp read
        rw [List.headD_cons] at length
        cases decoded : Utf8.decode name with
        | some chars =>
            rw [decoded] at made
            obtain ⟨rfl, rfl⟩ := pure_ok_iff.mp made
            have encoded : (String.ofList chars).toUTF8.data.toList = name := by
              rw [Utf8.toUTF8_eq, String.toList_ofList, Utf8.decode_eq_some_iff.mp decoded]
            have short : (String.ofList chars).toUTF8.data.toList.length < 256 := by
              rw [encoded, length]
              exact count.toNat_lt
            have body : (Address.domain (String.ofList chars) short).body = count :: name := by
              change UInt8.ofNat (String.ofList chars).toUTF8.data.toList.length ::
                (String.ofList chars).toUTF8.data.toList = _
              rw [encoded, length, UInt8.ofNat_toNat]
            refine ⟨.domain (String.ofList chars) short, rest', domain.symm, ?_, rfl, rfl⟩
            rw [input, body]
            exact congrArg _ input'
        | none =>
            rw [decoded] at made
            contradiction
    split at ran
    · next six =>
        obtain ⟨addr, middle, read, made⟩ := bind_ok_iff.mp ran
        obtain ⟨length, rest, input, rfl⟩ := readExact_ok_iff.mp read
        obtain ⟨rfl, rfl⟩ := pure_ok_iff.mp made
        exact ⟨.ipv6 addr length, rest, six.symm, input, rfl, rfl⟩
    · contradiction
  · rintro ⟨address, rest, rfl, input, rfl, rfl⟩
    cases address with
    | ipv4 octets four =>
        change (readExact 4 >>= fun addr => pure (Socks5.ipv4 addr)) world = _
        rw [bind_ok_iff]
        exact ⟨octets, _, readExact_ok_iff.mpr ⟨four, rest, input, rfl⟩, rfl⟩
    | domain name short =>
        have decoded := Utf8.decode_eq_some_iff.mpr (Utf8.toUTF8_eq name)
        change (readExact 1 >>= _) world = _
        rw [bind_ok_iff]
        refine ⟨[UInt8.ofNat name.toUTF8.data.toList.length], _,
          readExact_ok_iff.mpr ⟨rfl, _, input, rfl⟩, bind_ok_iff.mpr ?_⟩
        have length : name.toUTF8.data.toList.length =
            (UInt8.ofNat name.toUTF8.data.toList.length).toNat := by
          rw [UInt8.toNat_ofNat']
          exact (Nat.mod_eq_of_lt short).symm
        refine ⟨name.toUTF8.data.toList, _, readExact_ok_iff.mpr ⟨length, rest, rfl, rfl⟩, ?_⟩
        rw [decoded]
        exact pure_ok_iff.mpr ⟨String.ofList_toList.symm, rfl⟩
    | ipv6 octets sixteen =>
        change (readExact 16 >>= fun addr => pure (Socks5.ipv6 addr)) world = _
        rw [bind_ok_iff]
        exact ⟨octets, _, readExact_ok_iff.mpr ⟨sixteen, rest, input, rfl⟩, rfl⟩

/-- The two bytes of a port tell it. -/
theorem port_of_bytes (port : UInt16) :
    (UInt8.ofNat (port.toNat / 256)).toUInt16 * 256 + (UInt8.ofNat (port.toNat % 256)).toUInt16 =
      port := by
  have small := port.toNat_lt
  apply UInt16.toNat_inj.mp
  rw [UInt16.toNat_add, UInt16.toNat_mul, UInt8.toNat_toUInt16, UInt8.toNat_toUInt16,
    UInt8.toNat_ofNat', UInt8.toNat_ofNat']
  change (_ * 256 % 65536 + _) % 65536 = _
  omega

theorem bytes_of_port {high low : UInt8} {port : UInt16}
    (same : high.toUInt16 * 256 + low.toUInt16 = port) :
    [high, low] = [UInt8.ofNat (port.toNat / 256), UInt8.ofNat (port.toNat % 256)] := by
  have highest := high.toNat_lt
  have lowest := low.toNat_lt
  have value : port.toNat = high.toNat * 256 + low.toNat := by
    rw [← same, UInt16.toNat_add, UInt16.toNat_mul, UInt8.toNat_toUInt16, UInt8.toNat_toUInt16]
    change (_ * 256 % 65536 + _) % 65536 = _
    omega
  have quotient : port.toNat / 256 = high.toNat := by omega
  have remainder : port.toNat % 256 = low.toNat := by omega
  rw [quotient, remainder, UInt8.ofNat_toNat, UInt8.ofNat_toNat]

/-- The app learns that it needs no authentication. -/
def selection : Bytes := [socks5Version, socks5AuthNone]

/-- The request is read in its parts. -/
theorem request_render (request : ConnectRequest) (rest : Bytes) :
    request.render ++ rest =
      [socks5Version, socks5CmdConnect, request.reserved, request.address.atyp] ++
        (request.address.body ++
          ([UInt8.ofNat (request.port.toNat / 256), UInt8.ofNat (request.port.toNat % 256)] ++ rest)) := by
  rw [ConnectRequest.render, List.append_assoc, List.append_assoc]

/-- The handshake succeeds with the target of a request behind a greeting, and it has consumed just
these two. -/
theorem handshake_ok_iff :
    handshake env world = .ok (host, port) next ↔ env.writes selection = true ∧
      ∃ (greeting : Greeting) (request : ConnectRequest) (rest : Bytes),
        world.input = greeting.render ++ (request.render ++ rest) ∧
        request.address.host = host ∧ request.port = port ∧
        next = { world with input := rest, written := world.written ++ selection } := by
  unfold handshake
  constructor
  · intro ran
    obtain ⟨head, middle, read, ran⟩ := bind_ok_iff.mp ran
    obtain ⟨two, afterHead, input, rfl⟩ := readExact_ok_iff.mp read
    obtain ⟨version, count, rfl⟩ := List.length_eq_two.mp two
    obtain ⟨_, middle, checked, ran⟩ := bind_ok_iff.mp ran
    obtain ⟨rfl, rfl⟩ := (demand_ok_iff throw_refuses).mp checked
    obtain ⟨methods, middle, read, ran⟩ := bind_ok_iff.mp ran
    obtain ⟨counted, afterMethods, listed, rfl⟩ := readExact_ok_iff.mp read
    obtain ⟨_, middle, checked, ran⟩ := bind_ok_iff.mp ran
    obtain ⟨offered, rfl⟩ := (demand_ok_iff reply_refuses).mp checked
    obtain ⟨_, middle, wrote, ran⟩ := bind_ok_iff.mp ran
    obtain ⟨writes, rfl⟩ := writeAll_ok_iff.mp wrote
    obtain ⟨front, middle, read, ran⟩ := bind_ok_iff.mp ran
    obtain ⟨four, afterFront, asked, rfl⟩ := readExact_ok_iff.mp read
    match front, four with
    | [version, cmd, reserved, atyp], _ =>
        obtain ⟨_, middle, checked, ran⟩ := bind_ok_iff.mp ran
        obtain ⟨rfl, rfl⟩ := (demand_ok_iff throw_refuses).mp checked
        obtain ⟨_, middle, checked, ran⟩ := bind_ok_iff.mp ran
        obtain ⟨rfl, rfl⟩ := (demand_ok_iff reply_refuses).mp checked
        obtain ⟨host', middle, read, ran⟩ := bind_ok_iff.mp ran
        obtain ⟨address, afterHost, rfl, named, rfl, rfl⟩ := readHost_ok_iff.mp read
        obtain ⟨digits, middle, read, made⟩ := bind_ok_iff.mp ran
        obtain ⟨two, rest, ended, rfl⟩ := readExact_ok_iff.mp read
        obtain ⟨high, low, rfl⟩ := List.length_eq_two.mp two
        obtain ⟨target, rfl⟩ := pure_ok_iff.mp made
        obtain ⟨rfl, number⟩ := Prod.mk.inj target
        have few : methods.length < 256 := counted ▸ count.toNat_lt
        refine ⟨writes, ⟨methods, few, offered⟩, ⟨reserved, address, port⟩, rest, ?_, rfl, rfl, rfl⟩
        change afterHead = methods ++ afterMethods at listed
        change afterMethods = [_, _, _, _] ++ afterFront at asked
        change afterFront = address.body ++ afterHost at named
        change afterHost = [high, low] ++ rest at ended
        have length : UInt8.ofNat methods.length = count := by
          rw [counted]
          exact UInt8.ofNat_toNat
        rw [request_render, ← bytes_of_port number.symm, Greeting.render, length, input, listed,
          asked, named, ended, List.append_assoc]
        rfl
  · rintro ⟨writes, greeting, request, rest, input, rfl, rfl, rfl⟩
    obtain ⟨methods, few, offered⟩ := greeting
    rw [request_render] at input
    have count : methods.length = (UInt8.ofNat methods.length).toNat := by
      rw [UInt8.toNat_ofNat']
      exact (Nat.mod_eq_of_lt few).symm
    refine bind_ok_iff.mpr ⟨[socks5Version, UInt8.ofNat methods.length], _,
      readExact_ok_iff.mpr ⟨rfl, _, input, rfl⟩, bind_ok_iff.mpr ?_⟩
    refine ⟨(), _, (demand_ok_iff throw_refuses).mpr ⟨rfl, rfl⟩, bind_ok_iff.mpr ?_⟩
    refine ⟨methods, _, readExact_ok_iff.mpr ⟨count, _, rfl, rfl⟩, bind_ok_iff.mpr ?_⟩
    refine ⟨(), _, (demand_ok_iff reply_refuses).mpr ⟨offered, rfl⟩, bind_ok_iff.mpr ?_⟩
    refine ⟨(), _, writeAll_ok_iff.mpr ⟨writes, rfl⟩, bind_ok_iff.mpr ?_⟩
    refine ⟨[_, _, _, _], _, readExact_ok_iff.mpr ⟨rfl, _, rfl, rfl⟩, bind_ok_iff.mpr ?_⟩
    refine ⟨(), _, (demand_ok_iff throw_refuses).mpr ⟨rfl, rfl⟩, bind_ok_iff.mpr ?_⟩
    refine ⟨(), _, (demand_ok_iff reply_refuses).mpr ⟨rfl, rfl⟩, bind_ok_iff.mpr ?_⟩
    refine ⟨_, _, readHost_ok_iff.mpr ⟨request.address, _, rfl, rfl, rfl, rfl⟩,
      bind_ok_iff.mpr ?_⟩
    refine ⟨[_, _], _, readExact_ok_iff.mpr ⟨rfl, _, rfl, rfl⟩, pure_ok_iff.mpr ⟨?_, rfl⟩⟩
    exact congrArg _ (port_of_bytes request.port).symm

end Handshake

end Tunnix.Socks5
