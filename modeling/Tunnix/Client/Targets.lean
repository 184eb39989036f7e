import Tunnix.Client.HttpRequest

namespace Tunnix.HttpProxy

/-- The digits of a decimal number have this value. -/
def digitsValue (value : Nat) (digits : List Nat) : Nat :=
  digits.foldl (fun value digit => value * 10 + digit) value

/-- A port is a decimal number of at most 65535. -/
def decimalPort (text : Bytes) : Option UInt16 :=
  match text.mapM digit? with
  | none | some [] => none
  | some digits =>
      if digitsValue 0 digits ≤ 65535 then some (UInt16.ofNat (digitsValue 0 digits)) else none

/-- A host is a registered name, an IPv4 address or an IPv6 literal in brackets. -/
inductive Host where
  | name (bytes : Bytes) (plain : ∀ byte ∈ bytes, byte ∉ delimiters ∧ byte ∉ utf8 ":[]")
  | ipv4 (address : Bytes) (dotted : ∀ byte ∈ address, byte ∈ utf8 "0123456789.")
  | ipv6 (address : Bytes) (colon : 0x3A ∈ address)
      (grouped : ∀ byte ∈ address, byte ∈ utf8 "0123456789abcdefABCDEF:.")

namespace Host

def render : Host → Bytes
  | name bytes _ => bytes
  | ipv4 address _ => address
  | ipv6 address .. => 0x5B :: (address ++ [0x5D])

def isLiteral : Host → Bool
  | name .. | ipv4 .. => false
  | ipv6 .. => true

theorem plain (host : Host) : ∀ byte ∈ host.render, byte ∉ delimiters := by
  intro byte member
  cases host with
  | name bytes plain => exact (plain byte member).1
  | ipv4 address dotted =>
      have apart : ∀ byte ∈ utf8 "0123456789.", byte ∉ delimiters :=
        List.all_iff_forall_prop.mp (by decide +kernel)
      exact apart byte (dotted byte member)
  | ipv6 address colon grouped =>
      have apart : ∀ byte ∈ utf8 "0123456789abcdefABCDEF:.", byte ∉ delimiters :=
        List.all_iff_forall_prop.mp (by decide +kernel)
      rw [render, List.mem_cons, List.mem_append, List.mem_singleton] at member
      rcases member with rfl | inside | rfl
      · decide
      · exact apart byte (grouped byte inside)
      · decide

/-- Only a literal has colons. -/
theorem colon_mem_iff (host : Host) : 0x3A ∈ host.render ↔ host.isLiteral = true := by
  cases host with
  | name bytes plain =>
      exact iff_of_false (fun member => (plain _ member).2 (by decide)) Bool.false_ne_true
  | ipv4 address dotted =>
      have foreign : (0x3A : UInt8) ∉ utf8 "0123456789." := by decide
      exact iff_of_false (fun member => foreign (dotted _ member)) Bool.false_ne_true
  | ipv6 address colon grouped =>
      exact iff_of_true (List.mem_cons_of_mem _ (List.mem_append_left _ colon)) rfl

end Host

/-- An authority is a host, and a port after a colon. The text of the port may be malformed. -/
structure Authority where
  host : Host
  port : Option Bytes
  portPlain : ∀ text ∈ port, ∀ byte ∈ text, byte ∉ delimiters

namespace Authority

def render (authority : Authority) : Bytes :=
  authority.host.render ++ authority.port.elim [] (0x3A :: ·)

/-- An authority is owed its own host, and its own port or the default. A malformed port is owed
a refusal. -/
def target (authority : Authority) (default : UInt16) : Option (Bytes × UInt16) :=
  (authority.port.elim (some default) decimalPort).map (authority.host.render, ·)

end Authority

/-- An absolute URI has one of the two schemes. -/
structure AbsoluteUri where
  secure : Bool
  userinfo : Option Bytes
  authority : Authority
  path : Bytes
  query : Option Bytes
  userinfoPlain : ∀ info ∈ userinfo, ∀ byte ∈ info, byte ∉ delimiters
  pathRooted : path = [] ∨ ∃ rest, path = 0x2F :: rest
  pathPlain : ∀ byte ∈ path, byte ∉ utf8 " \r\n?#"
  queryPlain : ∀ text ∈ query, ∀ byte ∈ text, byte ∉ utf8 " \r\n#"

namespace AbsoluteUri

def scheme (uri : AbsoluteUri) : Bytes := if uri.secure then utf8 "https://" else utf8 "http://"

def defaultPort (uri : AbsoluteUri) : UInt16 := if uri.secure then 443 else 80

def userinfoPart (uri : AbsoluteUri) : Bytes := uri.userinfo.elim [] (· ++ [0x40])

def queryPart (uri : AbsoluteUri) : Bytes := uri.query.elim [] (0x3F :: ·)

def render (uri : AbsoluteUri) : Bytes :=
  uri.scheme ++ (uri.userinfoPart ++ uri.authority.render ++ (uri.path ++ uri.queryPart))

def originForm (uri : AbsoluteUri) : Bytes :=
  (if uri.path = [] then [0x2F] else uri.path) ++ uri.queryPart

/-- A URI is owed the target of its authority and its origin form. -/
def target (uri : AbsoluteUri) : Option (Bytes × UInt16 × Bytes) :=
  (uri.authority.target uri.defaultPort).map fun owner => (owner.1, owner.2, uri.originForm)

end AbsoluteUri

section Port

/-- `parse::<u16>` overlooks one plus sign in front. -/
def unsigned (bytes : Bytes) : Bytes := if bytes.head? = some 0x2B then bytes.tail else bytes

theorem le_digitsValue (value : Nat) (digits : List Nat) : value ≤ digitsValue value digits := by
  induction digits generalizing value with
  | nil => exact Nat.le_refl value
  | cons digit rest ih =>
      have later := ih (value * 10 + digit)
      change value ≤ digitsValue (value * 10 + digit) rest
      omega

/-- The digits are read one by one, and the value stays within 16 bits to their end. -/
theorem parseDigits_eq {value : Nat} (small : value < 65536) (bytes : Bytes) :
    parseDigits value bytes = (bytes.mapM digit?).bind fun digits =>
      if digitsValue value digits ≤ 65535 then some (digitsValue value digits) else none := by
  induction bytes generalizing value with
  | nil =>
      rw [parseDigits, List.mapM_nil]
      exact (if_pos (Nat.le_of_lt_succ small)).symm
  | cons byte rest ih =>
      rw [parseDigits, List.mapM_cons]
      cases digit? byte with
      | none => rfl
      | some digit =>
          dsimp only
          split
          · next fits =>
              rw [ih fits]
              cases rest.mapM digit? with
              | none => rfl
              | some digits => rfl
          · next large =>
              cases rest.mapM digit? with
              | none => rfl
              | some digits =>
                  have least := le_digitsValue (value * 10 + digit) digits
                  refine (if_neg ?_).symm
                  change ¬ digitsValue (value * 10 + digit) digits ≤ 65535
                  omega

/-- The proxy accepts the decimal numbers of at most 65535, and a plus sign in front of them. -/
theorem parseU16_eq (bytes : Bytes) : parseU16 bytes = decimalPort (unsigned bytes) := by
  have unfolded : parseU16 bytes = if unsigned bytes = [] then none
      else (parseDigits 0 (unsigned bytes)).map UInt16.ofNat := rfl
  rw [unfolded, parseDigits_eq (by decide), decimalPort]
  cases unsigned bytes with
  | nil => rfl
  | cons byte rest =>
      rw [if_neg (List.cons_ne_nil _ _), List.mapM_cons]
      cases digit? byte with
      | none => rfl
      | some digit =>
          cases rest.mapM digit? with
          | none => rfl
          | some digits =>
              change Option.map _ (if _ then _ else _) = if _ then _ else _
              split
              · rfl
              · rfl

/-- A decimal number has digits alone. -/
theorem decimalPort_bytes {text : Bytes} {number : UInt16} (named : decimalPort text = some number) :
    ∀ byte ∈ text, 0x30 ≤ byte ∧ byte ≤ 0x39 := by
  have digits {digits : List Nat} (read : text.mapM digit? = some digits) :
      ∀ byte ∈ text, 0x30 ≤ byte ∧ byte ≤ 0x39 := by
    intro byte member
    refine (digit_cases byte).resolve_left fun other => ?_
    obtain ⟨before, after, rfl⟩ := List.append_of_mem member
    rw [List.mapM_append, List.mapM_cons, other] at read
    cases front : before.mapM digit? with
    | none =>
        rw [front] at read
        contradiction
    | some _ =>
        rw [front] at read
        contradiction
  unfold decimalPort at named
  cases read : text.mapM digit? with
  | none =>
      rw [read] at named
      contradiction
  | some _ => exact digits read

/-- A decimal number has no sign to overlook. -/
theorem parseU16_of_decimalPort {text : Bytes} {number : UInt16}
    (named : decimalPort text = some number) : parseU16 text = some number := by
  have plain : unsigned text = text := by
    unfold unsigned
    split
    · next signed =>
        obtain ⟨rest, rfl⟩ := List.head?_eq_some_iff.mp signed
        exact absurd (decimalPort_bytes named 0x2B List.mem_cons_self) (by decide)
    · rfl
  rw [parseU16_eq, plain, named]

end Port

section HostPort
variable {default : UInt16} {bytes : Bytes}

/-- Both parsers split an authority at its last colon. -/
def hostPort (default : UInt16) (bytes : Bytes) : Option (Bytes × UInt16) :=
  match rsplitOnce 0x3A bytes with
  | some (host, port) => (parseU16 port).map (host, ·)
  | none => some (bytes, default)

theorem parseAuthority_toOption (bytes : Bytes) :
    (parseAuthority bytes).toOption = hostPort 443 bytes := by
  unfold parseAuthority hostPort
  cases rsplitOnce 0x3A bytes with
  | none => rfl
  | some halves =>
      obtain ⟨host, port⟩ := halves
      dsimp only
      cases parseU16 port with
      | none => rfl
      | some number => rfl

theorem parseHttpUri_toOption (bytes : Bytes) :
    (parseHttpUri bytes).toOption =
      (hostPort (parseScheme bytes).1 (cut 0x2F (parseScheme bytes).2).1).map fun owner =>
        (owner.1, owner.2, (cut 0x2F (parseScheme bytes).2).2.elim [0x2F] (0x2F :: ·)) := by
  unfold parseHttpUri hostPort
  cases parseScheme bytes with
  | mk default rest =>
      dsimp only
      cases cut 0x2F rest with
      | mk authority after =>
          cases after with
          | none | some =>
              dsimp only
              cases rsplitOnce 0x3A authority with
              | none => rfl
              | some halves =>
                  obtain ⟨host, port⟩ := halves
                  dsimp only
                  cases parseU16 port with
                  | none => rfl
                  | some number => rfl

/-- The number that is taken for the port begins after the last colon. -/
def lastPart (bytes : Bytes) : Bytes := (rsplitOnce 0x3A bytes).elim bytes Prod.snd

theorem hostPort_colon (before after : Bytes) :
    hostPort default (before ++ 0x3A :: after) = none ↔ parseU16 (lastPart after) = none := by
  have split : ∃ host, rsplitOnce 0x3A (before ++ 0x3A :: after) = some (host, lastPart after) := by
    unfold lastPart
    rcases rsplitOnce_cases 0x3A (before ++ 0x3A :: after) with
      ⟨absent, -⟩ | ⟨host, last, halves, plain, result⟩
    · exact absurd (List.mem_append_right _ List.mem_cons_self) absent
    · refine ⟨host, result.trans ?_⟩
      rcases rsplitOnce_cases 0x3A after with ⟨absent, none_⟩ | ⟨first, rest, rfl, plain', some_⟩
      · rw [none_, (last_inj plain absent halves.symm).2]
        rfl
      · rw [← List.cons_append, ← List.append_assoc] at halves
        rw [some_, (last_inj plain plain' halves.symm).2]
        rfl
  obtain ⟨host, split⟩ := split
  rw [hostPort, split]
  exact Option.map_eq_none_iff

/-- A host without colons and a port that is a number are found. -/
theorem hostPort_named {host text : Bytes} {number : UInt16}
    (named : decimalPort text = some number) :
    hostPort default (host ++ 0x3A :: text) = some (host, number) := by
  have plain : 0x3A ∉ text := by
    intro member
    exact absurd (decimalPort_bytes named _ member) (by decide)
  unfold hostPort
  rcases rsplitOnce_cases 0x3A (host ++ 0x3A :: text) with
    ⟨absent, -⟩ | ⟨host', last, halves, plain', result⟩
  · exact absurd (List.mem_append_right _ List.mem_cons_self) absent
  · obtain ⟨rfl, rfl⟩ := last_inj plain plain' halves
    rw [result]
    dsimp only
    rw [parseU16_of_decimalPort named]
    rfl

theorem hostPort_plain (absent : 0x3A ∉ bytes) : hostPort default bytes = some (bytes, default) := by
  unfold hostPort
  rcases rsplitOnce_cases 0x3A bytes with ⟨-, result⟩ | ⟨host, last, rfl, -, -⟩
  · rw [result]
  · exact absurd (List.mem_append_right _ List.mem_cons_self) absent

/-- What is found makes up the authority. -/
theorem hostPort_some {host : Bytes} {port : UInt16}
    (found : hostPort default bytes = some (host, port)) :
    (0x3A ∉ bytes ∧ host = bytes) ∨
      ∃ digits, bytes = host ++ 0x3A :: digits ∧ parseU16 digits = some port := by
  unfold hostPort at found
  rcases rsplitOnce_cases 0x3A bytes with ⟨absent, result⟩ | ⟨host', last, halves, -, result⟩
  · rw [result] at found
    cases found
    exact .inl ⟨absent, rfl⟩
  · rw [result] at found
    obtain ⟨number, parsed, same⟩ := Option.map_eq_some_iff.mp found
    cases same
    exact .inr ⟨last, halves, parsed⟩

/-- A byte that no port has stays in the host. -/
theorem mem_of_hostPort {host : Bytes} {port : UInt16} {byte : UInt8}
    (found : hostPort default bytes = some (host, port)) (member : byte ∈ bytes)
    (foreign : byte ≠ 0x3A ∧ byte ≠ 0x2B ∧ ¬ (0x30 ≤ byte ∧ byte ≤ 0x39)) : byte ∈ host := by
  rcases hostPort_some found with ⟨-, rfl⟩ | ⟨digits, halves, parsed⟩
  · exact member
  · exact mem_host member halves parsed foreign

end HostPort

namespace Authority
variable {authority : Authority} {default : UInt16} {front after : Bytes}

/-- The proxy finds the parts of an authority among these bytes in front of it and after it. A
number has to have nothing around it, an omitted port needs a host without colons besides, and a
malformed port must not end in a number. -/
def Clear (authority : Authority) (front after : Bytes) : Prop :=
  match authority.port with
  | none => front = [] ∧ after = [] ∧ authority.host.isLiteral = false
  | some text =>
      if (decimalPort text).isSome then front = [] ∧ after = []
      else decimalPort (unsigned (lastPart (text ++ after))) = none

instance (authority : Authority) (front after : Bytes) :
    Decidable (authority.Clear front after) := by
  unfold Clear
  split
  · infer_instance
  · infer_instance

theorem alone_of_clear {owner : Bytes × UInt16} (clear : authority.Clear front after)
    (owed : authority.target default = some owner) : front = [] ∧ after = [] := by
  unfold Clear at clear
  unfold target at owed
  cases port : authority.port with
  | none =>
      rw [port] at clear
      exact ⟨clear.1, clear.2.1⟩
  | some text =>
      rw [port] at clear owed
      dsimp only at clear
      split at clear
      · exact clear
      · next malformed =>
          rw [Option.elim_some, Option.not_isSome_iff_eq_none.mp malformed] at owed
          contradiction

/-- User information and the beginning of a query would stay in the host. -/
theorem alone_of_found {port : UInt16} (named : front = [] ∨ 0x40 ∈ front)
    (asked : after = [] ∨ 0x3F ∈ after)
    (found : hostPort default (front ++ authority.render ++ after) =
      some (authority.host.render, port)) : front = [] ∧ after = [] := by
  constructor
  · refine named.resolve_right fun member => ?_
    have inside := mem_of_hostPort found
      (List.mem_append_left _ (List.mem_append_left _ member)) (by decide)
    exact authority.host.plain _ inside (by decide)
  · refine asked.resolve_right fun member => ?_
    have inside := mem_of_hostPort found (List.mem_append_right _ member) (by decide)
    exact authority.host.plain _ inside (by decide)

/-- A proxy that reads these bytes finds what it owes exactly when the authority is clear. -/
theorem hostPort_iff (named : front = [] ∨ 0x40 ∈ front) (asked : after = [] ∨ 0x3F ∈ after) :
    hostPort default (front ++ authority.render ++ after) = authority.target default ↔
      authority.Clear front after := by
  have alone {port : UInt16} (found : hostPort default (front ++ authority.render ++ after) =
      some (authority.host.render, port)) := alone_of_found named asked found
  unfold target Clear
  unfold render at alone ⊢
  cases port : authority.port with
  | none =>
      rw [port] at alone
      rw [Option.elim_none, List.append_nil] at alone ⊢
      rw [Option.elim_none, Option.map_some]
      constructor
      · intro found
        obtain ⟨rfl, rfl⟩ := alone found
        refine ⟨rfl, rfl, Bool.eq_false_iff.mpr fun literal => ?_⟩
        rw [List.nil_append, List.append_nil] at found
        rcases hostPort_some found with ⟨absent, -⟩ | ⟨digits, halves, -⟩
        · exact absent (authority.host.colon_mem_iff.mpr literal)
        · have longer := congrArg List.length halves
          rw [List.length_append, List.length_cons] at longer
          omega
      · rintro ⟨rfl, rfl, literal⟩
        rw [List.nil_append, List.append_nil]
        refine hostPort_plain fun member => ?_
        rw [authority.host.colon_mem_iff, literal] at member
        contradiction
  | some text =>
      rw [port] at alone
      rw [Option.elim_some] at alone ⊢
      rw [Option.elim_some]
      cases number : decimalPort text with
      | some number_ =>
          dsimp only
          rw [number, Option.map_some, Option.isSome_some, if_pos rfl]
          constructor
          · exact alone
          · rintro ⟨rfl, rfl⟩
            rw [List.nil_append, List.append_nil]
            exact hostPort_named number
      | none =>
          dsimp only
          rw [number, Option.map_none, Option.isSome_none, if_neg Bool.false_ne_true, ← parseU16_eq,
            ← List.append_assoc, List.append_assoc, List.cons_append]
          exact hostPort_colon _ _

end Authority

namespace AbsoluteUri
variable {uri : AbsoluteUri}

/-- A proxy that ends the authority at the first slash takes these bytes of a query for a part of
it. -/
def overrun (uri : AbsoluteUri) : Bytes :=
  if uri.path = [] then (cut 0x2F uri.queryPart).1 else []

theorem userinfo_cases (uri : AbsoluteUri) : uri.userinfoPart = [] ∨ 0x40 ∈ uri.userinfoPart := by
  unfold userinfoPart
  cases uri.userinfo with
  | none => exact .inl rfl
  | some info => exact .inr (List.mem_append_right _ (List.mem_singleton_self _))

theorem overrun_cases (uri : AbsoluteUri) : uri.overrun = [] ∨ 0x3F ∈ uri.overrun := by
  unfold overrun queryPart
  split
  · cases uri.query with
    | none => exact .inl rfl
    | some text =>
        rw [Option.elim_some, cut, if_neg (by decide)]
        exact .inr List.mem_cons_self
  · exact .inl rfl

theorem slash_not_mem (uri : AbsoluteUri) : 0x2F ∉ uri.userinfoPart ++ uri.authority.render := by
  have slash : (0x2F : UInt8) ∈ delimiters := by decide
  rw [List.mem_append, not_or]
  constructor
  · unfold userinfoPart
    cases named : uri.userinfo with
    | none => exact List.not_mem_nil
    | some info =>
        rw [Option.elim_some, List.mem_append, not_or]
        exact ⟨fun member => uri.userinfoPlain _ named _ member slash, by decide⟩
  · rw [Authority.render, List.mem_append, not_or]
    refine ⟨fun member => uri.authority.host.plain _ member slash, ?_⟩
    cases named : uri.authority.port with
    | none => exact List.not_mem_nil
    | some text =>
        rw [Option.elim_some, List.mem_cons, not_or]
        exact ⟨by decide, fun member => uri.authority.portPlain _ named _ member slash⟩

theorem parseScheme_render (uri : AbsoluteUri) :
    parseScheme uri.render = (uri.defaultPort,
      uri.userinfoPart ++ uri.authority.render ++ (uri.path ++ uri.queryPart)) := by
  unfold render scheme defaultPort
  cases uri.secure with
  | false => rfl
  | true => rfl

/-- The first slash ends the authority and begins the path, or it stands in the query. -/
theorem cut_render (uri : AbsoluteUri) :
    ∃ after, cut 0x2F (uri.userinfoPart ++ uri.authority.render ++ (uri.path ++ uri.queryPart)) =
        (uri.userinfoPart ++ uri.authority.render ++ uri.overrun, after) ∧
      (uri.overrun = [] → after.elim [0x2F] (0x2F :: ·) = uri.originForm) := by
  rw [cut_append uri.slash_not_mem]
  unfold overrun originForm
  rcases uri.pathRooted with empty | ⟨rest, rooted⟩
  · rw [empty, List.nil_append, if_pos rfl, if_pos rfl]
    refine ⟨_, rfl, fun none_ => ?_⟩
    unfold queryPart at none_ ⊢
    cases asked : uri.query with
    | none => rfl
    | some text =>
        rw [asked, Option.elim_some, cut, if_neg (by decide)] at none_
        contradiction
  · rw [rooted, List.cons_append, cut, if_pos rfl, if_neg (List.cons_ne_nil _ _),
      if_neg (List.cons_ne_nil _ _)]
    exact ⟨_, rfl, fun _ => rfl⟩

/-- The proxy finds the target of a URI whose authority is clear of its surroundings. -/
def Clear (uri : AbsoluteUri) : Prop := uri.authority.Clear uri.userinfoPart uri.overrun

instance (uri : AbsoluteUri) : Decidable uri.Clear :=
  inferInstanceAs (Decidable (uri.authority.Clear _ _))

theorem parseHttpUri_iff (uri : AbsoluteUri) :
    (parseHttpUri uri.render).toOption = uri.target ↔ uri.Clear := by
  obtain ⟨after, split, origin⟩ := uri.cut_render
  have found : hostPort uri.defaultPort
        (uri.userinfoPart ++ uri.authority.render ++ uri.overrun) =
      uri.authority.target uri.defaultPort ↔ _ :=
    Authority.hostPort_iff uri.userinfo_cases uri.overrun_cases
  rw [parseHttpUri_toOption, uri.parseScheme_render, split]
  unfold target Clear
  rw [← found]
  constructor
  · intro same
    have owners := congrArg (Option.map fun target => (target.1, target.2.1)) same
    rw [Option.map_map, Option.map_map] at owners
    change Option.map id _ = Option.map id _ at owners
    rw [Option.map_id, id, id] at owners
    exact owners
  · intro same
    rw [same]
    cases owed : uri.authority.target uri.defaultPort with
    | none => rfl
    | some owner =>
        rw [origin (Authority.alone_of_clear (found.mp same) owed).2]

end AbsoluteUri

/-- The two parsers find what an authority and an absolute URI are owed, and refuse the malformed
ports, exactly when the authority is clear of what stands around it. -/
theorem parsers_follow_grammar_iff (authority : Authority) (uri : AbsoluteUri) :
    ((parseAuthority authority.render).toOption = authority.target 443 ↔
      authority.Clear [] []) ∧
    ((parseHttpUri uri.render).toOption = uri.target ↔ uri.Clear) := by
  refine ⟨?_, uri.parseHttpUri_iff⟩
  have found : hostPort 443 ([] ++ authority.render ++ []) = authority.target 443 ↔ _ :=
    Authority.hostPort_iff (.inl rfl) (.inl rfl)
  rw [List.nil_append, List.append_nil] at found
  rw [parseAuthority_toOption, found]

/-- The authority of the local host as a literal, without a port. -/
def loopback : Authority where
  host := .ipv6 (utf8 "::1") (by decide) (List.all_iff_forall_prop.mp (by decide))
  port := none
  portPlain _ absent := absurd absent (Option.not_mem_none _)

/-- A literal without a port is refused, although it is owed the default port. -/
theorem literal_refused :
    loopback.render = utf8 "[::1]" ∧ loopback.target 443 = some (utf8 "[::1]", 443) ∧
      parseAuthority loopback.render = .error "Invalid port in CONNECT authority: 1]" ∧
      ∃ uri : AbsoluteUri, uri.render = utf8 "http://[::1]/" ∧
        uri.target = some (utf8 "[::1]", 80, utf8 "/") ∧
        parseHttpUri uri.render = .error "Invalid port in URI: 1]" := by
  refine ⟨by decide +kernel, by decide +kernel, by decide +kernel, ?_⟩
  let uri : AbsoluteUri :=
    { secure := false
      userinfo := none
      authority := loopback
      path := [0x2F]
      query := none
      userinfoPlain _ absent := absurd absent (Option.not_mem_none _)
      pathRooted := .inr ⟨[], rfl⟩
      pathPlain := List.all_iff_forall_prop.mp (by decide +kernel)
      queryPlain _ absent := absurd absent (Option.not_mem_none _) }
  exact ⟨uri, by decide +kernel, by decide +kernel, by decide +kernel⟩

end Tunnix.HttpProxy
