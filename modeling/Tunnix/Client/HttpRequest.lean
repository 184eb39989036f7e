import Tunnix.Client.HttpProxy
import Mathlib.Data.Bool.AllAny

namespace Tunnix.HttpProxy
open Handler

/-- A decimal digit as a byte. -/
def digitByte (digit : Fin 10) : UInt8 := UInt8.ofNat (0x30 + digit.val)

/-- More digits extend a decimal number. -/
def decimal (value : Nat) (digits : List (Fin 10)) : Nat :=
  digits.foldl (fun value digit => value * 10 + digit.val) value

/-- These bytes end a part of a URI. -/
def delimiters : Bytes := utf8 " \r\n/?#@"

/-- An absolute URI. A host that has colons is a literal in brackets. -/
structure Uri where
  scheme : Bytes
  userinfo : Option Bytes
  host : Bytes
  port : Option (List (Fin 10))
  path : Bytes
  query : Option Bytes
  schemePlain : ∀ byte ∈ scheme, byte ∉ delimiters ∧ byte ≠ 0x3A
  userinfoPlain : ∀ info ∈ userinfo, ∀ byte ∈ info, byte ∉ delimiters
  hostPlain : ∀ byte ∈ host, byte ∉ delimiters
  hostLiteral : 0x3A ∈ host → ∃ inner, host = inner ++ [0x5D]
  pathRooted : path = [] ∨ ∃ rest, path = 0x2F :: rest
  pathPlain : ∀ byte ∈ path, byte ∉ utf8 " \r\n?#"
  queryPlain : ∀ text ∈ query, ∀ byte ∈ text, byte ∉ utf8 " \r\n#"
deriving DecidableEq

namespace Uri

def portPart (uri : Uri) : Bytes := uri.port.elim [] fun digits => 0x3A :: digits.map digitByte

def queryPart (uri : Uri) : Bytes := uri.query.elim [] (0x3F :: ·)

def authority (uri : Uri) : Bytes :=
  uri.userinfo.elim [] (· ++ [0x40]) ++ uri.host ++ uri.portPart

def afterScheme (uri : Uri) : Bytes := uri.authority ++ uri.path ++ uri.queryPart

def render (uri : Uri) : Bytes := uri.scheme ++ 0x3A :: 0x2F :: 0x2F :: uri.afterScheme

def defaultPort (uri : Uri) : Nat := if uri.scheme.map lower = utf8 "https" then 443 else 80

/-- The scheme decides a port that the URI leaves out. -/
def portNumber (uri : Uri) : Nat :=
  match uri.port with
  | none | some [] => uri.defaultPort
  | some (digit :: digits) => decimal 0 (digit :: digits)

/-- A URI belongs to one host and port. -/
def target (uri : Uri) : String × Nat := (text uri.host, uri.portNumber)

/-- The origin form has a path and a query alone. -/
def originForm (uri : Uri) : Bytes :=
  (if uri.path = [] then [0x2F] else uri.path) ++ uri.queryPart

end Uri

/-- A plain request is not a `CONNECT`, and none of its header lines is blank. -/
structure Request where
  method : Bytes
  uri : Uri
  fields : List Bytes
  body : Bytes
  methodToken : ∀ byte ∈ method, byte ∉ utf8 " \r\n"
  plain : method.map lower ≠ (utf8 "CONNECT").map lower
  fieldLine : ∀ field ∈ fields, field ≠ [] ∧ ∀ byte ∈ field, byte ∉ crlf
deriving DecidableEq

namespace Request

/-- The first line of a request names one of the forms of its target. -/
def line (request : Request) (requestTarget : Bytes) : Bytes :=
  request.method ++ 0x20 :: (requestTarget ++ 0x20 :: utf8 "HTTP/1.1")

/-- A blank line ends the header. -/
def header (request : Request) (requestTarget : Bytes) : Bytes :=
  (request.line requestTarget :: request.fields).flatMap (· ++ crlf) ++ crlf

/-- A client sends the absolute form to its proxy. -/
def render (request : Request) : Bytes := request.header request.uri.render ++ request.body

/-- The proxy owes the origin form to the target. -/
def originForm (request : Request) : Bytes :=
  request.header request.uri.originForm ++ request.body

end Request

section Cut
variable {separator : UInt8} {before after : Bytes}

/-- A cut looks past the bytes in front that do not separate. -/
theorem cut_append (absent : separator ∉ before) (after : Bytes) :
    cut separator (before ++ after) =
      (before ++ (cut separator after).1, (cut separator after).2) := by
  induction before with
  | nil => rfl
  | cons byte rest ih =>
      rw [List.mem_cons, not_or] at absent
      rw [List.cons_append, cut, if_neg (Ne.symm absent.1), ih absent.2]
      rfl

theorem cut_mid (absent : separator ∉ before) (after : Bytes) :
    cut separator (before ++ separator :: after) = (before, some after) := by
  rw [cut_append absent, cut, if_pos rfl, List.append_nil]

theorem cut_none (absent : separator ∉ before) : cut separator before = (before, none) := by
  have whole := cut_append absent []
  rw [List.append_nil] at whole
  rw [whole, cut, List.append_nil]

/-- A separator stands in the bytes or it does not. -/
theorem cut_cases (separator : UInt8) (bytes : Bytes) :
    (separator ∉ bytes ∧ cut separator bytes = (bytes, none)) ∨
      ∃ before after, bytes = before ++ separator :: after ∧ separator ∉ before ∧
        cut separator bytes = (before, some after) := by
  by_cases member : separator ∈ bytes
  · obtain ⟨before, after, split, absent⟩ := List.eq_append_cons_of_mem member
    exact .inr ⟨before, after, split, absent, split ▸ cut_mid absent after⟩
  · exact .inl ⟨member, cut_none member⟩

/-- The first separator splits some bytes in one way. -/
theorem mid_inj {before' after' : Bytes} (absent : separator ∉ before)
    (absent' : separator ∉ before')
    (same : before ++ separator :: after = before' ++ separator :: after') :
    before = before' ∧ after = after' := by
  have cuts := congrArg (cut separator) same
  rw [cut_mid absent, cut_mid absent', Prod.mk.injEq, Option.some.injEq] at cuts
  exact cuts

/-- The last separator splits some bytes in one way. -/
theorem last_inj {before' after' : Bytes} (absent : separator ∉ after)
    (absent' : separator ∉ after')
    (same : before ++ separator :: after = before' ++ separator :: after') :
    before = before' ∧ after = after' := by
  have reversed := congrArg List.reverse same
  rw [List.reverse_append, List.reverse_append, List.reverse_cons, List.reverse_cons,
    List.append_assoc, List.append_assoc] at reversed
  obtain ⟨afters, befores⟩ := mid_inj (fun member => absent (List.mem_reverse.mp member))
    (fun member => absent' (List.mem_reverse.mp member)) reversed
  exact ⟨List.reverse_injective befores, List.reverse_injective afters⟩

theorem rsplitOnce_cases (separator : UInt8) (bytes : Bytes) :
    (separator ∉ bytes ∧ rsplitOnce separator bytes = none) ∨
      ∃ before after, bytes = before ++ separator :: after ∧ separator ∉ after ∧
        rsplitOnce separator bytes = some (before, after) := by
  unfold rsplitOnce
  rcases cut_cases separator bytes.reverse with ⟨absent, result⟩ | ⟨last, first, split, absent, result⟩
  · rw [result]
    exact .inl ⟨fun member => absent (List.mem_reverse.mpr member), rfl⟩
  · rw [result]
    refine .inr ⟨first.reverse, last.reverse, ?_, ?_, rfl⟩
    · rw [← List.reverse_reverse bytes, split, List.reverse_append, List.reverse_cons,
        List.append_assoc]
      rfl
    · exact fun member => absent (List.mem_reverse.mp member)

end Cut

section Port

/-- The value of a digit byte is below ten. -/
theorem digit_cases (byte : UInt8) :
    (digit? byte = none) ∨ (0x30 ≤ byte ∧ byte ≤ 0x39) := by
  unfold digit?
  split
  · next digit => exact .inr digit
  · exact .inl rfl

theorem digit_digitByte (digit : Fin 10) : digit? (digitByte digit) = some digit.val := by
  revert digit
  decide

theorem digitByte_ne_plus (digit : Fin 10) : digitByte digit ≠ 0x2B := by
  revert digit
  decide

theorem digitByte_range (digit : Fin 10) : 0x30 ≤ digitByte digit ∧ digitByte digit ≤ 0x39 := by
  revert digit
  decide

theorem parseDigits_bytes {value result : Nat} {bytes : Bytes}
    (parsed : parseDigits value bytes = some result) :
    ∀ byte ∈ bytes, 0x30 ≤ byte ∧ byte ≤ 0x39 := by
  induction bytes generalizing value with
  | nil => nofun
  | cons byte rest ih =>
      rw [parseDigits] at parsed
      split at parsed
      · next digit found =>
          split at parsed
          · refine List.forall_mem_cons.mpr ⟨?_, ih parsed⟩
            exact (digit_cases byte).resolve_left (by rw [found]; nofun)
          · contradiction
      · contradiction

theorem parseDigits_value {value result : Nat} {digits : List (Fin 10)} (small : value < 65536)
    (parsed : parseDigits value (digits.map digitByte) = some result) :
    result = decimal value digits ∧ result < 65536 := by
  induction digits generalizing value with
  | nil =>
      cases parsed
      exact ⟨rfl, small⟩
  | cons digit rest ih =>
      rw [List.map_cons, parseDigits, digit_digitByte] at parsed
      dsimp only at parsed
      split at parsed
      · next fits => exact ih fits parsed
      · contradiction

/-- A port has digits, and it may have a plus sign. -/
theorem parseU16_bytes {bytes : Bytes} {port : UInt16} (parsed : parseU16 bytes = some port) :
    ∀ byte ∈ bytes, byte = 0x2B ∨ (0x30 ≤ byte ∧ byte ≤ 0x39) := by
  have digits {bytes : Bytes}
      (parsed : (if bytes = [] then none else (parseDigits 0 bytes).map UInt16.ofNat) = some port) :
      ∀ byte ∈ bytes, 0x30 ≤ byte ∧ byte ≤ 0x39 := by
    split at parsed
    · contradiction
    · obtain ⟨value, found, -⟩ := Option.map_eq_some_iff.mp parsed
      exact parseDigits_bytes found
  by_cases signed : bytes.head? = some 0x2B
  · simp only [parseU16, if_pos signed] at parsed
    intro byte member
    cases bytes with
    | nil => contradiction
    | cons first rest =>
        rcases List.mem_cons.mp member with rfl | later
        · exact .inl (Option.some.inj signed)
        · exact .inr (digits parsed byte later)
  · simp only [parseU16, if_neg signed] at parsed
    exact fun byte member => .inr (digits parsed byte member)

theorem parseU16_value {digits : List (Fin 10)} {port : UInt16}
    (parsed : parseU16 (digits.map digitByte) = some port) :
    digits ≠ [] ∧ port.toNat = decimal 0 digits := by
  have unsigned : (digits.map digitByte).head? ≠ some 0x2B := by
    cases digits with
    | nil => nofun
    | cons digit rest =>
        rw [List.map_cons, List.head?_cons]
        exact fun plus => digitByte_ne_plus digit (Option.some.inj plus)
  simp only [parseU16, if_neg unsigned] at parsed
  split at parsed
  · contradiction
  · next present =>
      obtain ⟨value, found, rfl⟩ := Option.map_eq_some_iff.mp parsed
      obtain ⟨same, small⟩ := parseDigits_value (by decide) found
      refine ⟨fun empty => present (by rw [empty]; rfl), ?_⟩
      rw [← same]
      exact UInt16.toNat_ofNat_of_lt' small

end Port

section ParseUri
variable {uri host path : Bytes} {port : UInt16}

theorem stripPrefix_some {front bytes rest : Bytes} (found : stripPrefix front bytes = some rest) :
    bytes = front ++ rest := by
  unfold stripPrefix at found
  split at found
  · next front_ =>
      obtain ⟨rest', rfl⟩ := List.isPrefixOf_iff_prefix.mp front_
      rw [Option.some.injEq, List.drop_left] at found
      rw [found]
  · contradiction

/-- The authority ends at the first slash, and its port begins after its last colon. -/
theorem parseHttpUri_ok (parsed : parseHttpUri uri = .ok (host, port, path)) :
    ∃ authority after, cut 0x2F (parseScheme uri).2 = (authority, after) ∧
      path = after.elim [0x2F] (0x2F :: ·) ∧
      ((0x3A ∉ authority ∧ host = authority ∧ port = (parseScheme uri).1) ∨
        ∃ digits, authority = host ++ 0x3A :: digits ∧ 0x3A ∉ digits ∧
          parseU16 digits = some port) := by
  refine ⟨_, _, rfl, ?_⟩
  unfold parseHttpUri at parsed
  cases scheme : parseScheme uri with
  | mk defaultPort rest =>
      cases split : cut 0x2F rest with
      | mk authority after =>
          rw [scheme] at parsed
          dsimp only at parsed
          rw [split] at parsed
          rcases rsplitOnce_cases 0x3A authority with
            ⟨absent, result⟩ | ⟨first, last, halves, absent, result⟩
          · cases after with
            | none | some =>
                dsimp only at parsed
                rw [result] at parsed
                cases parsed
                exact ⟨rfl, .inl ⟨absent, rfl, rfl⟩⟩
          · cases after with
            | none | some =>
                dsimp only at parsed
                rw [result] at parsed
                dsimp only at parsed
                cases found : parseU16 last with
                | none =>
                    rw [found] at parsed
                    contradiction
                | some number =>
                    rw [found] at parsed
                    cases parsed
                    exact ⟨rfl, .inr ⟨last, halves, absent, found⟩⟩

/-- A byte that no port has stands in the host. -/
theorem mem_host {authority digits : Bytes} {byte : UInt8} (member : byte ∈ authority)
    (split : authority = host ++ 0x3A :: digits) (found : parseU16 digits = some port)
    (foreign : byte ≠ 0x3A ∧ byte ≠ 0x2B ∧ ¬ (0x30 ≤ byte ∧ byte ≤ 0x39)) : byte ∈ host := by
  rw [split, List.mem_append, List.mem_cons] at member
  rcases member with inside | colon | digit
  · exact inside
  · exact absurd colon foreign.1
  · rcases parseU16_bytes found byte digit with plus | digit
    · exact absurd plus foreign.2.1
    · exact absurd digit foreign.2.2

end ParseUri

namespace Uri
variable {uri : Uri} {host path : Bytes} {port : UInt16}

/-- The proxy knows two schemes, and it takes any other scheme for a host without a port. -/
theorem parseScheme_render (uri : Uri) :
    (uri.scheme = utf8 "https" ∧ parseScheme uri.render = (443, uri.afterScheme)) ∨
      (uri.scheme = utf8 "http" ∧ parseScheme uri.render = (80, uri.afterScheme)) ∨
      parseScheme uri.render = (80, uri.render) := by
  have named (name : Bytes) {rest : Bytes} (plain : 0x3A ∉ name)
      (found : stripPrefix (name ++ 0x3A :: [0x2F, 0x2F]) uri.render = some rest) :
      uri.scheme = name ∧ rest = uri.afterScheme := by
    have same := stripPrefix_some found
    rw [List.append_assoc] at same
    have colonless : 0x3A ∉ uri.scheme := fun member => (uri.schemePlain _ member).2 rfl
    obtain ⟨scheme, slashes⟩ := mid_inj colonless plain same
    have after := List.cons_injective (List.cons_injective slashes)
    exact ⟨scheme, after.symm⟩
  unfold parseScheme
  cases secure : stripPrefix (utf8 "https://") uri.render with
  | some rest =>
      obtain ⟨scheme, rfl⟩ := named (utf8 "https") (by decide) secure
      exact .inl ⟨scheme, rfl⟩
  | none =>
      cases simple : stripPrefix (utf8 "http://") uri.render with
      | some rest =>
          obtain ⟨scheme, rfl⟩ := named (utf8 "http") (by decide) simple
          exact .inr (.inl ⟨scheme, rfl⟩)
      | none => exact .inr (.inr rfl)

/-- Only these two schemes are accepted. -/
theorem scheme_of_parsed (parsed : parseHttpUri uri.render = .ok (host, port, path)) :
    (parseScheme uri.render).2 = uri.afterScheme ∧
      (parseScheme uri.render).1.toNat = uri.defaultPort := by
  rcases parseScheme_render uri with ⟨scheme, result⟩ | ⟨scheme, result⟩ | result
  · rw [result, defaultPort, scheme]
    exact ⟨rfl, rfl⟩
  · rw [result, defaultPort, scheme]
    exact ⟨rfl, rfl⟩
  · obtain ⟨authority, after, split, -, ending⟩ := parseHttpUri_ok parsed
    have slashless : 0x2F ∉ uri.scheme ++ [0x3A] := by
      rw [List.mem_append, not_or]
      exact ⟨fun member => (uri.schemePlain _ member).1 (by decide), by decide⟩
    have whole : uri.render = (uri.scheme ++ [0x3A]) ++ 0x2F :: 0x2F :: uri.afterScheme := by
      rw [render, List.append_assoc]
      rfl
    rw [result, whole, cut_mid slashless, Prod.mk.injEq] at split
    rcases ending with ⟨absent, -⟩ | ⟨digits, halves, absent, found⟩
    · rw [← split.1] at absent
      exact absurd (List.mem_append_right _ (List.mem_singleton_self _)) absent
    · rw [← split.1] at halves
      have empty := (last_inj List.not_mem_nil absent halves).2
      rw [← empty] at found
      contradiction

/-- A port has digits alone. -/
theorem mem_portPart {byte : UInt8} (member : byte ∈ uri.portPart) :
    byte = 0x3A ∨ (0x30 ≤ byte ∧ byte ≤ 0x39) := by
  unfold portPart at member
  cases port : uri.port with
  | none =>
      rw [port] at member
      contradiction
  | some digits =>
      rw [port] at member
      rcases List.mem_cons.mp member with colon | digit
      · exact .inl colon
      · obtain ⟨value, -, rfl⟩ := List.mem_map.mp digit
        exact .inr (digitByte_range value)

theorem slash_not_mem_authority (uri : Uri) : 0x2F ∉ uri.authority := by
  unfold authority
  rw [List.mem_append, List.mem_append, not_or, not_or]
  refine ⟨⟨?_, fun member => uri.hostPlain _ member (by decide)⟩, fun member => ?_⟩
  · cases info : uri.userinfo with
    | none => exact List.not_mem_nil
    | some info_ =>
        change _ ∉ info_ ++ [_]
        rw [List.mem_append, not_or]
        exact ⟨fun member => uri.userinfoPlain _ info _ member (by decide), by decide⟩
  · have digit := mem_portPart member
    revert digit
    decide

/-- The authority of a URI that has a path, or no query, ends where the proxy ends it. -/
theorem cut_afterScheme (shaped : uri.path ≠ [] ∨ uri.query = none) :
    ∃ after, cut 0x2F uri.afterScheme = (uri.authority, after) ∧
      after.elim [0x2F] (0x2F :: ·) = uri.originForm := by
  unfold afterScheme originForm
  rcases uri.pathRooted with empty | ⟨rest, rooted⟩
  · have unasked := shaped.resolve_left (not_not_intro empty)
    rw [queryPart, unasked, empty, if_pos rfl]
    refine ⟨none, ?_, rfl⟩
    rw [List.append_nil, Option.elim_none, List.append_nil]
    exact cut_none uri.slash_not_mem_authority
  · rw [rooted, if_neg (List.cons_ne_nil _ _), List.append_assoc]
    exact ⟨some (rest ++ uri.queryPart), cut_mid uri.slash_not_mem_authority _, rfl⟩

/-- A well-shaped URI that the proxy accepts goes to its own host, port and origin form. -/
theorem parsed_own (parsed : parseHttpUri uri.render = .ok (host, port, path))
    (anonymous : uri.userinfo = none) (shaped : uri.path ≠ [] ∨ uri.query = none) :
    host = uri.host ∧ port.toNat = uri.portNumber ∧ path = uri.originForm := by
  obtain ⟨rest, default⟩ := scheme_of_parsed parsed
  obtain ⟨authority, after, split, origin, ending⟩ := parseHttpUri_ok parsed
  obtain ⟨after', split', origin'⟩ := cut_afterScheme shaped
  rw [rest, split', Prod.mk.injEq] at split
  obtain ⟨rfl, rfl⟩ := split
  have whole : uri.authority = uri.host ++ uri.portPart := by
    rw [Uri.authority, anonymous]
    rfl
  rw [whole] at ending
  suffices own : host = uri.host ∧ port.toNat = uri.portNumber from
    ⟨own.1, own.2, origin.trans origin'⟩
  rw [portPart] at ending
  unfold portNumber
  cases named : uri.port with
  | none =>
      rw [named, Option.elim_none, List.append_nil] at ending
      rcases ending with ⟨-, own, own_⟩ | ⟨digits, halves, absent, found⟩
      · exact ⟨own, (congrArg UInt16.toNat own_).trans default⟩
      · obtain ⟨inner, literal⟩ := uri.hostLiteral (by
          rw [halves]
          exact List.mem_append_right _ List.mem_cons_self)
        exfalso
        have bracket : 0x5D ∈ digits := by
          rcases List.eq_nil_or_concat digits with rfl | ⟨front, last, rfl⟩
          · have impossible := List.append_inj_right' (halves.symm.trans literal) rfl
            exact absurd impossible (by decide)
          · rw [List.concat_eq_append] at halves ⊢
            rw [literal, ← List.cons_append, ← List.append_assoc] at halves
            rw [← List.append_inj_right' halves rfl]
            exact List.mem_append_right _ (List.mem_singleton_self _)
        have digit := parseU16_bytes found _ bracket
        revert digit
        decide
  | some digits =>
      rw [named, Option.elim_some] at ending
      have plain : 0x3A ∉ digits.map digitByte := by
        intro member
        obtain ⟨digit, -, same⟩ := List.mem_map.mp member
        have range := digitByte_range digit
        rw [same] at range
        revert range
        decide
      rcases ending with ⟨absent, -⟩ | ⟨digits', halves, absent, found⟩
      · exact absurd (List.mem_append_right _ List.mem_cons_self) absent
      · obtain ⟨own, rfl⟩ := last_inj plain absent halves
        obtain ⟨present, value⟩ := parseU16_value found
        cases digits with
        | nil => exact absurd rfl present
        | cons digit rest => exact ⟨own.symm, value⟩

/-- An accepted URI with user information, or with a query and no path, goes to another host. -/
theorem parsed_foreign (parsed : parseHttpUri uri.render = .ok (host, port, path))
    (odd : uri.userinfo ≠ none ∨ (uri.path = [] ∧ uri.query ≠ none)) :
    0x40 ∈ host ∨ 0x3F ∈ host := by
  obtain ⟨rest, -⟩ := scheme_of_parsed parsed
  obtain ⟨authority, after, split, -, ending⟩ := parseHttpUri_ok parsed
  rw [rest] at split
  have inside : 0x40 ∈ authority ∨ 0x3F ∈ authority := by
    rcases odd with named | ⟨empty, asked⟩
    · obtain ⟨info, named⟩ := Option.ne_none_iff_exists'.mp named
      have front : 0x2F ∉ info ++ [0x40] := by
        rw [List.mem_append, not_or]
        exact ⟨fun member => uri.userinfoPlain _ named _ member (by decide), by decide⟩
      rw [afterScheme, Uri.authority, named, Option.elim_some, List.append_assoc, List.append_assoc,
        List.append_assoc, cut_append front] at split
      rw [← (Prod.mk.inj split).1]
      exact .inl (List.mem_append_left _ (List.mem_append_right _ (List.mem_singleton_self _)))
    · obtain ⟨text, asked⟩ := Option.ne_none_iff_exists'.mp asked
      have front : 0x2F ∉ uri.authority ++ [0x3F] := by
        rw [List.mem_append, not_or]
        exact ⟨uri.slash_not_mem_authority, by decide⟩
      rw [afterScheme, empty, List.append_nil, queryPart, asked, Option.elim_some,
        ← List.singleton_append, ← List.append_assoc, cut_append front] at split
      rw [← (Prod.mk.inj split).1]
      exact .inr (List.mem_append_left _ (List.mem_append_right _ (List.mem_singleton_self _)))
  rcases ending with ⟨-, rfl, -⟩ | ⟨digits, halves, -, found⟩
  · exact inside
  · exact inside.imp (mem_host · halves found (by decide)) (mem_host · halves found (by decide))

end Uri

section Lines

theorem crlf_eq : crlf = [0x0D, 0x0A] := rfl

/-- The header ends only at a line feed. -/
theorem not_isSuffixOf {bytes : Bytes} {byte : UInt8} (other : byte ≠ 0x0A) :
    ¬ (crlf ++ crlf).isSuffixOf (bytes ++ [byte]) = true := by
  intro suffix
  obtain ⟨front, same⟩ := List.isSuffixOf_iff_suffix.mp suffix
  have split : crlf ++ crlf = [0x0D, 0x0A, 0x0D] ++ [0x0A] := rfl
  rw [split, ← List.append_assoc] at same
  exact other (List.singleton_injective (List.append_inj_right' same rfl)).symm

/-- A line end after another byte does not end the header. -/
theorem not_isSuffixOf_crlf (bytes : Bytes) {byte : UInt8} (other : byte ≠ 0x0A) :
    ¬ (crlf ++ crlf).isSuffixOf (bytes ++ [byte] ++ crlf) = true := by
  intro suffix
  obtain ⟨front, same⟩ := List.isSuffixOf_iff_suffix.mp suffix
  rw [← List.append_assoc] at same
  have ends := List.append_inj_left' same rfl
  have split : front ++ crlf = (front ++ [0x0D]) ++ [0x0A] := by
    rw [List.append_assoc]
    rfl
  rw [split] at ends
  exact other (List.singleton_injective (List.append_inj_right' ends rfl)).symm

/-- A reader that has passed some bytes stands after them, unless the header is too large. -/
def Passes (header bytes rest : Bytes) : Prop :=
  readHeader header (bytes ++ rest) = readHeader (header ++ bytes) rest ∨
    readHeader header (bytes ++ rest) = .error "HTTP headers too large"

theorem Passes.trans {header first second rest : Bytes} (front : Passes header first (second ++ rest))
    (back : Passes (header ++ first) second rest) : Passes header (first ++ second) rest := by
  unfold Passes at front back ⊢
  rw [List.append_assoc, ← List.append_assoc header]
  rcases front with same | large
  · rw [same]
    exact back
  · exact .inr large

theorem Passes.single {header rest : Bytes} {byte : UInt8}
    (unended : ¬ (crlf ++ crlf).isSuffixOf (header ++ [byte]) = true) :
    Passes header [byte] rest := by
  unfold Passes
  rw [List.singleton_append, readHeader, if_neg unended]
  split
  · exact .inr rfl
  · exact .inl rfl

theorem Passes.plain {header bytes : Bytes} (plain : 0x0A ∉ bytes) (rest : Bytes) :
    Passes header bytes rest := by
  induction bytes generalizing header with
  | nil =>
      left
      rw [List.append_nil]
      rfl
  | cons byte later ih =>
      rw [List.mem_cons, not_or] at plain
      exact (Passes.single (not_isSuffixOf (Ne.symm plain.1))).trans (ih plain.2)

/-- The reader passes a line that is not blank. -/
theorem Passes.line {header line : Bytes} (present : line ≠ []) (plain : 0x0A ∉ line)
    (rest : Bytes) : Passes header (line ++ crlf) rest := by
  refine (Passes.plain plain _).trans ?_
  have returned : Passes (header ++ line) [0x0D] ([0x0A] ++ rest) :=
    .single (not_isSuffixOf (by decide))
  refine returned.trans ?_
  apply Passes.single
  obtain ⟨front, last, rfl⟩ := (List.eq_nil_or_concat line).resolve_left present
  rw [List.concat_eq_append] at plain ⊢
  have other : last ≠ 0x0A := by
    rintro rfl
    exact plain (List.mem_append_right _ (List.mem_singleton_self _))
  have ended := not_isSuffixOf_crlf (header ++ front) other
  simpa only [crlf_eq, List.append_assoc, List.cons_append, List.nil_append] using ended

/-- The reader stops after the first blank line. -/
theorem readHeader_crlf (header rest : Bytes) :
    readHeader (header ++ crlf) (crlf ++ rest) = .ok (header ++ crlf ++ crlf, rest) ∨
      readHeader (header ++ crlf) (crlf ++ rest) = .error "HTTP headers too large" := by
  have first : Passes (header ++ crlf) [0x0D] (0x0A :: rest) := .single (not_isSuffixOf (by decide))
  change readHeader (header ++ crlf) ([0x0D] ++ 0x0A :: rest) = _ ∨
    readHeader (header ++ crlf) ([0x0D] ++ 0x0A :: rest) = _
  rcases first with same | large
  · left
    rw [same, readHeader, if_pos]
    · rw [List.append_assoc _ [0x0D]]
      rfl
    · rw [List.isSuffixOf_iff_suffix]
      exact ⟨header, by simp only [crlf_eq, List.append_assoc, List.cons_append, List.nil_append]⟩
  · exact .inr large

theorem splitLines_line {line : Bytes} (plain : 0x0D ∉ line) (rest : Bytes) :
    splitLines (line ++ crlf ++ rest) = line :: splitLines rest := by
  induction line with
  | nil => rfl
  | cons byte later ih =>
      rw [List.mem_cons, not_or] at plain
      rw [List.cons_append, List.cons_append, splitLines, ih plain.2]
      rintro rest_ rfl
      exact absurd rfl plain.1

/-- The lines of a header are not blank, and none of them contains a line end. -/
def Lines (lines : List Bytes) : Prop := ∀ line ∈ lines, line ≠ [] ∧ ∀ byte ∈ line, byte ∉ crlf

theorem Passes.lines (header : Bytes) {lines : List Bytes} (plain : Lines lines) (rest : Bytes) :
    Passes header (lines.flatMap (· ++ crlf)) rest := by
  induction lines generalizing header with
  | nil => exact Passes.plain List.not_mem_nil rest
  | cons line later ih =>
      obtain ⟨now, then_⟩ := List.forall_mem_cons.mp plain
      have feedless : 0x0A ∉ line := fun member => now.2 _ member (by decide)
      exact (Passes.line now.1 feedless _).trans (ih _ then_)

/-- The reader takes exactly the lines of the header and the blank line after them. -/
theorem readHeader_lines {lines : List Bytes} {rest header rest' : Bytes} (present : lines ≠ [])
    (plain : Lines lines)
    (read : readHeader [] (lines.flatMap (· ++ crlf) ++ crlf ++ rest) = .ok (header, rest')) :
    header = lines.flatMap (· ++ crlf) ++ crlf ∧ rest' = rest := by
  obtain ⟨front, last, rfl⟩ := (List.eq_nil_or_concat lines).resolve_left present
  have ends : ∃ bytes, (front.concat last).flatMap (· ++ crlf) = bytes ++ crlf := by
    refine ⟨front.flatMap (· ++ crlf) ++ last, ?_⟩
    rw [List.concat_eq_append, List.flatMap_append, List.flatMap_singleton, List.append_assoc]
  obtain ⟨bytes, ended⟩ := ends
  rw [List.append_assoc] at read
  rcases Passes.lines [] plain (crlf ++ rest) with same | large
  · rw [same, List.nil_append, ended] at read
    rw [ended]
    rcases readHeader_crlf bytes rest with whole | large
    · rw [whole] at read
      cases read
      exact ⟨rfl, rfl⟩
    · rw [large] at read
      contradiction
  · rw [large] at read
    contradiction

theorem splitLines_lines {lines : List Bytes} (plain : Lines lines) (rest : Bytes) :
    splitLines (lines.flatMap (· ++ crlf) ++ rest) = lines ++ splitLines rest := by
  induction lines with
  | nil => rfl
  | cons line later ih =>
      obtain ⟨now, then_⟩ := List.forall_mem_cons.mp plain
      have returnless : 0x0D ∉ line := fun member => now.2 _ member (by decide)
      rw [List.flatMap_cons, List.append_assoc, splitLines_line returnless, ih then_]
      rfl

end Lines

/-- A URI stays within one word of its line. -/
theorem Uri.render_plain (uri : Uri) : ∀ byte ∈ uri.render, byte ∉ utf8 " \r\n" := by
  have apart : ∀ byte ∈ utf8 " \r\n",
      byte ∈ delimiters ∧ byte ∈ utf8 " \r\n?#" ∧ byte ∈ utf8 " \r\n#" ∧ byte ≠ 0x3A ∧
        byte ≠ 0x2F ∧ byte ≠ 0x40 ∧ byte ≠ 0x3F ∧ ¬ (0x30 ≤ byte ∧ byte ≤ 0x39) :=
    List.all_iff_forall_prop.mp (by decide)
  intro byte member blank
  obtain ⟨delimiter, inPath, inQuery, colon, slash, at_, mark, digit⟩ := apart byte blank
  simp only [Uri.render, Uri.afterScheme, Uri.authority, List.mem_append, List.mem_cons] at member
  rcases member with scheme | same | same | same | (((info | host) | port) | path) | query
  · exact (uri.schemePlain _ scheme).1 delimiter
  · exact colon same
  · exact slash same
  · exact slash same
  · cases named : uri.userinfo with
    | none =>
        rw [named] at info
        exact absurd info List.not_mem_nil
    | some text =>
        rw [named, Option.elim_some, List.mem_append, List.mem_singleton] at info
        exact info.elim (uri.userinfoPlain _ named _ · delimiter) at_
  · exact uri.hostPlain _ host delimiter
  · exact (Uri.mem_portPart port).elim colon digit
  · exact uri.pathPlain _ path inPath
  · unfold Uri.queryPart at query
    cases asked : uri.query with
    | none =>
        rw [asked] at query
        exact absurd query List.not_mem_nil
    | some text =>
        rw [asked, Option.elim_some, List.mem_cons] at query
        exact query.elim mark (uri.queryPlain _ asked _ · inQuery)

namespace Request
variable {request : Request}

theorem lines (request : Request) : Lines (request.line request.uri.render :: request.fields) := by
  refine List.forall_mem_cons.mpr ⟨⟨?_, ?_⟩, request.fieldLine⟩
  · exact List.append_ne_nil_of_right_ne_nil _ (List.cons_ne_nil _ _)
  · have breaks : ∀ byte ∈ crlf,
        byte ∈ utf8 " \r\n" ∧ byte ≠ 0x20 ∧ byte ∉ utf8 "HTTP/1.1" :=
      List.all_iff_forall_prop.mp (by decide)
    intro byte member line
    obtain ⟨blank, space, version⟩ := breaks byte line
    rw [Request.line, List.mem_append, List.mem_cons, List.mem_append, List.mem_cons] at member
    rcases member with method | same | uri | same | inVersion
    · exact request.methodToken _ method blank
    · exact space same
    · exact request.uri.render_plain _ uri blank
    · exact space same
    · exact version inVersion

theorem parseRequestLine_line (request : Request) :
    parseRequestLine (request.line request.uri.render) =
      .ok ⟨request.method, request.uri.render, utf8 "HTTP/1.1"⟩ := by
  have method : 0x20 ∉ request.method := fun member => request.methodToken _ member (by decide)
  have uri : 0x20 ∉ request.uri.render :=
    fun member => request.uri.render_plain _ member (by decide)
  rw [parseRequestLine, line, cut_mid method]
  dsimp only
  rw [cut_mid uri]

/-- The proxy reads the header of the first request as it was written. -/
theorem parsed {later header rest headers : Bytes} {line : RequestLine}
    (read : readHeader [] (request.render ++ later) = .ok (header, rest))
    (parsed : parseHeader header = .ok (line, headers)) :
    rest = request.body ++ later ∧
      line = ⟨request.method, request.uri.render, utf8 "HTTP/1.1"⟩ ∧
      headers = request.fields.flatMap (· ++ crlf) := by
  rw [render, Request.header, List.append_assoc] at read
  obtain ⟨rfl, rfl⟩ := readHeader_lines (List.cons_ne_nil _ _) request.lines read
  refine ⟨rfl, ?_⟩
  have blanks : splitLines crlf = [[], []] := rfl
  have present : request.fields.filter (· ≠ []) = request.fields := by
    rw [List.filter_eq_self]
    exact fun field member => decide_eq_true (request.fieldLine field member).1
  have none : [([] : Bytes), []].filter (· ≠ []) = [] := rfl
  unfold parseHeader at parsed
  split at parsed
  · rw [splitLines_lines request.lines, blanks, List.cons_append] at parsed
    dsimp only at parsed
    rw [parseRequestLine_line, List.filter_append, present, none, List.append_nil] at parsed
    cases parsed
    exact ⟨rfl, rfl⟩
  · contradiction

end Request

end Tunnix.HttpProxy
