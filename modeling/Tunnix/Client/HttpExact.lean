import Tunnix.Client.OwnHost
import Mathlib.Data.List.Infix

namespace Tunnix.HttpProxy
open Handler

/-- A header ends at its first blank line, and the last of its bytes may be one more than the limit. -/
structure HeaderBlock (block : Bytes) : Prop where
  ends : crlf ++ crlf <:+ block
  first : ∀ front, front <+: block → crlf ++ crlf <:+ front → front = block
  small : block.length ≤ 16385

section Reader
variable {header bytes block rest : Bytes}

/-- The reader stops at the first end of a header, and it takes nothing more of the stream. -/
theorem readHeader_ok (fits : header.length ≤ 16384)
    (read : readHeader header bytes = .ok (block, rest)) :
    ∃ more, block = header ++ more ∧ bytes = more ++ rest ∧ block.length ≤ 16385 ∧
      crlf ++ crlf <:+ block ∧
      ∀ front, front <+: more → crlf ++ crlf <:+ header ++ front → front = [] ∨ front = more := by
  induction bytes generalizing header with
  | nil => cases read
  | cons byte later ih =>
      rw [readHeader] at read
      split at read
      · next ended =>
          cases read
          refine ⟨[byte], rfl, rfl, ?_, List.isSuffixOf_iff_suffix.mp ended, ?_⟩
          · rw [List.length_append, List.length_singleton]
            omega
          · intro front early _
            rcases List.prefix_cons_iff.mp early with rfl | ⟨tail, rfl, short⟩
            · exact Or.inl rfl
            · rw [List.prefix_nil.mp short]
              exact Or.inr rfl
      · next open_ =>
          split at read
          · cases read
          · next room =>
              obtain ⟨more, rfl, rfl, small, ended, first⟩ := ih (by omega) read
              refine ⟨byte :: more, by simp, rfl, small, ended, ?_⟩
              intro front early ends
              rcases List.prefix_cons_iff.mp early with rfl | ⟨tail, rfl, short⟩
              · exact Or.inl rfl
              · rw [List.append_cons] at ends
                rcases first tail short ends with rfl | rfl
                · rw [List.append_nil] at ends
                  exact absurd (List.isSuffixOf_iff_suffix.mpr ends) open_
                · exact Or.inr rfl

/-- The reader reaches the first end of a header that is small enough. -/
theorem readHeader_reaches {more : Bytes} (present : more ≠ [])
    (small : (header ++ more).length ≤ 16385) (ended : crlf ++ crlf <:+ header ++ more)
    (first : ∀ front, front <+: more → crlf ++ crlf <:+ header ++ front →
      front = [] ∨ front = more) (rest : Bytes) :
    readHeader header (more ++ rest) = .ok (header ++ more, rest) := by
  induction more generalizing header with
  | nil => exact absurd rfl present
  | cons byte later ih =>
      rw [List.cons_append, readHeader]
      cases later with
      | nil =>
          rw [if_pos (List.isSuffixOf_iff_suffix.mpr ended)]
          rfl
      | cons next later =>
          have open_ : ¬ (crlf ++ crlf).isSuffixOf (header ++ [byte]) = true := by
            intro suffix
            rcases first [byte] ⟨next :: later, rfl⟩ (List.isSuffixOf_iff_suffix.mp suffix)
              with empty | whole
            · cases empty
            · cases whole
          have room : ¬ 16384 < (header ++ [byte]).length := by
            simp only [List.length_append, List.length_cons, List.length_nil] at small ⊢
            omega
          rw [if_neg open_, if_neg room, List.append_cons header byte (next :: later)]
          rw [List.append_cons] at small ended
          apply ih (List.cons_ne_nil _ _) small ended
          intro front early ends
          right
          rw [List.append_assoc] at ends
          have whole := first (byte :: front) (List.cons_prefix_cons.mpr ⟨rfl, early⟩) ends
          exact (List.cons.inj (whole.resolve_left (List.cons_ne_nil _ _))).2

/-- The proxy reads exactly the header blocks. -/
theorem readHeader_iff : readHeader [] bytes = .ok (block, rest) ↔
    bytes = block ++ rest ∧ HeaderBlock block := by
  constructor
  · intro read
    obtain ⟨more, rfl, rfl, small, ended, first⟩ := readHeader_ok (by simp) read
    refine ⟨rfl, ended, ?_, small⟩
    intro front early ends
    rcases first front early ends with rfl | whole
    · have short := ends.length_le
      simp [crlf_eq] at short
    · exact whole
  · rintro ⟨rfl, ends, first, small⟩
    have present : block ≠ [] := by
      rintro rfl
      have short := ends.length_le
      simp [crlf_eq] at short
    have reaches : readHeader [] (block ++ rest) = .ok ([] ++ block, rest) := by
      refine readHeader_reaches present ?_ ?_ ?_ rest
      · exact small
      · exact ends
      · exact fun front early ended => Or.inr (first front early ended)
    exact reaches

end Reader

section Split

theorem splitLines_ne_nil (bytes : Bytes) : splitLines bytes ≠ [] := by
  fun_cases splitLines bytes <;> simp

/-- A line end splits what is before it from what follows. -/
theorem splitLines_append (first second : Bytes) :
    splitLines (first ++ crlf ++ second) = splitLines first ++ splitLines second := by
  fun_induction splitLines first with
  | case1 => rfl
  | case2 rest ih =>
      rw [List.cons_append, List.cons_append, List.cons_append, List.cons_append, splitLines, ih]
      rfl
  | case3 byte rest other none_ ih => exact absurd none_ (splitLines_ne_nil rest)
  | case4 byte rest other line lines some_ ih =>
      rw [some_] at ih
      rw [List.cons_append, List.cons_append, splitLines, ih]
      · rfl
      · -- A carriage return at the end of the front does not begin a longer line end.
        intro later return_ feed
        cases rest with
        | nil => cases feed
        | cons next rest => exact other rest return_ (congrArg (· :: rest) (List.cons.inj feed).1)

/-- The lines with the line ends between them are the text. -/
theorem intercalate_splitLines (bytes : Bytes) : crlf.intercalate (splitLines bytes) = bytes := by
  fun_induction splitLines bytes with
  | case1 => rfl
  | case2 rest ih =>
      rw [List.intercalate_cons_of_ne_nil (splitLines_ne_nil rest), ih]
      rfl
  | case3 byte rest other none_ ih => exact absurd none_ (splitLines_ne_nil rest)
  | case4 byte rest other line lines some_ ih =>
      rw [some_] at ih
      rw [List.intercalate_cons_cons_left, ih]

/-- Bytes without a line end are one line. -/
theorem splitLines_unbroken {line : Bytes} (unbroken : ¬ crlf <:+: line) :
    splitLines line = [line] := by
  fun_induction splitLines line with
  | case1 => rfl
  | case2 rest ih => exact absurd ⟨[], rest, rfl⟩ unbroken
  | case3 byte rest other none_ ih => exact absurd none_ (splitLines_ne_nil rest)
  | case4 byte rest other line lines some_ ih =>
      have whole := ih (fun inside => unbroken (inside.trans (List.suffix_cons byte rest).isInfix))
      obtain ⟨rfl, rfl⟩ := List.cons.inj (some_.symm.trans whole)
      rfl

theorem intercalate_concat {separator : Bytes} {lines : List Bytes} (present : lines ≠ []) :
    separator.intercalate lines ++ separator = lines.flatMap (· ++ separator) := by
  induction lines with
  | nil => exact absurd rfl present
  | cons line rest ih =>
      cases rest with
      | nil => simp
      | cons next rest =>
          have tail := ih (List.cons_ne_nil _ _)
          rw [List.intercalate_cons_cons, List.append_assoc, tail]
          simp

end Split

section Block
variable {block rest line tail : Bytes}

/-- No line between the first one and the end of the header is blank. -/
theorem fields_present {fields : List Bytes}
    (whole : HeaderBlock ((line :: fields).flatMap (· ++ crlf) ++ crlf)) :
    ∀ field ∈ fields, field ≠ [] := by
  rintro field member rfl
  obtain ⟨before, after, rfl⟩ := List.append_of_mem member
  have front : (line :: before).flatMap (· ++ crlf) ++ crlf <+:
      (line :: (before ++ [] :: after)).flatMap (· ++ crlf) ++ crlf := by
    refine ⟨after.flatMap (· ++ crlf) ++ crlf, ?_⟩
    simp
  have ended : crlf ++ crlf <:+ (line :: before).flatMap (· ++ crlf) ++ crlf := by
    rw [← intercalate_concat (List.cons_ne_nil _ _), List.append_assoc]
    exact List.suffix_append _ _
  have longer : ((line :: before).flatMap (· ++ crlf) ++ crlf).length <
      ((line :: (before ++ [] :: after)).flatMap (· ++ crlf) ++ crlf).length := by
    simp [crlf_eq]
  rw [whole.first _ front ended] at longer
  exact absurd longer (Nat.lt_irrefl _)

/-- A header has a first line, some lines that are not blank, and a blank line. -/
theorem HeaderBlock.lines (whole : HeaderBlock block)
    (input : block ++ rest = line ++ crlf ++ tail) (unbroken : ¬ crlf <:+: line) : ∃ fields,
      (∀ field ∈ fields, field ≠ []) ∧ splitLines block = line :: (fields ++ [[], []]) ∧
        tail = fields.flatMap (· ++ crlf) ++ crlf ++ rest := by
  obtain ⟨front, rfl⟩ := whole.ends
  obtain ⟨opening, fields, splits⟩ := List.exists_cons_of_ne_nil (splitLines_ne_nil front)
  have lines : front ++ crlf = (opening :: fields).flatMap (· ++ crlf) := by
    rw [← intercalate_concat (List.cons_ne_nil _ _), ← splits, intercalate_splitLines]
  have same : splitLines (front ++ crlf ++ (crlf ++ rest)) = splitLines (line ++ crlf ++ tail) := by
    rw [← input]
    simp
  rw [splitLines_append, splitLines_append, splits, splitLines_unbroken unbroken] at same
  obtain ⟨rfl, _⟩ := List.cons.inj same
  refine ⟨fields, ?_, ?_, ?_⟩
  · rw [← List.append_assoc, lines] at whole
    exact fields_present whole
  · rw [← List.append_assoc, splitLines_append, splits]
    rfl
  · rw [← List.append_assoc, lines, List.flatMap_cons] at input
    simpa using input.symm

end Block

/-- A request line has three words, and the last one is the rest of the line. -/
def requestLine (method target version : Bytes) : Bytes :=
  method ++ 0x20 :: (target ++ 0x20 :: version)

theorem parseRequestLine_words {method target version : Bytes} (methodWord : 0x20 ∉ method)
    (targetWord : 0x20 ∉ target) :
    parseRequestLine (requestLine method target version) = .ok ⟨method, target, version⟩ := by
  rw [parseRequestLine, requestLine, cut_mid methodWord]
  dsimp only
  rw [cut_mid targetWord]

/-- The three words of the first line are read, and the lines after it up to the blank one. -/
theorem HeaderBlock.parsed {block rest method target version tail : Bytes}
    (whole : HeaderBlock block) (methodWord : 0x20 ∉ method) (targetWord : 0x20 ∉ target)
    (unbroken : ¬ crlf <:+: requestLine method target version)
    (split : block ++ rest = requestLine method target version ++ crlf ++ tail)
    (valid : Utf8.valid block = true) : ∃ fields : List Bytes,
      parseHeader block = .ok (⟨method, target, version⟩, fields.flatMap (· ++ crlf)) ∧
        tail = fields.flatMap (· ++ crlf) ++ crlf ++ rest := by
  obtain ⟨fields, present, splits, tail_⟩ := whole.lines split unbroken
  have kept : (fields ++ [[], []]).filter (· ≠ []) = fields := by
    have all : fields.filter (· ≠ []) = fields :=
      List.filter_eq_self.mpr fun field member => decide_eq_true (present field member)
    rw [List.filter_append, all]
    exact List.append_nil fields
  refine ⟨fields, ?_, tail_⟩
  rw [parseHeader, if_pos valid, splits]
  dsimp only
  rw [parseRequestLine_words methodWord targetWord, kept]

/-- A stream begins with a plain request. Its header is small enough and ends at the first blank line.
Its first line has a method, a URI that the proxy can parse, and a version. -/
structure PlainStream where
  method : Bytes
  uri : Bytes
  version : Bytes
  tail : Bytes
  block : Bytes
  rest : Bytes
  host : Bytes
  port : UInt16
  path : Bytes
  methodWord : 0x20 ∉ method
  uriWord : 0x20 ∉ uri
  unbroken : ¬ crlf <:+: requestLine method uri version
  split : requestLine method uri version ++ crlf ++ tail = block ++ rest
  header : HeaderBlock block
  valid : Utf8.valid block = true
  plain : method.map lower ≠ (utf8 "CONNECT").map lower
  target : parseHttpUri uri = .ok (host, port, path)

namespace PlainStream

/-- The app sends these bytes. -/
def bytes (stream : PlainStream) : Bytes :=
  requestLine stream.method stream.uri stream.version ++ crlf ++ stream.tail

/-- The path stands in the place of the URI, and nothing else differs. -/
def withPath (stream : PlainStream) : Bytes :=
  requestLine stream.method stream.path stream.version ++ crlf ++ stream.tail

variable (stream : PlainStream)

theorem read : readHeader [] stream.bytes = .ok (stream.block, stream.rest) :=
  readHeader_iff.mpr ⟨stream.split, stream.header⟩

/-- The header lines that the proxy joins again are those that the app sent. -/
theorem parsed : ∃ headers,
    parseHeader stream.block = .ok (⟨stream.method, stream.uri, stream.version⟩, headers) ∧
      rewritten stream.method stream.path stream.version headers ++ stream.rest =
        stream.withPath := by
  obtain ⟨fields, parsed, tail⟩ := stream.header.parsed stream.methodWord stream.uriWord
    stream.unbroken stream.split.symm stream.valid
  refine ⟨fields.flatMap (· ++ crlf), parsed, ?_⟩
  rw [withPath, tail]
  simp [rewritten, requestLine]

end PlainStream

/-- The target of a plain request gets the stream of the app with the path in the place of the URI, up
to where the relay has read. Every byte after the header is read or unread. -/
theorem request_byte_exact (stream : PlainStream) {env : Environment} (counter : ConnId)
    (channels : Finset ConnId) (acked : isAck env.connect.returned = true)
    (posts : env.posts = true) : ∃ first unread,
      (after (handleHttpProxyClient env (World.start stream.bytes counter channels))).sent =
        .connect counter (text stream.host) stream.port ::
          ((first :: chunks env.reads stream.rest).map (.data counter) ++
            farewell counter env.upload) ∧
      stream.rest = (chunks env.reads stream.rest).flatten ++ unread ∧
      (first :: chunks env.reads stream.rest).flatten ++ unread = stream.withPath := by
  obtain ⟨headers, parsed, exact_⟩ := stream.parsed
  obtain ⟨unread, whole⟩ := chunks_flatten env.reads stream.rest
  have handled : handleHttpProxyClient env (World.start stream.bytes counter channels) =
      handlePlainHttp env stream.method stream.uri stream.version headers
        (World.start stream.rest counter channels) := by
    rw [handle_eq, show (World.start stream.bytes counter channels).input = stream.bytes from rfl,
      stream.read]
    dsimp only
    rw [parsed]
    dsimp only
    rw [if_neg stream.plain]
    rfl
  refine ⟨rewritten stream.method stream.path stream.version headers, unread, ?_, whole.symm, ?_⟩
  · rw [handled]
    exact sent_of_acknowledged stream.target rfl acked posts
  · rw [List.flatten_cons, List.append_assoc, whole]
    exact exact_

theorem get_plain : (utf8 "GET").map lower ≠ (utf8 "CONNECT").map lower := by decide

/-- A header line of this request has a lone carriage return and a lone line feed. -/
def loneBreaks : PlainStream where
  method := utf8 "GET"
  uri := utf8 "http://a/x"
  version := utf8 "HTTP/1.1"
  tail := utf8 "A: 1\r2\n3\r\n\r\nbody"
  block := utf8 "GET http://a/x HTTP/1.1\r\nA: 1\r2\n3\r\n\r\n"
  rest := utf8 "body"
  host := utf8 "a"
  port := 80
  path := utf8 "/x"
  methodWord := by decide
  uriWord := by decide
  unbroken := by decide
  split := by decide
  header := (readHeader_iff.mp (show readHeader []
    (utf8 "GET http://a/x HTTP/1.1\r\nA: 1\r2\n3\r\n\r\nbody") =
      .ok (_, utf8 "body") from rfl)).2
  valid := by decide
  plain := get_plain
  target := rfl

/-- The relay reads the whole body, and the target gets the header line as it was. -/
theorem request_byte_exact_of_lone_breaks : ∃ first unread,
    (after (handleHttpProxyClient (eager 4) (World.start loneBreaks.bytes 7 ∅))).sent =
      .connect 7 (text loneBreaks.host) 80 ::
        ((first :: chunks (eager 4).reads loneBreaks.rest).map (.data 7) ++
          farewell 7 (eager 4).upload) ∧
    loneBreaks.rest = (chunks (eager 4).reads loneBreaks.rest).flatten ++ unread ∧
    (first :: chunks (eager 4).reads loneBreaks.rest).flatten ++ unread =
      utf8 "GET /x HTTP/1.1\r\nA: 1\r2\n3\r\n\r\nbody" :=
  request_byte_exact loneBreaks 7 ∅ rfl rfl

end Tunnix.HttpProxy
