import Tunnix.Library.Pattern
import Tunnix.Config

namespace Tunnix.Routing

/-- `handle_request` tells these methods apart. -/
inductive Method where
  | get
  | post
  | other
deriving DecidableEq, Repr

/-- A request goes to one of these handlers. -/
inductive Route where
  | health
  | root
  | stream (sessionId : String)
  | send (sessionId : String)
  | notFound
deriving DecidableEq, Repr

def healthPath : List Char := ['/', 'h', 'e', 'a', 'l', 't', 'h']

def streamPath : List Char := ['/', 's', 't', 'r', 'e', 'a', 'm', '/']

def sendPath : List Char := ['/', 's', 'e', 'n', 'd', '/']

/-- The configured prefix is stripped from the path. -/
def effectivePath (pathPrefix path : String) : Option (List Char) :=
  if pathPrefix = "" then some path.toList else pathPrefix.toList.isPrefixOf? path.toList

/-- The session is named behind the handler's path, which may stand there more than once. -/
def sessionOf (front path : List Char) : String := String.ofList (Pattern.trimStart front path)

/-- A path behind the prefix chooses the handler. -/
def routeRest (method : Method) (rest : List Char) : Route :=
  match method with
  | .get =>
      if rest = [] ∨ rest = ['/'] then .root
      else if rest = healthPath then .health
      else if streamPath.isPrefixOf rest then .stream (sessionOf streamPath rest)
      else .notFound
  | .post => if sendPath.isPrefixOf rest then .send (sessionOf sendPath rest) else .notFound
  | .other => .notFound

/-- `handle_request` chooses the handler. A load balancer's probe needs no prefix. -/
def route (pathPrefix : String) (method : Method) (path : String) : Route :=
  if method = .get ∧ path.toList = healthPath then .health
  else
    match effectivePath pathPrefix path with
    | none => .notFound
    | some rest => routeRest method rest

/-- Lowercase hexadecimal digits write a number. -/
def hex : Nat → Nat → List Char
  | 0, _ => []
  | digits + 1, value => hex digits (value / 16) ++ [Nat.digitChar (value % 16)]

/-- A client names its session by sixteen digits. -/
def sessionName (value : UInt64) : String := String.ofList (hex 16 value.toNat)

/-- The handler's path stands before the session, once or more, and the session does not begin with
it. -/
def Names (front : List Char) (pathPrefix path id : String) : Prop :=
  ¬ front <+: id.toList ∧ ∃ times,
    path.toList = pathPrefix.toList ++ ((List.replicate (times + 1) front).flatten ++ id.toList)

/-- A URL's path has these characters as they are, besides letters and digits. -/
def marks : List Char :=
  ['-', '.', '_', '~', '!', '$', '&', '(', ')', '*', '+', ',', ';', '=', ':', '@']

/-- A segment of a URL's path is taken as it is typed. -/
structure Segment (name : String) : Prop where
  chars : ∀ char ∈ name.toList, char.isAlphanum = true ∨ char ∈ marks
  here : name ≠ "."
  up : name ≠ ".."

/-- Each segment of a path follows a slash. -/
def joined : List String → String
  | [] => ""
  | name :: rest => "/" ++ (name ++ joined rest)

/-- A URL parser has nothing to encode or to resolve in the path. -/
def Plain (path : String) : Prop :=
  ∃ segments, (∀ name ∈ segments, Segment name) ∧ path = joined segments

section Route
variable {pathPrefix path id : String} {method : Method} {front rest : List Char}

theorem effectivePath_eq_some :
    effectivePath pathPrefix path = some rest ↔ path.toList = pathPrefix.toList ++ rest := by
  unfold effectivePath
  split
  · next none_ =>
      subst none_
      simp
  · rw [List.isPrefixOf?_eq_some_iff_append_eq, eq_comm]

/-- A handler's path is followed by exactly one session. -/
theorem sessionOf_eq_iff (proper : front ≠ []) :
    front.isPrefixOf rest = true ∧ sessionOf front rest = id ↔ ¬ front <+: id.toList ∧
      ∃ times, rest = (List.replicate (times + 1) front).flatten ++ id.toList := by
  have named : sessionOf front rest = id ↔ Pattern.trimStart front rest = id.toList := by
    rw [sessionOf, ← String.toList_inj, String.toList_ofList]
  rw [named, Pattern.trimStart_eq_iff proper, List.isPrefixOf_iff_prefix]
  constructor
  · rintro ⟨begins, done, times, same⟩
    cases times with
    | zero =>
        rw [List.replicate_zero, List.flatten_nil, List.nil_append] at same
        exact absurd (same ▸ begins) done
    | succ times => exact ⟨done, times, same⟩
  · rintro ⟨done, times, same⟩
    refine ⟨?_, done, times + 1, same⟩
    rw [same, List.replicate_succ, List.flatten_cons, List.append_assoc]
    exact List.prefix_append _ _

theorem routeRest_send : routeRest method rest = .send id ↔
    method = .post ∧ sendPath.isPrefixOf rest = true ∧ sessionOf sendPath rest = id := by
  cases method with
  | get =>
      rw [routeRest]
      split_ifs <;> simp
  | other => simp [routeRest]
  | post =>
      rw [routeRest]
      split_ifs with begins <;> simp [begins]

theorem routeRest_stream : routeRest method rest = .stream id ↔
    method = .get ∧ streamPath.isPrefixOf rest = true ∧ sessionOf streamPath rest = id := by
  cases method with
  | post =>
      rw [routeRest]
      split_ifs <;> simp
  | other => simp [routeRest]
  | get =>
      rw [routeRest]
      split_ifs with root health begins
      · rcases root with rfl | rfl <;> simp [streamPath]
      · simp [health, streamPath, healthPath]
      · simp [begins]
      · simp [begins]

/-- Behind the probe, the path without its prefix decides. -/
theorem route_eq_iff {target : Route} (found : target ≠ .notFound)
    (apart : ∀ rest, routeRest method rest = target →
      ¬ (method = .get ∧ pathPrefix.toList ++ rest = healthPath))
    (other : target ≠ .health) : route pathPrefix method path = target ↔
      ∃ rest, path.toList = pathPrefix.toList ++ rest ∧ routeRest method rest = target := by
  unfold route
  split
  · next probe =>
      refine iff_of_false other.symm ?_
      rintro ⟨rest, whole, same⟩
      exact apart rest same ⟨probe.1, by rw [← whole, probe.2]⟩
  · cases stripped : effectivePath pathPrefix path with
    | none =>
        refine iff_of_false found.symm ?_
        rintro ⟨rest, whole, -⟩
        rw [effectivePath_eq_some.mpr whole] at stripped
        cases stripped
    | some rest =>
        have whole := effectivePath_eq_some.mp stripped
        constructor
        · exact fun same => ⟨rest, whole, same⟩
        · rintro ⟨other, also, same⟩
          rw [List.append_cancel_left (whole.symm.trans also)]
          exact same

/-- A request reaches `handle_send` exactly as a `POST` of a path that names a session. -/
theorem route_send_iff : route pathPrefix method path = .send id ↔
    method = .post ∧ Names sendPath pathPrefix path id := by
  have proper : sendPath ≠ [] := by decide
  rw [route_eq_iff (by simp) _ (by simp)]
  · simp only [routeRest_send, sessionOf_eq_iff proper, Names]
    constructor
    · rintro ⟨rest, whole, posted, done, times, rfl⟩
      exact ⟨posted, done, times, whole⟩
    · rintro ⟨posted, done, times, whole⟩
      exact ⟨_, whole, posted, done, times, rfl⟩
  · intro rest same probe
    rw [routeRest_send, probe.1] at same
    cases same.1

/-- A request reaches `handle_stream` exactly as a `GET` of a path that names a session. -/
theorem route_stream_iff : route pathPrefix method path = .stream id ↔
    method = .get ∧ Names streamPath pathPrefix path id := by
  have proper : streamPath ≠ [] := by decide
  rw [route_eq_iff (by simp) _ (by simp)]
  · simp only [routeRest_stream, sessionOf_eq_iff proper, Names]
    constructor
    · rintro ⟨rest, whole, got, done, times, rfl⟩
      exact ⟨got, done, times, whole⟩
    · rintro ⟨got, done, times, whole⟩
      exact ⟨_, whole, got, done, times, rfl⟩
  · -- The probe's path is too short for a session's.
    intro rest same probe
    obtain ⟨last, rfl⟩ := List.isPrefixOf_iff_prefix.mp (routeRest_stream.mp same).2.1
    have long := congrArg List.length probe.2
    simp [streamPath, healthPath] at long
    omega

/-- A named session stands at the end of its path. -/
theorem Names.suffix (named : Names front pathPrefix path id) :
    front ++ id.toList <:+ path.toList := by
  obtain ⟨-, times, same⟩ := named
  rw [same, List.replicate_succ', List.flatten_concat, List.append_assoc, ← List.append_assoc]
  exact List.suffix_append _ _

/-- A session is named right behind the handler's path, unless it begins with this path. -/
theorem names_front (done : ¬ front <+: id.toList) :
    Names front pathPrefix (pathPrefix ++ (String.ofList front ++ id)) id :=
  ⟨done, 0, by simp⟩

end Route

section Session

theorem digitChar_inj : ∀ first < 16, ∀ second < 16,
    Nat.digitChar first = Nat.digitChar second → first = second := by
  decide

theorem digitChar_alphanum : ∀ value < 16, (Nat.digitChar value).isAlphanum = true := by decide

/-- Enough digits tell a number. -/
theorem hex_inj {digits first second : Nat} (fits : first < 16 ^ digits)
    (fits' : second < 16 ^ digits) (same : hex digits first = hex digits second) :
    first = second := by
  induction digits generalizing first second with
  | zero =>
      simp at fits fits'
      omega
  | succ digits ih =>
      rw [Nat.pow_succ] at fits fits'
      obtain ⟨front, last⟩ := List.append_inj' same rfl
      have quotient := ih (by omega) (by omega) front
      have remainder := digitChar_inj _ (Nat.mod_lt _ (by decide)) _ (Nat.mod_lt _ (by decide))
        (List.cons.inj last).1
      omega

theorem hex_alphanum {char : Char} {digits value : Nat} (member : char ∈ hex digits value) :
    char.isAlphanum = true := by
  induction digits generalizing value with
  | zero => cases member
  | succ digits ih =>
      rcases List.mem_append.mp member with front | last
      · exact ih front
      · rw [List.mem_singleton.mp last]
        exact digitChar_alphanum _ (Nat.mod_lt _ (by decide))

theorem sessionName_inj {first second : UInt64} (same : sessionName first = sessionName second) :
    first = second := by
  have digits := congrArg String.toList same
  rw [sessionName, sessionName, String.toList_ofList, String.toList_ofList] at digits
  exact UInt64.toNat_inj.mp (hex_inj first.toNat_lt second.toNat_lt digits)

theorem sessionName_alphanum {char : Char} {value : UInt64}
    (member : char ∈ (sessionName value).toList) : char.isAlphanum = true := by
  rw [sessionName, String.toList_ofList] at member
  exact hex_alphanum member

/-- A session's name does not begin with a handler's path. -/
theorem sessionName_plain {front : List Char} (value : UInt64) (begins : '/' ∈ front) :
    ¬ front <+: (sessionName value).toList := by
  intro there
  have slash := sessionName_alphanum (there.subset begins)
  cases slash

/-- Letters and digits make a segment. -/
theorem segment_of_alphanum {name : String} (plain : name.toList.all Char.isAlphanum = true) :
    Segment name where
  chars char member := .inl (List.all_eq_true.mp plain char member)
  here same := by
    rw [same] at plain
    cases plain
  up same := by
    rw [same] at plain
    cases plain

theorem joined_append (segments others : List String) :
    joined (segments ++ others) = joined segments ++ joined others := by
  induction segments with
  | nil => simp [joined]
  | cons name rest ih => simp [joined, ih, String.append_assoc]

/-- Segments are typed behind a plain prefix. -/
theorem Plain.behind {pathPrefix : String} (plain : Plain pathPrefix) {names : List String}
    (segments : ∀ name ∈ names, Segment name) : Plain (pathPrefix ++ joined names) := by
  obtain ⟨front, each, rfl⟩ := plain
  refine ⟨front ++ names, fun name member => ?_, (joined_append front names).symm⟩
  rcases List.mem_append.mp member with early | late
  · exact each name early
  · exact segments name late

/-- The handler and the session are two segments behind the prefix. -/
theorem Plain.session {pathPrefix : String} (plain : Plain pathPrefix) (value : UInt64)
    {handler front : String} (named : Segment handler) (same : front = "/" ++ handler ++ "/") :
    Plain (pathPrefix ++ (front ++ sessionName value)) := by
  have whole : front ++ sessionName value = joined [handler, sessionName value] := by
    simp [joined, same, String.append_assoc]
  rw [whole]
  apply plain.behind
  intro name member
  rcases List.mem_pair.mp member with rfl | rfl
  · exact named
  · exact segment_of_alphanum (List.all_eq_true.mpr fun _ member => sessionName_alphanum member)

/-- A session is reached exactly by a `POST` or a `GET` of a path that names it behind the prefix. The
client types its paths behind the prefix in a URL, whose parser leaves a plain path as it is: behind
a plain prefix, they reach the client's own session and the health check. -/
theorem routing_exact (arrives : String → String)
    (keeps : ∀ path, Plain path → arrives path = path) (pathPrefix : String) :
    (∀ method path id,
      (route pathPrefix method path = .send id ↔
        method = .post ∧ Names sendPath pathPrefix path id) ∧
      (route pathPrefix method path = .stream id ↔
        method = .get ∧ Names streamPath pathPrefix path id)) ∧
    (Plain pathPrefix → ∀ value,
      route pathPrefix .post (arrives (pathPrefix ++ ("/send/" ++ sessionName value))) =
        .send (sessionName value) ∧
      route pathPrefix .get (arrives (pathPrefix ++ ("/stream/" ++ sessionName value))) =
        .stream (sessionName value) ∧
      route pathPrefix .get (arrives (pathPrefix ++ "/health")) = .health) ∧
    ∀ value other, sessionName value = sessionName other → value = other := by
  refine ⟨fun method path id => ⟨route_send_iff, route_stream_iff⟩,
    fun plain value => ⟨?_, ?_, ?_⟩, fun _ _ => sessionName_inj⟩
  · have typed : Plain (pathPrefix ++ ("/send/" ++ sessionName value)) :=
      plain.session value (segment_of_alphanum (by decide)) (show _ = "/" ++ "send" ++ "/" by decide)
    rw [keeps _ typed]
    exact route_send_iff.mpr ⟨rfl, names_front (sessionName_plain value (by decide))⟩
  · have typed : Plain (pathPrefix ++ ("/stream/" ++ sessionName value)) :=
      plain.session value (segment_of_alphanum (by decide)) (show _ = "/" ++ "stream" ++ "/" by decide)
    rw [keeps _ typed]
    exact route_stream_iff.mpr ⟨rfl, names_front (sessionName_plain value (by decide))⟩
  · have typed : Plain (pathPrefix ++ joined ["health"]) :=
      plain.behind fun name member => List.mem_singleton.mp member ▸
        segment_of_alphanum (by decide)
    rw [show "/health" = joined ["health"] by decide, keeps _ typed]
    unfold route
    split
    · rfl
    · have stripped : effectivePath pathPrefix (pathPrefix ++ joined ["health"]) = some healthPath :=
        effectivePath_eq_some.mpr (by simp [healthPath, joined])
      rw [stripped]
      simp [routeRest, healthPath]

/-- A URL's parser cuts the query off and encodes blanks. -/
def parsedPath (path : String) : String :=
  String.ofList ((path.toList.takeWhile (· ≠ '?')).flatMap fun char =>
    if char = ' ' then ['%', '2', '0'] else [char])

theorem joined_chars {segments : List String} (each : ∀ name ∈ segments, Segment name)
    {char : Char} (member : char ∈ (joined segments).toList) :
    char = '/' ∨ char.isAlphanum = true ∨ char ∈ marks := by
  induction segments with
  | nil => simp [joined] at member
  | cons name rest ih =>
      rw [joined, String.toList_append, String.toList_append] at member
      rcases List.mem_append.mp member with slash | member
      · exact .inl (by simpa using slash)
      · rcases List.mem_append.mp member with inside | later
        · exact .inr ((each name List.mem_cons_self).chars char inside)
        · exact ih (fun other member => each other (List.mem_cons_of_mem _ member)) later

theorem parsedPath_of_plain (path : String) (plain : Plain path) : parsedPath path = path := by
  obtain ⟨segments, each, rfl⟩ := plain
  have kept : ∀ char ∈ (joined segments).toList, char ≠ '?' ∧ char ≠ ' ' := by
    intro char member
    have known := joined_chars each member
    constructor
    · rintro rfl
      revert known
      decide
    · rintro rfl
      revert known
      decide
  have whole : (joined segments).toList.takeWhile (· ≠ '?') = (joined segments).toList :=
    List.takeWhile_eq_self_iff.mpr fun char member => by simpa using (kept char member).1
  rw [parsedPath, whole, List.flatMap_congr (g := fun char => [char]) fun char member =>
    if_neg (kept char member).2, List.flatMap_singleton', String.ofList_toList]

theorem routing_exact_of_prefix :
    (route "/tunnix/v1.2" .post (parsedPath ("/tunnix/v1.2" ++ ("/send/" ++ sessionName 255))) =
        .send (sessionName 255) ∧
      route "/tunnix/v1.2" .get (parsedPath ("/tunnix/v1.2" ++ ("/stream/" ++ sessionName 255))) =
        .stream (sessionName 255)) ∧
    route "/my app" .get (parsedPath "/my app/health") = .notFound := by
  have plain : Plain "/tunnix/v1.2" := by
    refine ⟨["tunnix", "v1.2"], fun name member => ?_, by decide⟩
    have version : "v1.2".toList.all fun char => char.isAlphanum || marks.contains char := by
      decide
    rcases List.mem_pair.mp member with rfl | rfl
    · exact segment_of_alphanum (by decide)
    · exact ⟨fun char member => by simpa using List.all_eq_true.mp version char member,
        by decide, by decide⟩
  have reached := (routing_exact parsedPath parsedPath_of_plain "/tunnix/v1.2").2.1 plain 255
  exact ⟨⟨reached.1, reached.2.1⟩, by decide⟩

end Session

end Tunnix.Routing
