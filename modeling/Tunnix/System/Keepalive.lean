import Tunnix.Server.SseStream
import Tunnix.Client.SseLoop

namespace Tunnix.Keepalive
open SseLoop

/-- The server owes the client a comment every 15 seconds, in milliseconds. -/
def keepalivePeriod : Nat := 15000

/-- `SSE_READ_TIMEOUT` in milliseconds -/
def sseReadTimeout : Nat := 30000

section Server

/-- The stream is asked for its next frame at some moment. The channel answers from some moment on,
if it ever does, the timer fires late, and `select!` may prefer either where both are ready. -/
structure Turn where
  polled : Nat
  answer : Option (Nat × Option Bytes)
  late : Nat
  prefers : Bool
deriving DecidableEq, Repr

/-- `select!` takes what is ready first. -/
def Turn.select (turn : Turn) (due : Nat) : Nat × Poll :=
  let fires := max turn.polled (due + turn.late)
  match turn.answer with
  | none => (fires, .tick)
  | some (since, data) =>
      let receives := max turn.polled since
      if receives < fires || (receives == fires && turn.prefers) then (receives, .received data)
      else (fires, .tick)

/-- A late tick does not put off the next one. -/
def dueAfter (due : Nat) : Poll → Nat
  | .tick => due + keepalivePeriod
  | .received _ => due

/-- The stream is polled on the clock. Its first tick is immediate. -/
def polls (due : Nat) : List Turn → List (Nat × Poll)
  | [] => []
  | turn :: rest => turn.select due :: polls (dueAfter due (turn.select due).2) rest

/-- The stream yields these frames at these moments. -/
def frames : List (Nat × Poll) → List (Nat × Output)
  | [] => []
  | (moment, .received (some data)) :: rest => (moment, .payload data) :: frames rest
  | (_, .received none) :: _ => []
  | (moment, .tick) :: rest => (moment, .keepalive) :: frames rest

/-- The frames on the clock are those that `handle_stream` yields. -/
theorem frames_outputs (polled : List (Nat × Poll)) :
    (frames polled).map Prod.snd = handleStream (polled.map Prod.snd) := by
  fun_induction frames polled with
  | case1 => rfl
  | case2 moment data rest ih => simp [handleStream, ih]
  | case3 moment rest => rfl
  | case4 moment rest ih => simp [handleStream, ih]

/-- Each frame is yielded by a poll. -/
theorem polled_of_frame {polled : List (Nat × Poll)} {index moment : Nat} {output : Output}
    (yielded : (frames polled)[index]? = some (moment, output)) :
    ∃ poll, polled[index]? = some (moment, poll) := by
  fun_induction frames polled generalizing index with
  | case1 => simp at yielded
  | case2 first data rest ih =>
      cases index with
      | zero =>
          obtain ⟨rfl, -⟩ := Prod.mk.inj (Option.some.inj yielded)
          exact ⟨_, rfl⟩
      | succ index => exact ih yielded
  | case3 first rest => simp at yielded
  | case4 first rest ih =>
      cases index with
      | zero =>
          obtain ⟨rfl, -⟩ := Prod.mk.inj (Option.some.inj yielded)
          exact ⟨_, rfl⟩
      | succ index => exact ih yielded

/-- A poll ends when the timer fires at the latest, and its tick is not early. -/
theorem select_within (turn : Turn) (due : Nat) :
    turn.polled ≤ (turn.select due).1 ∧
    (turn.select due).1 ≤ max turn.polled (due + turn.late) ∧
    dueAfter due (turn.select due).2 ≤ max due ((turn.select due).1 + keepalivePeriod) := by
  unfold Turn.select
  dsimp only
  split
  · simp only [dueAfter]
    omega
  · split
    · next sooner =>
        simp only [Bool.or_eq_true, decide_eq_true_eq, Bool.and_eq_true, beq_iff_eq] at sooner
        simp only [dueAfter]
        omega
    · simp only [dueAfter]
      omega

/-- The stream is asked for a frame only after it has yielded the one before. -/
structure Ordered (start : Nat) (turns : List Turn) : Prop where
  first : ∀ turn, turns[0]? = some turn → start ≤ turn.polled
  next : ∀ index moment poll turn, (polls start turns)[index]? = some (moment, poll) →
    turns[index + 1]? = some turn → moment ≤ turn.polled

/-- The tick is due within a period of the last poll, so each poll ends within a period of the one
before, unless it begins later. -/
theorem poll_within {turns : List Turn} {due last index earlier later : Nat} {before poll : Poll}
    (near : due ≤ last + keepalivePeriod)
    (first : ∀ turn, turns[0]? = some turn → last ≤ turn.polled)
    (next : ∀ index moment poll turn, (polls due turns)[index]? = some (moment, poll) →
      turns[index + 1]? = some turn → moment ≤ turn.polled)
    (preceding : (polls due turns)[index]? = some (earlier, before))
    (following : (polls due turns)[index + 1]? = some (later, poll)) :
    ∃ turn, turns[index + 1]? = some turn ∧
      later ≤ max turn.polled (earlier + keepalivePeriod + turn.late) := by
  induction turns generalizing due last index with
  | nil => simp [polls] at preceding
  | cons turn rest ih =>
      obtain ⟨after, soon, due'⟩ := select_within turn due
      have reached := first turn rfl
      have near' : dueAfter due (turn.select due).2 ≤ (turn.select due).1 + keepalivePeriod := by
        omega
      cases index with
      | zero =>
          have same : turn.select due = (earlier, before) := Option.some.inj preceding
          cases rest with
          | nil => simp [polls] at following
          | cons second others =>
              have answered : second.select (dueAfter due (turn.select due).2) = (later, poll) :=
                Option.some.inj following
              obtain ⟨-, within, -⟩ := select_within second (dueAfter due (turn.select due).2)
              refine ⟨second, rfl, ?_⟩
              rw [answered] at within
              rw [same] at near' within
              simp only at within near'
              omega
      | succ index =>
          exact ih near' (fun second found => next 0 _ _ second rfl found)
            (fun index moment poll second polled found =>
              next (index + 1) moment poll second polled found) preceding following

end Server

section Client

/-- Handling a chunk takes the client some time, and its timers fire late. -/
structure Reader where
  handling : Nat → Nat
  late : Nat → Nat

namespace Reader
variable (reader : Reader)

/-- A wait is over when its timer fires. -/
def expires (now : Nat) : Nat := now + sseReadTimeout + reader.late (now + sseReadTimeout)

/-- The client waits for the next chunk, end or signal of its stream, and it handles a chunk before
it waits again. -/
def reads (now : Nat) : List (Nat × Read) → List (Nat × Read)
  | [] => [(reader.expires now, .silent)]
  | (arrives, .chunk bytes) :: rest =>
      if reader.expires now < arrives then [(reader.expires now, .silent)]
      else (max now arrives, .chunk bytes) ::
        reads (max now arrives + reader.handling (max now arrives)) rest
  | (arrives, read) :: _ =>
      if reader.expires now < arrives then [(reader.expires now, .silent)]
      else [(max now arrives, read)]

/-- The client gives up a stream at some moment: it has waited since another one, has read some
chunks before, and the next event comes too late. -/
structure Silence (now : Nat) (events : List (Nat × Read)) (silent waits count : Nat) : Prop where
  since : now ≤ waits
  expired : waits + sseReadTimeout ≤ silent
  taken : ∀ index < count, ∀ arrives read, events[index]? = some (arrives, read) →
    ∃ moment, (reader.reads now events)[index]? = some (moment, read) ∧
      arrives ≤ moment ∧ moment ≤ waits
  missing : ∀ arrives read, events[count]? = some (arrives, read) → silent < arrives

variable {reader} {now silent : Nat} {events : List (Nat × Read)}

/-- The timer of a wait fires after its time. -/
theorem le_expires (now : Nat) : now + sseReadTimeout ≤ reader.expires now := Nat.le_add_right _ _

/-- A client that waits in vain has taken nothing. -/
theorem Silence.immediate
    (late : ∀ arrives read, events[0]? = some (arrives, read) → reader.expires now < arrives) :
    reader.Silence now events (reader.expires now) now 0 where
  since := Nat.le_refl _
  expired := le_expires now
  taken _ below := absurd below (Nat.not_lt_zero _)
  missing := late

/-- A client gives its stream up only after a wait in which nothing comes. -/
theorem silence (genuine : ∀ event ∈ events, event.2 ≠ .silent)
    (gaveUp : (silent, .silent) ∈ reader.reads now events) :
    ∃ waits count, reader.Silence now events silent waits count := by
  fun_induction reads reader now events with
  | case1 now =>
      obtain ⟨rfl, -⟩ := Prod.mk.inj (List.mem_singleton.mp gaveUp)
      exact ⟨now, 0, .immediate (by simp)⟩
  | case2 now arrives bytes rest late =>
      obtain ⟨rfl, -⟩ := Prod.mk.inj (List.mem_singleton.mp gaveUp)
      exact ⟨now, 0, .immediate (by simp; omega)⟩
  | case3 now arrives bytes rest soon ih =>
      rcases List.mem_cons.mp gaveUp with same | later
      · simp at same
      · obtain ⟨waits, count, held⟩ :=
          ih (fun event member => genuine event (List.mem_cons_of_mem _ member)) later
        have since := held.since
        refine ⟨waits, count + 1, ⟨by omega, held.expired, fun index below => ?_, held.missing⟩⟩
        rw [reads, if_neg soon]
        cases index with
        | zero =>
            rintro first read found
            obtain ⟨rfl, rfl⟩ := Prod.mk.inj (Option.some.inj found)
            exact ⟨_, rfl, Nat.le_max_right _ _, by omega⟩
        | succ index => exact held.taken index (by omega)
  | case4 now arrives read rest other late =>
      obtain ⟨rfl, -⟩ := Prod.mk.inj (List.mem_singleton.mp gaveUp)
      exact ⟨now, 0, .immediate (by simp; omega)⟩
  | case5 now arrives read rest other soon =>
      obtain ⟨-, same⟩ := Prod.mk.inj (List.mem_singleton.mp gaveUp)
      exact absurd same.symm (genuine (arrives, read) List.mem_cons_self)

/-- A stream that brings chunks only up to some moment is given up soon after. -/
theorem gives_up (now : Nat) {last handled late : Nat}
    (handles : ∀ moment, reader.handling moment ≤ handled)
    (fires : ∀ moment, reader.late moment ≤ late)
    (chunks : ∀ event ∈ events, ∃ bytes, event.2 = .chunk bytes)
    (until_ : ∀ event ∈ events, event.1 ≤ last) :
    ∃ silent, (silent, .silent) ∈ reader.reads now events ∧
      silent ≤ max now last + events.length * handled + sseReadTimeout + late := by
  have soon (now : Nat) : reader.expires now ≤ now + sseReadTimeout + late :=
    Nat.add_le_add_left (fires _) _
  fun_induction reads reader now events with
  | case1 now =>
      have expires := soon now
      exact ⟨_, List.mem_singleton.mpr rfl, by omega⟩
  | case2 now arrives bytes rest overdue =>
      have expires := soon now
      exact ⟨_, List.mem_singleton.mpr rfl, by omega⟩
  | case3 now arrives bytes rest inTime ih =>
      obtain ⟨silent, member, within⟩ :=
        ih (fun event member => chunks event (List.mem_cons_of_mem _ member))
          (fun event member => until_ event (List.mem_cons_of_mem _ member))
      have arrived := until_ _ List.mem_cons_self
      have busy := handles (max now arrives)
      refine ⟨silent, List.mem_cons_of_mem _ member, ?_⟩
      simp only [List.length_cons, Nat.succ_mul]
      simp only at arrived
      omega
  | case4 now arrives read rest other overdue =>
      have expires := soon now
      exact ⟨_, List.mem_singleton.mpr rfl, by omega⟩
  | case5 now arrives read rest other inTime =>
      obtain ⟨bytes, same⟩ := chunks _ List.mem_cons_self
      exact absurd same (other bytes)

/-- The client's loop ends with an error when it gives its stream up. -/
theorem loop_silent (encoding : Encoding) (isReconnect : Bool) (loop : Loop)
    (genuine : ∀ event ∈ events, event.2 ≠ .silent)
    (gaveUp : (silent, .silent) ∈ reader.reads now events) :
    (sseReadLoop encoding isReconnect loop ((reader.reads now events).map Prod.snd)).2 =
      some (.error "no data on the SSE stream for 30s") := by
  fun_induction reads reader now events generalizing loop with
  | case1 now => rfl
  | case2 now arrives bytes rest overdue => rfl
  | case3 now arrives bytes rest inTime ih =>
      rcases List.mem_cons.mp gaveUp with same | later
      · simp at same
      · exact ih _ (fun event member => genuine event (List.mem_cons_of_mem _ member)) later
  | case4 now arrives read rest other overdue => rfl
  | case5 now arrives read rest other inTime =>
      obtain ⟨-, same⟩ := Prod.mk.inj (List.mem_singleton.mp gaveUp)
      exact absurd same.symm (genuine (arrives, read) List.mem_cons_self)

end Reader
end Client

section System

/-- The network carries each frame in some chunk within its delay, and the stream is asked for the
next frame soon after the client has taken that chunk. -/
structure Carried (reader : Reader) (start now : Nat) (turns : List Turn)
    (events : List (Nat × Read)) (asks delay late : Nat) : Prop where
  ordered : Ordered start turns
  begins : start ≤ now
  asked : ∀ turn, turns[0]? = some turn → turn.polled ≤ now + asks
  fires : ∀ turn ∈ turns, turn.late ≤ late
  arrivals : events.Pairwise (·.1 ≤ ·.1)
  carried : ∀ index moment output, (frames (polls start turns))[index]? = some (moment, output) →
    ∃ (chunk arrives : Nat) (bytes : Bytes), events[chunk]? = some (arrives, .chunk bytes) ∧
      moment ≤ arrives ∧ arrives ≤ moment + delay ∧
      ∀ taken turn, (reader.reads now events)[chunk]? = some (taken, .chunk bytes) →
        turns[index + 1]? = some turn → turn.polled ≤ taken + asks

variable {reader : Reader} {start now asks delay late silent waits count : Nat} {turns : List Turn}
  {events : List (Nat × Read)}

/-- What arrives before the client gives up is among the chunks that it has taken. -/
theorem taken_of_arrived (arrivals : events.Pairwise (·.1 ≤ ·.1))
    (held : reader.Silence now events silent waits count) {chunk arrives : Nat} {read : Read}
    (found : events[chunk]? = some (arrives, read)) (inTime : arrives ≤ silent) :
    ∃ moment, (reader.reads now events)[chunk]? = some (moment, read) ∧
      arrives ≤ moment ∧ moment ≤ waits := by
  apply held.taken chunk _ arrives read found
  by_contra beyond
  obtain ⟨inside, same⟩ := List.getElem?_eq_some_iff.mp found
  have before : count < events.length := by omega
  have missing : silent < events[count].1 :=
    held.missing _ events[count].2 (List.getElem?_eq_getElem before)
  rcases Nat.eq_or_lt_of_le (Nat.le_of_not_lt beyond) with rfl | after
  · rw [same] at missing
    omega
  · have sorted := List.pairwise_iff_getElem.mp arrivals count chunk before inside after
    rw [same] at sorted
    simp only at sorted
    omega

/-- Every frame has been taken when the client gives up, and the next one is asked for by then. -/
theorem frame_taken (carried : Carried reader start now turns events asks delay late)
    (margin : max asks (keepalivePeriod + late) + delay ≤ sseReadTimeout)
    (held : reader.Silence now events silent waits count) {index moment : Nat} {output : Output}
    (yielded : (frames (polls start turns))[index]? = some (moment, output)) :
    moment ≤ waits ∧ ∀ turn, turns[index + 1]? = some turn → turn.polled ≤ waits + asks := by
  have since := held.since
  have begins := carried.begins
  have expired := held.expired
  -- A frame that is yielded soon enough is taken by the client.
  have finish {index moment : Nat} {output : Output}
      (yielded : (frames (polls start turns))[index]? = some (moment, output))
      (soon : moment ≤ waits + max asks (keepalivePeriod + late)) :
      moment ≤ waits ∧ ∀ turn, turns[index + 1]? = some turn → turn.polled ≤ waits + asks := by
    obtain ⟨chunk, arrives, bytes, found, after, within, next⟩ := carried.carried _ _ _ yielded
    obtain ⟨taken, read, arrived, before⟩ :=
      taken_of_arrived carried.arrivals held found (by omega)
    exact ⟨by omega, fun turn asked => by have polled := next taken turn read asked; omega⟩
  induction index generalizing moment output with
  | zero =>
      obtain ⟨poll, polled⟩ := polled_of_frame yielded
      cases turns with
      | nil => simp [polls] at polled
      | cons turn rest =>
          have asked := carried.asked turn rfl
          have fires := carried.fires turn List.mem_cons_self
          obtain ⟨-, within, -⟩ := select_within turn start
          have same : turn.select start = (moment, poll) := Option.some.inj polled
          rw [same] at within
          simp only at within
          exact finish yielded (by omega)
  | succ index ih =>
      obtain ⟨inside, -⟩ := List.getElem?_eq_some_iff.mp yielded
      have preceding := List.getElem?_eq_getElem (Nat.lt_of_succ_lt inside)
      obtain ⟨taken, asked⟩ := ih preceding
      obtain ⟨before, earlier⟩ := polled_of_frame preceding
      obtain ⟨poll, later⟩ := polled_of_frame yielded
      obtain ⟨turn, found, within⟩ := poll_within (Nat.le_add_right _ _) carried.ordered.first
        carried.ordered.next earlier later
      have polled := asked turn found
      have fires := carried.fires turn (List.mem_of_getElem? found)
      exact finish yielded (by omega)

/-- A stream that brings nothing more is given up with an error, however it was polled. -/
theorem silence_noticed (genuine : ∀ event ∈ events, event.2 ≠ .silent)
    {handled overdue last : Nat} (handles : ∀ moment, reader.handling moment ≤ handled)
    (fires : ∀ moment, reader.late moment ≤ overdue)
    (only : ∀ event ∈ events, (∃ bytes, event.2 = .chunk bytes) ∧ event.1 ≤ last) :
    ∃ silent, (silent, .silent) ∈ reader.reads now events ∧
      silent ≤ max now last + events.length * handled + sseReadTimeout + overdue ∧
      ∀ encoding isReconnect loop,
        (sseReadLoop encoding isReconnect loop ((reader.reads now events).map Prod.snd)).2 =
          some (.error "no data on the SSE stream for 30s") := by
  obtain ⟨silent, gaveUp, within⟩ := Reader.gives_up now handles fires
    (fun event member => (only event member).1) (fun event member => (only event member).2)
  exact ⟨silent, gaveUp, within,
    fun encoding isReconnect loop => Reader.loop_silent encoding isReconnect loop genuine gaveUp⟩

/-- The client gives up only streams that have yielded nothing for `SSE_READ_TIMEOUT`, and it gives
up each stream that brings nothing more. -/
theorem keepalive_guards (carried : Carried reader start now turns events asks delay late)
    (margin : max asks (keepalivePeriod + late) + delay ≤ sseReadTimeout)
    (genuine : ∀ event ∈ events, event.2 ≠ .silent)
    {handled overdue : Nat} (handles : ∀ moment, reader.handling moment ≤ handled)
    (fires : ∀ moment, reader.late moment ≤ overdue) :
    (∀ silent, (silent, .silent) ∈ reader.reads now events →
      ∀ frame ∈ frames (polls start turns), frame.1 + sseReadTimeout ≤ silent) ∧
    (∀ last, (∀ event ∈ events, (∃ bytes, event.2 = .chunk bytes) ∧ event.1 ≤ last) →
      ∃ silent, (silent, .silent) ∈ reader.reads now events ∧
        silent ≤ max now last + events.length * handled + sseReadTimeout + overdue ∧
        ∀ encoding isReconnect loop,
          (sseReadLoop encoding isReconnect loop ((reader.reads now events).map Prod.snd)).2 =
            some (.error "no data on the SSE stream for 30s")) := by
  refine ⟨fun silent gaveUp frame member => ?_,
    fun last only => silence_noticed genuine handles fires only⟩
  obtain ⟨waits, count, held⟩ := Reader.silence genuine gaveUp
  obtain ⟨index, found⟩ := List.getElem?_of_mem member
  have taken := (frame_taken carried margin held found).1
  have expired := held.expired
  omega

/-- This stream yields two comments and a payload. -/
def yielding : List Turn :=
  [⟨0, none, 0, false⟩, ⟨150, none, 3, false⟩, ⟨15200, some (16000, some [7]), 0, true⟩]

/-- The network brings each frame in a chunk of its own. -/
def arriving : List (Nat × Read) :=
  [(120, .chunk [0x3A]), (15050, .chunk [0x3A]), (16040, .chunk [0x64])]

/-- This client handles each chunk for a while, and its timers fire late. -/
def handlingReader : Reader := ⟨fun _ => 10, fun _ => 5⟩

theorem yielding_polls :
    polls 0 yielding = [(0, .tick), (15003, .tick), (16000, .received (some [7]))] := by
  decide

theorem arriving_reads : handlingReader.reads 100 arriving =
    [(120, .chunk [0x3A]), (15050, .chunk [0x3A]), (16040, .chunk [0x64]), (46055, .silent)] := by
  decide

/-- The frames of the stream are carried in time. -/
theorem yielding_carried : Carried handlingReader 0 100 yielding arriving 160 120 3 where
  ordered := ⟨by simp [yielding], by
    rw [yielding_polls]
    rintro (_ | _ | _ | index) moment poll turn polled asked <;> simp [yielding] at polled asked
    · simp [← polled.1]
    · simp [← polled.1, ← asked]⟩
  begins := by decide
  asked := by simp [yielding]
  fires := by simp [yielding]
  arrivals := by simp [arriving]
  carried := by
    rw [yielding_polls, arriving_reads]
    rintro (_ | _ | _ | index) moment output yielded <;> simp [frames] at yielded
    · exact ⟨0, 120, [0x3A], rfl, by omega, by omega, by simp [yielding]⟩
    · exact ⟨1, 15050, [0x3A], rfl, by omega, by omega, by simp [yielding]⟩
    · exact ⟨2, 16040, [0x64], rfl, by omega, by omega, by simp [yielding]⟩

/-- A stream that ends without a word is given up after half a minute. -/
theorem keepalive_guards_of_yielding :
    (∀ silent, (silent, .silent) ∈ handlingReader.reads 100 arriving →
      ∀ frame ∈ frames (polls 0 yielding), frame.1 + sseReadTimeout ≤ silent) ∧
    ∃ silent, (silent, .silent) ∈ handlingReader.reads 100 arriving ∧ silent ≤ 46075 := by
  obtain ⟨honest, noticed⟩ := keepalive_guards yielding_carried (by decide)
    (by simp [arriving])
    (show ∀ moment, handlingReader.handling moment ≤ 10 from fun _ => Nat.le_refl _)
    (show ∀ moment, handlingReader.late moment ≤ 5 from fun _ => Nat.le_refl _)
  obtain ⟨silent, gaveUp, within, -⟩ := noticed 16040 (by simp [arriving])
  exact ⟨honest, silent, gaveUp, by simpa [arriving, sseReadTimeout] using within⟩

end System
end Tunnix.Keepalive
