import Tunnix.Server.SendToClient
import Tunnix.Library.Pacing
import Mathlib.Algebra.Order.Group.Nat

namespace Tunnix.SendBudget
open SendToClient

/-- `SEND_ATTEMPTS` -/
def sendAttempts : Nat := 50

/-- `SEND_ATTEMPT_INTERVAL` in milliseconds -/
def sendAttemptInterval : Nat := 600

/-- Each send may take 500 milliseconds. -/
def sendTimeout : Nat := 500

/-- The world of one call shows, at each millisecond, the session's streams, the wait for the
session's lock, and how much later a timer fires that is due then. -/
structure World (capacity : Nat) (Task Item : Type*) where
  outlets : Nat → Outlets capacity Task Item
  lock : Nat → Nat
  late : Nat → Nat

namespace World
variable {capacity : Nat} {Task Item : Type*} (world : World capacity Task Item)

/-- The send would go through now. -/
def sends (put : Put Task Item) (now : Nat) : Bool := ((world.outlets now).put put).isSome

/-- The receiver of the stream is gone. -/
def closed (sender now : Nat) : Bool := !((world.outlets now).channels sender).receiving

/-- One attempt clones the session's current sender and awaits its send for half a second. -/
def attempt (task : Task) (item : Item) (started : Nat) : Attempt Nat :=
  let fetched := started + world.lock started
  let put := ⟨task, (world.outlets fetched).current, item⟩
  let allowed := sendTimeout + world.late (fetched + sendTimeout)
  -- The timeout polls the send before it looks at its timer.
  match (List.range (allowed + 1)).find? fun waited =>
      world.closed put.outlet (fetched + waited) || world.sends put (fetched + waited) with
  | some waited => ⟨world.sends put (fetched + waited), fetched + waited⟩
  | none => ⟨false, fetched + allowed⟩

/-- The sleep ends an attempt's interval, if the attempt has not used it up. -/
def pause (started ended : Nat) : Nat :=
  let due := ended + (sendAttemptInterval - (ended - started))
  due + world.late due

/-- The message is serialized and encrypted before the first attempt. -/
def sendToClientWithAttempts (task : Task) (item : Item) (prepared : Bool) (attempts now : Nat) :
    Attempt Nat :=
  if prepared then Pacing.retry (world.attempt task item) world.pause attempts now else ⟨false, now⟩

def sendToClient (task : Task) (item : Item) (prepared : Bool) (now : Nat) : Attempt Nat :=
  world.sendToClientWithAttempts task item prepared sendAttempts now

/-- The session's current stream is open and has room. -/
def reachable (task : Task) (item : Item) (now : Nat) : Bool :=
  world.sends ⟨task, (world.outlets now).current, item⟩ now

variable {world} {task : Task} {item : Item} {prepared : Bool} {attempts started ended now : Nat}

/-- An attempt succeeds at once if the client is reachable when the session's lock is had. -/
theorem attempt_of_reachable
    (reached : world.reachable task item (started + world.lock started) = true) :
    world.attempt task item started = ⟨true, started + world.lock started⟩ := by
  unfold reachable at reached
  have first {stops : Nat → Bool} (now : stops 0 = true) (allowed : Nat) :
      (List.range (allowed + 1)).find? stops = some 0 := by
    rw [List.range_succ_eq_map, List.find?_cons_of_pos now]
  unfold attempt
  dsimp only
  rw [first (by simp [reached])]
  simp only [Nat.add_zero, reached]

/-- An attempt is given up once its time is over. -/
theorem attempt_ends_le (world : World capacity Task Item) (task : Task) (item : Item)
    (started : Nat) :
    (world.attempt task item started).ends ≤ started + world.lock started + sendTimeout +
      world.late (started + world.lock started + sendTimeout) := by
  unfold attempt
  dsimp only
  split
  · next waited found =>
      have within := List.mem_range.mp (List.mem_of_find?_eq_some found)
      simp only
      omega
  · simp only
    omega

/-- An attempt begins with the wait for the session's lock. -/
theorem le_attempt_ends (world : World capacity Task Item) (task : Task) (item : Item)
    (started : Nat) :
    started + world.lock started ≤ (world.attempt task item started).ends := by
  unfold attempt
  dsimp only
  split
  · exact Nat.le_add_right _ _
  · exact Nat.le_add_right _ _

/-- The attempts begin an interval apart at least. -/
theorem paced (started : Nat) : started + sendAttemptInterval ≤
    world.pause started (world.attempt task item started).ends := by
  have after := le_attempt_ends world task item started
  unfold pause
  dsimp only
  omega

section Calls

/-- The call makes its move with the streams as they are at some moment. -/
def timed (call : Call Task Item) (entry : Nat × Move) : Option (Call Task Item) :=
  (call.step (world.outlets entry.1) entry.2).map Prod.snd

/-- A failed attempt is followed by another one or ends the call. -/
def afterwards (call : Call Task Item) (ok : Bool) : Phase :=
  if ok then .returned true
  else if call.attempt + 1 < call.attempts then .sleeping else .returned false

/-- An attempt ends as its send succeeds, as it finds the stream closed, or as its time is over. -/
theorem attempt_cases (world : World capacity Task Item) (task : Task) (item : Item)
    (started : Nat) :
    let sender := (world.outlets (started + world.lock started)).current
    let made := world.attempt task item started
    made.ok = true ∧ world.sends ⟨task, sender, item⟩ made.ends = true ∨
      made.ok = false ∧ (world.closed sender made.ends = true ∨
        started + world.lock started + sendTimeout ≤ made.ends) := by
  unfold attempt
  dsimp only
  split
  · next waited found =>
      have stops := List.find?_some found
      rw [Bool.or_eq_true] at stops
      cases sent : world.sends ⟨task, (world.outlets (started + world.lock started)).current, item⟩
          (started + world.lock started + waited) with
      | true => exact .inl ⟨rfl, rfl⟩
      | false => exact .inr ⟨rfl, .inl (stops.resolve_right (by simp [sent]))⟩
  · exact .inr ⟨rfl, .inr (by simp only; omega)⟩

/-- An attempt is a fetch and a send that succeeds or fails. -/
theorem attempt_timed (world : World capacity Task Item) {call : Call Task Item} (started : Nat)
    (fetching : call.phase = .fetching) :
    ∃ move, Machine.run world.timed call [(started + world.lock started, .fetch),
        ((world.attempt call.task call.item started).ends, move)] =
      some { call with
        phase := afterwards call (world.attempt call.task call.item started).ok } := by
  have fetched : world.timed call (started + world.lock started, .fetch) =
      some { call with
        phase := .sending (world.outlets (started + world.lock started)).current } := by
    simp [timed, Call.step, fetching]
  simp only [Machine.run_cons, fetched, Machine.run_nil, Option.some.injEq, exists_eq_left',
    exists_eq_right]
  rcases attempt_cases world call.task call.item started with ⟨ok, sent⟩ | ⟨ok, closed | spent⟩
  · obtain ⟨after, put⟩ := Option.isSome_iff_exists.mp sent
    exact ⟨.send, by simp [timed, Call.step, Call.put, put, afterwards, ok]⟩
  · have gone : _ = false := Bool.not_eq_true' _ ▸ closed
    exact ⟨.fails false, by simp [timed, Call.step, gone, afterwards, ok]⟩
  · exact ⟨.fails true, by simp [timed, Call.step, afterwards, ok]⟩

/-- The moves of a call come one after another in a period of time. -/
structure During (first last : Nat) (moves : List (Nat × Move)) : Prop where
  ordered : first ≤ last
  sorted : moves.Pairwise fun earlier later => earlier.1 ≤ later.1
  within : ∀ entry ∈ moves, first ≤ entry.1 ∧ entry.1 ≤ last

/-- One period follows another. -/
theorem During.append {first middle last : Nat} {moves others : List (Nat × Move)}
    (earlier : During first middle moves) (later : During middle last others) :
    During first last (moves ++ others) where
  ordered := earlier.ordered.trans later.ordered
  sorted := by
    rw [List.pairwise_append]
    refine ⟨earlier.sorted, later.sorted, fun entry member other among => ?_⟩
    exact (earlier.within entry member).2.trans (later.within other among).1
  within entry member := by
    rcases List.mem_append.mp member with early | late
    · have := earlier.within entry early
      exact ⟨this.1, this.2.trans later.ordered⟩
    · have := later.within entry late
      exact ⟨earlier.ordered.trans this.1, this.2⟩

theorem During.attempt (world : World capacity Task Item) (task : Task) (item : Item)
    (started : Nat) (move : Move) :
    During started (world.attempt task item started).ends
      [(started + world.lock started, .fetch), ((world.attempt task item started).ends, move)] := by
  have ends := le_attempt_ends world task item started
  refine ⟨by omega, by simpa using ends, ?_⟩
  simp only [List.mem_cons, List.not_mem_nil, or_false, forall_eq_or_imp, forall_eq]
  omega

theorem During.wake (world : World capacity Task Item) (started ended : Nat) :
    During ended (world.pause started ended) [(world.pause started ended, .wake)] := by
  have after : ended ≤ world.pause started ended := by
    unfold pause
    dsimp only
    omega
  exact ⟨after, by simp, by simpa using after⟩

/-- The timed call makes the moves of a call. -/
theorem retry_timed (world : World capacity Task Item) {left : Nat} (call : Call Task Item)
    (now : Nat) (fetching : call.phase = .fetching)
    (remaining : call.attempt + left + 1 = call.attempts) :
    ∃ moves final,
      Machine.run world.timed call moves = some final ∧
      final.phase = .returned
        (Pacing.retry (world.attempt call.task call.item) world.pause (left + 1) now).ok ∧
      During now
        (Pacing.retry (world.attempt call.task call.item) world.pause (left + 1) now).ends moves := by
  induction left generalizing call now with
  | zero =>
      obtain ⟨move, ran⟩ := attempt_timed world now fetching
      refine ⟨_, _, ran, ?_, .attempt world call.task call.item now move⟩
      have last : ¬ call.attempt + 1 < call.attempts := by omega
      cases ok : (world.attempt call.task call.item now).ok with
      | true => simp [afterwards, Pacing.retry, ok]
      | false => simp [afterwards, Pacing.retry, ok, last]
  | succ left ih =>
      obtain ⟨move, ran⟩ := attempt_timed world now fetching
      have made := During.attempt world call.task call.item now move
      rw [Pacing.retry]
      cases ok : (world.attempt call.task call.item now).ok with
      | true =>
          refine ⟨_, _, ran, ?_, ?_⟩
          · simp [afterwards, ok]
          · simpa [ok] using made
      | false =>
          have more : call.attempt + 1 < call.attempts := by omega
          have sleeps : afterwards call (world.attempt call.task call.item now).ok = .sleeping := by
            simp [afterwards, ok, more]
          let woken := world.pause now (world.attempt call.task call.item now).ends
          have wakes : world.timed { call with phase := .sleeping } (woken, .wake) =
              some { call with attempt := call.attempt + 1, phase := .fetching } := rfl
          obtain ⟨moves, final, later, returned, during⟩ :=
            ih { call with attempt := call.attempt + 1, phase := .fetching } woken rfl (by
              simp only
              omega)
          have slept := During.wake world now (world.attempt call.task call.item now).ends
          refine ⟨_, final, Machine.run_append.mpr ⟨_, ran, Machine.run_cons.mpr ⟨_, ?_, later⟩⟩,
            by simpa using returned, made.append (slept.append (by simpa using during))⟩
          rw [sleeps]
          exact wakes

end Calls

section Prompt
variable {held slack : Nat}

/-- The attempts begin this far apart at most. -/
def gap (held slack : Nat) : Nat := max sendAttemptInterval (held + sendTimeout + slack) + slack

/-- The lock is had and the timers fire in time. -/
structure Prompt (world : World capacity Task Item) (held slack : Nat) : Prop where
  lock : ∀ moment, world.lock moment ≤ held
  late : ∀ moment, world.late moment ≤ slack

theorem Prompt.attempt (prompt : world.Prompt held slack) (task : Task) (item : Item)
    (started : Nat) :
    (world.attempt task item started).ends ≤ started + (held + sendTimeout + slack) := by
  have ends := attempt_ends_le world task item started
  have lock := prompt.lock started
  have late := prompt.late (started + world.lock started + sendTimeout)
  omega

theorem Prompt.pause (prompt : world.Prompt held slack) (started : Nat) :
    world.pause started (world.attempt task item started).ends ≤ started + gap held slack := by
  have after := le_attempt_ends world task item started
  have ends := prompt.attempt task item started
  unfold World.pause gap
  dsimp only
  have late := prompt.late ((world.attempt task item started).ends +
    (sendAttemptInterval - ((world.attempt task item started).ends - started)))
  omega

end Prompt

/-- A call that returns `false` has made its last attempt. -/
theorem exists_last (positive : 0 < attempts)
    (failed : (world.sendToClientWithAttempts task item true attempts now).ok = false) :
    ∃ started, now + (attempts - 1) * sendAttemptInterval ≤ started ∧
      world.sendToClientWithAttempts task item true attempts now =
        world.attempt task item started := by
  obtain ⟨started, -, same, last⟩ :=
    Pacing.retry_eq (world.attempt task item) world.pause now positive
  obtain ⟨left, rfl⟩ := Nat.exists_eq_add_one.mpr positive
  refine ⟨started, ?_, same⟩
  apply Pacing.le_last paced
  apply last
  rw [← same]
  exact failed

/-- A call gives up only on a client that it cannot reach when its whole budget is spent. -/
theorem unreachable_of_failed (positive : 0 < attempts)
    (failed : (world.sendToClientWithAttempts task item true attempts now).ok = false) :
    ∃ moment, now + (attempts - 1) * sendAttemptInterval ≤ moment ∧
      moment ≤ (world.sendToClientWithAttempts task item true attempts now).ends ∧
      world.reachable task item moment = false := by
  obtain ⟨started, spent, same⟩ := exists_last positive failed
  refine ⟨started + world.lock started, Nat.le_add_right_of_le spent,
    same ▸ le_attempt_ends world task item started, ?_⟩
  by_contra reached
  rw [same, attempt_of_reachable (Bool.not_eq_false _ ▸ reached)] at failed
  cases failed

/-- A call succeeds if the client is reachable in one of its attempts. -/
theorem ok_of_begins {started : Nat}
    (member : started ∈ Pacing.begins (world.attempt task item) world.pause attempts now)
    (reached : world.reachable task item (started + world.lock started) = true) :
    (world.sendToClientWithAttempts task item true attempts now).ok = true :=
  Pacing.retry_ok_iff.mpr ⟨started, member, by simp [attempt_of_reachable reached]⟩

/-- A single outage never fails a call, if it and the first wait for the session's lock fit into the
budget. -/
theorem outage_survived {first outage : Nat}
    (single : ∀ moment, world.reachable task item moment = false →
      first ≤ moment ∧ moment < first + outage)
    (short : world.lock now + outage ≤ (sendAttempts - 1) * sendAttemptInterval) :
    (world.sendToClient task item true now).ok = true := by
  by_contra failed
  rw [Bool.not_eq_true] at failed
  obtain ⟨moment, spent, -, unreached⟩ := unreachable_of_failed (by simp [sendAttempts]) failed
  have inside := single moment unreached
  -- The outage is not over when the budget is spent, so it began after the first attempt.
  have reached : world.reachable task item (now + world.lock now) = true := by
    by_contra unreached
    have := single _ (Bool.not_eq_true _ ▸ unreached)
    omega
  have done : (world.sendToClient task item true now).ok = true :=
    ok_of_begins (by simp [sendAttempts, Pacing.begins]) reached
  rw [done] at failed
  cases failed

section Prompt
variable {held slack opened : Nat}

/-- A client that comes back for a while within the budget gets the message. -/
theorem Prompt.window (prompt : world.Prompt held slack) (positive : 0 < attempts)
    (after : now ≤ opened) (within : opened ≤ now + (attempts - 1) * sendAttemptInterval)
    (back : ∀ moment, opened ≤ moment → moment ≤ opened + gap held slack + held →
      world.reachable task item moment = true) :
    (world.sendToClientWithAttempts task item true attempts now).ok = true := by
  obtain ⟨left, rfl⟩ := Nat.exists_eq_add_one.mpr positive
  obtain ⟨last, found⟩ : ∃ last, (Pacing.begins (world.attempt task item) world.pause (left + 1)
      now).getLast? = some last := ⟨_, List.getLast?_eq_some_getLast (by simp [Pacing.begins])⟩
  have spent := Pacing.le_last paced found
  obtain ⟨started, member, soon⟩ :=
    Pacing.exists_begin_soon (Nat.zero_le _) prompt.pause after found (within.trans spent)
  apply ok_of_begins member
  apply back
  · omega
  · exact Nat.add_le_add soon.2 (prompt.lock started)

/-- A call ends in time. -/
theorem Prompt.ends (prompt : world.Prompt held slack) (positive : 0 < attempts) :
    (world.sendToClientWithAttempts task item true attempts now).ends ≤
      now + (attempts - 1) * gap held slack + (held + sendTimeout + slack) := by
  obtain ⟨started, member, same, -⟩ :=
    Pacing.retry_eq (world.attempt task item) world.pause now positive
  obtain ⟨left, rfl⟩ := Nat.exists_eq_add_one.mpr positive
  have begins := Pacing.le_of_mem_begins (Nat.zero_le _) prompt.pause member
  rw [sendToClientWithAttempts, if_pos rfl, same]
  exact (prompt.attempt task item started).trans (Nat.add_le_add_right begins _)

/-- While the lock is had and the timers fire in time, a call spends its budget, and little more, on
a client that cannot be reached. It gives up only if the client was unreachable after the budget was
spent and was never back for one gap between two attempts. -/
theorem budget_spent (prompt : world.Prompt held slack) (positive : 0 < attempts) :
    let made := world.sendToClientWithAttempts task item true attempts now
    let budget := (attempts - 1) * sendAttemptInterval
    made.ends ≤ now + (attempts - 1) * gap held slack + (held + sendTimeout + slack) ∧
    (made.ok = false →
      (∃ moment, now + budget ≤ moment ∧ moment ≤ made.ends ∧
        world.reachable task item moment = false) ∧
      ∀ opened, now ≤ opened → opened ≤ now + budget → ∃ moment, opened ≤ moment ∧
        moment ≤ opened + gap held slack + held ∧ world.reachable task item moment = false) := by
  refine ⟨prompt.ends positive, fun failed => ⟨unreachable_of_failed positive failed, ?_⟩⟩
  intro opened after within
  by_contra never
  push Not at never
  have done := prompt.window positive after within fun moment later sooner => by
    simpa using never moment later sooner
  rw [done] at failed
  cases failed

end Prompt

/-- Every timed call is a call of `send_to_client_with_attempts` on the streams as they are at the
moments of its moves, from the first moment to the last. -/
theorem call_timed (world : World capacity Task Item) (task : Task) (item : Item) (prepared : Bool)
    (attempts now : Nat) : ∃ moves final,
      Machine.run world.timed (.start task item attempts prepared) moves = some final ∧
      final.phase = .returned (world.sendToClientWithAttempts task item prepared attempts now).ok ∧
      During now (world.sendToClientWithAttempts task item prepared attempts now).ends moves := by
  unfold sendToClientWithAttempts
  cases prepared with
  | false => exact ⟨[], _, rfl, by simp [Call.start], ⟨Nat.le_refl _, by simp, by simp⟩⟩
  | true =>
      cases attempts with
      | zero =>
          exact ⟨[], _, rfl, by simp [Call.start, Pacing.retry],
            ⟨Nat.le_refl _, by simp, by simp⟩⟩
      | succ left =>
          exact retry_timed world (.start task item (left + 1) true) now (by simp [Call.start])
            (by simp [Call.start])

end World

/-- `DISPATCH_STALL_TIMEOUT` in milliseconds -/
def dispatchStallTimeout : Nat := 15000

/-- The session's stream is closed until this moment. -/
def closedUntil (reopened moment : Nat) : Outlets 1 Unit Unit :=
  if moment < reopened then
    (Outlets.fresh 1 Unit Unit).shorten 0 (Channel.empty 1 Unit).drop List.nil_suffix
  else .fresh 1 Unit Unit

/-- The client cannot be reached for as long as one stalled consumer may hold its dispatch loop. -/
def stalled : World 1 Unit Unit where
  outlets := closedUntil dispatchStallTimeout
  lock _ := 0
  late _ := 0

theorem outage_survived_of_stalled : (stalled.sendToClient () () true 0).ok = true := by
  have single : ∀ moment, stalled.reachable () () moment = false →
      0 ≤ moment ∧ moment < 0 + dispatchStallTimeout := by
    refine fun moment unreached => ⟨Nat.zero_le _, ?_⟩
    by_contra later
    rw [Nat.zero_add] at later
    simp only [World.reachable, World.sends, stalled, closedUntil, later, if_false] at unreached
    cases unreached
  exact World.outage_survived single (by simp [stalled, dispatchStallTimeout, sendAttempts,
    sendAttemptInterval])

/-- The client is away for forty seconds, other work holds the session's lock for up to 20 ms, and
the timers fire up to 5 ms late. -/
def away : World 1 Unit Unit where
  outlets := closedUntil 40000
  lock moment := moment % 21
  late moment := moment % 6

theorem away_prompt : away.Prompt 20 5 :=
  ⟨fun moment => Nat.le_of_lt_succ (Nat.mod_lt moment (by decide)),
    fun moment => Nat.le_of_lt_succ (Nat.mod_lt moment (by decide))⟩

theorem away_gap : World.gap 20 5 = 605 := by decide

theorem closedUntil_current (reopened moment : Nat) : (closedUntil reopened moment).current = 0 := by
  unfold closedUntil
  split
  · rfl
  · rfl

/-- A closed stream takes no frame. -/
theorem away_sends {moment : Nat} (early : moment < 40000) :
    away.sends ⟨(), 0, ()⟩ moment = false := by
  simp only [World.sends, away, closedUntil, if_pos early]
  rfl

/-- Each attempt of the call finds the stream closed. -/
theorem away_attempt {started : Nat} (early : started < 39000) :
    (away.attempt () () started).ok = false := by
  have ends := away_prompt.attempt () () started
  rcases World.attempt_cases away () () started with ⟨-, sent⟩ | ⟨failed, -⟩
  · have closed : (away.attempt () () started).ends < 40000 := by
      simp only [sendTimeout] at ends
      omega
    have current : (away.outlets (started + away.lock started)).current = 0 :=
      closedUntil_current _ _
    rw [current, away_sends closed] at sent
    cases sent
  · exact failed

theorem budget_spent_of_away :
    (away.sendToClientWithAttempts () () true sendAttempts 0).ok = false ∧
      (away.sendToClientWithAttempts () () true sendAttempts 0).ends ≤ 30170 ∧
      (∃ moment, 29400 ≤ moment ∧ moment ≤ 30170 ∧ away.reachable () () moment = false) ∧
      ∀ opened ≤ 29400, ∃ moment, opened ≤ moment ∧ moment ≤ opened + 625 ∧
        away.reachable () () moment = false := by
  have failed : (away.sendToClientWithAttempts () () true sendAttempts 0).ok = false := by
    by_contra made
    rw [Bool.not_eq_false, World.sendToClientWithAttempts, if_pos rfl] at made
    obtain ⟨started, begun, sent⟩ := Pacing.retry_ok_iff.mp made
    have soon : started ≤ 0 + 49 • World.gap 20 5 :=
      Pacing.le_of_mem_begins (Nat.zero_le _) away_prompt.pause begun
    rw [away_gap, Nat.nsmul_eq_mul] at soon
    rw [away_attempt (by omega)] at sent
    cases sent
  obtain ⟨ends, spent⟩ := @World.budget_spent 1 Unit Unit away () () sendAttempts 0 20 5 away_prompt
    (by decide)
  obtain ⟨⟨moment, late, within, gone⟩, each⟩ := spent failed
  have last : (away.sendToClientWithAttempts () () true sendAttempts 0).ends ≤ 30170 := by
    rw [away_gap] at ends
    exact ends
  rw [Nat.zero_add] at late each
  refine ⟨failed, last, ⟨moment, late, within.trans last, gone⟩, fun opened early => ?_⟩
  rw [away_gap] at each
  exact each opened (Nat.zero_le _) early

end Tunnix.SendBudget
