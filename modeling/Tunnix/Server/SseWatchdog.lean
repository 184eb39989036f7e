import Tunnix.Library.Timeline
import Mathlib.Algebra.Order.Monoid.Canonical.Defs
import Mathlib.Algebra.Order.Group.Nat
import Mathlib.Algebra.Order.Monoid.Unbundled.Pow

namespace Tunnix.SseWatchdog
variable {Time : Type*}

/-- The watchdog samples a second and some delay after its last tick. A relay that does not poll it
makes the delay longer. Another task may hold the session's lock at the tick. -/
structure Tick (Time : Type*) where
  delay : Time
  contended : Bool
deriving DecidableEq, Repr

/-- `SSE_DEAD_GRACE` is ten seconds. -/
def graceSecs : Nat := 10

section model
variable [Add Time]

/-- `await_sse_dead` returns at the sample that completes the grace. The timeline says at each moment
whether `sse_tx` is closed, whatever streams came and went before. -/
def awaitSseDead (second : Time) (closed : Time → Bool) (now : Time) (closedSecs : Nat) :
    List (Tick Time) → Option Time
  | [] => none
  | tick :: rest =>
      let woken := now + second + tick.delay
      -- A tick that loses the race for the lock leaves the count alone.
      if tick.contended then awaitSseDead second closed woken closedSecs rest
      else if closed woken then
        if closedSecs + 1 ≥ graceSecs then some woken
        else awaitSseDead second closed woken (closedSecs + 1) rest
      else awaitSseDead second closed woken 0 rest

/-- These are the moments at which the watchdog has the lock and looks at the stream. -/
def samples (second now : Time) : List (Tick Time) → List Time
  | [] => []
  | tick :: rest =>
      let woken := now + second + tick.delay
      if tick.contended then samples second woken rest else woken :: samples second woken rest

/-- The ten samples that end the wait are the first ten in a row that find the stream closed. -/
abbrev Counted (closed : Time → Bool) (moments counted : List Time) : Prop :=
  Timeline.FirstRun closed graceSecs moments counted

variable {second now returned : Time} {closed : Time → Bool} {held : List Time}
  {ticks : List (Tick Time)}

omit [Add Time] in
theorem nothing_held : ([] : List Time).length < graceSecs := by
  simp [graceSecs]

/-- The watchdog returns at the last sample of the first run of closed samples. The samples that it has
counted so far are held. -/
theorem counted_of_returned (few : held.length < graceSecs)
    (all : ∀ sample ∈ held, closed sample = true)
    (returns : awaitSseDead second closed now held.length ticks = some returned) :
    ∃ moments, Counted closed (held ++ samples second now ticks) moments ∧
      moments.getLast? = some returned := by
  induction ticks generalizing now held with
  | nil => cases returns
  | cons tick rest ih =>
      simp only [awaitSseDead] at returns
      simp only [samples]
      split_ifs at returns with contended alive full
      · rw [if_pos contended]
        exact ih few all returns
      · obtain rfl := Option.some.inj returns
        rw [if_neg contended]
        exact ⟨held ++ [now + second + tick.delay],
          Timeline.firstRun_of_held all alive (by omega), by simp⟩
      · rw [if_neg contended, List.append_cons]
        apply ih (by simpa using full)
        · simpa [or_imp, forall_and] using ⟨all, alive⟩
        · simpa using returns
      · rw [if_neg contended]
        obtain ⟨moments, found, last⟩ := ih nothing_held (by simp) returns
        exact ⟨moments, found.after (Timeline.noRun_of_short few) (by simpa using alive), last⟩

/-- A watchdog that still waits has not seen a run of closed samples. -/
theorem noRun_of_waiting (few : held.length < graceSecs)
    (waits : awaitSseDead second closed now held.length ticks = none) :
    Timeline.NoRun closed graceSecs (held ++ samples second now ticks) := by
  induction ticks generalizing now held with
  | nil =>
      rw [samples, List.append_nil]
      exact Timeline.noRun_of_short few
  | cons tick rest ih =>
      simp only [awaitSseDead] at waits
      simp only [samples]
      split_ifs at waits with contended alive full
      · rw [if_pos contended]
        exact ih few waits
      · rw [if_neg contended, List.append_cons]
        apply ih (by simpa using full)
        simpa using waits
      · rw [if_neg contended]
        have after := ih nothing_held waits
        exact (Timeline.noRun_of_short few).around after (by simpa using alive)

/-- The watchdog returns exactly at the last of the counted samples. -/
theorem returned_of_counted {moments : List Time}
    (counted : Counted closed (samples second now ticks) moments) :
    ∃ returned, awaitSseDead second closed now 0 ticks = some returned ∧
      moments.getLast? = some returned := by
  cases outcome : awaitSseDead second closed now 0 ticks with
  | none => exact absurd (noRun_of_waiting nothing_held outcome) counted.not_noRun
  | some returned =>
      obtain ⟨others, again, last⟩ := counted_of_returned nothing_held (by simp) outcome
      obtain rfl := counted.unique again
      exact ⟨returned, rfl, last⟩

end model

variable [AddCommMonoid Time] [LinearOrder Time]

/-- The stream was closed at every moment of the grace that ends now. -/
def Silent (second : Time) (closed : Time → Bool) (now : Time) : Prop :=
  ∀ moment, moment ≤ now → now ≤ moment + graceSecs • second → closed moment = true

/-- The samples all lie in one stretch of the timeline in which the stream is closed. -/
def OneStretch (closed : Time → Bool) (moments : List Time) : Prop :=
  ∀ first ∈ moments.head?, ∀ last ∈ moments.getLast?,
    Timeline.Throughout (fun moment => closed moment = true) first last

/-- The stream was never live between two neighbours of the samples, nor in the part of the grace that
lies before them. -/
structure Unseen (second : Time) (closed : Time → Bool) (moments : List Time) : Prop where
  between : moments.IsChain (Timeline.Between fun moment => closed moment = true)
  before : ∀ first ∈ moments.head?, ∀ last ∈ moments.getLast?, ∀ moment, moment < first →
    last ≤ moment + graceSecs • second → closed moment = true

/-- The watchdog returns only after an unbroken silence. -/
def MeasuresSilence (second start : Time) (closed : Time → Bool) (ticks : List (Tick Time)) : Prop :=
  ∀ now, awaitSseDead second closed start 0 ticks = some now →
    Silent second closed now ∧
      ∀ moments, Counted closed (samples second start ticks) moments → OneStretch closed moments

section exact
variable [CanonicallyOrderedAdd Time] {second start now : Time} {closed : Time → Bool}
  {moments : List Time} {ticks : List (Tick Time)}

theorem le_sample : ∀ sample ∈ samples second now ticks, now ≤ sample := by
  induction ticks generalizing now with
  | nil => simp [samples]
  | cons tick rest ih =>
      have later : now ≤ now + second + tick.delay := le_self_add.trans le_self_add
      intro sample member
      rw [samples] at member
      split_ifs at member
      · exact later.trans (ih sample member)
      · rcases List.mem_cons.mp member with rfl | follows
        · exact later
        · exact later.trans (ih sample follows)

theorem samples_sorted : (samples second now ticks).Pairwise (· ≤ ·) := by
  induction ticks generalizing now with
  | nil => exact List.Pairwise.nil
  | cons tick rest ih =>
      rw [samples]
      split_ifs
      · exact ih
      · exact List.pairwise_cons.mpr ⟨le_sample, ih⟩

theorem counted_sorted (counted : Counted closed (samples second now ticks) moments) :
    moments.Pairwise (· ≤ ·) := by
  have sublist := counted.inside.sublist
  exact samples_sorted.sublist sublist

/-- The watchdog measures an unbroken silence exactly when no live stretch goes unseen between the
counted samples, or before them. -/
theorem measures_silence_iff : MeasuresSilence second start closed ticks ↔
    ∀ moments, Counted closed (samples second start ticks) moments →
      Unseen second closed moments := by
  constructor
  · intro measures moments counted
    obtain ⟨now, returns, last⟩ := returned_of_counted counted
    obtain ⟨first, head⟩ := Timeline.head_of_last last
    obtain ⟨silent, together⟩ := measures now returns
    have ordered := Timeline.within_ends (counted_sorted counted) head last
    constructor
    · exact (together moments counted first head now last).between ordered
    · intro first' head' last' tail' moment early recent
      obtain rfl := Option.some.inj (head.symm.trans head')
      obtain rfl := Option.some.inj (last.symm.trans tail')
      have before := (ordered first (List.mem_of_mem_head? head)).2
      exact silent moment (early.le.trans before) recent
  · intro sampled now returns
    obtain ⟨moments, counted, last⟩ := counted_of_returned nothing_held (by simp) returns
    obtain ⟨first, head⟩ := Timeline.head_of_last last
    have unseen := sampled moments counted
    have together : OneStretch closed moments := by
      intro first head last tail
      exact Timeline.throughout_of_samples counted.all unseen.between head tail
    constructor
    · intro moment past recent
      rcases lt_or_ge moment first with early | late
      · exact unseen.before first head now last moment early recent
      · exact together first head now last moment late past
    · intro others again
      rw [again.unique counted]
      exact together

end exact

/-- The watchdog ticks every second, in milliseconds, and finds the lock free. -/
def punctual (seconds : Nat) : List (Tick Nat) :=
  List.replicate seconds { delay := 0, contended := false }

/-- The stream drops as the lock is contended and stays down. The ten samples that follow begin a second
after the drop. -/
theorem silence_after_contended_drop :
    awaitSseDead 1000 (fun moment => decide (5000 ≤ moment)) 0 0
        (punctual 4 ++ { delay := 0, contended := true } :: punctual 10) = some 15000 ∧
      Silent 1000 (fun moment => decide (5000 ≤ moment)) 15000 := by
  have returns : awaitSseDead 1000 (fun moment => decide (5000 ≤ moment)) 0 0
      (punctual 4 ++ { delay := 0, contended := true } :: punctual 10) = some 15000 := by decide
  have measures : MeasuresSilence 1000 0 (fun moment => decide (5000 ≤ moment))
      (punctual 4 ++ { delay := 0, contended := true } :: punctual 10) := by
    apply measures_silence_iff.mpr
    intro moments counted
    obtain ⟨now, again, last⟩ := returned_of_counted counted
    obtain rfl := Option.some.inj (returns.symm.trans again)
    constructor
    · apply List.Pairwise.isChain
      apply List.pairwise_of_forall_mem_list
      intro earlier member _ _ moment after _
      have down := counted.all earlier member
      simp only [decide_eq_true_eq] at down ⊢
      omega
    · intro first _ last' tail moment _ recent
      obtain rfl := Option.some.inj (last.symm.trans tail)
      simp only [graceSecs, decide_eq_true_eq] at recent ⊢
      have grace : (10 • 1000 : Nat) = 10000 := rfl
      omega
  exact ⟨returns, (measures 15000 returns).1⟩

/-- A live stretch between two ticks goes unseen, and ten punctual samples take nine seconds only. -/
theorem unsampled_reconnects :
    ¬ MeasuresSilence 1000 0 (fun moment => decide (moment < 3200 ∨ 3800 ≤ moment)) (punctual 10) ∧
      ¬ MeasuresSilence 1000 0 (fun moment => decide (500 ≤ moment)) (punctual 10) := by
  constructor
  · intro measures
    have silent := (measures 10000 (by decide)).1
    exact absurd (silent 3500 (by decide) (by decide)) (by decide)
  · intro measures
    have silent := (measures 10000 (by decide)).1
    exact absurd (silent 100 (by decide) (by decide)) (by decide)

end Tunnix.SseWatchdog
