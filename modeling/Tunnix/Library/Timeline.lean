import Mathlib.Order.Lattice
import Mathlib.Data.List.Chain
import Mathlib.Data.List.Infix

namespace Timeline

section runs
variable {Item : Type*} {keep : Item → Bool} {count : Nat} {items held rest run : List Item}
  {item : Item}

/-- No consecutive items of that number all have the property. -/
def NoRun (keep : Item → Bool) (count : Nat) (items : List Item) : Prop :=
  ∀ run, run <:+: items → run.length = count → ∃ item ∈ run, keep item = false

/-- These are the first consecutive items of that number that all have the property. -/
structure FirstRun (keep : Item → Bool) (count : Nat) (items run : List Item) : Prop where
  length : run.length = count
  all : ∀ item ∈ run, keep item = true
  first : ∃ earlier last later, items = earlier ++ last :: later ∧ run <:+ earlier ++ [last] ∧
    NoRun keep count earlier

theorem noRun_of_short (short : items.length < count) : NoRun keep count items := by
  intro run inside length
  have fits := inside.length_le
  omega

/-- A run does not go over an item that lacks the property. -/
theorem NoRun.around (before : NoRun keep count held) (after : NoRun keep count rest)
    (lacks : keep item = false) : NoRun keep count (held ++ item :: rest) := by
  intro run inside length
  rcases List.infix_append_iff.mp inside with within | within | ⟨left, right, rfl, ends, starts⟩
  · exact before run within length
  · rcases List.infix_cons_iff.mp within with starts | within
    · rcases List.prefix_cons_iff.mp starts with rfl | ⟨tail, rfl, _⟩
      · exact before [] List.nil_infix length
      · exact ⟨item, List.mem_cons_self, lacks⟩
    · exact after run within length
  · rcases List.prefix_cons_iff.mp starts with rfl | ⟨tail, rfl, _⟩
    · rw [List.append_nil] at length ⊢
      exact before left ends.isInfix length
    · exact ⟨item, List.mem_append_right left List.mem_cons_self, lacks⟩

/-- The item that completes the count ends the first run. -/
theorem firstRun_of_held (all : ∀ item ∈ held, keep item = true) (has : keep item = true)
    (completes : held.length + 1 = count) :
    FirstRun keep count (held ++ item :: rest) (held ++ [item]) where
  length := by simp [completes]
  all := by simpa [or_imp, forall_and] using ⟨all, has⟩
  first := ⟨held, item, rest, rfl, List.suffix_rfl, noRun_of_short (by omega)⟩

/-- A run after an item that lacks the property is the first one when there is none before it. -/
theorem FirstRun.after (later : FirstRun keep count rest run) (before : NoRun keep count held)
    (lacks : keep item = false) : FirstRun keep count (held ++ item :: rest) run where
  length := later.length
  all := later.all
  first := by
    obtain ⟨earlier, last, others, rfl, ends, none_⟩ := later.first
    refine ⟨held ++ item :: earlier, last, others, by simp, ?_, before.around none_ lacks⟩
    rw [List.append_assoc, List.cons_append]
    exact ends.trans ((List.suffix_cons item _).trans (List.suffix_append held _))

theorem infix_of_ends {earlier later : List Item} (ends : run <:+ earlier ++ [item]) :
    run <:+: earlier ++ item :: later := by
  rw [List.append_cons]
  exact ends.isInfix.trans (List.prefix_append _ later).isInfix

theorem not_noRun_of_ends {earlier later : List Item} (ends : run <:+ earlier ++ [item])
    (length : run.length = count) (all : ∀ item ∈ run, keep item = true) :
    ¬ NoRun keep count (earlier ++ item :: later) := by
  intro none_
  obtain ⟨found, member, lacks⟩ := none_ run (infix_of_ends ends) length
  exact absurd (all found member) (by simp [lacks])

theorem FirstRun.inside (found : FirstRun keep count items run) : run <:+: items := by
  obtain ⟨earlier, last, later, rfl, ends, _⟩ := found.first
  exact infix_of_ends ends

theorem FirstRun.not_noRun (found : FirstRun keep count items run) : ¬ NoRun keep count items := by
  obtain ⟨earlier, last, later, rfl, ends, _⟩ := found.first
  exact not_noRun_of_ends ends found.length found.all

/-- There is one first run at most. -/
theorem FirstRun.unique {other : List Item} (found : FirstRun keep count items run)
    (again : FirstRun keep count items other) : run = other := by
  obtain ⟨earlier, last, later, rfl, ends, none_⟩ := found.first
  obtain ⟨earlier', last', later', same, ends', none_'⟩ := again.first
  have together : run <:+ earlier' ++ [last'] → run = other := by
    intro ends
    have length : run.length = other.length := found.length.trans again.length.symm
    exact (List.suffix_of_suffix_length_le ends ends' length.le).eq_of_length length
  rcases List.append_eq_append_iff.mp same with ⟨more, rfl, split⟩ | ⟨more, rfl, split⟩
  · cases more with
    | nil =>
        obtain ⟨rfl, rfl⟩ := List.cons.inj split
        rw [List.append_nil] at together
        exact together ends
    | cons first tail =>
        obtain ⟨rfl, rfl⟩ := List.cons.inj split
        exact absurd none_' (not_noRun_of_ends ends found.length found.all)
  · cases more with
    | nil =>
        obtain ⟨rfl, rfl⟩ := List.cons.inj split
        rw [List.append_nil] at ends
        exact together ends
    | cons first tail =>
        obtain ⟨rfl, rfl⟩ := List.cons.inj split
        exact absurd none_ (not_noRun_of_ends ends' again.length again.all)

theorem head_of_last {last : Item} (tail : items.getLast? = some last) :
    ∃ first, items.head? = some first := by
  cases items with
  | nil => cases tail
  | cons first rest => exact ⟨first, rfl⟩

end runs

section moments
variable {Time : Type*} [LinearOrder Time]

/-- The property holds at every moment from the first to the last one. -/
def Throughout (property : Time → Prop) (first last : Time) : Prop :=
  ∀ moment, first ≤ moment → moment ≤ last → property moment

/-- The property holds at every moment strictly between two others. -/
def Between (property : Time → Prop) (earlier later : Time) : Prop :=
  ∀ moment, earlier < moment → moment < later → property moment

variable {property : Time → Prop} {samples : List Time} {first last : Time}

/-- A property that holds at all samples and between any two neighbours holds throughout. -/
theorem throughout_of_samples (at_ : ∀ sample ∈ samples, property sample)
    (between : samples.IsChain (Between property)) (head : samples.head? = some first)
    (tail : samples.getLast? = some last) : Throughout property first last := by
  induction samples generalizing first with
  | nil => cases head
  | cons sample rest ih =>
      obtain rfl := Option.some.inj head
      intro moment since until_
      cases rest with
      | nil =>
          obtain rfl := Option.some.inj tail
          exact le_antisymm until_ since ▸ at_ _ List.mem_cons_self
      | cons later rest =>
          obtain ⟨gap, others⟩ := List.isChain_cons_cons.mp between
          rw [List.getLast?_cons_cons] at tail
          rcases lt_or_ge moment later with early | late
          · rcases eq_or_lt_of_le since with rfl | after
            · exact at_ _ List.mem_cons_self
            · exact gap moment after early
          · exact ih (fun sample member => at_ sample (List.mem_cons_of_mem _ member)) others rfl tail
              moment late until_

/-- A sorted list lies between its ends. -/
theorem within_ends (sorted : samples.Pairwise (· ≤ ·))
    (head : samples.head? = some first) (tail : samples.getLast? = some last) :
    ∀ sample ∈ samples, first ≤ sample ∧ sample ≤ last := by
  intro sample member
  constructor
  · obtain ⟨rest, rfl⟩ := List.head?_eq_some_iff.mp head
    rcases List.mem_cons.mp member with rfl | follows
    · exact le_rfl
    · exact List.rel_of_pairwise_cons sorted follows
  · obtain ⟨front, rfl⟩ := List.getLast?_eq_some_iff.mp tail
    rcases List.mem_append.mp member with precedes | final
    · exact (List.pairwise_append.mp sorted).2.2 sample precedes last List.mem_cons_self
    · exact (List.mem_singleton.mp final).le

/-- A property that holds throughout holds between any two of the samples. -/
theorem Throughout.between (whole : Throughout property first last)
    (within : ∀ sample ∈ samples, first ≤ sample ∧ sample ≤ last) :
    samples.IsChain (Between property) := by
  apply List.Pairwise.isChain
  apply List.pairwise_of_forall_mem_list
  intro earlier member later member' moment after before
  exact whole moment ((within earlier member).1.trans after.le) (before.le.trans (within later member').2)

end moments
end Timeline
