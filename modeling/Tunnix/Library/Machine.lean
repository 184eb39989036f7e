import Mathlib.Logic.Basic
import Mathlib.Data.List.Induction

namespace Machine
variable {State Action : Type*} (step : State → Action → Option State)

/-- A run applies its actions in order and stops at the first disabled one. -/
def run : State → List Action → Option State
  | state, [] => some state
  | state, action :: rest =>
      match step state action with
      | none => none
      | some next => run next rest

/-- Every step of the run meets a condition on the state before it. -/
def Along (condition : State → Action → Prop) : State → List Action → Prop
  | _, [] => True
  | state, action :: rest => condition state action ∧
      match step state action with
      | none => True
      | some next => Along condition next rest

/-- A condition that can be decided at each step can be decided along a run. -/
instance decidableAlong (condition : State → Action → Prop)
    [∀ state action, Decidable (condition state action)] :
    ∀ state actions, Decidable (Along step condition state actions)
  | _, [] => isTrue trivial
  | state, action :: rest =>
      have : Decidable (match step state action with
          | none => True
          | some next => Along step condition next rest) :=
        match step state action with
        | none => isTrue trivial
        | some next => decidableAlong condition next rest
      inferInstanceAs (Decidable (condition state action ∧ _))

variable {step}

@[simp] theorem run_nil (state : State) : run step state [] = some state := rfl

/-- A nonempty run is one step and the run that follows it. -/
theorem run_cons {state final : State} {action : Action} {rest : List Action} :
    run step state (action :: rest) = some final ↔
      ∃ next, step state action = some next ∧ run step next rest = some final := by
  rw [run]
  cases step state action with
  | none => exact iff_of_false nofun fun ⟨_, absurd, _⟩ => nomatch absurd
  | some next =>
      constructor
      · exact fun ran => ⟨next, rfl, ran⟩
      · rintro ⟨_, same, ran⟩
        exact Option.some.inj same ▸ ran

/-- A run splits at every point into the run before it and the run after it. -/
theorem run_append {state final : State} {first second : List Action} :
    run step state (first ++ second) = some final ↔
      ∃ middle, run step state first = some middle ∧ run step middle second = some final := by
  induction first generalizing state with
  | nil => simp
  | cons action rest ih =>
      rw [List.cons_append, run_cons]
      simp only [ih, run_cons]
      constructor
      · rintro ⟨next, moved, middle, before, after⟩
        exact ⟨middle, ⟨next, moved, before⟩, after⟩
      · rintro ⟨middle, ⟨next, moved, before⟩, after⟩
        exact ⟨next, moved, middle, before, after⟩

/-- The condition on a run covers its first step and the run that follows it. -/
theorem along_cons {condition : State → Action → Prop} {state next : State} {action : Action}
    {rest : List Action} (moved : step state action = some next) :
    Along step condition state (action :: rest) ↔
      condition state action ∧ Along step condition next rest := by
  rw [Along, moved]

/-- The condition on a run covers each of its two parts. -/
theorem along_append {condition : State → Action → Prop} {state middle : State}
    {first second : List Action} (ran : run step state first = some middle) :
    Along step condition state (first ++ second) ↔
      Along step condition state first ∧ Along step condition middle second := by
  induction first generalizing state with
  | nil =>
      obtain rfl := Option.some.inj ran
      simp [Along]
  | cons action rest ih =>
      obtain ⟨next, moved, after⟩ := run_cons.mp ran
      rw [List.cons_append, along_cons moved, along_cons moved, ih after, and_assoc]

/-- Two conditions that agree wherever an invariant holds are met along the same runs. -/
theorem along_congr {first second : State → Action → Prop} {Invariant : State → Prop}
    (keeps : ∀ {state action next}, Invariant state → step state action = some next →
      Invariant next)
    (agree : ∀ {state action}, Invariant state → (first state action ↔ second state action))
    {state : State} {actions : List Action} (start : Invariant state) :
    Along step first state actions ↔ Along step second state actions := by
  induction actions generalizing state with
  | nil => rfl
  | cons action rest ih =>
      cases moved : step state action with
      | none => simp [Along, moved, agree start]
      | some next => rw [along_cons moved, along_cons moved, agree start, ih (keeps start moved)]

/-- Actions that meet the condition in every state meet it along every run. -/
theorem along_of_forall {condition : State → Action → Prop} {actions : List Action}
    (always : ∀ action ∈ actions, ∀ state, condition state action) (state : State) :
    Along step condition state actions := by
  induction actions generalizing state with
  | nil => trivial
  | cons action rest ih =>
      unfold Along
      constructor
      · exact always action List.mem_cons_self state
      · cases step state action with
        | none => trivial
        | some next => exact ih (fun later member => always later (List.mem_cons_of_mem _ member)) next

/-- A condition on the actions alone is met along a run exactly when all its actions meet it. -/
theorem along_forall_iff {admitted : Action → Prop} {state final : State} {actions : List Action}
    (ran : run step state actions = some final) :
    Along step (fun _ => admitted) state actions ↔ ∀ action ∈ actions, admitted action := by
  induction actions generalizing state with
  | nil => simp [Along]
  | cons action rest ih =>
      obtain ⟨next, moved, after⟩ := run_cons.mp ran
      rw [along_cons moved, ih after, List.forall_mem_cons]

/-- An invariant that every admitted step keeps holds at the end of every admitted run. -/
theorem run_along {condition : State → Action → Prop} {Invariant : State → Prop}
    (keeps : ∀ {state action next}, Invariant state → condition state action →
      step state action = some next → Invariant next)
    {state final : State} {actions : List Action} (start : Invariant state)
    (along : Along step condition state actions) (ran : run step state actions = some final) :
    Invariant final := by
  induction actions generalizing state with
  | nil =>
      rw [run_nil, Option.some.injEq] at ran
      exact ran ▸ start
  | cons action rest ih =>
      obtain ⟨next, moved, after⟩ := run_cons.mp ran
      obtain ⟨met, remaining⟩ := (along_cons moved).mp along
      exact ih (keeps start met moved) remaining after

/-- An invariant that every step keeps holds at the end of every run. -/
theorem run_invariant {Invariant : State → Prop}
    (keeps : ∀ {state action next}, Invariant state → step state action = some next →
      Invariant next)
    {state final : State} {actions : List Action} (start : Invariant state)
    (ran : run step state actions = some final) : Invariant final := by
  induction actions generalizing state with
  | nil =>
      rw [run_nil, Option.some.injEq] at ran
      exact ran ▸ start
  | cons action rest ih =>
      obtain ⟨next, moved, after⟩ := run_cons.mp ran
      exact ih (keeps start moved) after

/-- An invariant may speak of the actions so far, if every step keeps it as they grow. -/
theorem run_history (Invariant : List Action → State → Prop)
    (keeps : ∀ {history state action next}, Invariant history state →
      step state action = some next → Invariant (history ++ [action]) next)
    {state final : State} {actions : List Action} (start : Invariant [] state)
    (ran : run step state actions = some final) : Invariant actions final := by
  induction actions using List.reverseRecOn generalizing final with
  | nil =>
      rw [run_nil, Option.some.injEq] at ran
      exact ran ▸ start
  | append_singleton before last ih =>
      obtain ⟨previous, earlier, later⟩ := run_append.mp ran
      obtain ⟨next, moved, done⟩ := run_cons.mp later
      rw [run_nil, Option.some.injEq] at done
      exact done ▸ keeps (ih earlier) moved

/-- A violation that lasts is absent at the end of a run exactly when every step meets the
condition, if the steps that begin the violation are exactly those that miss the condition. -/
theorem along_iff {condition : State → Action → Prop} {Invariant Violated : State → Prop}
    (keeps : ∀ {state action next}, Invariant state → step state action = some next →
      Invariant next)
    (lasts : ∀ {state action next}, Invariant state → Violated state →
      step state action = some next → Violated next)
    (begins : ∀ {state action next}, Invariant state → ¬ Violated state →
      step state action = some next → (Violated next ↔ ¬ condition state action))
    {state final : State} {actions : List Action} (start : Invariant state)
    (whole : ¬ Violated state) (ran : run step state actions = some final) :
    ¬ Violated final ↔ Along step condition state actions := by
  induction actions generalizing state with
  | nil =>
      rw [run_nil, Option.some.injEq] at ran
      exact iff_of_true (ran ▸ whole) trivial
  | cons action rest ih =>
      obtain ⟨next, moved, after⟩ := run_cons.mp ran
      rw [along_cons moved]
      by_cases violated : Violated next
      · have both {state next : State} {action : Action} (before : Invariant state ∧ Violated state)
            (moved : step state action = some next) : Invariant next ∧ Violated next :=
          ⟨keeps before.1 moved, lasts before.1 before.2 moved⟩
        have remains := run_invariant both ⟨keeps start moved, violated⟩ after
        have missed := (begins start whole moved).mp violated
        exact iff_of_false (not_not_intro remains.2) fun met => missed met.1
      · have met : condition state action :=
          not_not.mp (mt (begins start whole moved).mpr violated)
        rw [ih (keeps start moved) violated after]
        exact (and_iff_right met).symm

/-- A property holds in every state that a run reaches exactly when every step meets the condition,
if the steps that keep the property are exactly those that meet the condition. -/
theorem always_iff {condition : State → Action → Prop} {Invariant Holds : State → Prop}
    (keeps : ∀ {state action next}, Invariant state → step state action = some next →
      Invariant next)
    (exactly : ∀ {state action next}, Invariant state → Holds state →
      step state action = some next → (Holds next ↔ condition state action))
    {state final : State} {actions : List Action} (start : Invariant state) (holds : Holds state)
    (ran : run step state actions = some final) :
    (∀ before reached, before <+: actions → run step state before = some reached → Holds reached) ↔
      Along step condition state actions := by
  induction actions generalizing state with
  | nil =>
      refine iff_of_true ?_ trivial
      intro before reached early there
      rw [List.prefix_nil.mp early, run_nil, Option.some.injEq] at there
      exact there ▸ holds
  | cons action rest ih =>
      obtain ⟨next, moved, after⟩ := run_cons.mp ran
      rw [along_cons moved, ← exactly start holds moved]
      constructor
      · intro always
        have first : Holds next :=
          always [action] next (List.prefix_iff_eq_append.mpr rfl) (run_cons.mpr ⟨next, moved, rfl⟩)
        refine ⟨first, (ih (keeps start moved) first after).mp ?_⟩
        intro before reached early there
        exact always (action :: before) reached (List.cons_prefix_cons.mpr ⟨rfl, early⟩)
          (run_cons.mpr ⟨next, moved, there⟩)
      · rintro ⟨first, along⟩ before reached early there
        cases before with
        | nil =>
            rw [run_nil, Option.some.injEq] at there
            exact there ▸ holds
        | cons entry before =>
            obtain ⟨rfl, shorter⟩ := List.cons_prefix_cons.mp early
            obtain ⟨other, also, there⟩ := run_cons.mp there
            obtain rfl := Option.some.inj (moved.symm.trans also)
            exact (ih (keeps start moved) first after).mpr along before reached shorter there

/-- Actions that do not concern an observer keep its view. -/
theorem run_unconcerned {View : Type*} (view : State → View) {concerns : Action → Bool}
    (respects : ∀ {state action next}, concerns action = false → step state action = some next →
      view next = view state)
    {state final : State} {actions : List Action} (quiet : actions.filter concerns = [])
    (ran : run step state actions = some final) : view final = view state := by
  rw [List.filter_eq_nil_iff] at quiet
  induction actions generalizing state with
  | nil =>
      rw [run_nil, Option.some.injEq] at ran
      rw [ran]
  | cons action rest ih =>
      obtain ⟨next, moved, after⟩ := run_cons.mp ran
      have silent : concerns action = false := by simpa using quiet action List.mem_cons_self
      rw [ih (fun entry member => quiet entry (List.mem_cons_of_mem _ member)) after,
        respects silent moved]

/-- Two runs give an observer the same view if they agree on the actions that concern it. The other
actions keep the view, and after an action that concerns the observer its view depends only on its
view before. -/
theorem run_view {View : Type*} (view : State → View) {concerns : Action → Bool}
    (respects : ∀ {state action next}, concerns action = false → step state action = some next →
      view next = view state)
    (consistent : ∀ {first second action next other}, concerns action = true →
      view first = view second → step first action = some next →
      step second action = some other → view next = view other)
    {first second final other : State} {actions others : List Action}
    (same : view first = view second) (agree : actions.filter concerns = others.filter concerns)
    (ran : run step first actions = some final) (also : run step second others = some other) :
    view final = view other := by
  induction actions generalizing first second others with
  | nil =>
      rw [run_nil, Option.some.injEq] at ran
      rw [← ran, same, run_unconcerned view respects agree.symm also]
  | cons action rest ih =>
      obtain ⟨next, moved, after⟩ := run_cons.mp ran
      cases concerned : concerns action with
      | false =>
          rw [List.filter_cons_of_neg (by rw [concerned]; exact Bool.false_ne_true)] at agree
          exact ih ((respects concerned moved).trans same) agree after also
      | true =>
          -- The second run reaches the same action after actions that do not concern the observer.
          rw [List.filter_cons_of_pos concerned] at agree
          obtain ⟨before, later, rfl, quiet, -, agrees⟩ := List.filter_eq_cons_iff.mp agree.symm
          obtain ⟨middle, earlier, remaining⟩ := run_append.mp also
          obtain ⟨reached, repeated, done⟩ := run_cons.mp remaining
          have kept : view middle = view second :=
            run_unconcerned view respects (List.filter_eq_nil_iff.mpr quiet) earlier
          have start : view first = view middle := same.trans kept.symm
          exact ih (consistent concerned start moved repeated) agrees.symm after done

/-- A component of a machine is left in a state that a run of its own reaches, if every step moves it
by steps of its own, each of which has its origin in the machine's action. -/
theorem run_component {Part Own : Type*} {own : Part → Own → Option Part} (part : State → Part)
    (Origin : Own → Action → Prop)
    (moves : ∀ {state action next}, step state action = some next → ∃ taken,
      run own (part state) taken = some (part next) ∧ ∀ entry ∈ taken, Origin entry action)
    {state final : State} {actions : List Action} (ran : run step state actions = some final) :
    ∃ taken, run own (part state) taken = some (part final) ∧
      ∀ entry ∈ taken, ∃ action ∈ actions, Origin entry action := by
  induction actions generalizing state with
  | nil =>
      rw [run_nil, Option.some.injEq] at ran
      exact ⟨[], congrArg (some ∘ part) ran, nofun⟩
  | cons action rest ih =>
      obtain ⟨next, moved, after⟩ := run_cons.mp ran
      obtain ⟨first, reached, origins⟩ := moves moved
      obtain ⟨later, done, remaining⟩ := ih after
      refine ⟨first ++ later, run_append.mpr ⟨part next, reached, done⟩, fun entry member => ?_⟩
      rcases List.mem_append.mp member with early | late
      · exact ⟨action, List.mem_cons_self, origins entry early⟩
      · obtain ⟨origin, member, same⟩ := remaining entry late
        exact ⟨origin, List.mem_cons_of_mem _ member, same⟩

end Machine
