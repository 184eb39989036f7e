import Tunnix.Crypto
import Tunnix.Library.Machine
import Tunnix.Library.Table
import Mathlib.Data.List.Pairwise
import Mathlib.Algebra.Group.Nat.Defs

namespace Tunnix.Nonces
variable {Key : Type}

/-- A call of `encrypt` on one instance uses one nonce under one key. -/
structure Call (Key : Type) where
  handle : Nat
  key : Key
  counter : UInt64
  nonce : Bytes
deriving DecidableEq, Repr

/-- Instances are numbered in the order in which all processes create them. The calls are recorded
in the order in which they fetch their counters. -/
structure State (Key : Type) where
  instances : List (Crypto Key)
  calls : List (Call Key)
deriving DecidableEq, Repr

/-- A process that starts or restarts, and a reload of the password, create an instance. Any task
that holds an instance encrypts with it. -/
inductive Action where
  | new (password : String)
  | encrypt (handle : Nat) (random : Random) (plaintext : Bytes)
deriving DecidableEq, Repr

def State.start : State Key := ⟨[], []⟩

def step (primitives : Primitives Key) (state : State Key) : Action → Option (State Key)
  | .new password =>
      match Crypto.new primitives password with
      | .ok crypto => some { state with instances := state.instances ++ [crypto] }
      | .error _ => some state
  | .encrypt handle random plaintext =>
      match state.instances[handle]? with
      | none => none
      | some crypto => some
          { instances := state.instances.modify handle fun crypto =>
              (crypto.encrypt primitives random plaintext).2
            calls := state.calls ++
              [⟨handle, crypto.key, crypto.nonceCounter, (crypto.generateNonce random).1⟩] }

/-- No two calls under one key use the same nonce. -/
def UniqueNonces (calls : List (Call Key)) : Prop :=
  calls.Pairwise fun first second => first.key = second.key → first.nonce ≠ second.nonce

/-- These are the keys of the instances. -/
def created (primitives : Primitives Key) (actions : List Action) : List Key :=
  actions.filterMap fun
    | .new password => (primitives.deriveKey password).toOption
    | .encrypt .. => none

/-- These random bytes are drawn for the calls on one instance. -/
def draws (handle : Nat) (actions : List Action) : List Random :=
  actions.filterMap fun
    | .encrypt other random _ => if other = handle then some random else none
    | .new _ => none

/-- Two instances that hold one key never draw the same random bytes for calls at the same place. -/
def RandomApart (primitives : Primitives Key) (actions : List Action) : Prop :=
  ∀ (first second place : Nat) (random : Random), first ≠ second →
    (created primitives actions)[first]? = (created primitives actions)[second]? →
    (draws first actions)[place]? = some random → (draws second actions)[place]? ≠ some random

/-- Every instance counts its calls. -/
structure Counted (primitives : Primitives Key) (history : List Action) (state : State Key) :
    Prop where
  keys : state.instances.map Crypto.key = created primitives history
  counters : ∀ handle crypto, state.instances[handle]? = some crypto →
    crypto.nonceCounter.toNat = (draws handle history).length
  unborn : ∀ handle, state.instances.length ≤ handle → draws handle history = []
  recorded : ∀ call ∈ state.calls, ∃ random,
    (created primitives history)[call.handle]? = some call.key ∧
    (draws call.handle history)[call.counter.toNat]? = some random ∧
    call.nonce = Crypto.nonce call.counter random
  called : ∀ (handle place : Nat) (random : Random), (draws handle history)[place]? = some random →
    ∃ call ∈ state.calls, call.handle = handle ∧ call.counter.toNat = place
  distinct : state.calls.Pairwise fun first second =>
    first.handle = second.handle → first.counter ≠ second.counter

section History
variable {primitives : Primitives Key} {history : List Action} {state next : State Key}

theorem created_append (action : Action) : created primitives (history ++ [action]) =
    created primitives history ++ created primitives [action] :=
  List.filterMap_append

theorem created_new (password : String) : created primitives (history ++ [.new password]) =
    created primitives history ++ (primitives.deriveKey password).toOption.toList := by
  rw [created_append, List.append_cancel_left_eq]
  cases derived : primitives.deriveKey password with
  | error error => exact List.filterMap_cons_none (congrArg Except.toOption derived)
  | ok key => exact List.filterMap_cons_some (congrArg Except.toOption derived)

theorem draws_append (handle : Nat) (action : Action) : draws handle (history ++ [action]) =
    draws handle history ++ draws handle [action] :=
  List.filterMap_append

/-- An instance that is created has not been used. -/
theorem Counted.new (counted : Counted primitives history state) {password : String}
    (moved : step primitives state (.new password) = some next) :
    Counted primitives (history ++ [.new password]) next := by
  have undrawn (handle : Nat) : draws handle (history ++ [.new password]) = draws handle history := by
    rw [draws_append]
    exact List.append_nil _
  rw [step] at moved
  split at moved
  · next crypto made =>
      obtain ⟨derived, zero⟩ := Crypto.new_ok made
      have grown : created primitives (history ++ [.new password]) =
          created primitives history ++ [crypto.key] := by
        rw [created_new, derived]
        rfl
      cases moved
      refine ⟨?_, ?_, ?_, ?_, ?_, counted.distinct⟩
      · rw [List.map_append, counted.keys, grown]
        rfl
      · intro handle crypto' found
        rw [undrawn]
        rcases Table.concat_iff.mp found with old | ⟨rfl, rfl⟩
        · exact counted.counters handle crypto' old
        · rw [zero, counted.unborn _ (Nat.le_refl _)]
          rfl
      · intro handle outside
        rw [List.length_append] at outside
        rw [undrawn]
        exact counted.unborn handle (Nat.le_of_add_right_le outside)
      · intro call member
        obtain ⟨random, key, drawn, nonce⟩ := counted.recorded call member
        rw [grown, undrawn]
        exact ⟨random, Table.append_of key, drawn, nonce⟩
      · intro handle place random drawn
        rw [undrawn] at drawn
        exact counted.called handle place random drawn
  · next error failed =>
      cases moved
      have same : created primitives (history ++ [.new password]) = created primitives history := by
        rw [created_new, Crypto.new_error failed]
        exact List.append_nil _
      exact ⟨by rw [same]; exact counted.keys, by simpa only [undrawn] using counted.counters,
        by simpa only [undrawn] using counted.unborn,
        by simpa only [undrawn, same] using counted.recorded,
        by simpa only [undrawn] using counted.called, counted.distinct⟩

theorem created_encrypt (handle : Nat) (random : Random) (plaintext : Bytes) :
    created primitives (history ++ [.encrypt handle random plaintext]) =
      created primitives history := by
  rw [created_append]
  exact List.append_nil _

/-- A call draws bytes for its own instance alone. -/
theorem draws_own (handle : Nat) (random : Random) (plaintext : Bytes) :
    draws handle (history ++ [.encrypt handle random plaintext]) =
      draws handle history ++ [random] := by
  rw [draws_append, List.append_cancel_left_eq]
  exact List.filterMap_cons_some (if_pos rfl)

theorem draws_other {handle other : Nat} (apart : handle ≠ other) (random : Random)
    (plaintext : Bytes) :
    draws other (history ++ [.encrypt handle random plaintext]) = draws other history := by
  rw [draws_append, List.append_right_eq_self]
  exact List.filterMap_cons_none (if_neg apart)

/-- The calls so far on an instance have smaller counters than the next one. -/
theorem Counted.below (counted : Counted primitives history state) {handle : Nat}
    {crypto : Crypto Key} (found : state.instances[handle]? = some crypto) {call : Call Key}
    (member : call ∈ state.calls) (on : call.handle = handle) :
    call.counter.toNat < crypto.nonceCounter.toNat := by
  obtain ⟨random, -, drawn, -⟩ := counted.recorded call member
  rw [on] at drawn
  rw [counted.counters handle crypto found]
  exact (List.getElem?_eq_some_iff.mp drawn).1

/-- An instance that does not exist has no calls, and a call does not change this. -/
theorem Counted.unborn_encrypt (counted : Counted primitives history state) {handle : Nat}
    {crypto : Crypto Key} (found : state.instances[handle]? = some crypto) (random : Random)
    (plaintext : Bytes) {other : Nat} (outside : state.instances.length ≤ other) :
    draws other (history ++ [.encrypt handle random plaintext]) = [] := by
  have apart : handle ≠ other := by
    rintro rfl
    rw [List.getElem?_eq_none outside] at found
    contradiction
  rw [draws_other apart]
  exact counted.unborn other outside

/-- A call takes the next place among the calls on its instance. -/
theorem Counted.encrypt (counted : Counted primitives history state) {handle : Nat}
    {random : Random} {plaintext : Bytes}
    (few : (draws handle (history ++ [.encrypt handle random plaintext])).length < 2 ^ 64)
    (moved : step primitives state (.encrypt handle random plaintext) = some next) :
    Counted primitives (history ++ [.encrypt handle random plaintext]) next := by
  have same : created primitives (history ++ [.encrypt handle random plaintext]) =
      created primitives history := created_encrypt handle random plaintext
  have own : draws handle (history ++ [.encrypt handle random plaintext]) =
      draws handle history ++ [random] := draws_own handle random plaintext
  rw [step] at moved
  split at moved
  · contradiction
  · next crypto found =>
      have count := counted.counters handle crypto found
      rw [own, List.length_append, ← count] at few
      cases moved
      constructor
      case keys =>
        rw [same, ← counted.keys]
        refine Table.map_modify (fun crypto => ?_) _ _
        rw [Crypto.encrypt_snd]
      case counters =>
        intro other crypto' now
        rcases Table.modify_cases now with ⟨before, was, rfl, rfl⟩ | ⟨was, apart⟩
        · rw [found, Option.some.injEq] at was
          rw [own, List.length_append, ← count, Crypto.encrypt_snd, ← was]
          exact (UInt64.toNat_add _ _).trans (Nat.mod_eq_of_lt few)
        · rw [draws_other apart]
          exact counted.counters other crypto' was
      case unborn =>
        intro other outside
        rw [List.length_modify] at outside
        exact counted.unborn_encrypt found random plaintext outside
      case recorded =>
        intro call member
        rcases List.mem_append.mp member with old | new
        · obtain ⟨random', key, drawn', nonce⟩ := counted.recorded call old
          refine ⟨random', same ▸ key, ?_, nonce⟩
          rw [draws_append]
          exact Table.append_of drawn'
        · rw [List.mem_singleton] at new
          subst new
          refine ⟨random, ?_, ?_, rfl⟩
          · rw [same, ← counted.keys, List.getElem?_map, found]
            rfl
          · rw [own, count, List.getElem?_concat_length]
      case called =>
        intro other place random' drawn
        by_cases on : handle = other
        · rw [← on, own] at drawn
          rcases Table.concat_iff.mp drawn with old | ⟨rfl, -⟩
          · obtain ⟨call, member, handled, placed⟩ := counted.called handle place random' old
            exact ⟨call, List.mem_append_left _ member, handled.trans on, placed⟩
          · exact ⟨_, List.mem_append_right _ (List.mem_singleton_self _), on, count⟩
        · rw [draws_other on] at drawn
          obtain ⟨call, member, found⟩ := counted.called other place random' drawn
          exact ⟨call, List.mem_append_left _ member, found⟩
      case distinct =>
        refine List.pairwise_append.mpr ⟨counted.distinct, List.pairwise_singleton _ _, ?_⟩
        intro call member last only on counters
        rw [List.mem_singleton] at only
        subst only
        have below := counted.below found member on
        rw [counters] at below
        exact Nat.lt_irrefl _ below

theorem Counted.start : Counted primitives [] .start :=
  ⟨rfl, nofun, fun _ _ => rfl, nofun, nofun, .nil⟩

/-- Every instance counts its calls in every run, if none of them gets too many. -/
theorem counted_of_run {actions : List Action}
    (few : ∀ handle, (draws handle actions).length < 2 ^ 64)
    (ran : Machine.run (step primitives) .start actions = some state) :
    Counted primitives actions state := by
  refine Machine.run_history (fun history state =>
    (∀ handle, (draws handle history).length < 2 ^ 64) → Counted primitives history state)
    ?_ (fun _ => Counted.start) ran few
  intro history state action next counted moved few
  have fewer (handle : Nat) : (draws handle history).length < 2 ^ 64 := by
    have bound := few handle
    rw [draws_append, List.length_append] at bound
    omega
  cases action with
  | new password => exact (counted fewer).new moved
  | encrypt handle random plaintext => exact (counted fewer).encrypt (few handle) moved

end History

/-- The nonces under each key are distinct exactly when no two instances that hold it draw the same
random bytes at the same place of their calls. -/
theorem unique_nonces_iff {primitives : Primitives Key} {actions : List Action}
    {state : State Key} (few : ∀ handle, (draws handle actions).length < 2 ^ 64)
    (ran : Machine.run (step primitives) .start actions = some state) :
    UniqueNonces state.calls ↔ RandomApart primitives actions := by
  have counted := counted_of_run few ran
  constructor
  · intro unique first second place random apart keys drawn drawn'
    obtain ⟨call, member, rfl, counter⟩ := counted.called first place random drawn
    obtain ⟨call', member', rfl, counter'⟩ := counted.called second place random drawn'
    have symmetric : Std.Symm fun first second : Call Key =>
        first.key = second.key → first.nonce ≠ second.nonce :=
      ⟨fun _ _ differ same => (differ same.symm).symm⟩
    have other : call ≠ call' := fun same => apart (congrArg Call.handle same)
    obtain ⟨random', key, place_, nonce⟩ := counted.recorded call member
    obtain ⟨random'', key', place_', nonce'⟩ := counted.recorded call' member'
    rw [counter, drawn, Option.some.injEq] at place_
    rw [counter', drawn', Option.some.injEq] at place_'
    rw [key, key', Option.some.injEq] at keys
    apply unique.forall member member' other keys
    rw [nonce, nonce', UInt64.toNat_inj.mp (counter.trans counter'.symm), ← place_, ← place_']
  · intro apart
    refine counted.distinct.imp_of_mem ?_
    intro call call' member member' distinct keys nonces
    obtain ⟨random, key, drawn, nonce⟩ := counted.recorded call member
    obtain ⟨random', key', drawn', nonce'⟩ := counted.recorded call' member'
    rw [nonce, nonce'] at nonces
    obtain ⟨counters, rfl⟩ := Crypto.nonce_inj nonces
    have other : call.handle ≠ call'.handle := fun same => distinct same counters
    rw [← counters] at drawn'
    exact apart _ _ _ _ other (by rw [key, key', keys]) drawn drawn'

/-- Two instances hold one key, and they draw different bytes for their first calls. -/
theorem unique_nonces_of_two_instances : ∃ (primitives : Primitives String) (actions : List Action)
    (state : State String), Machine.run (step primitives) .start actions = some state ∧
      state.calls.length = 2 ∧ UniqueNonces state.calls := by
  let primitives : Primitives String := ⟨.ok, fun _ _ plaintext => some plaintext⟩
  let actions : List Action := [.new "secret", .encrypt 0 #v[1, 2, 3, 4] [], .new "secret",
    .encrypt 1 #v[5, 6, 7, 8] []]
  have ran : ∃ state, Machine.run (step primitives) .start actions = some state ∧
      state.calls.length = 2 := ⟨_, rfl, rfl⟩
  obtain ⟨state, ran, calls⟩ := ran
  have few (handle : Nat) : (draws handle actions).length < 2 ^ 64 :=
    Nat.lt_of_le_of_lt (List.length_filterMap_le _ _) (by decide)
  refine ⟨primitives, actions, state, ran, calls, (unique_nonces_iff few ran).mpr ?_⟩
  have only (handle place : Nat) (random : Random)
      (drawn : (draws handle actions)[place]? = some random) :
      handle = 0 ∧ random = #v[1, 2, 3, 4] ∨ handle = 1 ∧ random = #v[5, 6, 7, 8] := by
    have member := List.mem_of_getElem? drawn
    rcases handle with _ | _ | handle
    · exact .inl ⟨rfl, List.mem_singleton.mp member⟩
    · exact .inr ⟨rfl, List.mem_singleton.mp member⟩
    · exact absurd member List.not_mem_nil
  rintro first second place random apart - drawn drawn'
  rcases only _ _ _ drawn with ⟨rfl, rfl⟩ | ⟨rfl, rfl⟩ <;>
    rcases only _ _ _ drawn' with ⟨rfl, differ⟩ | ⟨rfl, differ⟩
  · exact apart rfl
  · exact absurd differ (by decide)
  · exact absurd differ (by decide)
  · exact apart rfl

/-- A client that restarts with its password draws the random bytes of its first call once more. It
encrypts twice with one nonce under one key. -/
theorem restart_repeats_nonce : ∃ (primitives : Primitives String) (actions : List Action)
    (state : State String), Machine.run (step primitives) .start actions = some state ∧
      state.calls.map Call.key = ["secret", "secret"] ∧
      state.calls.map Call.nonce = [[0, 0, 0, 0, 0, 0, 0, 0, 1, 2, 3, 4],
        [0, 0, 0, 0, 0, 0, 0, 0, 1, 2, 3, 4]] ∧ ¬ UniqueNonces state.calls := by
  let primitives : Primitives String := ⟨.ok, fun _ _ plaintext => some plaintext⟩
  refine ⟨primitives, [.new "secret", .encrypt 0 #v[1, 2, 3, 4] [], .new "secret",
    .encrypt 1 #v[1, 2, 3, 4] []], _, rfl, rfl, by decide, fun unique => ?_⟩
  have differ := (List.pairwise_cons.mp unique).1 _ (List.mem_singleton_self _) rfl
  exact differ rfl

end Tunnix.Nonces
