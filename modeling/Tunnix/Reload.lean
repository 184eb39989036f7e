import Tunnix.Config

namespace Tunnix
variable {Key : Type}

/-- A changed field is named in the log. -/
def changedField (differs : Bool) (name : String) : List String := if differs then [name] else []

theorem changedField_nil {differs : Bool} {name : String} :
    changedField differs name = [] ↔ differs = false := by
  cases differs <;> simp [changedField]

/-- Both watchers derive a password unless it was set on the command line, is empty or was stored
last. -/
def newCrypto (env : Env Key) (overridden : Bool) (lastPassword : String) (id : Nat)
    (password : String) : Option (Instance String) :=
  if !overridden && password != "" && password != lastPassword then
    match Crypto.new env.primitives password with
    | .ok _ => some ⟨id, password⟩
    | .error _ => none
  else none

section NewCrypto
variable {env : Env Key} {overridden : Bool} {lastPassword password : String} {id : Nat}

/-- The new instance is derived from the password of the version. -/
theorem newCrypto_some {crypto : Instance String}
    (found : newCrypto env overridden lastPassword id password = some crypto) :
    overridden = false ∧ crypto.source = password ∧ password ≠ "" ∧
      env.derives password = true := by
  unfold newCrypto at found
  split at found
  · next new =>
      simp only [Bool.and_eq_true, Bool.not_eq_true', bne_iff_ne] at new
      split at found
      · next derived =>
          cases found
          refine ⟨new.1.1, rfl, new.1.2, ?_⟩
          rw [Env.derives, derived]
          rfl
      · cases found
  · cases found

/-- There is no new instance exactly if one of the four conditions fails. -/
theorem newCrypto_none : newCrypto env overridden lastPassword id password = none ↔
    overridden = true ∨ password = "" ∨ password = lastPassword ∨
      env.derives password = false := by
  unfold newCrypto Env.derives
  cases overridden with
  | true => simp
  | false =>
      by_cases empty : password = ""
      · simp [empty]
      · by_cases last : password = lastPassword
        · simp [last]
        · cases Crypto.new env.primitives password with
          | ok => simp [empty, last, Except.isOk, Except.toBool]
          | error => simp [empty, last, Except.isOk, Except.toBool]

/-- The instance in force stays derivable. -/
theorem derives_getD {current : Instance String}
    (keyed : current.source ≠ "" ∧ env.derives current.source = true) :
    ((newCrypto env overridden lastPassword id password).getD current).source ≠ "" ∧
      env.derives ((newCrypto env overridden lastPassword id password).getD current).source =
        true := by
  cases found : newCrypto env overridden lastPassword id password with
  | none => exact keyed
  | some crypto =>
      obtain ⟨-, source, some_, derives⟩ := newCrypto_some found
      rw [Option.getD_some, source]
      exact ⟨some_, derives⟩

/-- The password that was stored last is in force if it can be derived at all. -/
def LastInForce (env : Env Key) (lastPassword : String) (current : Instance String) : Prop :=
  lastPassword ≠ "" → env.derives lastPassword = true → current.source = lastPassword

/-- After a version without a password on the command line, its own password is in force. -/
theorem LastInForce.next {current : Instance String} (last : LastInForce env lastPassword current)
    (unset : overridden = false) :
    LastInForce env password
      ((newCrypto env overridden lastPassword id password).getD current) := by
  intro some_ derives
  cases found : newCrypto env overridden lastPassword id password with
  | some crypto => exact (newCrypto_some found).2.1
  | none =>
      rcases newCrypto_none.mp found with given | empty | same | failed
      · rw [unset] at given
        cases given
      · exact absurd empty some_
      · rw [same] at some_ derives ⊢
        exact last some_ derives
      · rw [derives] at failed
        cases failed

end NewCrypto

end Tunnix
