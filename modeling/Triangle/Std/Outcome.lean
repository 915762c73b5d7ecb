import Mathlib.Algebra.Ring.Int.Defs
import Mathlib.Algebra.Ring.Nat
import Mathlib.Data.List.Basic

/-!
# Checked computations

A function that throws is a function into `Except`. `require` is its usual
guard, `if (!condition) throw error`, and `expect` the guard that also reads a
value. The lemmas peel a successful block apart, guard by guard and bind by
bind, without unfolding anything else.
-/

namespace Triangle.Std

variable {ε α β : Type}

/-- Throw `error` unless the condition holds. -/
def require (condition : Prop) [Decidable condition] (error : ε) : Except ε Unit :=
  if condition then .ok () else .error error

variable {condition : Prop} {error : ε} {rest : α → Except ε β} {result : β}

/-- `require` on its own succeeds exactly when the condition holds. -/
@[simp] theorem require_ok [Decidable condition] :
    require condition error = .ok () ↔ condition := by
  by_cases holds : condition
  · simp [require, holds]
  · simp [require, holds]

/-- A block that starts with `require` succeeds exactly when the condition holds
and the rest succeeds. -/
@[simp] theorem require_bind_ok [Decidable condition] {rest : Unit → Except ε α} {result : α} :
    (require condition error >>= rest) = .ok result ↔ condition ∧ rest () = .ok result := by
  by_cases holds : condition
  · simp [require, holds, bind, Except.bind]
  · simp [require, holds, bind, Except.bind]

/-- The value, or throw `error` when there is none. -/
def expect (value? : Option α) (error : ε) : Except ε α :=
  match value? with
  | some value => .ok value
  | none => .error error

/-- A block that starts with `expect` succeeds exactly when there is a value and
the rest succeeds with it. -/
@[simp] theorem expect_bind_ok {value? : Option α} :
    (expect value? error >>= rest) = .ok result ↔
      ∃ value, value? = some value ∧ rest value = .ok result := by
  cases value? <;> simp [expect, bind, Except.bind]

/-- A bind succeeds exactly when its first part does and the rest does with its value. -/
theorem bind_ok (first : Except ε α) :
    (first >>= rest) = .ok result ↔ ∃ value, first = .ok value ∧ rest value = .ok result := by
  cases first <;> simp [bind, Except.bind]

/-- A mapped computation succeeds with the image of what it computed. -/
theorem map_ok {first : Except ε α} {change : α → β} (succeeded : first.map change = .ok result) :
    ∃ value, first = .ok value ∧ change value = result := by
  cases first with
  | error problem => cases succeeded
  | ok value => exact ⟨value, rfl, Except.ok.inj succeeded⟩

/-- What is returned as a pair is returned part by part. -/
theorem pair_ok {first value : α} {second other : β}
    (same : (.ok (first, second) : Except ε (α × β)) = .ok (value, other)) :
    first = value ∧ second = other :=
  Prod.mk.inj (Except.ok.inj same)

/-- A block whose first part returned is its rest. -/
theorem ok_bind (value : α) (rest : α → Except ε β) : (Except.ok value >>= rest) = rest value :=
  rfl

/-- Mapping a block maps what its rest returns. -/
theorem map_bind (first : Except ε α) {γ : Type} {change : β → γ} :
    (first >>= rest).map change = first >>= fun value => (rest value).map change := by
  cases first <;> rfl

/-- Returning a value succeeds with exactly that value. -/
@[simp] theorem pure_ok {value result : α} :
    (pure value : Except ε α) = .ok result ↔ value = result := by
  simp [pure, Except.pure]

end Triangle.Std
