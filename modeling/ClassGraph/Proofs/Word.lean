import ClassGraph.Word
import Mathlib.Algebra.GroupWithZero.Nat

/-!
# Checked runs

Counts are checked at every addition, and a run of additions stops at the first that does not fit.
Since counts only grow, it makes no difference where the check stands: **a run that checks every
step is the unchecked run with one check at its end** (`foldlM_eq_checked`). Every sum and every
counter of this library is such a run, so their failures are read off their exact results.
-/

set_option autoImplicit false

namespace ClassGraph

variable {σ ι : Type}

/-- A computation in two stages returns exactly when both do. -/
theorem bind_eq_ok_iff {ε α β : Type} {x : Except ε α} {f : α → Except ε β} {b : β} :
    x >>= f = .ok b ↔ ∃ a, x = .ok a ∧ f a = .ok b := by
  cases x with
  | error e =>
    constructor
    · intro h
      cases h
    · rintro ⟨a, ha, -⟩
      cases ha
  | ok a =>
    constructor
    · intro h
      exact ⟨a, rfl, h⟩
    · rintro ⟨a', ha, h⟩
      cases ha
      exact h

theorem eq_ok_of_toOption {ε α : Type} {x : Except ε α} {a : α} (h : x.toOption = some a) :
    x = .ok a := by
  cases x with
  | error e => cases h
  | ok b => exact congrArg Except.ok (Option.some.inj h)

theorem exists_eq_ok_of_isOk {ε α : Type} {x : Except ε α} (h : x.isOk = true) : ∃ a, x = .ok a := by
  cases x with
  | error e => cases h
  | ok a => exact ⟨a, rfl⟩

/-- The state, if it fits; a state that does not fit comes from an addition. -/
def checked (P : σ → Prop) [DecidablePred P] (s : σ) : Except Overflow σ :=
  if P s then .ok s else .error .add

theorem checked_eq_ok_iff {P : σ → Prop} [DecidablePred P] {s s' : σ} :
    checked P s = .ok s' ↔ P s ∧ s' = s := by
  unfold checked
  split
  · next h => simp [h, eq_comm]
  · next h => simp [h]

theorem checked_of_pos {P : σ → Prop} [DecidablePred P] {s : σ} (h : P s) : checked P s = .ok s :=
  if_pos h

theorem checked_of_neg {P : σ → Prop} [DecidablePred P] {s : σ} (h : ¬ P s) :
    checked P s = .error .add :=
  if_neg h

theorem checked_congr {P Q : σ → Prop} [DecidablePred P] [DecidablePred Q] {s : σ}
    (h : P s ↔ Q s) : checked P s = checked Q s := by
  by_cases hp : P s
  · rw [checked_of_pos hp, checked_of_pos (h.mp hp)]
  · rw [checked_of_neg hp, checked_of_neg (fun hq => hp (h.mpr hq))]

/-- Two checks, one after the other, are one check of both. -/
theorem checked_bind_checked {τ : Type} {P : σ → Prop} {Q : σ → τ → Prop} [DecidablePred P]
    [∀ s, DecidablePred (Q s)] (f : σ → τ) (s : σ) :
    (checked P s >>= fun s => checked (Q s) (f s)) = checked (fun t => P s ∧ Q s t) (f s) := by
  by_cases hp : P s
  · rw [checked_of_pos hp]
    exact checked_congr (by simp [hp])
  · rw [checked_of_neg hp, checked_of_neg (fun h => hp h.1)]
    rfl

theorem of_foldl {P : σ → Prop} {next : σ → ι → σ} (hmono : ∀ s x, P (next s x) → P s)
    (xs : List ι) {s : σ} (h : P (xs.foldl next s)) : P s := by
  induction xs generalizing s with
  | nil => exact h
  | cons x xs ih => exact hmono s x (ih h)

/-- **Checking every step is checking once.** `next` is a step without its check, and `hmono` says
    that steps only move away from what fits. -/
theorem foldlM_eq_checked {P : σ → Prop} [DecidablePred P] {step : σ → ι → Except Overflow σ}
    {next : σ → ι → σ} (hstep : ∀ s x, P s → step s x = checked P (next s x))
    (hmono : ∀ s x, P (next s x) → P s) (xs : List ι) {s : σ} (h : P s) :
    xs.foldlM step s = checked P (xs.foldl next s) := by
  induction xs generalizing s with
  | nil => exact (checked_of_pos h).symm
  | cons x xs ih =>
    rw [List.foldlM_cons, hstep s x h, List.foldl_cons]
    by_cases hx : P (next s x)
    · rw [checked_of_pos hx]
      exact ih hx
    · -- The run stops here, and no later state fits either.
      rw [checked_of_neg hx, checked_of_neg (fun hp => hx (of_foldl hmono xs hp))]
      rfl

namespace Word

theorem add_eq_checked (a b : Nat) : add a b = checked (· < bound) (a + b) := rfl

theorem sum_eq_checked (ns : List Nat) : sum ns = checked (· < bound) ns.sum := by
  have h := foldlM_eq_checked (P := (· < bound)) (fun a b _ => add_eq_checked a b)
    (fun a b hab => Nat.lt_of_le_of_lt (Nat.le_add_right a b) hab) ns (s := 0) (by decide)
  rw [← List.sum_eq_foldl_nat] at h
  exact h

theorem sum_eq_ok_iff {ns : List Nat} {n : Nat} :
    sum ns = .ok n ↔ ns.sum < bound ∧ n = ns.sum := by
  rw [sum_eq_checked, checked_eq_ok_iff]

theorem sum_ones_eq_ok_iff {α : Type} {xs : List α} {n : Nat} :
    sum (xs.map fun _ => 1) = .ok n ↔ xs.length < bound ∧ n = xs.length := by
  rw [sum_eq_ok_iff, List.map_const', List.sum_replicate_nat, Nat.mul_one]

end Word

end ClassGraph
