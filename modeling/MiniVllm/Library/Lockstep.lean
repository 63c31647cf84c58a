import Mathlib.Tactic

/-! Steps that may fail, taken a number of times, and two such systems in lockstep. -/

namespace MiniVllm

variable {σ τ ε δ : Type}

def steps (f : σ → Except ε σ) (k : ℕ) (s : σ) : Except ε σ := (· >>= f)^[k] (.ok s)

@[simp] lemma steps_zero (f : σ → Except ε σ) (s : σ) : steps f 0 s = .ok s := rfl

lemma steps_succ (f : σ → Except ε σ) (k : ℕ) (s : σ) : steps f (k + 1) s = steps f k s >>= f :=
  Function.iterate_succ_apply' _ k _

lemma steps_one (f : σ → Except ε σ) (s : σ) : steps f 1 s = f s := rfl

lemma steps_error {f : σ → Except ε σ} {s : σ} {err : ε} (h : f s = .error err) (k : ℕ) :
    steps f (k + 1) s = .error err := by
  induction k with
  | zero => exact h
  | succ k ih =>
    rw [steps_succ, ih]
    rfl

inductive Lockstep (E : ε → δ → Prop) (R : σ → τ → Prop) : Except ε σ → Except δ τ → Prop
  | failed {err : ε} {err' : δ} (h : E err err') : Lockstep E R (.error err) (.error err')
  | returned {s : σ} {t : τ} (h : R s t) : Lockstep E R (.ok s) (.ok t)

section Steps

variable {E : ε → δ → Prop} {R : ℕ → σ → τ → Prop} {f : σ → Except ε σ} {g : τ → Except δ τ}

lemma Lockstep.bind {k : ℕ} {r : Except ε σ} {r' : Except δ τ} (h : Lockstep E (R k) r r')
    (hstep : ∀ s t, R k s t → Lockstep E (R (k + 1)) (f s) (g t)) :
    Lockstep E (R (k + 1)) (r >>= f) (r' >>= g) := by
  cases h with
  | failed herr => exact .failed herr
  | returned hr => exact hstep _ _ hr

/-- The run rule: what each step keeps relates the systems after any number of steps; `R` may count them. -/
theorem lockstep_steps {s : σ} {t : τ} (h : R 0 s t)
    (hstep : ∀ k s t, R k s t → Lockstep E (R (k + 1)) (f s) (g t)) (k : ℕ) :
    Lockstep E (R k) (steps f k s) (steps g k t) := by
  induction k with
  | zero => exact .returned h
  | succ k ih =>
    rw [steps_succ, steps_succ]
    exact ih.bind (hstep k)

end Steps

end MiniVllm
