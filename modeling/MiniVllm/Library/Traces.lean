import Mathlib.Data.List.Basic

/-! A system that runs on top of another one: the calls that its own calls make below. -/

namespace MiniVllm

variable {σ τ α β : Type}

def trace (f : σ → α → σ) (e : σ → α → List β) : σ → List α → List β
  | _, [] => []
  | s, a :: as => e s a ++ trace f e (f s a) as

variable {f : σ → α → σ} {e : σ → α → List β}

lemma trace_append (s : σ) (as more : List α) :
    trace f e s (as ++ more) = trace f e s as ++ trace f e (as.foldl f s) more := by
  induction as generalizing s with
  | nil => rfl
  | cons a as ih => rw [List.cons_append, trace, ih, trace, List.append_assoc, List.foldl_cons]

lemma trace_concat (s : σ) (as : List α) (a : α) :
    trace f e s (as ++ [a]) = trace f e s as ++ e (as.foldl f s) a := by
  rw [trace_append, trace, trace, List.append_nil]

lemma mem_trace {s : σ} {as : List α} {b : β} (h : b ∈ trace f e s as) : ∃ s', ∃ a ∈ as, b ∈ e s' a := by
  induction as generalizing s with
  | nil => cases h
  | cons a as ih =>
    rcases List.mem_append.mp h with hhere | hlater
    · exact ⟨s, a, List.mem_cons_self, hhere⟩
    · obtain ⟨s', a', ha, hb⟩ := ih hlater
      exact ⟨s', a', List.mem_cons_of_mem a ha, hb⟩

/-- The run rule: a relation that each call keeps relates the two systems after every run. -/
theorem trace_refines {g : τ → β → τ} {R : τ → σ → Prop}
    (hstep : ∀ s t a, R t s → R ((e s a).foldl g t) (f s a)) {s : σ} {t : τ} (h : R t s) (as : List α) :
    R ((trace f e s as).foldl g t) (as.foldl f s) := by
  induction as generalizing s t with
  | nil => exact h
  | cons a as ih =>
    rw [trace, List.foldl_append, List.foldl_cons]
    exact ih (hstep s t a h)

end MiniVllm
