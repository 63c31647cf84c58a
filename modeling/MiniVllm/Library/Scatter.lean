import Mathlib.Logic.Function.Basic
import Mathlib.Data.List.Induction
import Mathlib.Data.List.Nodup

/-! Writing a list of cells of a store, one after the other. -/

namespace MiniVllm

variable {α β : Type} [DecidableEq α]

def scatter (store : α → β) (writes : List (α × β)) : α → β :=
  writes.foldl (fun store w => Function.update store w.1 w.2) store

lemma scatter_cons (store : α → β) (w : α × β) (writes : List (α × β)) :
    scatter store (w :: writes) = scatter (Function.update store w.1 w.2) writes := rfl

lemma scatter_of_notMem {writes : List (α × β)} {a : α} (h : a ∉ writes.map Prod.fst) (store : α → β) :
    scatter store writes a = store a := by
  induction writes generalizing store with
  | nil => rfl
  | cons w writes ih =>
    rw [List.map_cons, List.mem_cons, not_or] at h
    rw [scatter_cons, ih h.2, Function.update_of_ne h.1]

lemma scatter_of_mem {writes : List (α × β)} (hn : (writes.map Prod.fst).Nodup) {w : α × β} (hw : w ∈ writes)
    (store : α → β) : scatter store writes w.1 = w.2 := by
  induction writes generalizing store with
  | nil => cases hw
  | cons v writes ih =>
    rw [List.map_cons, List.nodup_cons] at hn
    rw [scatter_cons]
    rcases List.mem_cons.mp hw with rfl | hw
    · rw [scatter_of_notMem hn.1, Function.update_self]
    · exact ih hn.2 hw _

lemma scatter_append (store : α → β) (xs ys : List (α × β)) :
    scatter store (xs ++ ys) = scatter (scatter store xs) ys := List.foldl_append

lemma scatter_filter (p : α → Bool) {a : α} (ha : p a = true) (writes : List (α × β)) (store : α → β) :
    scatter store (writes.filter (fun w => p w.1)) a = scatter store writes a := by
  induction writes using List.reverseRecOn with
  | nil => rfl
  | append_singleton writes w ih =>
    rw [List.filter_append, List.filter_singleton, scatter_append, scatter_append]
    by_cases hw : a = w.1
    · rw [← hw, ha]
      simp only [scatter, cond_true, List.foldl_cons, List.foldl_nil, hw, Function.update_self]
    · have hkeep : ∀ store : α → β, scatter store [w] a = store a := fun store =>
        scatter_of_notMem (by simpa using hw) store
      rw [hkeep, ← ih]
      cases p w.1 with
      | true => exact hkeep _
      | false => rfl

lemma scatter_perm {xs ys : List (α × β)} (hp : xs.Perm ys) (hn : (xs.map Prod.fst).Nodup) (store : α → β) :
    scatter store xs = scatter store ys := by
  have hn' : (ys.map Prod.fst).Nodup := (hp.map Prod.fst).nodup_iff.mp hn
  funext a
  by_cases ha : a ∈ xs.map Prod.fst
  · obtain ⟨w, hw, rfl⟩ := List.mem_map.mp ha
    rw [scatter_of_mem hn hw, scatter_of_mem hn' (hp.mem_iff.mp hw)]
  · rw [scatter_of_notMem ha, scatter_of_notMem (fun h => ha ((hp.map Prod.fst).mem_iff.mpr h))]

end MiniVllm
