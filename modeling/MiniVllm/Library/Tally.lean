import Mathlib.Tactic

/-! Amounts entered under keys: what a list of keys accounts for. -/

namespace MiniVllm

variable {κ : Type} [DecidableEq κ]

def tally (entries : List (κ × ℕ)) (k : κ) : ℕ := ((entries.filter (·.1 = k)).map Prod.snd).sum

def untallied (entries : List (κ × ℕ)) (keys : List κ) : ℕ := ((entries.filter (·.1 ∉ keys)).map Prod.snd).sum

lemma tally_cons (e : κ × ℕ) (entries : List (κ × ℕ)) (k : κ) :
    tally (e :: entries) k = (if e.1 = k then e.2 else 0) + tally entries k := by
  by_cases h : e.1 = k <;> simp [tally, h]

lemma untallied_cons (e : κ × ℕ) (entries : List (κ × ℕ)) (keys : List κ) :
    untallied (e :: entries) keys = (if e.1 ∈ keys then 0 else e.2) + untallied entries keys := by
  by_cases h : e.1 ∈ keys <;> simp [untallied, h]

lemma sum_ite_eq_count (keys : List κ) (k : κ) (n : ℕ) :
    (keys.map (fun j => if k = j then n else 0)).sum = keys.count k * n := by
  induction keys with
  | nil => simp
  | cons j keys ih =>
    rw [List.map_cons, List.sum_cons, ih, List.count_cons, Nat.add_mul, Nat.add_comm]
    by_cases he : j = k
    · simp [he]
    · simp [he, Ne.symm he]

theorem sum_tally {keys : List κ} (hnd : keys.Nodup) (entries : List (κ × ℕ)) :
    (keys.map (tally entries)).sum + untallied entries keys = (entries.map Prod.snd).sum := by
  induction entries with
  | nil =>
    have hnone : tally ([] : List (κ × ℕ)) = fun _ => 0 := rfl
    simp [hnone, untallied]
  | cons e entries ih =>
    have hmap : (keys.map (tally (e :: entries))).sum =
        (keys.map (fun j => if e.1 = j then e.2 else 0)).sum + (keys.map (tally entries)).sum := by
      rw [← List.sum_map_add]
      congr 1
      apply List.map_congr_left
      exact fun j _ => tally_cons e entries j
    rw [hmap, sum_ite_eq_count, hnd.count, untallied_cons, List.map_cons, List.sum_cons, ← ih]
    split_ifs <;> omega

lemma tally_le {entries : List (κ × ℕ)} (hnd : (entries.map Prod.fst).Nodup) {k : κ} {bound : ℕ}
    (h : ∀ e ∈ entries, e.1 = k → e.2 ≤ bound) : tally entries k ≤ bound := by
  induction entries with
  | nil => exact Nat.zero_le _
  | cons e entries ih =>
    obtain ⟨he, hrest⟩ := List.nodup_cons.mp hnd
    rw [tally_cons]
    split_ifs with hk
    · have hnone : entries.filter (·.1 = k) = [] := by
        rw [List.filter_eq_nil_iff]
        intro e' he' hk'
        apply he
        rw [hk, ← of_decide_eq_true hk']
        exact List.mem_map_of_mem he'
      rw [tally, hnone]
      exact h e (by simp) hk
    · rw [Nat.zero_add]
      exact ih hrest fun e' he' => h e' (List.mem_cons_of_mem e he')

theorem sum_le_iff_untallied {α : Type} {xs : List α} {key : α → κ} {need : α → ℕ} {entries : List (κ × ℕ)}
    (hnd : (xs.map key).Nodup) (hfit : ∀ x ∈ xs, tally entries (key x) ≤ need x) :
    (entries.map Prod.snd).sum ≤ (xs.map need).sum ↔
      untallied entries (xs.map key) ≤ (xs.map (fun x => need x - tally entries (key x))).sum := by
  have hsplit : (xs.map need).sum = ((xs.map key).map (tally entries)).sum +
      (xs.map (fun x => need x - tally entries (key x))).sum := by
    rw [List.map_map, ← List.sum_map_add]
    congr 1
    apply List.map_congr_left
    intro x hx
    have hle := hfit x hx
    simp only [Function.comp_apply]
    omega
  rw [← sum_tally hnd entries, hsplit]
  omega

end MiniVllm
