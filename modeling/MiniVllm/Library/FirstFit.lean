import Mathlib.Tactic

/-! First-fit filling of two budgets: a number of tokens, and seats that hold one item each. -/

namespace MiniVllm

def place (b : ℤ × ℤ) (cost : ℕ) : ℤ × ℤ :=
  if b.2 ≤ 0 ∨ b.1 < cost then b else (b.1 - cost, b.2 - 1)

def fill (b : ℤ × ℤ) (costs : List ℕ) : ℤ × ℤ := costs.foldl place b

variable (b : ℤ × ℤ) (cost : ℕ) (costs : List ℕ)

@[simp] lemma fill_nil : fill b [] = b := rfl

@[simp] lemma fill_cons : fill b (cost :: costs) = fill (place b cost) costs := rfl

lemma fill_append (more : List ℕ) : fill b (costs ++ more) = fill (fill b costs) more := List.foldl_append

lemma place_of_fits (hs : 0 < b.2) (ht : (cost : ℤ) ≤ b.1) : place b cost = (b.1 - cost, b.2 - 1) := by
  rw [place, if_neg]
  rintro (h | h) <;> omega

lemma place_of_no_seat (hs : b.2 ≤ 0) : place b cost = b := if_pos (Or.inl hs)

lemma place_of_too_large (ht : b.1 < cost) : place b cost = b := if_pos (Or.inr ht)

lemma place_nonneg (h : 0 ≤ b.1 ∧ 0 ≤ b.2) : 0 ≤ (place b cost).1 ∧ 0 ≤ (place b cost).2 := by
  simp only [place]
  split_ifs with hc
  · exact h
  · push Not at hc
    constructor <;> simp only <;> omega

lemma fill_nonneg (h : 0 ≤ b.1 ∧ 0 ≤ b.2) : 0 ≤ (fill b costs).1 ∧ 0 ≤ (fill b costs).2 := by
  induction costs generalizing b with
  | nil => exact h
  | cons cost rest ih =>
    rw [fill_cons]
    apply ih
    exact place_nonneg b cost h

lemma place_le : (place b cost).1 ≤ b.1 ∧ (place b cost).2 ≤ b.2 := by
  simp only [place]
  split_ifs
  · exact ⟨le_refl _, le_refl _⟩
  · constructor <;> simp only <;> omega

lemma fill_le : (fill b costs).1 ≤ b.1 ∧ (fill b costs).2 ≤ b.2 := by
  induction costs generalizing b with
  | nil => exact ⟨le_refl _, le_refl _⟩
  | cons cost rest ih =>
    rw [fill_cons]
    obtain ⟨h₁, h₂⟩ := ih (place b cost)
    obtain ⟨h₃, h₄⟩ := place_le b cost
    exact ⟨h₁.trans h₃, h₂.trans h₄⟩

theorem fill_all (ht : (costs.sum : ℤ) ≤ b.1) (hs : (costs.length : ℤ) ≤ b.2) :
    fill b costs = (b.1 - costs.sum, b.2 - costs.length) := by
  induction costs generalizing b with
  | nil => simp
  | cons cost rest ih =>
    rw [List.sum_cons, Nat.cast_add] at ht
    rw [List.length_cons, Nat.cast_succ] at hs
    have hp : place b cost = (b.1 - cost, b.2 - 1) := by
      apply place_of_fits
      · omega
      · omega
    rw [fill_cons, hp, ih]
    · rw [List.sum_cons, List.length_cons, Nat.cast_add, Nat.cast_succ, Prod.mk.injEq]
      constructor <;> simp only <;> omega
    · simp only
      omega
    · simp only
      omega

end MiniVllm
