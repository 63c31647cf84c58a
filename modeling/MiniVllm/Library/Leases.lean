import Mathlib.Tactic

/-! Slots that parties take and give back; a party may keep the name of a slot that it no longer holds. -/

namespace MiniVllm

variable {κ τ : Type} [DecidableEq κ] [DecidableEq τ]

/-- The active slots are those held, and no two parties carry the same one. -/
structure Held (leases : κ → Option (τ × Bool)) (active : Finset τ) : Prop where
  mem_iff : ∀ t, t ∈ active ↔ ∃ k, leases k = some (t, true)
  unique : ∀ k k' t b b', leases k = some (t, b) → leases k' = some (t, b') → k = k'

namespace Held

variable {leases : κ → Option (τ × Bool)} {active : Finset τ} {k : κ} {t : τ}

omit [DecidableEq κ] [DecidableEq τ] in
lemma nobody : Held (fun _ : κ => (none : Option (τ × Bool))) ∅ := ⟨by simp, by simp⟩

omit [DecidableEq κ] [DecidableEq τ] in
lemma notMem (h : Held leases active) (hfresh : ∀ k b, leases k ≠ some (t, b)) : t ∉ active := by
  rw [h.mem_iff]
  rintro ⟨k, hk⟩
  exact hfresh k true hk

omit [DecidableEq κ] in
lemma erase_insert (h : Held leases active) (hfresh : ∀ k b, leases k ≠ some (t, b)) :
    (insert t active).erase t = active := Finset.erase_insert (h.notMem hfresh)

lemma acquire (h : Held leases active) (hfresh : ∀ k b, leases k ≠ some (t, b)) (hk : leases k = none) :
    Held (Function.update leases k (some (t, true))) (insert t active) := by
  constructor
  · intro t'
    rw [Finset.mem_insert, h.mem_iff]
    constructor
    · rintro (rfl | ⟨k', hk'⟩)
      · exact ⟨k, Function.update_self k _ leases⟩
      · refine ⟨k', ?_⟩
        rw [Function.update_of_ne]
        · exact hk'
        · rintro rfl
          cases hk.symm.trans hk'
    · rintro ⟨k', hk'⟩
      by_cases he : k' = k
      · subst he
        rw [Function.update_self] at hk'
        cases hk'
        exact .inl rfl
      · rw [Function.update_of_ne he] at hk'
        exact .inr ⟨k', hk'⟩
  · intro k₁ k₂ t' b b' h₁ h₂
    by_cases he₁ : k₁ = k
    · by_cases he₂ : k₂ = k
      · exact he₁.trans he₂.symm
      · subst he₁
        rw [Function.update_self] at h₁
        rw [Function.update_of_ne he₂] at h₂
        cases h₁
        exact absurd h₂ (hfresh k₂ b')
    · rw [Function.update_of_ne he₁] at h₁
      by_cases he₂ : k₂ = k
      · subst he₂
        rw [Function.update_self] at h₂
        cases h₂
        exact absurd h₁ (hfresh k₁ b)
      · rw [Function.update_of_ne he₂] at h₂
        exact h.unique k₁ k₂ t' b b' h₁ h₂

lemma release (h : Held leases active) {b : Bool} (hk : leases k = some (t, b)) {left : Option (τ × Bool)}
    (hleft : left = none ∨ left = some (t, false)) : Held (Function.update leases k left) (active.erase t) := by
  have hcarry : ∀ k' t' b', Function.update leases k left k' = some (t', b') →
      k' ≠ k ∧ leases k' = some (t', b') ∨ k' = k ∧ t' = t ∧ b' = false := by
    intro k' t' b' hk'
    by_cases he : k' = k
    · subst he
      rw [Function.update_self] at hk'
      rcases hleft with rfl | rfl
      · cases hk'
      · cases hk'
        exact .inr ⟨rfl, rfl, rfl⟩
    · rw [Function.update_of_ne he] at hk'
      exact .inl ⟨he, hk'⟩
  constructor
  · intro t'
    rw [Finset.mem_erase, h.mem_iff]
    constructor
    · rintro ⟨hne, k', hk'⟩
      refine ⟨k', ?_⟩
      rw [Function.update_of_ne]
      · exact hk'
      · rintro rfl
        cases hk.symm.trans hk'
        exact hne rfl
    · rintro ⟨k', hk'⟩
      rcases hcarry k' t' true hk' with ⟨hne, hold⟩ | ⟨-, -, hb⟩
      · refine ⟨?_, k', hold⟩
        rintro rfl
        exact hne (h.unique k' k t' true b hold hk)
      · cases hb
  · intro k₁ k₂ t' b₁ b₂ h₁ h₂
    rcases hcarry k₁ t' b₁ h₁ with ⟨hne₁, hold₁⟩ | ⟨he₁, rfl, -⟩
    · rcases hcarry k₂ t' b₂ h₂ with ⟨-, hold₂⟩ | ⟨-, rfl, -⟩
      · exact h.unique k₁ k₂ t' b₁ b₂ hold₁ hold₂
      · exact absurd (h.unique k₁ k t' b₁ b hold₁ hk) hne₁
    · rcases hcarry k₂ t' b₂ h₂ with ⟨hne₂, hold₂⟩ | ⟨he₂, -, -⟩
      · exact absurd (h.unique k₂ k t' b₂ b hold₂ hk) hne₂
      · exact he₁.trans he₂.symm

end Held

end MiniVllm
