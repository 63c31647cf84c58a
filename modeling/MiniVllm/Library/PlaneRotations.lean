import Mathlib.Analysis.SpecialFunctions.Trigonometric.Basic
import Mathlib.Tactic

/-! Rotations of the planes of a real vector of pairs, each plane by its own angle. -/

namespace MiniVllm

namespace PlaneRotations

open Complex ComplexConjugate

noncomputable section

variable {ι : Type}

/-- A pair of coordinates is a complex number, and a rotation is the product with a unit one. -/
def rotate (θ : ι → ℝ) (z : ι → ℂ) : ι → ℂ := fun i => z i * exp (θ i * I)

lemma rotate_rotate (θ φ : ι → ℝ) (z : ι → ℂ) : rotate θ (rotate φ z) = rotate (φ + θ) z := by
  funext i
  simp only [rotate, Pi.add_apply, ofReal_add, add_mul, exp_add, mul_assoc]

lemma rotate_re (θ : ι → ℝ) (z : ι → ℂ) (i : ι) :
    (rotate θ z i).re = (z i).re * Real.cos (θ i) - (z i).im * Real.sin (θ i) := by
  rw [rotate, mul_re, exp_ofReal_mul_I_re, exp_ofReal_mul_I_im]

lemma rotate_im (θ : ι → ℝ) (z : ι → ℂ) (i : ι) :
    (rotate θ z i).im = (z i).im * Real.cos (θ i) + (z i).re * Real.sin (θ i) := by
  rw [rotate, mul_im, exp_ofReal_mul_I_re, exp_ofReal_mul_I_im, add_comm]

lemma exp_mul_conj_exp (θ : ℝ) : exp (θ * I) * conj (exp (θ * I)) = 1 := by
  rw [← exp_conj, map_mul, conj_ofReal, conj_I, ← exp_add]
  simp

variable [Fintype ι]

def inner (z w : ι → ℂ) : ℝ := ∑ i, (z i * conj (w i)).re

lemma inner_rotate_same (θ : ι → ℝ) (z w : ι → ℂ) : inner (rotate θ z) (rotate θ w) = inner z w := by
  apply Finset.sum_congr rfl
  intro i _
  have hunit := exp_mul_conj_exp (θ i)
  have hmul : rotate θ z i * conj (rotate θ w i) =
      z i * conj (w i) * (exp (θ i * I) * conj (exp (θ i * I))) := by
    simp only [rotate, map_mul]
    ring
  rw [hmul, hunit, mul_one]

lemma inner_rotate (θ φ : ι → ℝ) (z w : ι → ℂ) :
    inner (rotate θ z) (rotate φ w) = inner (rotate (θ - φ) z) w := by
  have hback : rotate θ z = rotate φ (rotate (θ - φ) z) := by
    rw [rotate_rotate, sub_add_cancel]
  rw [hback, inner_rotate_same]

lemma inner_eq (z w : ι → ℂ) : inner z w = ∑ i, (z i).re * (w i).re + ∑ i, (z i).im * (w i).im := by
  rw [inner, ← Finset.sum_add_distrib]
  apply Finset.sum_congr rfl
  intro i _
  simp

end

end PlaneRotations

end MiniVllm
