import Mathlib.Algebra.BigOperators.Fin
import Mathlib.Algebra.BigOperators.Group.List.Basic
import Mathlib.Algebra.Field.Basic
import Mathlib.Tactic

/-! Scaled dot-product attention over a field, with the exponential of its softmax as a parameter. -/

namespace MiniVllm

abbrev Vec (F : Type) (d : ℕ) := Fin d → F

namespace Attention

variable {F : Type} [Field F] {d : ℕ} (exp : F → F) (scale : F)

def dot (x y : Vec F d) : F := ∑ i, x i * y i

def weights (query : Vec F d) (keys : List (Vec F d)) (mask : List Bool) : List F :=
  List.zipWith (fun key visible => if visible then exp (dot query key * scale) else 0) keys mask

def attend (query : Vec F d) (keys values : List (Vec F d)) (mask : List Bool) : Vec F d := fun i =>
  (List.zipWith (fun w value => w / (weights exp scale query keys mask).sum * value i)
    (weights exp scale query keys mask) values).sum

def causalMask (p n : ℕ) : List Bool := (List.range n).map (fun j => decide (j ≤ p))

def attendPrefix (query : Vec F d) (key value : ℕ → Vec F d) (p : ℕ) : Vec F d :=
  attend exp scale query ((List.range (p + 1)).map key) ((List.range (p + 1)).map value) (List.replicate (p + 1) true)

variable {exp scale}

lemma weights_masked (exp : F → F) (scale : F) (query : Vec F d) (keys : List (Vec F d)) :
    weights exp scale query keys (List.replicate keys.length false) = List.replicate keys.length 0 := by
  induction keys with
  | nil => rfl
  | cons key keys ih =>
    simp only [weights] at ih
    simp only [weights, List.length_cons, List.replicate_succ, List.zipWith_cons_cons, ih]
    rfl

lemma sum_zipWith_zero (values : List (Vec F d)) (total : F) (i : Fin d) (n : ℕ) :
    (List.zipWith (fun w value => w / total * value i) (List.replicate n (0 : F)) values).sum = 0 := by
  induction values generalizing n with
  | nil => cases n <;> rfl
  | cons value values ih =>
    cases n with
    | zero => rfl
    | succ n =>
      simp only [List.replicate_succ, List.zipWith_cons_cons, List.sum_cons, ih, zero_div, zero_mul, add_zero]

lemma attend_append (exp : F → F) (scale : F) (query : Vec F d) {keys values : List (Vec F d)} {mask : List Bool}
    (hk : keys.length = mask.length) (hv : values.length = mask.length) (moreKeys moreValues : List (Vec F d)) :
    attend exp scale query (keys ++ moreKeys) (values ++ moreValues)
      (mask ++ List.replicate moreKeys.length false) = attend exp scale query keys values mask := by
  have hw : weights exp scale query (keys ++ moreKeys) (mask ++ List.replicate moreKeys.length false) =
      weights exp scale query keys mask ++ List.replicate moreKeys.length 0 := by
    have happend := weights_masked exp scale query moreKeys
    simp only [weights] at happend
    rw [weights, List.zipWith_append hk, happend]
    rfl
  have hlen : (weights exp scale query keys mask).length = values.length := by
    rw [weights, List.length_zipWith, hk, min_self, hv]
  funext i
  simp only [attend, hw, List.sum_append, List.sum_replicate, smul_zero, add_zero]
  rw [List.zipWith_append hlen, List.sum_append, sum_zipWith_zero, add_zero]

lemma causalMask_eq {p n : ℕ} (h : p < n) :
    causalMask p n = List.replicate (p + 1) true ++ List.replicate (n - (p + 1)) false := by
  refine List.ext_getElem (by simp [causalMask]; omega) fun j h₁ h₂ => ?_
  simp only [causalMask, List.getElem_map, List.getElem_range, List.getElem_append, List.length_replicate,
    List.getElem_replicate]
  split_ifs with hj
  · exact decide_eq_true (by omega)
  · exact decide_eq_false (by omega)

theorem attend_causal (query : Vec F d) (key value : ℕ → Vec F d) {p n : ℕ} (h : p < n) :
    attend exp scale query ((List.range n).map key) ((List.range n).map value) (causalMask p n) =
      attendPrefix exp scale query key value p := by
  have hsplit : List.range n = List.range (p + 1) ++ (List.range (n - (p + 1))).map (p + 1 + ·) := by
    rw [← List.range_add, Nat.add_sub_cancel' h]
  have hkeys : ((List.range (p + 1)).map key).length = (List.replicate (p + 1) true).length := by simp
  have hvalues : ((List.range (p + 1)).map value).length = (List.replicate (p + 1) true).length := by simp
  have happend := attend_append exp scale query hkeys hvalues
    (((List.range (n - (p + 1))).map (p + 1 + ·)).map key) (((List.range (n - (p + 1))).map (p + 1 + ·)).map value)
  rw [attendPrefix, ← happend, causalMask_eq h, hsplit, List.map_append, List.map_append]
  simp only [List.length_map, List.length_range]

lemma attendPrefix_congr (query : Vec F d) {key key' value value' : ℕ → Vec F d} {p : ℕ}
    (hk : ∀ r ≤ p, key r = key' r) (hv : ∀ r ≤ p, value r = value' r) :
    attendPrefix exp scale query key value p = attendPrefix exp scale query key' value' p := by
  have hkeys : (List.range (p + 1)).map key = (List.range (p + 1)).map key' :=
    List.map_congr_left fun r hr => hk r (Nat.lt_succ_iff.mp (List.mem_range.mp hr))
  have hvalues : (List.range (p + 1)).map value = (List.range (p + 1)).map value' :=
    List.map_congr_left fun r hr => hv r (Nat.lt_succ_iff.mp (List.mem_range.mp hr))
  rw [attendPrefix, attendPrefix, hkeys, hvalues]

end Attention

end MiniVllm
