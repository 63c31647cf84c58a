import MiniVllm.Library.Attention
import Mathlib.Algebra.Order.Field.Basic

/-! The softmax-weighted sum of a stream of scores and values in one pass, with a running maximum. -/

namespace MiniVllm

namespace OnlineSoftmax

variable {F : Type} [Field F] [LinearOrder F] {d : ℕ}

/-- The running maximum (`none` is minus infinity), the sum of the weights and the weighted sum of the values. -/
structure State (F : Type) (d : ℕ) where
  m : Option F
  s : F
  acc : Vec F d

def init : State F d where
  m := none
  s := 0
  acc := fun _ => 0

def maximum (m : Option F) (logit : F) : F :=
  match m with
  | none => logit
  | some m => max m logit

def expSub (exp : F → F) (m : Option F) (x : F) : F :=
  match m with
  | none => 0
  | some m => exp (m - x)

def update (exp : F → F) (st : State F d) (logit : F) (v : Vec F d) : State F d :=
  let mNew := maximum st.m logit
  let alpha := expSub exp st.m mNew
  let beta := exp (logit - mNew)
  { m := some mNew
    s := st.s * alpha + beta
    acc := fun i => st.acc i * alpha + v i * beta }

def run (exp : F → F) (items : List (F × Vec F d)) : State F d :=
  items.foldl (fun st item => update exp st item.1 item.2) init

structure Shifted (exp : F → F) (items : List (F × Vec F d)) (m : F) (st : State F d) : Prop where
  maximum : st.m = some m
  weight : st.s = (items.map (fun item => exp (item.1 - m))).sum
  value : ∀ i, st.acc i = (items.map (fun item => exp (item.1 - m) * item.2 i)).sum

lemma update_first (exp : F → F) (logit : F) (v : Vec F d) :
    Shifted exp [(logit, v)] logit (update exp init logit v) where
  maximum := rfl
  weight := by simp [update, init, maximum, expSub]
  value := fun i => by simp [update, init, maximum, expSub, mul_comm]

section Laws

variable {exp : F → F} (hadd : ∀ x y, exp (x + y) = exp x * exp y)

include hadd

omit [LinearOrder F] in
lemma exp_shift (x m m' : F) : exp (x - m) * exp (m - m') = exp (x - m') := by
  rw [← hadd, sub_add_sub_cancel]

lemma update_shifted {items : List (F × Vec F d)} {m : F} {st : State F d} (h : Shifted exp items m st) (logit : F)
    (v : Vec F d) : Shifted exp (items ++ [(logit, v)]) (max m logit) (update exp st logit v) where
  maximum := by simp only [update, h.maximum, maximum]
  weight := by
    have hscale : (items.map (fun item => exp (item.1 - max m logit))).sum =
        (items.map (fun item => exp (item.1 - m))).sum * exp (m - max m logit) := by
      rw [← List.sum_map_mul_right]
      exact congrArg List.sum (List.map_congr_left fun item _ => (exp_shift hadd _ _ _).symm)
    simp only [update, h.maximum, maximum, expSub, h.weight, List.map_append, List.sum_append, hscale, List.map_cons,
      List.map_nil, List.sum_singleton]
  value := by
    intro i
    have hscale : (items.map (fun item => exp (item.1 - max m logit) * item.2 i)).sum =
        (items.map (fun item => exp (item.1 - m) * item.2 i)).sum * exp (m - max m logit) := by
      rw [← List.sum_map_mul_right]
      refine congrArg List.sum (List.map_congr_left fun item _ => ?_)
      rw [← exp_shift hadd item.1 m, mul_right_comm]
    simp only [update, h.maximum, maximum, expSub, h.value, List.map_append, List.sum_append, hscale, List.map_cons,
      List.map_nil, List.sum_singleton, mul_comm (v i)]

theorem run_shifted {items : List (F × Vec F d)} (hne : items ≠ []) : ∃ m, Shifted exp items m (run exp items) := by
  induction items using List.reverseRecOn with
  | nil => exact absurd rfl hne
  | append_singleton items item ih =>
    rw [run, List.foldl_append]
    rcases items.eq_nil_or_concat with rfl | ⟨init, last, hlast⟩
    · exact ⟨_, update_first exp item.1 item.2⟩
    · have hitems : items ≠ [] := by simp [hlast]
      obtain ⟨m, hm⟩ := ih hitems
      exact ⟨_, update_shifted hadd hm item.1 item.2⟩

section Positive

variable (hpos : ∀ x, 0 < exp x)

include hpos

lemma run_weight_pos [IsStrictOrderedRing F] {items : List (F × Vec F d)} (hne : items ≠ []) : 0 < (run exp items).s := by
  obtain ⟨m, hm⟩ := run_shifted hadd hne
  rw [hm.weight]
  apply List.sum_pos
  · intro w hw
    obtain ⟨item, -, rfl⟩ := List.mem_map.mp hw
    exact hpos _
  · simpa using hne

theorem run_quotient {items : List (F × Vec F d)} (hne : items ≠ []) (i : Fin d) :
    (run exp items).acc i / (run exp items).s =
      (items.map (fun item => exp item.1 * item.2 i)).sum / (items.map (fun item => exp item.1)).sum := by
  obtain ⟨m, hm⟩ := run_shifted hadd hne
  have hshift : ∀ x, exp (x - m) = exp x * exp (-m) := fun x => by rw [← hadd, sub_eq_add_neg]
  have hweights : (items.map (fun item => exp (item.1 - m))).sum =
      (items.map (fun item => exp item.1)).sum * exp (-m) := by
    rw [← List.sum_map_mul_right]
    exact congrArg List.sum (List.map_congr_left fun item _ => hshift item.1)
  have hvalues : (items.map (fun item => exp (item.1 - m) * item.2 i)).sum =
      (items.map (fun item => exp item.1 * item.2 i)).sum * exp (-m) := by
    rw [← List.sum_map_mul_right]
    refine congrArg List.sum (List.map_congr_left fun item _ => ?_)
    rw [hshift, mul_right_comm]
  rw [hm.weight, hm.value, hweights, hvalues, mul_div_mul_right _ _ (hpos (-m)).ne']

theorem run_attend (scale : F) (query : Vec F d) (keys values : ℕ → Vec F d) {n : ℕ} (hn : 0 < n) (i : Fin d) :
    (run exp ((List.range n).map (fun r => (Attention.dot query (keys r) * scale, values r)))).acc i /
        (run exp ((List.range n).map (fun r => (Attention.dot query (keys r) * scale, values r)))).s =
      Attention.attend exp scale query ((List.range n).map keys) ((List.range n).map values) (List.replicate n true)
        i := by
  have hne : (List.range n).map (fun r => (Attention.dot query (keys r) * scale, values r)) ≠ [] := by
    simp [hn.ne']
  have hweights : Attention.weights exp scale query ((List.range n).map keys) (List.replicate n true) =
      (List.range n).map (fun r => exp (Attention.dot query (keys r) * scale)) := by
    refine List.ext_getElem (by simp [Attention.weights]) fun r h₁ h₂ => ?_
    simp only [Attention.weights, List.getElem_zipWith, List.getElem_map, List.getElem_range, List.getElem_replicate,
      if_true]
  have hterm : ∀ r, exp (Attention.dot query (keys r) * scale) /
      ((List.range n).map (fun r => exp (Attention.dot query (keys r) * scale))).sum * values r i =
        exp (Attention.dot query (keys r) * scale) * values r i *
          ((List.range n).map (fun r => exp (Attention.dot query (keys r) * scale))).sum⁻¹ := fun r => by
    rw [div_eq_mul_inv, mul_right_comm]
  rw [run_quotient hadd hpos hne i, Attention.attend, hweights, List.zipWith_map, List.zipWith_self, List.map_map,
    List.map_map, List.map_congr_left fun r _ => hterm r, List.sum_map_mul_right, div_eq_mul_inv]
  rfl

end Positive

end Laws

end OnlineSoftmax

end MiniVllm
