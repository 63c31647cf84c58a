import MiniVllm.Library.PlaneRotations
import MiniVllm.Model.QwenModel
import MiniVllm.Model.Rotary
import Mathlib.Analysis.SpecialFunctions.Pow.Real
import Mathlib.Algebra.BigOperators.Fin
import Mathlib.Data.List.GetD

/-! RoPE turns the pairs of coordinates `i` and `i + head_dim / 2` by angles in proportion to the position. -/

namespace MiniVllm

namespace RotaryEmbedding

section Call

variable {F : Type}

lemma rowsAt_eq (table : List (List F)) (positions : List ℕ) : rowsAt table positions =
    if positions.all (· < table.length) then .ok (positions.map (table.getD · [])) else .error .indexError := by
  induction positions with
  | nil => rfl
  | cons p positions ih =>
    rw [rowsAt] at ih ⊢
    rw [List.mapM_cons, ih]
    by_cases hp : p < table.length
    · rw [List.getElem?_eq_getElem hp]
      simp only [List.all_cons, hp, decide_true, Bool.true_and, List.map_cons]
      split_ifs
      · simp [hp, bind, Except.bind, pure, Except.pure]
      · rfl
    · rw [List.getElem?_eq_none (Nat.le_of_not_lt hp)]
      simp only [List.all_cons, hp, decide_false, Bool.false_and]
      rfl

lemma call_eq [Field F] (r : RotaryEmbedding F) {n : ℕ} (hcos : r.cos.length = n) (hsin : r.sin.length = n)
    (x : List (List (List F))) (positions : List ℕ) : r.call x positions =
      if positions.all (· < n) then
        .ok (List.zipWith (fun heads p => heads.map fun head =>
          rotateHalf head (r.cos.getD p []) (r.sin.getD p [])) x positions)
      else .error .indexError := by
  rw [call, rowsAt_eq, rowsAt_eq, hcos, hsin]
  by_cases h : positions.all (· < n) = true
  · simp only [if_pos h]
    rw [List.zip_map', List.zipWith_map_right]
  · simp only [if_neg h]

end Call

section Init

variable {F : Type} [Field F] (fn : Elementary F) (headDim : ℕ) (theta : F) (maxSeqLen : ℕ)

@[simp] lemma length_cos : (init fn headDim theta maxSeqLen).cos.length = maxSeqLen := by simp [init]

@[simp] lemma length_sin : (init fn headDim theta maxSeqLen).sin.length = maxSeqLen := by simp [init]

def angles (p : ℕ) : List F := (inverseFrequencies fn headDim theta).map (fun f => (p : F) * f)

variable {headDim maxSeqLen}

lemma length_angles (h : Even headDim) (p : ℕ) : (angles fn headDim theta p).length = headDim / 2 := by
  obtain ⟨half, rfl⟩ := h
  simp only [angles, inverseFrequencies, List.length_map, List.length_range]
  omega

variable (headDim) in
lemma tables_row {p : ℕ} (h : p < maxSeqLen) :
    (init fn headDim theta maxSeqLen).cos.getD p [] =
        (angles fn headDim theta p ++ angles fn headDim theta p).map fn.cos ∧
      (init fn headDim theta maxSeqLen).sin.getD p [] =
        (angles fn headDim theta p ++ angles fn headDim theta p).map fn.sin := by
  constructor <;>
    simp only [init, List.getD_eq_getElem?_getD, List.getElem?_map, List.getElem?_range h, Option.map_some,
      Option.getD_some] <;>
    rfl

lemma length_rotateHalf {half : ℕ} {x freqs : List F} (hx : x.length = half + half) (hf : freqs.length = half)
    (f g : F → F) : (rotateHalf x ((freqs ++ freqs).map f) ((freqs ++ freqs).map g)).length = half + half := by
  simp only [rotateHalf, List.length_zipWith, List.length_append, List.length_map, List.length_drop,
    List.length_take, hx, hf]
  omega

end Init

section Runner

variable {F H L : Type} [Field F] {mc : ModelConfig}

def rope (r : RotaryEmbedding F) (p : ℕ) (v : Vec F mc.headDim) : Vec F mc.headDim := fun i =>
  (rotateHalf (List.ofFn v) (r.cos.getD p []) (r.sin.getD p [])).getD i 0

def headRows {n d : ℕ} (row : Fin n → Vec F d) : List (List F) := List.ofFn fun h => List.ofFn (row h)

lemma ofFn_rope (fn : Elementary F) (theta : F) (heven : Even mc.headDim) {p : ℕ}
    (hp : p < mc.maxPositionEmbeddings) (v : Vec F mc.headDim) :
    List.ofFn (rope (init fn mc.headDim theta mc.maxPositionEmbeddings) p v) =
      rotateHalf (List.ofFn v) ((init fn mc.headDim theta mc.maxPositionEmbeddings).cos.getD p [])
        ((init fn mc.headDim theta mc.maxPositionEmbeddings).sin.getD p []) := by
  have hhalf : mc.headDim = mc.headDim / 2 + mc.headDim / 2 := by
    obtain ⟨half, hd⟩ := heven
    omega
  obtain ⟨hcos, hsin⟩ := tables_row fn mc.headDim theta hp
  have hlen := length_rotateHalf (x := List.ofFn v) (by simpa using hhalf) (length_angles fn theta heven p) fn.cos fn.sin
  apply List.ext_getElem
  · rw [hcos, hsin, hlen, List.length_ofFn, ← hhalf]
  · intro i hi hi'
    rw [List.getElem_ofFn]
    exact List.getD_eq_getElem _ _ hi'

theorem applyRope_eq_call (fn : Elementary F) (theta : F) (heven : Even mc.headDim) (M : QwenModel F H L mc)
    (hM : M.rope = rope (init fn mc.headDim theta mc.maxPositionEmbeddings)) {n : ℕ}
    (rows : List (Fin n → Vec F mc.headDim)) (positions : List ℕ) :
    (init fn mc.headDim theta mc.maxPositionEmbeddings).call (rows.map headRows) positions =
      (M.applyRope rows positions).map (fun out => out.map headRows) := by
  rw [call_eq _ (length_cos _ _ _ _) (length_sin _ _ _ _), QwenModel.applyRope, hM]
  by_cases hall : positions.all (· < mc.maxPositionEmbeddings) = true
  · rw [if_pos hall, if_pos hall, Except.map, Except.ok.injEq, List.map_zipWith, List.zipWith_map_left]
    apply List.ext_getElem
    · simp
    · intro t ht _
      rw [List.length_zipWith] at ht
      have hlt : t < positions.length := by omega
      have hp : positions[t] < mc.maxPositionEmbeddings := by
        simpa using List.all_eq_true.mp hall _ (List.getElem_mem hlt)
      rw [List.getElem_zipWith, List.getElem_zipWith, headRows, headRows, List.map_ofFn]
      congr 1
      funext h
      exact (ofFn_rope fn theta heven hp _).symm
  · rw [if_neg hall, if_neg hall]
    rfl

end Runner

noncomputable section

open PlaneRotations

def realFunctions : Elementary ℝ where
  pow := fun x y => x ^ y
  cos := Real.cos
  sin := Real.sin

abbrev real (headDim : ℕ) (theta : ℝ) (maxSeqLen : ℕ) : RotaryEmbedding ℝ := init realFunctions headDim theta maxSeqLen

def dot (x y : List ℝ) : ℝ := (List.zipWith (fun a b => a * b) x y).sum

def euclideanNorm (x : List ℝ) : ℝ := Real.sqrt (x.map (fun a => a ^ 2)).sum

def pairs (half : ℕ) (x : List ℝ) : Fin half → ℂ := fun i => ⟨x.getD i 0, x.getD (half + i) 0⟩

section Halves

variable {half : ℕ} {x y freqs : List ℝ}

lemma dot_eq_inner (hx : x.length = half + half) (hy : y.length = half + half) :
    dot x y = inner (pairs half x) (pairs half y) := by
  have hlist : List.zipWith (fun a b => a * b) x y =
      List.ofFn (fun i : Fin (half + half) => x.getD i 0 * y.getD i 0) := by
    apply List.ext_getElem
    · simp [hx, hy]
    · intro i hi _
      simp only [List.length_zipWith, hx, hy, min_self] at hi
      simp [hx, hy]
  rw [dot, hlist, List.sum_ofFn, Fin.sum_univ_add, inner_eq]
  rfl

lemma dot_self (x : List ℝ) : euclideanNorm x = Real.sqrt (dot x x) := by
  have hsquares : x.map (fun a => a ^ 2) = List.zipWith (fun a b => a * b) x x := by
    rw [List.zipWith_self]
    apply List.map_congr_left
    intro a _
    exact pow_two a
  rw [euclideanNorm, dot, hsquares]

lemma getD_zipWith (f : ℝ → ℝ → ℝ) {i : ℕ} (hx : i < x.length) (hy : i < y.length) :
    (List.zipWith f x y).getD i 0 = f (x.getD i 0) (y.getD i 0) := by
  simp [hx, hy]

lemma getD_copies (hf : freqs.length = half) (f : ℝ → ℝ) (i : Fin half) :
    ((freqs ++ freqs).map f).getD i 0 = f (freqs.getD i 0) ∧
      ((freqs ++ freqs).map f).getD (half + i) 0 = f (freqs.getD i 0) := by
  have hi : i < freqs.length := hf ▸ i.isLt
  have hnext : half + i < (freqs ++ freqs).length := by
    rw [List.length_append, hf]
    omega
  constructor
  · simp [hi, Nat.lt_add_right]
  · simp only [List.getD_eq_getElem?_getD, List.getElem?_map]
    rw [List.getElem?_append_right (by omega), hf, Nat.add_sub_cancel_left]
    simp [hi]

lemma getD_rotateHalf (hx : x.length = half + half) (hf : freqs.length = half) (i : Fin half) :
    (rotateHalf x ((freqs ++ freqs).map Real.cos) ((freqs ++ freqs).map Real.sin)).getD i 0 =
        x.getD i 0 * Real.cos (freqs.getD i 0) + -x.getD (half + i) 0 * Real.sin (freqs.getD i 0) ∧
      (rotateHalf x ((freqs ++ freqs).map Real.cos) ((freqs ++ freqs).map Real.sin)).getD (half + i) 0 =
        x.getD (half + i) 0 * Real.cos (freqs.getD i 0) + x.getD i 0 * Real.sin (freqs.getD i 0) := by
  have hi := i.isLt
  have hhalf : x.length / 2 = half := by omega
  have hcos := getD_copies hf Real.cos i
  have hsin := getD_copies hf Real.sin i
  have hfirst : ((x.drop half).map (fun v => -v) ++ x.take half).getD i 0 = -x.getD (half + i) 0 := by
    rw [List.getD_append _ _ _ _ (by simp [hx])]
    simp [hx]
  have hlt : (i : ℕ) < x.length := by omega
  have hsecond : ((x.drop half).map (fun v => -v) ++ x.take half).getD (half + i) 0 = x.getD i 0 := by
    rw [List.getD_append_right _ _ _ _ (by simp [hx])]
    simp only [List.length_map, List.length_drop, hx, Nat.add_sub_cancel, Nat.add_sub_cancel_left,
      List.getD_eq_getElem?_getD, List.getElem?_take_of_lt hi]
  simp only [rotateHalf, hhalf]
  constructor
  · rw [getD_zipWith, getD_zipWith, getD_zipWith, hfirst, hcos.1, hsin.1]
    all_goals
      simp [hx, hf]
      omega
  · rw [getD_zipWith, getD_zipWith, getD_zipWith, hsecond, hcos.2, hsin.2]
    all_goals simp [hx, hf]

lemma pairs_rotateHalf (hx : x.length = half + half) (hf : freqs.length = half) :
    pairs half (rotateHalf x ((freqs ++ freqs).map Real.cos) ((freqs ++ freqs).map Real.sin)) =
      rotate (fun i : Fin half => freqs.getD i 0) (pairs half x) := by
  funext i
  obtain ⟨hre, him⟩ := getD_rotateHalf hx hf i
  apply Complex.ext
  · rw [rotate_re, sub_eq_add_neg, ← neg_mul]
    exact hre
  · rw [rotate_im]
    exact him

end Halves

def rotated (headDim : ℕ) (theta : ℝ) (p : ℕ) (x : List ℝ) : List ℝ :=
  rotateHalf x ((angles realFunctions headDim theta p ++ angles realFunctions headDim theta p).map Real.cos)
    ((angles realFunctions headDim theta p ++ angles realFunctions headDim theta p).map Real.sin)

inductive Turns (r : RotaryEmbedding ℝ) (v : List ℝ) (p : ℕ) (w : List ℝ) : Prop
  | intro (x : List (List (List ℝ))) (positions : List ℕ) (y : List (List (List ℝ))) (t h : ℕ)
    (heads turned : List (List ℝ)) (hshape : ∀ heads ∈ x, ∀ head ∈ heads, head.length = r.headDim)
    (htokens : x.length = positions.length) (hcall : r.call x positions = .ok y) (hp : positions[t]? = some p)
    (hx : x[t]? = some heads) (hv : heads[h]? = some v) (hy : y[t]? = some turned) (hw : turned[h]? = some w)

section Turns

variable {headDim maxSeqLen : ℕ} {theta : ℝ} {v w : List ℝ} {p : ℕ}

lemma turns_iff : Turns (real headDim theta maxSeqLen) v p w ↔
    v.length = headDim ∧ p < maxSeqLen ∧ w = rotated headDim theta p v := by
  have hrow : p < maxSeqLen → rotateHalf v ((real headDim theta maxSeqLen).cos.getD p [])
      ((real headDim theta maxSeqLen).sin.getD p []) = rotated headDim theta p v := by
    intro hp
    obtain ⟨hcos, hsin⟩ := tables_row realFunctions headDim theta hp
    rw [hcos, hsin]
    rfl
  constructor
  · rintro ⟨x, positions, _, t, h, heads, _, hshape, -, hcall, hp, hx, hv, hy, hw⟩
    rw [call_eq _ (length_cos _ _ _ _) (length_sin _ _ _ _)] at hcall
    split_ifs at hcall with hall
    have hlt : p < maxSeqLen := by simpa using List.all_eq_true.mp hall p (List.mem_of_getElem? hp)
    obtain rfl := Except.ok.inj hcall
    rw [List.getElem?_zipWith, hx, hp] at hy
    obtain rfl := Option.some.inj hy
    rw [List.getElem?_map, hv] at hw
    refine ⟨hshape heads (List.mem_of_getElem? hx) v (List.mem_of_getElem? hv), hlt, ?_⟩
    exact (Option.some.inj hw).symm.trans (hrow hlt)
  · rintro ⟨hv, hp, rfl⟩
    have hcall : (real headDim theta maxSeqLen).call [[v]] [p] = .ok [[rotated headDim theta p v]] := by
      rw [call_eq _ (length_cos _ _ _ _) (length_sin _ _ _ _), if_pos (by simpa using hp)]
      simp only [List.zipWith_cons_cons, List.zipWith_nil_left, List.map_cons, List.map_nil, hrow hp]
    refine ⟨[[v]], [p], _, 0, 0, [v], [rotated headDim theta p v], ?_, rfl, hcall, rfl, rfl, rfl, rfl, rfl⟩
    have hlen : v.length = (real headDim theta maxSeqLen).headDim := hv
    simpa using hlen

variable (theta) in
lemma length_rotated (h : Even headDim) (hv : v.length = headDim) (p : ℕ) :
    (rotated headDim theta p v).length = headDim := by
  obtain ⟨half, rfl⟩ := id h
  have hlen := length_angles realFunctions theta h p
  exact length_rotateHalf hv (by omega) Real.cos Real.sin

lemma pairs_rotated (h : Even headDim) (hv : v.length = headDim) (p : ℕ) :
    pairs (headDim / 2) (rotated headDim theta p v) =
      rotate (fun i : Fin (headDim / 2) => (p : ℝ) * (inverseFrequencies realFunctions headDim theta).getD i 0)
        (pairs (headDim / 2) v) := by
  have hlen := length_angles realFunctions theta h p
  obtain ⟨half, rfl⟩ := id h
  have hhalf : (half + half) / 2 = half := by omega
  rw [hhalf] at hlen ⊢
  rw [rotated, pairs_rotateHalf hv hlen]
  congr 1
  funext i
  have hi : (i : ℕ) < (inverseFrequencies realFunctions (half + half) theta).length := by
    rw [angles, List.length_map] at hlen
    rw [hlen]
    exact i.isLt
  simp [angles, hi]

lemma dot_rotated (h : Even headDim) (hv : v.length = headDim) (hw : w.length = headDim) (m n : ℕ) :
    dot (rotated headDim theta m v) (rotated headDim theta n w) =
      inner (rotate (fun i : Fin (headDim / 2) => (((m : ℤ) - n : ℤ) : ℝ) *
          (inverseFrequencies realFunctions headDim theta).getD i 0) (pairs (headDim / 2) v))
        (pairs (headDim / 2) w) := by
  have hhalf : headDim = headDim / 2 + headDim / 2 := by
    obtain ⟨half, rfl⟩ := h
    omega
  have hm := (length_rotated theta h hv m).trans hhalf
  have hn := (length_rotated theta h hw n).trans hhalf
  rw [dot_eq_inner hm hn, pairs_rotated h hv, pairs_rotated h hw, inner_rotate]
  congr 2
  funext i
  rw [Pi.sub_apply, Int.cast_sub, Int.cast_natCast, Int.cast_natCast, sub_mul]

lemma norm_rotated (h : Even headDim) (hv : v.length = headDim) (p : ℕ) :
    euclideanNorm (rotated headDim theta p v) = euclideanNorm v := by
  have hhalf : headDim = headDim / 2 + headDim / 2 := by
    obtain ⟨half, rfl⟩ := h
    omega
  have hp := (length_rotated theta h hv p).trans hhalf
  rw [dot_self, dot_self, dot_eq_inner hp hp, pairs_rotated h hv, inner_rotate_same,
    dot_eq_inner (hv.trans hhalf) (hv.trans hhalf)]

structure RelativePosition (r : RotaryEmbedding ℝ) (maxSeqLen : ℕ) : Prop where
  turns : ∀ v : List ℝ, v.length = r.headDim → ∀ p < maxSeqLen, ∃ w, Turns r v p w
  dot : ∀ q k : List ℝ, ∀ m n m' n' : ℕ, (m : ℤ) - n = (m' : ℤ) - n' → ∀ qm kn qm' kn' : List ℝ,
    Turns r q m qm → Turns r k n kn → Turns r q m' qm' → Turns r k n' kn' → dot qm kn = dot qm' kn'
  norm : ∀ v p w, Turns r v p w → euclideanNorm w = euclideanNorm v

theorem rope_relativePosition (heven : Even headDim) (_ : 0 < theta) (maxSeqLen : ℕ) :
    RelativePosition (real headDim theta maxSeqLen) maxSeqLen where
  turns := by
    intro v hv p hp
    exact ⟨_, turns_iff.mpr ⟨hv, hp, rfl⟩⟩
  dot := by
    intro q k m n m' n' hdiff qm kn qm' kn' hqm hkn hqm' hkn'
    obtain ⟨hq, -, rfl⟩ := turns_iff.mp hqm
    obtain ⟨hk, -, rfl⟩ := turns_iff.mp hkn
    obtain ⟨-, -, rfl⟩ := turns_iff.mp hqm'
    obtain ⟨-, -, rfl⟩ := turns_iff.mp hkn'
    rw [dot_rotated heven hq hk, dot_rotated heven hq hk, hdiff]
  norm := by
    intro v p w h
    obtain ⟨hv, -, rfl⟩ := turns_iff.mp h
    exact norm_rotated heven hv p

theorem rope_relativePosition_four : RelativePosition (real 4 1000000 8) 8 :=
  rope_relativePosition (by decide) (by norm_num) 8

end Turns

end

end RotaryEmbedding

end MiniVllm
