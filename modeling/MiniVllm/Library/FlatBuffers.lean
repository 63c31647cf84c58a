import MiniVllm.Library.Scatter
import Mathlib.Data.List.GetD
import Mathlib.Data.List.OfFn
import Mathlib.Tactic

/-! Row-major buffers, read and written by vectors at computed offsets. -/

namespace MiniVllm

inductive Fault
  | outOfBounds
  deriving DecidableEq, Repr

namespace Flat

variable {α : Type} {d : ℕ}

def flat (xs : List (Fin d → α)) : List α := xs.flatMap List.ofFn

def load (buffer : List α) (offset : ℤ) : Except Fault α :=
  match (if 0 ≤ offset then buffer[offset.toNat]? else none) with
  | some x => .ok x
  | none => .error .outOfBounds

def loadVec (buffer : List α) (offset : ℤ) (d : ℕ) : Except Fault (Fin d → α) :=
  if h : 0 ≤ offset ∧ offset.toNat + d ≤ buffer.length then
    .ok (fun i => buffer.get ⟨offset.toNat + i, Nat.lt_of_lt_of_le (Nat.add_lt_add_left i.isLt _) h.2⟩)
  else .error .outOfBounds

def storeVec (buffer : List α) (offset : ℤ) (v : Fin d → α) : Except Fault (List α) :=
  if 0 ≤ offset ∧ offset.toNat + d ≤ buffer.length then
    .ok (buffer.take offset.toNat ++ List.ofFn v ++ buffer.drop (offset.toNat + d))
  else .error .outOfBounds

section Rows

variable (xs : List (Fin d → α))

@[simp] lemma length_flat : (flat xs).length = xs.length * d := by
  induction xs with
  | nil => simp [flat]
  | cons x xs ih =>
    have hcons : flat (x :: xs) = List.ofFn x ++ flat xs := rfl
    rw [hcons, List.length_append, List.length_ofFn, ih, List.length_cons, Nat.succ_mul, Nat.add_comm]

lemma flat_append (ys : List (Fin d → α)) : flat (xs ++ ys) = flat xs ++ flat ys := List.flatMap_append

lemma flat_split {r : ℕ} (h : r < xs.length) :
    flat xs = flat (xs.take r) ++ (List.ofFn xs[r] ++ flat (xs.drop (r + 1))) := by
  have hcons : ∀ (x : Fin d → α) (ys : List (Fin d → α)), List.ofFn x ++ flat ys = flat (x :: ys) := fun _ _ => rfl
  rw [hcons, ← flat_append, List.getElem_cons_drop, List.take_append_drop]

lemma row_end {r n : ℕ} (h : r < n) : r * d + d ≤ n * d := by
  rw [← Nat.succ_mul]
  exact Nat.mul_le_mul_right d h

lemma length_take_rows {r : ℕ} (h : r < xs.length) : (flat (xs.take r)).length = r * d := by
  rw [length_flat, List.length_take, min_eq_left h.le]

section At

variable {xs} {r : ℕ} {x : Fin d → α} (hx : xs[r]? = some x)

include hx

lemma flat_getElem? (i : Fin d) : (flat xs)[r * d + i]? = some (x i) := by
  obtain ⟨h, rfl⟩ := List.getElem?_eq_some_iff.mp hx
  have hlen := length_take_rows xs h
  rw [flat_split xs h, List.getElem?_append_right (by omega), List.getElem?_append_left (by simp [hlen]), hlen,
    Nat.add_sub_cancel_left]
  simp

lemma flat_set (i : Fin d) (v : α) : (flat xs).set (r * d + i) v = flat (xs.set r (Function.update x i v)) := by
  obtain ⟨h, rfl⟩ := List.getElem?_eq_some_iff.mp hx
  have hlen := length_take_rows xs h
  rw [flat_split xs h, flat_split (xs.set r _) (by simpa using h), List.getElem_set_self, List.take_set_of_le le_rfl,
    List.drop_set_of_lt (Nat.lt_succ_self r), List.set_append_right _ _ (by omega), hlen, Nat.add_sub_cancel_left,
    List.set_append_left _ _ (by simp)]
  congr 2
  refine List.ext_getElem (by simp) fun j h₁ h₂ => ?_
  rw [List.getElem_set]
  by_cases hj : (i : ℕ) = j
  · have hji : (⟨j, by simpa using h₂⟩ : Fin d) = i := Fin.ext hj.symm
    rw [if_pos hj, List.getElem_ofFn, hji, Function.update_self]
  · have hji : (⟨j, by simpa using h₂⟩ : Fin d) ≠ i := fun he => hj (congrArg Fin.val he).symm
    rw [if_neg hj, List.getElem_ofFn, List.getElem_ofFn, Function.update_of_ne hji]

lemma loadVec_flat {offset : ℤ} (ho : offset = (r * d : ℕ)) : loadVec (flat xs) offset d = .ok x := by
  subst ho
  obtain ⟨h, -⟩ := List.getElem?_eq_some_iff.mp hx
  have hbound : (0 : ℤ) ≤ (r * d : ℕ) ∧ ((r * d : ℕ) : ℤ).toNat + d ≤ (flat xs).length := by
    rw [Int.toNat_natCast, length_flat]
    exact ⟨Int.natCast_nonneg _, row_end h⟩
  rw [loadVec, dif_pos hbound]
  refine congrArg Except.ok (funext fun i => ?_)
  apply Option.some.inj
  rw [← flat_getElem? hx i]
  exact (List.getElem?_eq_getElem _).symm

end At

lemma storeVec_flat {r : ℕ} (h : r < xs.length) {offset : ℤ} (ho : offset = (r * d : ℕ)) (v : Fin d → α) :
    storeVec (flat xs) offset v = .ok (flat (xs.set r v)) := by
  subst ho
  have hbound : (0 : ℤ) ≤ (r * d : ℕ) ∧ ((r * d : ℕ) : ℤ).toNat + d ≤ (flat xs).length := by
    rw [Int.toNat_natCast, length_flat]
    exact ⟨Int.natCast_nonneg _, row_end h⟩
  have hlen := length_take_rows xs h
  have htake : (flat xs).take (r * d) = flat (xs.take r) := by
    rw [flat_split xs h, List.take_left' hlen]
  have hdrop : (flat xs).drop (r * d + d) = flat (xs.drop (r + 1)) := by
    rw [flat_split xs h, ← List.append_assoc, List.drop_left' (by simp [hlen])]
  rw [storeVec, if_pos hbound, Int.toNat_natCast, htake, hdrop,
    flat_split (xs.set r v) (by simpa using h), List.getElem_set_self, List.take_set_of_le le_rfl,
    List.drop_set_of_lt (Nat.lt_succ_self r), List.append_assoc]

end Rows

lemma load_eq {buffer : List α} {r : ℕ} {x : α} (hx : buffer[r]? = some x) {offset : ℤ} (ho : offset = r) :
    load buffer offset = .ok x := by
  subst ho
  rw [load, if_pos (Int.natCast_nonneg r), Int.toNat_natCast, hx]

lemma flatten_getElem? {xss : List (List α)} {m : ℕ} (hm : ∀ xs ∈ xss, xs.length = m) {r j : ℕ} {xs : List α}
    (hr : xss[r]? = some xs) (hj : j < m) : xss.flatten[r * m + j]? = xs[j]? := by
  induction xss generalizing r with
  | nil => simp at hr
  | cons ys xss ih =>
    have hlen := hm ys List.mem_cons_self
    rw [List.flatten_cons]
    cases r with
    | zero =>
      obtain rfl : ys = xs := by simpa using hr
      rw [Nat.zero_mul, Nat.zero_add, List.getElem?_append_left (by omega)]
    | succ r =>
      have hrest := ih (fun zs hz => hm zs (List.mem_cons_of_mem _ hz)) (by simpa using hr)
      rw [Nat.succ_mul, List.getElem?_append_right (by omega), hlen, ← hrest]
      congr 1
      omega

lemma exists_rows (d : ℕ) {n : ℕ} {buffer : List α} (h : buffer.length = n * d) :
    ∃ xs : List (Fin d → α), xs.length = n ∧ flat xs = buffer := by
  induction n generalizing buffer with
  | zero =>
    rw [Nat.zero_mul] at h
    exact ⟨[], rfl, (List.length_eq_zero_iff.mp h).symm⟩
  | succ n ih =>
    rw [Nat.succ_mul] at h
    have htake : (buffer.take d).length = d := by
      rw [List.length_take]
      omega
    obtain ⟨xs, hlen, hflat⟩ := @ih (buffer.drop d) (by rw [List.length_drop]; omega)
    refine ⟨(fun i => (buffer.take d).get (i.cast htake.symm)) :: xs, by rw [List.length_cons, hlen], ?_⟩
    have hcons : ∀ x : Fin d → α, flat (x :: xs) = List.ofFn x ++ flat xs := fun _ => rfl
    have hrow : List.ofFn (fun i : Fin d => (buffer.take d).get (i.cast htake.symm)) = buffer.take d := by
      refine List.ext_getElem (by simp [htake]) fun j h₁ h₂ => ?_
      rw [List.getElem_ofFn]
      rfl
    rw [hcons, hrow, hflat, List.take_append_drop]

section Grid

variable {σ ι e : Type}

lemma foldlM_simulates {τ : Type} {R : τ → σ} {I : τ → Prop} {f : σ → ι → Except e σ} {g : τ → ι → τ} {xs : List ι}
    (hstep : ∀ x ∈ xs, ∀ t, I t → f (R t) x = .ok (R (g t x)) ∧ I (g t x)) {t : τ} (ht : I t) :
    xs.foldlM f (R t) = .ok (R (xs.foldl g t)) := by
  induction xs generalizing t with
  | nil => rfl
  | cons x xs ih =>
    obtain ⟨hx, hi⟩ := hstep x List.mem_cons_self t ht
    rw [List.foldlM_cons, hx]
    exact ih (fun y hy => hstep y (List.mem_cons_of_mem x hy)) hi

lemma foldlM_ok {f : σ → ι → Except e σ} {g : σ → ι → σ} {xs : List ι} (h : ∀ x ∈ xs, ∀ s, f s x = .ok (g s x)) (s : σ) :
    xs.foldlM f s = .ok (xs.foldl g s) :=
  foldlM_simulates (R := id) (I := fun _ => True) (fun x hx s _ => ⟨h x hx s, trivial⟩) trivial

lemma foldl_set_getElem? {β : Type} {idx : ι → ℕ} {val : ι → β} {out : List β} (order : List ι)
    (hval : ∀ pid ∈ order, out[idx pid]? = some (val pid)) {rows : List β} (hlen : rows.length = out.length) (r : ℕ) :
    (order.foldl (fun rows pid => rows.set (idx pid) (val pid)) rows)[r]? =
      if r ∈ order.map idx then out[r]? else rows[r]? := by
  induction order generalizing rows with
  | nil => simp
  | cons pid order ih =>
    have hpid := hval pid List.mem_cons_self
    have hlt : idx pid < rows.length := hlen ▸ (List.getElem?_eq_some_iff.mp hpid).1
    rw [List.foldl_cons, ih (fun p hp => hval p (List.mem_cons_of_mem pid hp)) (by rw [List.length_set, hlen]),
      List.map_cons]
    by_cases hr : r ∈ order.map idx
    · rw [if_pos hr, if_pos (List.mem_cons_of_mem _ hr)]
    · rw [if_neg hr]
      by_cases he : idx pid = r
      · subst he
        rw [if_pos List.mem_cons_self, List.getElem?_set_self hlt, hpid]
      · have hnot : r ∉ idx pid :: order.map idx := fun h => (List.mem_cons.mp h).elim (fun h => he h.symm) hr
        rw [if_neg hnot, List.getElem?_set_ne he]

lemma foldl_set_eq {β : Type} {idx : ι → ℕ} {val : ι → β} {out : List β} {order : List ι}
    (hval : ∀ pid ∈ order, out[idx pid]? = some (val pid)) (hall : ∀ r < out.length, r ∈ order.map idx)
    {rows : List β} (hlen : rows.length = out.length) :
    order.foldl (fun rows pid => rows.set (idx pid) (val pid)) rows = out := by
  apply List.ext_getElem?
  intro r
  rw [foldl_set_getElem? order hval hlen]
  split_ifs with hr
  · rfl
  · have hge : out.length ≤ r := Nat.le_of_not_lt fun hlt => hr (hall r hlt)
    rw [List.getElem?_eq_none hge, List.getElem?_eq_none (hlen ▸ hge)]

section Plane

variable {order : List (ℕ × ℕ)} {n m : ℕ} (ho : order.Perm ((List.range n).product (List.range m)))

include ho

lemma grid_lt {pid : ℕ × ℕ} (h : pid ∈ order) : pid.1 < n ∧ pid.2 < m := by
  obtain ⟨h₁, h₂⟩ := List.mem_product.mp (ho.mem_iff.mp h)
  exact ⟨List.mem_range.mp h₁, List.mem_range.mp h₂⟩

lemma grid_row_lt {pid : ℕ × ℕ} (h : pid ∈ order) : pid.1 * m + pid.2 < n * m :=
  (Nat.add_lt_add_left (grid_lt ho h).2 _).trans_le (row_end (grid_lt ho h).1)

lemma grid_rows {r : ℕ} (hr : r < n * m) : r ∈ order.map (fun pid => pid.1 * m + pid.2) := by
  have hm : 0 < m := Nat.pos_of_mul_pos_left (Nat.zero_lt_of_lt hr)
  refine List.mem_map.mpr ⟨(r / m, r % m), ho.mem_iff.mpr (List.mem_product.mpr ⟨?_, ?_⟩), ?_⟩
  · exact List.mem_range.mpr ((Nat.div_lt_iff_lt_mul hm).mpr hr)
  · exact List.mem_range.mpr (Nat.mod_lt r hm)
  · rw [Nat.mul_comm]
    exact Nat.div_add_mod r m

lemma foldl_grid {β : Type} {out rows : List β} (default : β) (hout : out.length = n * m)
    (hlen : rows.length = n * m) :
    order.foldl (fun rows pid => rows.set (pid.1 * m + pid.2) (out.getD (pid.1 * m + pid.2) default)) rows = out := by
  apply foldl_set_eq _ _ (hlen.trans hout.symm)
  · intro pid hpid
    have hlt : pid.1 * m + pid.2 < out.length := hout ▸ grid_row_lt ho hpid
    rw [List.getD_eq_getElem?_getD, List.getElem?_eq_getElem hlt, Option.getD_some]
  · intro r hr
    exact grid_rows ho (hout ▸ hr)

end Plane

end Grid

end Flat

end MiniVllm
