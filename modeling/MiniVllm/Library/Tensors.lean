import Mathlib.Algebra.BigOperators.Group.Finset.Basic
import Mathlib.Algebra.Ring.Basic
import Mathlib.Data.List.GetD
import Mathlib.Data.List.OfFn
import Mathlib.Tactic

/-! Tensors as a shape and the entries in row-major order. -/

namespace MiniVllm

inductive TensorError
  | shapeMismatch
  deriving DecidableEq, Repr

@[ext]
structure Tensor (F : Type) where
  shape : List ℕ
  data : List F
  size : data.length = shape.prod
  deriving DecidableEq

namespace Tensor

variable {F : Type}

def offset : List ℕ → List ℕ → ℕ
  | _ :: shape, i :: idx => i * shape.prod + offset shape idx
  | _, _ => 0

abbrev Within (shape idx : List ℕ) : Prop := List.Forall₂ (fun i n => i < n) idx shape

lemma offset_lt {shape idx : List ℕ} (h : Within shape idx) : offset shape idx < shape.prod := by
  induction h with
  | nil => exact Nat.one_pos
  | @cons i n idx shape hi _ ih =>
    rw [offset, List.prod_cons]
    calc i * shape.prod + offset shape idx
      _ < i * shape.prod + shape.prod := Nat.add_lt_add_left ih _
      _ = (i + 1) * shape.prod := (Nat.succ_mul i _).symm
      _ ≤ n * shape.prod := Nat.mul_le_mul_right _ hi

lemma offset_append {shape idx : List ℕ} (h : Within shape idx) (shape' idx' : List ℕ) :
    offset (shape ++ shape') (idx ++ idx') = offset shape idx * shape'.prod + offset shape' idx' := by
  induction h with
  | nil => simp [offset]
  | cons _ _ ih =>
    simp only [List.cons_append, offset, ih, List.prod_append, Nat.add_mul, Nat.mul_assoc, Nat.add_assoc]

@[simp] lemma offset_pair (n m i j : ℕ) : offset [n, m] [i, j] = i * m + j := by
  simp [offset]

@[simp] lemma offset_single (n i : ℕ) : offset [n] [i] = i := by
  simp [offset]

def entry [Zero F] (x : Tensor F) (idx : List ℕ) : F := x.data.getD (offset x.shape idx) 0

def matrix (n m : ℕ) (f : ℕ → ℕ → F) : Tensor F where
  shape := [n, m]
  data := List.ofFn fun k : Fin (n * m) => f (k / m) (k % m)
  size := by simp

section Matrix

variable {n m : ℕ} {f g : ℕ → ℕ → F}

@[simp] lemma shape_matrix : (matrix n m f).shape = [n, m] := rfl

lemma matrix_congr (h : ∀ i < n, ∀ j < m, f i j = g i j) : matrix n m f = matrix n m g := by
  simp only [matrix, Tensor.mk.injEq, true_and]
  congr 1
  funext k
  have hpos : 0 < m := Nat.pos_of_mul_pos_left (Nat.zero_lt_of_lt k.isLt)
  exact h _ (Nat.div_lt_of_lt_mul (Nat.mul_comm n m ▸ k.isLt)) _ (Nat.mod_lt _ hpos)

variable [Zero F]

lemma entry_matrix {i j : ℕ} (hi : i < n) (hj : j < m) : (matrix n m f).entry [i, j] = f i j := by
  have hlt : i * m + j < n * m := by
    calc i * m + j
      _ < (i + 1) * m := by rw [Nat.succ_mul]; exact Nat.add_lt_add_left hj _
      _ ≤ n * m := Nat.mul_le_mul_right m hi
  have hpos : 0 < m := Nat.zero_lt_of_lt hj
  have hdiv : (i * m + j) / m = i := by
    rw [Nat.mul_comm, Nat.mul_add_div hpos, Nat.div_eq_of_lt hj, Nat.add_zero]
  have hmod : (i * m + j) % m = j := by
    rw [Nat.mul_comm, Nat.mul_add_mod, Nat.mod_eq_of_lt hj]
  rw [entry, shape_matrix, offset_pair, matrix, List.getD_eq_getElem _ _ (by simpa using hlt)]
  simp [hdiv, hmod]

end Matrix

def reshape (x : Tensor F) (shape : List ℕ) : Except TensorError (Tensor F) :=
  if h : shape.prod = x.shape.prod then .ok ⟨shape, x.data, x.size.trans h.symm⟩ else .error .shapeMismatch

/-- `reshape(-1, m)`; with `m = 0` any number of rows would do, which is refused. -/
def toRows (x : Tensor F) (m : ℕ) : Except TensorError (Tensor F) :=
  if m = 0 then .error .shapeMismatch else x.reshape [x.shape.prod / m, m]

def transpose [Zero F] (x : Tensor F) : Except TensorError (Tensor F) :=
  match x.shape with
  | [n, m] => .ok (matrix m n fun i j => x.entry [j, i])
  | _ => .error .shapeMismatch

def matmul [NonUnitalNonAssocSemiring F] (x y : Tensor F) : Except TensorError (Tensor F) :=
  match x.shape, y.shape with
  | [n, k], [k', m] =>
    if k = k' then .ok (matrix n m fun i j => ∑ c ∈ Finset.range k, x.entry [i, c] * y.entry [c, j])
    else .error .shapeMismatch
  | _, _ => .error .shapeMismatch

def addRow [AddZeroClass F] (x b : Tensor F) : Except TensorError (Tensor F) :=
  match x.shape, b.shape with
  | [n, m], [m'] =>
    if m = m' then .ok (matrix n m fun i j => x.entry [i, j] + b.entry [j]) else .error .shapeMismatch
  | _, _ => .error .shapeMismatch

def columns [Zero F] (x : Tensor F) (start stop : ℕ) : Except TensorError (Tensor F) :=
  match x.shape with
  | [n, m] => .ok (matrix n (min stop m - min start m) fun i j => x.entry [i, min start m + j])
  | _ => .error .shapeMismatch

def catPair (x y : Tensor F) : Except TensorError (Tensor F) :=
  match hx : x.shape, hy : y.shape with
  | n :: s, m :: t =>
    if h : s = t then
      .ok ⟨(n + m) :: s, x.data ++ y.data, by
        rw [List.length_append, x.size, y.size, hx, hy, h, List.prod_cons, List.prod_cons, List.prod_cons, Nat.add_mul]⟩
    else .error .shapeMismatch
  | _, _ => .error .shapeMismatch

def cat : List (Tensor F) → Except TensorError (Tensor F)
  | [] => .error .shapeMismatch
  | x :: xs => xs.foldlM catPair x

def map (f : F → F) (x : Tensor F) : Tensor F := ⟨x.shape, x.data.map f, by rw [List.length_map, x.size]⟩

def mul [Mul F] (x y : Tensor F) : Except TensorError (Tensor F) :=
  if h : x.shape = y.shape then
    .ok ⟨x.shape, List.zipWith (fun a b => a * b) x.data y.data, by
      rw [List.length_zipWith, x.size, y.size, h, min_self]⟩
  else .error .shapeMismatch

/-- `x.copy_(source)` of a source with the tensor's own shape. The broadcast of a smaller source is left out: it is an
error here. -/
def copy (x source : Tensor F) : Except TensorError (Tensor F) :=
  if source.shape = x.shape then .ok source else .error .shapeMismatch

section Returns

variable {n m k : ℕ} {f g : ℕ → ℕ → F} {x y : Tensor F}

lemma reshape_ok {shape : List ℕ} (h : shape.prod = x.shape.prod) :
    ∃ z, x.reshape shape = .ok z ∧ z.shape = shape ∧ z.data = x.data := by
  rw [reshape, dif_pos h]
  exact ⟨_, rfl, rfl, rfl⟩

variable [Zero F]

lemma eq_matrix (h : x.shape = [n, m]) : x = matrix n m fun i j => x.entry [i, j] := by
  obtain ⟨shape, data, hsize⟩ := x
  obtain rfl : shape = [n, m] := h
  have hlen : data.length = n * m := by simpa using hsize
  simp only [matrix, Tensor.mk.injEq, true_and]
  apply List.ext_getElem
  · rw [hlen, List.length_ofFn]
  · intro i hi _
    rw [List.getElem_ofFn, entry, offset_pair, Nat.div_add_mod', List.getD_eq_getElem _ _ hi]

lemma toRows_ok {lead : List ℕ} (h : x.shape = lead ++ [m]) (hm : 0 < m) :
    x.toRows m = .ok (matrix lead.prod m fun i j => x.data.getD (i * m + j) 0) := by
  have hprod : x.shape.prod = lead.prod * m := by simp [h]
  have hrows : [x.shape.prod / m, m].prod = x.shape.prod := by
    simp [hprod, Nat.mul_div_cancel _ hm]
  obtain ⟨z, hz, hshape, hdata⟩ := reshape_ok hrows
  rw [toRows, if_neg (Nat.ne_of_gt hm), hz]
  have hmatrix : z.shape = [lead.prod, m] := by rw [hshape, hprod, Nat.mul_div_cancel _ hm]
  rw [eq_matrix hmatrix]
  simp only [entry, hmatrix, offset_pair, hdata]

lemma transpose_ok (h : x.shape = [n, m]) : x.transpose = .ok (matrix m n fun i j => x.entry [j, i]) := by
  rw [transpose, h]

lemma columns_matrix {start stop : ℕ} (hle : start ≤ stop) (hstop : stop ≤ m) :
    (matrix n m f).columns start stop = .ok (matrix n (stop - start) fun i j => f i (start + j)) := by
  rw [columns, shape_matrix]
  simp only [min_eq_left hstop, min_eq_left (hle.trans hstop)]
  congr 1
  apply matrix_congr
  intro i hi j hj
  exact entry_matrix hi (by omega)

end Returns

lemma matmul_matrix [NonUnitalNonAssocSemiring F] {n m k : ℕ} (f g : ℕ → ℕ → F) :
    (matrix n k f).matmul (matrix k m g) = .ok (matrix n m fun i j => ∑ c ∈ Finset.range k, f i c * g c j) := by
  rw [matmul, shape_matrix, shape_matrix]
  simp only [if_true]
  congr 1
  apply matrix_congr
  intro i hi j hj
  apply Finset.sum_congr rfl
  intro c hc
  rw [entry_matrix hi (Finset.mem_range.mp hc), entry_matrix (Finset.mem_range.mp hc) hj]

lemma addRow_matrix [AddZeroClass F] {n m : ℕ} (f : ℕ → ℕ → F) {b : Tensor F} (h : b.shape = [m]) :
    (matrix n m f).addRow b = .ok (matrix n m fun i j => f i j + b.entry [j]) := by
  rw [addRow, shape_matrix, h]
  simp only [if_true]
  congr 1
  apply matrix_congr
  intro i hi j hj
  rw [entry_matrix hi hj]

lemma map_matrix (h : F → F) (n m : ℕ) (f : ℕ → ℕ → F) : (matrix n m f).map h = matrix n m fun i j => h (f i j) := by
  simp only [map, matrix, Tensor.mk.injEq, true_and, List.map_ofFn]
  rfl

lemma mul_matrix [Mul F] (n m : ℕ) (f g : ℕ → ℕ → F) :
    (matrix n m f).mul (matrix n m g) = .ok (matrix n m fun i j => f i j * g i j) := by
  have hshape : (matrix n m f).shape = (matrix n m g).shape := rfl
  rw [mul, dif_pos hshape]
  simp only [matrix, Except.ok.injEq, Tensor.mk.injEq, true_and]
  apply List.ext_getElem <;> simp

section Cat

variable {n m : ℕ} {s : List ℕ} {x y z : Tensor F}

lemma catPair_ok (hx : x.shape = n :: s) (hy : y.shape = m :: s) :
    ∃ z, x.catPair y = .ok z ∧ z.shape = (n + m) :: s ∧ z.data = x.data ++ y.data := by
  rw [catPair]
  split
  · rename_i n' s' m' t' hx' hy'
    obtain ⟨rfl, rfl⟩ := List.cons.inj (hx.symm.trans hx')
    obtain ⟨rfl, rfl⟩ := List.cons.inj (hy.symm.trans hy')
    rw [dif_pos rfl]
    exact ⟨_, rfl, rfl, rfl⟩
  · rename_i hno
    exact (hno _ _ _ _ hx hy).elim

variable [Zero F]

lemma entry_append (hx : x.shape = n :: s) (hy : y.shape = m :: s) (hz : z.shape = (n + m) :: s)
    (hdata : z.data = x.data ++ y.data) {i : ℕ} {idx : List ℕ} (hidx : Within s idx) :
    (i < n → z.entry (i :: idx) = x.entry (i :: idx)) ∧ z.entry ((n + i) :: idx) = y.entry (i :: idx) := by
  have hlen : x.data.length = n * s.prod := by rw [x.size, hx, List.prod_cons]
  have hoff := offset_lt hidx
  constructor
  · intro hi
    have hlt : i * s.prod + offset s idx < x.data.length := by
      rw [hlen]
      calc i * s.prod + offset s idx
        _ < (i + 1) * s.prod := by rw [Nat.succ_mul]; exact Nat.add_lt_add_left hoff _
        _ ≤ n * s.prod := Nat.mul_le_mul_right _ hi
    rw [entry, entry, hz, hx, offset, offset, hdata, List.getD_append _ _ _ _ hlt]
  · have hle : x.data.length ≤ (n + i) * s.prod + offset s idx := by
      rw [hlen, Nat.add_mul]
      omega
    rw [entry, entry, hz, hy, offset, offset, hdata, List.getD_append_right _ _ _ _ hle, hlen, Nat.add_mul,
      Nat.add_assoc, Nat.add_sub_cancel_left]

lemma cat_two (hx : x.shape = n :: s) (hy : y.shape = m :: s) :
    ∃ z, cat [x, y] = .ok z ∧ z.shape = (n + m) :: s ∧ ∀ idx, Within s idx →
      (∀ i < n, z.entry (i :: idx) = x.entry (i :: idx)) ∧ ∀ i, z.entry ((n + i) :: idx) = y.entry (i :: idx) := by
  obtain ⟨z, hz, hshape, hdata⟩ := catPair_ok hx hy
  refine ⟨z, ?_, hshape, fun idx hidx => ⟨fun i hi => ?_, fun i => ?_⟩⟩
  · rw [cat, List.foldlM_cons, hz]
    rfl
  · exact (entry_append hx hy hshape hdata hidx).1 hi
  · exact (entry_append hx hy hshape hdata hidx).2

lemma cat_three {l : ℕ} {w : Tensor F} (hx : x.shape = n :: s) (hy : y.shape = m :: s) (hw : w.shape = l :: s) :
    ∃ z, cat [x, y, w] = .ok z ∧ z.shape = (n + m + l) :: s ∧ ∀ idx, Within s idx →
      (∀ i < n, z.entry (i :: idx) = x.entry (i :: idx)) ∧
      (∀ i < m, z.entry ((n + i) :: idx) = y.entry (i :: idx)) ∧
      ∀ i, z.entry ((n + m + i) :: idx) = w.entry (i :: idx) := by
  obtain ⟨u, hu, hushape, hudata⟩ := catPair_ok hx hy
  obtain ⟨z, hz, hshape, hdata⟩ := catPair_ok hushape hw
  refine ⟨z, ?_, hshape, fun idx hidx => ?_⟩
  · rw [cat, List.foldlM_cons, hu]
    simp only [bind, Except.bind, List.foldlM_cons, hz]
    rfl
  · have hfirst := fun i => entry_append hx hy hushape hudata (i := i) hidx
    have hall := fun i => entry_append hushape hw hshape hdata (i := i) hidx
    refine ⟨fun i hi => ?_, fun i hi => ?_, fun i => (hall i).2⟩
    · rw [(hall i).1 (by omega), (hfirst i).1 hi]
    · rw [(hall (n + i)).1 (by omega), (hfirst i).2]

end Cat

section Lead

variable [Zero F] {lead t : List ℕ} {x y : Tensor F}

lemma entry_row {m : ℕ} (h : x.shape = lead ++ [m]) (ht : Within lead t) (c : ℕ) :
    x.entry (t ++ [c]) = x.data.getD (offset lead t * m + c) 0 := by
  rw [entry, h, offset_append ht, offset_single, List.prod_singleton]

lemma entry_of_matrix {trail idx : List ℕ} {f : ℕ → ℕ → F} (hshape : y.shape = lead ++ trail)
    (hdata : y.data = (matrix lead.prod trail.prod f).data) (ht : Within lead t) (hidx : Within trail idx) :
    y.entry (t ++ idx) = f (offset lead t) (offset trail idx) := by
  have h := entry_matrix (f := f) (offset_lt ht) (offset_lt hidx)
  rw [entry, shape_matrix, offset_pair] at h
  rw [entry, hshape, hdata, offset_append ht, h]

end Lead

end Tensor

end MiniVllm
