import MiniVllm.Library.Loop
import MiniVllm.Model.WeightLoader

/-! The weights that the loader fuses compute the separate projections. -/

namespace MiniVllm

open Tensor

section Projections

variable {F : Type} [NonAssocSemiring F]

def linear (n : ℕ) (w x : Tensor F) (t : List ℕ) (j : ℕ) : F :=
  ∑ c ∈ Finset.range n, x.entry (t ++ [c]) * w.entry [j, c]

structure HoldsHeads (y : Tensor F) (lead : List ℕ) (heads headDim : ℕ) (column : List ℕ → ℕ → F) : Prop where
  shape : y.shape = lead ++ [heads, headDim]
  entry : ∀ t, Within lead t → ∀ h < heads, ∀ d < headDim, y.entry (t ++ [h, d]) = column t (h * headDim + d)

variable {x : Tensor F} {lead : List ℕ}

def product (n : ℕ) (w x : Tensor F) (i j : ℕ) : F :=
  ∑ c ∈ Finset.range n, x.data.getD (i * n + c) 0 * w.entry [j, c]

lemma product_row {n : ℕ} (hx : x.shape = lead ++ [n]) {t : List ℕ} (ht : Within lead t) (w : Tensor F) (j : ℕ) :
    product n w x (offset lead t) j = linear n w x t j := by
  apply Finset.sum_congr rfl
  intro c _
  rw [entry_row hx ht]

lemma matmul_rows {n m : ℕ} {w : Tensor F} (hn : 0 < n) (hx : x.shape = lead ++ [n]) (hw : w.shape = [m, n]) :
    ∃ rows columns, x.toRows n = .ok rows ∧ w.transpose = .ok columns ∧
      rows.matmul columns = .ok (matrix lead.prod m (product n w x)) :=
  ⟨_, _, toRows_ok hx hn, transpose_ok hw, matmul_matrix _ _⟩

lemma HoldsHeads.congr {y : Tensor F} {heads headDim : ℕ} {f g : List ℕ → ℕ → F} (h : HoldsHeads y lead heads headDim f)
    (hfg : ∀ t, Within lead t → ∀ j < heads * headDim, f t j = g t j) : HoldsHeads y lead heads headDim g where
  shape := h.shape
  entry := by
    intro t ht i hi d hd
    have hlt : i * headDim + d < heads * headDim := by
      calc i * headDim + d
        _ < (i + 1) * headDim := by rw [Nat.succ_mul]; exact Nat.add_lt_add_left hd _
        _ ≤ heads * headDim := Nat.mul_le_mul_right _ hi
    rw [h.entry t ht i hi d hd, hfg t ht _ hlt]

lemma columns_heads {m stop : ℕ} (f : ℕ → ℕ → F) (lead : List ℕ) (start heads headDim : ℕ)
    (hstop : start + heads * headDim = stop) (hm : stop ≤ m) :
    ∃ c y, (matrix lead.prod m f).columns start stop = .ok c ∧ c.reshape (lead ++ [heads, headDim]) = .ok y ∧
      HoldsHeads y lead heads headDim (fun t j => f (offset lead t) (start + j)) := by
  have hcols := columns_matrix (n := lead.prod) (f := f) (by omega : start ≤ stop) hm
  have hwidth : stop - start = [heads, headDim].prod := by
    rw [List.prod_cons, List.prod_singleton]
    omega
  rw [hwidth] at hcols
  have hsize : (lead ++ [heads, headDim]).prod =
      (matrix lead.prod [heads, headDim].prod fun i j => f i (start + j)).shape.prod := by
    simp
  obtain ⟨y, hy, hshape, hdata⟩ := reshape_ok hsize
  refine ⟨_, y, hcols, hy, hshape, fun t ht h hh d hd => ?_⟩
  have hidx : Within [heads, headDim] [h, d] := List.Forall₂.cons hh (List.Forall₂.cons hd List.Forall₂.nil)
  rw [entry_of_matrix hshape hdata ht hidx, offset_pair]

end Projections

namespace QKVProjection

variable {F : Type} [NonAssocSemiring F] {x : Tensor F} {lead : List ℕ}

def column (p : QKVProjection F) (x : Tensor F) (t : List ℕ) (j : ℕ) : F :=
  linear p.hiddenSize p.qkvWeight x t j + p.qkvBias.entry [j]

lemma forward_ok (p : QKVProjection F) (hn : 0 < p.hiddenSize) (hx : x.shape = lead ++ [p.hiddenSize]) :
    ∃ q k v, p.forward x = .ok (q, k, v) ∧
      HoldsHeads q lead p.numHeads p.headDim (fun t j => p.column x t j) ∧
      HoldsHeads k lead p.numKvHeads p.headDim (fun t j => p.column x t (p.qSize + j)) ∧
      HoldsHeads v lead p.numKvHeads p.headDim (fun t j => p.column x t (p.qSize + p.kvSize + j)) := by
  obtain ⟨rows, columns, hrows, hcolumns, hproduct⟩ := matmul_rows hn hx p.weight_shape
  have hlead : x.shape.dropLast = lead := by rw [hx, List.dropLast_concat]
  have htotal : p.qSize + p.kvSize + p.numKvHeads * p.headDim = p.totalSize := by
    rw [totalSize, Nat.two_mul, ← Nat.add_assoc]
    rfl
  obtain ⟨qc, q, hqc, hq, hqh⟩ := columns_heads (m := p.totalSize)
    (fun i j => product p.hiddenSize p.qkvWeight x i j + p.qkvBias.entry [j]) lead 0 p.numHeads p.headDim
    (Nat.zero_add p.qSize) (Nat.le_add_right _ _)
  obtain ⟨kc, k, hkc, hk, hkh⟩ := columns_heads (m := p.totalSize)
    (fun i j => product p.hiddenSize p.qkvWeight x i j + p.qkvBias.entry [j]) lead p.qSize p.numKvHeads p.headDim
    (show _ = p.qSize + p.kvSize from rfl) (htotal ▸ Nat.le_add_right _ _)
  obtain ⟨vc, v, hvc, hv, hvh⟩ := columns_heads (m := p.totalSize)
    (fun i j => product p.hiddenSize p.qkvWeight x i j + p.qkvBias.entry [j]) lead (p.qSize + p.kvSize)
    p.numKvHeads p.headDim htotal le_rfl
  have hcolumn : ∀ t, Within lead t → ∀ j,
      product p.hiddenSize p.qkvWeight x (offset lead t) j + p.qkvBias.entry [j] = p.column x t j := by
    intro t ht j
    rw [product_row hx ht, column]
  refine ⟨q, k, v, ?_, hqh.congr fun t ht j _ => ?_, hkh.congr fun t ht j _ => hcolumn t ht _,
    hvh.congr fun t ht j _ => hcolumn t ht _⟩
  · have hfused : (matrix lead.prod (p.numHeads * p.headDim + 2 * (p.numKvHeads * p.headDim))
        (product p.hiddenSize p.qkvWeight x)).addRow p.qkvBias = .ok (matrix lead.prod p.totalSize fun i j =>
          product p.hiddenSize p.qkvWeight x i j + p.qkvBias.entry [j]) :=
      addRow_matrix _ p.bias_shape
    simp only [forward, bind, Except.bind, hrows, hcolumns, hproduct, hfused, hlead, hqc, hq, hkc, hk, hvc, hv]
    rfl
  · rw [Nat.zero_add]
    exact hcolumn t ht j

end QKVProjection

namespace SwiGLUMLP

variable {F : Type} [NonAssocSemiring F] {x : Tensor F} {lead : List ℕ}

def hiddenEntry (m : SwiGLUMLP F) (silu : F → F) (x : Tensor F) (t : List ℕ) (c : ℕ) : F :=
  silu (linear m.hiddenSize m.gateUpWeight x t c) * linear m.hiddenSize m.gateUpWeight x t (m.intermediateSize + c)

lemma forward_ok (m : SwiGLUMLP F) (silu : F → F) (hn : 0 < m.hiddenSize) (hx : x.shape = lead ++ [m.hiddenSize]) :
    ∃ out, m.forward silu x = .ok out ∧ out.shape = lead ++ [m.hiddenSize] ∧ ∀ t, Within lead t →
      ∀ j < m.hiddenSize, out.entry (t ++ [j]) =
        ∑ c ∈ Finset.range m.intermediateSize, m.hiddenEntry silu x t c * m.downProj.entry [j, c] := by
  obtain ⟨rows, columns, hrows, hcolumns, hproduct⟩ := matmul_rows hn hx m.gate_up_shape
  have hgate := columns_matrix (n := lead.prod) (f := product m.hiddenSize m.gateUpWeight x)
    (Nat.zero_le m.intermediateSize) (by omega : m.intermediateSize ≤ 2 * m.intermediateSize)
  have hup := columns_matrix (n := lead.prod) (f := product m.hiddenSize m.gateUpWeight x)
    (by omega : m.intermediateSize ≤ 2 * m.intermediateSize) le_rfl
  have hwidth : 2 * m.intermediateSize - m.intermediateSize = m.intermediateSize := by omega
  rw [Nat.sub_zero] at hgate
  rw [hwidth] at hup
  have hdown := transpose_ok m.down_shape
  have hsize : x.shape.prod = (matrix lead.prod m.hiddenSize fun i j => ∑ c ∈ Finset.range m.intermediateSize,
      silu (product m.hiddenSize m.gateUpWeight x i (0 + c)) *
        product m.hiddenSize m.gateUpWeight x i (m.intermediateSize + c) * m.downProj.entry [j, c]).shape.prod := by
    simp [hx]
  obtain ⟨out, hout, hshape, hdata⟩ := reshape_ok hsize
  refine ⟨out, ?_, hshape.trans hx, fun t ht j hj => ?_⟩
  · simp only [forward, bind, Except.bind, hrows, hcolumns, hproduct, hgate, hup, map_matrix, mul_matrix, hdown,
      matmul_matrix]
    exact hout
  · have hidx : Within [m.hiddenSize] [j] := List.Forall₂.cons hj List.Forall₂.nil
    rw [entry_of_matrix (hshape.trans hx) (by simpa using hdata) ht hidx, offset_single]
    apply Finset.sum_congr rfl
    intro c _
    rw [hiddenEntry, product_row hx ht, product_row hx ht]

end SwiGLUMLP

namespace WeightLoader

variable {F : Type}

structure SeparateWeights (stateDict : StateDict F) (i : ℕ) (p : QKVProjection F) (m : SwiGLUMLP F) where
  qWeight : Tensor F
  kWeight : Tensor F
  vWeight : Tensor F
  qBias : Tensor F
  kBias : Tensor F
  vBias : Tensor F
  gate : Tensor F
  up : Tensor F
  down : Tensor F
  q_key : stateDict.get? (layerKey i "self_attn.q_proj.weight") = some qWeight
  k_key : stateDict.get? (layerKey i "self_attn.k_proj.weight") = some kWeight
  v_key : stateDict.get? (layerKey i "self_attn.v_proj.weight") = some vWeight
  q_bias_key : stateDict.get? (layerKey i "self_attn.q_proj.bias") = some qBias
  k_bias_key : stateDict.get? (layerKey i "self_attn.k_proj.bias") = some kBias
  v_bias_key : stateDict.get? (layerKey i "self_attn.v_proj.bias") = some vBias
  gate_key : stateDict.get? (layerKey i "mlp.gate_proj.weight") = some gate
  up_key : stateDict.get? (layerKey i "mlp.up_proj.weight") = some up
  down_key : stateDict.get? (layerKey i "mlp.down_proj.weight") = some down
  q_shape : qWeight.shape = [p.numHeads * p.headDim, p.hiddenSize]
  k_shape : kWeight.shape = [p.numKvHeads * p.headDim, p.hiddenSize]
  v_shape : vWeight.shape = [p.numKvHeads * p.headDim, p.hiddenSize]
  q_bias_shape : qBias.shape = [p.numHeads * p.headDim]
  k_bias_shape : kBias.shape = [p.numKvHeads * p.headDim]
  v_bias_shape : vBias.shape = [p.numKvHeads * p.headDim]
  gate_shape : gate.shape = [m.intermediateSize, m.hiddenSize]
  up_shape : up.shape = [m.intermediateSize, m.hiddenSize]

lemma lookup_ok {stateDict : StateDict F} {key : String} {t u : Tensor F} (h : lookup stateDict key = .ok t)
    (hkey : stateDict.get? key = some u) : t = u := by
  rw [lookup, hkey] at h
  exact (Except.ok.inj h).symm

lemma onTensors_ok {α : Type} {r : Except TensorError α} {a : α} (h : onTensors r = .ok a) : r = .ok a := by
  cases r with
  | error err => cases h
  | ok b => exact congrArg Except.ok (Except.ok.inj h)

def sizes (layer : DecoderParameters F) : List ℕ :=
  [layer.qkvProj.hiddenSize, layer.qkvProj.numHeads, layer.qkvProj.numKvHeads, layer.qkvProj.headDim,
    layer.mlp.hiddenSize, layer.mlp.intermediateSize]

structure Fused (stateDict : StateDict F) (i : ℕ) (layer : DecoderParameters F) : Prop where
  qkv : ∃ q k v, lookup stateDict (layerKey i "self_attn.q_proj.weight") = .ok q ∧
    lookup stateDict (layerKey i "self_attn.k_proj.weight") = .ok k ∧
    lookup stateDict (layerKey i "self_attn.v_proj.weight") = .ok v ∧ cat [q, k, v] = .ok layer.qkvProj.qkvWeight
  bias : ∃ q k v, lookup stateDict (layerKey i "self_attn.q_proj.bias") = .ok q ∧
    lookup stateDict (layerKey i "self_attn.k_proj.bias") = .ok k ∧
    lookup stateDict (layerKey i "self_attn.v_proj.bias") = .ok v ∧ cat [q, k, v] = .ok layer.qkvProj.qkvBias
  gateUp : ∃ gate up, lookup stateDict (layerKey i "mlp.gate_proj.weight") = .ok gate ∧
    lookup stateDict (layerKey i "mlp.up_proj.weight") = .ok up ∧ cat [gate, up] = .ok layer.mlp.gateUpWeight
  down : lookup stateDict (layerKey i "mlp.down_proj.weight") = .ok layer.mlp.downProj

lemma copyWeight_ok {p p' : QKVProjection F} {t : Tensor F} (h : p.copyWeight t = .ok p') :
    p'.qkvWeight = t ∧ p'.qkvBias = p.qkvBias ∧
      p'.hiddenSize = p.hiddenSize ∧ p'.numHeads = p.numHeads ∧ p'.numKvHeads = p.numKvHeads ∧ p'.headDim = p.headDim := by
  rw [QKVProjection.copyWeight] at h
  split_ifs at h
  obtain rfl := Except.ok.inj h
  exact ⟨rfl, rfl, rfl, rfl, rfl, rfl⟩

lemma copyBias_ok {p p' : QKVProjection F} {t : Tensor F} (h : p.copyBias t = .ok p') :
    p'.qkvWeight = p.qkvWeight ∧ p'.qkvBias = t ∧
      p'.hiddenSize = p.hiddenSize ∧ p'.numHeads = p.numHeads ∧ p'.numKvHeads = p.numKvHeads ∧ p'.headDim = p.headDim := by
  rw [QKVProjection.copyBias] at h
  split_ifs at h
  obtain rfl := Except.ok.inj h
  exact ⟨rfl, rfl, rfl, rfl, rfl, rfl⟩

lemma copyGateUp_ok {m m' : SwiGLUMLP F} {t : Tensor F} (h : m.copyGateUp t = .ok m') :
    m'.gateUpWeight = t ∧ m'.downProj = m.downProj ∧
      m'.hiddenSize = m.hiddenSize ∧ m'.intermediateSize = m.intermediateSize := by
  rw [SwiGLUMLP.copyGateUp] at h
  split_ifs at h
  obtain rfl := Except.ok.inj h
  exact ⟨rfl, rfl, rfl, rfl⟩

lemma copyDown_ok {m m' : SwiGLUMLP F} {t : Tensor F} (h : m.copyDown t = .ok m') :
    m'.gateUpWeight = m.gateUpWeight ∧ m'.downProj = t ∧
      m'.hiddenSize = m.hiddenSize ∧ m'.intermediateSize = m.intermediateSize := by
  rw [SwiGLUMLP.copyDown] at h
  split_ifs at h
  obtain rfl := Except.ok.inj h
  exact ⟨rfl, rfl, rfl, rfl⟩

lemma loadLayer_fused {stateDict : StateDict F} {i : ℕ} {layer loaded : DecoderParameters F}
    (h : loadLayer stateDict i layer = .ok loaded) : Fused stateDict i loaded ∧ sizes loaded = sizes layer := by
  obtain ⟨_, -, h⟩ := bind_ok h
  obtain ⟨_, -, h⟩ := bind_ok h
  obtain ⟨_, -, h⟩ := bind_ok h
  obtain ⟨_, -, h⟩ := bind_ok h
  obtain ⟨qW, hqW, h⟩ := bind_ok h
  obtain ⟨kW, hkW, h⟩ := bind_ok h
  obtain ⟨vW, hvW, h⟩ := bind_ok h
  obtain ⟨qkv, hqkv, h⟩ := bind_ok h
  obtain ⟨p, hp, h⟩ := bind_ok h
  obtain ⟨qB, hqB, h⟩ := bind_ok h
  obtain ⟨kB, hkB, h⟩ := bind_ok h
  obtain ⟨vB, hvB, h⟩ := bind_ok h
  obtain ⟨qkvB, hqkvB, h⟩ := bind_ok h
  obtain ⟨p', hp', h⟩ := bind_ok h
  obtain ⟨_, -, h⟩ := bind_ok h
  obtain ⟨_, -, h⟩ := bind_ok h
  obtain ⟨gateW, hgateW, h⟩ := bind_ok h
  obtain ⟨upW, hupW, h⟩ := bind_ok h
  obtain ⟨gateUp, hgateUp, h⟩ := bind_ok h
  obtain ⟨m, hm, h⟩ := bind_ok h
  obtain ⟨downW, hdownW, h⟩ := bind_ok h
  obtain ⟨m', hm', h⟩ := bind_ok h
  obtain rfl := Except.ok.inj h
  obtain ⟨hweight, -, hp₁, hp₂, hp₃, hp₄⟩ := copyWeight_ok (onTensors_ok hp)
  obtain ⟨hkept, hbias, hp₅, hp₆, hp₇, hp₈⟩ := copyBias_ok (onTensors_ok hp')
  obtain ⟨hgate, -, hm₁, hm₂⟩ := copyGateUp_ok (onTensors_ok hm)
  obtain ⟨hgate', hdown, hm₃, hm₄⟩ := copyDown_ok (onTensors_ok hm')
  refine ⟨⟨⟨qW, kW, vW, hqW, hkW, hvW, ?_⟩, ⟨qB, kB, vB, hqB, hkB, hvB, ?_⟩, ⟨gateW, upW, hgateW, hupW, ?_⟩, ?_⟩, ?_⟩
  · rw [hkept, hweight]
    exact onTensors_ok hqkv
  · rw [hbias]
    exact onTensors_ok hqkvB
  · rw [hgate', hgate]
    exact onTensors_ok hgateUp
  · rw [hdown]
    exact hdownW
  · simp only [sizes, hp₁, hp₂, hp₃, hp₄, hp₅, hp₆, hp₇, hp₈, hm₁, hm₂, hm₃, hm₄]

lemma loadQwenWeights_fused {stateDict : StateDict F} {model loaded : QwenParameters F}
    (h : loadQwenWeights stateDict model = .ok loaded) {i : ℕ} {layer : DecoderParameters F}
    (hlayer : loaded.layers[i]? = some layer) :
    ∃ old, model.layers[i]? = some old ∧ Fused stateDict i layer ∧ sizes layer = sizes old := by
  obtain ⟨_, -, h⟩ := bind_ok h
  obtain ⟨_, -, h⟩ := bind_ok h
  obtain ⟨_, -, h⟩ := bind_ok h
  obtain ⟨_, -, h⟩ := bind_ok h
  obtain ⟨_, -, h⟩ := bind_ok h
  obtain ⟨_, -, h⟩ := bind_ok h
  obtain ⟨_, -, h⟩ := bind_ok h
  obtain ⟨layers, hlayers, h⟩ := bind_ok h
  obtain rfl := Except.ok.inj h
  obtain ⟨entry, hentry, hload⟩ := mapM_ok hlayers hlayer
  rw [List.getElem?_zipIdx, Option.map_eq_some_iff] at hentry
  obtain ⟨old, hold, rfl⟩ := hentry
  rw [Nat.zero_add] at hload
  exact ⟨old, hold, loadLayer_fused hload⟩

section Separate

variable [NonAssocSemiring F] {stateDict : StateDict F} {i : ℕ} {layer : DecoderParameters F}

structure ComputesSeparate (w : SeparateWeights stateDict i layer.qkvProj layer.mlp) (silu : F → F) : Prop where
  qkv : ∀ x lead, x.shape = lead ++ [layer.qkvProj.hiddenSize] → ∃ q k v, layer.qkvProj.forward x = .ok (q, k, v) ∧
    HoldsHeads q lead layer.qkvProj.numHeads layer.qkvProj.headDim
      (fun t j => linear layer.qkvProj.hiddenSize w.qWeight x t j + w.qBias.entry [j]) ∧
    HoldsHeads k lead layer.qkvProj.numKvHeads layer.qkvProj.headDim
      (fun t j => linear layer.qkvProj.hiddenSize w.kWeight x t j + w.kBias.entry [j]) ∧
    HoldsHeads v lead layer.qkvProj.numKvHeads layer.qkvProj.headDim
      (fun t j => linear layer.qkvProj.hiddenSize w.vWeight x t j + w.vBias.entry [j])
  mlp : ∀ x lead, x.shape = lead ++ [layer.mlp.hiddenSize] → ∃ out, layer.mlp.forward silu x = .ok out ∧
    out.shape = lead ++ [layer.mlp.hiddenSize] ∧ ∀ t, Within lead t → ∀ j < layer.mlp.hiddenSize,
      out.entry (t ++ [j]) = ∑ c ∈ Finset.range layer.mlp.intermediateSize,
        silu (linear layer.mlp.hiddenSize w.gate x t c) * linear layer.mlp.hiddenSize w.up x t c * w.down.entry [j, c]

lemma linear_congr {n j k : ℕ} {w u : Tensor F} (x : Tensor F) (t : List ℕ)
    (h : ∀ c < n, w.entry [j, c] = u.entry [k, c]) : linear n w x t j = linear n u x t k := by
  apply Finset.sum_congr rfl
  intro c hc
  rw [h c (Finset.mem_range.mp hc)]

lemma Fused.column (h : Fused stateDict i layer) (w : SeparateWeights stateDict i layer.qkvProj layer.mlp)
    (x : Tensor F) (t : List ℕ) :
    (∀ j < layer.qkvProj.qSize, layer.qkvProj.column x t j =
      linear layer.qkvProj.hiddenSize w.qWeight x t j + w.qBias.entry [j]) ∧
    (∀ j < layer.qkvProj.kvSize, layer.qkvProj.column x t (layer.qkvProj.qSize + j) =
      linear layer.qkvProj.hiddenSize w.kWeight x t j + w.kBias.entry [j]) ∧
    ∀ j, layer.qkvProj.column x t (layer.qkvProj.qSize + layer.qkvProj.kvSize + j) =
      linear layer.qkvProj.hiddenSize w.vWeight x t j + w.vBias.entry [j] := by
  obtain ⟨q, k, v, hq, hk, hv, hcat⟩ := h.qkv
  obtain rfl := lookup_ok hq w.q_key
  obtain rfl := lookup_ok hk w.k_key
  obtain rfl := lookup_ok hv w.v_key
  obtain ⟨z, hz, -, hrows⟩ := cat_three w.q_shape w.k_shape w.v_shape
  obtain rfl : z = layer.qkvProj.qkvWeight := Except.ok.inj (hz.symm.trans hcat)
  obtain ⟨qB, kB, vB, hqB, hkB, hvB, hcatB⟩ := h.bias
  obtain rfl := lookup_ok hqB w.q_bias_key
  obtain rfl := lookup_ok hkB w.k_bias_key
  obtain rfl := lookup_ok hvB w.v_bias_key
  obtain ⟨zB, hzB, -, hrowsB⟩ := cat_three w.q_bias_shape w.k_bias_shape w.v_bias_shape
  obtain rfl : zB = layer.qkvProj.qkvBias := Except.ok.inj (hzB.symm.trans hcatB)
  have hrow : ∀ c < layer.qkvProj.hiddenSize, Within [layer.qkvProj.hiddenSize] [c] := fun c hc =>
    List.Forall₂.cons hc List.Forall₂.nil
  have hentry := hrowsB [] List.Forall₂.nil
  refine ⟨fun j hj => ?_, fun j hj => ?_, fun j => ?_⟩
  · rw [QKVProjection.column, linear_congr x t fun c hc => (hrows [c] (hrow c hc)).1 j hj, hentry.1 j hj]
  · have hbias := hentry.2.1 j hj
    have hweight := linear_congr x t fun c hc => (hrows [c] (hrow c hc)).2.1 j hj
    rw [QKVProjection.column]
    exact congrArg₂ _ hweight hbias
  · have hbias := hentry.2.2 j
    have hweight := linear_congr x t fun c hc => (hrows [c] (hrow c hc)).2.2 j
    rw [QKVProjection.column]
    exact congrArg₂ _ hweight hbias

lemma Fused.hiddenEntry (h : Fused stateDict i layer) (w : SeparateWeights stateDict i layer.qkvProj layer.mlp)
    (silu : F → F) (x : Tensor F) (t : List ℕ) {c : ℕ} (hc : c < layer.mlp.intermediateSize) :
    layer.mlp.hiddenEntry silu x t c = silu (linear layer.mlp.hiddenSize w.gate x t c) *
      linear layer.mlp.hiddenSize w.up x t c := by
  obtain ⟨gate, up, hgate, hup, hcat⟩ := h.gateUp
  obtain rfl := lookup_ok hgate w.gate_key
  obtain rfl := lookup_ok hup w.up_key
  obtain ⟨z, hz, -, hrows⟩ := cat_two w.gate_shape w.up_shape
  obtain rfl : z = layer.mlp.gateUpWeight := Except.ok.inj (hz.symm.trans hcat)
  have hrow : ∀ e < layer.mlp.hiddenSize, Within [layer.mlp.hiddenSize] [e] := fun e he =>
    List.Forall₂.cons he List.Forall₂.nil
  rw [SwiGLUMLP.hiddenEntry, linear_congr x t fun e he => (hrows [e] (hrow e he)).1 c hc,
    linear_congr x t fun e he => (hrows [e] (hrow e he)).2 c]

theorem loadQwenWeights_computesSeparate {model loaded : QwenParameters F}
    (hload : loadQwenWeights stateDict model = .ok loaded) (hlayer : loaded.layers[i]? = some layer)
    (hqkv : 0 < layer.qkvProj.hiddenSize) (hmlp : 0 < layer.mlp.hiddenSize)
    (w : SeparateWeights stateDict i layer.qkvProj layer.mlp) (silu : F → F) : ComputesSeparate w silu where
  qkv := by
    intro x lead hx
    obtain ⟨_, -, hfused, -⟩ := loadQwenWeights_fused hload hlayer
    obtain ⟨q, k, v, hforward, hq, hk, hv⟩ := layer.qkvProj.forward_ok hqkv hx
    have hcolumn := fun t => hfused.column w x t
    exact ⟨q, k, v, hforward, hq.congr fun t _ j hj => (hcolumn t).1 j hj,
      hk.congr fun t _ j hj => (hcolumn t).2.1 j hj, hv.congr fun t _ j _ => (hcolumn t).2.2 j⟩
  mlp := by
    intro x lead hx
    obtain ⟨_, -, hfused, -⟩ := loadQwenWeights_fused hload hlayer
    obtain ⟨out, hforward, hshape, hentry⟩ := layer.mlp.forward_ok silu hmlp hx
    refine ⟨out, hforward, hshape, fun t ht j hj => ?_⟩
    rw [hentry t ht j hj, lookup_ok hfused.down w.down_key]
    apply Finset.sum_congr rfl
    intro c hc
    rw [hfused.hiddenEntry w silu x t (Finset.mem_range.mp hc)]

end Separate

section Sample

def filled (shape : List ℕ) (v : ℤ) : Tensor ℤ := ⟨shape, List.replicate shape.prod v, List.length_replicate⟩

def sampleEntries (hidden : ℕ) : List (String × Tensor ℤ) :=
  [("model.embed_tokens.weight", filled [1, hidden] 1), ("model.norm.weight", filled [hidden] 1),
    (layerKey 0 "input_layernorm.weight", filled [hidden] 1),
    (layerKey 0 "post_attention_layernorm.weight", filled [hidden] 1),
    (layerKey 0 "self_attn.q_proj.weight", filled [2, hidden] 2), (layerKey 0 "self_attn.q_proj.bias", filled [2] 5),
    (layerKey 0 "self_attn.k_proj.weight", filled [1, hidden] 3), (layerKey 0 "self_attn.k_proj.bias", filled [1] 6),
    (layerKey 0 "self_attn.v_proj.weight", filled [1, hidden] 4), (layerKey 0 "self_attn.v_proj.bias", filled [1] 7),
    (layerKey 0 "self_attn.o_proj.weight", filled [hidden, 2] 1), (layerKey 0 "mlp.gate_proj.weight", filled [3, hidden] 1),
    (layerKey 0 "mlp.up_proj.weight", filled [3, hidden] 2), (layerKey 0 "mlp.down_proj.weight", filled [hidden, 3] 1)]

def sampleDict (hidden : ℕ) : StateDict ℤ := (sampleEntries hidden).foldl (fun d e => d.set e.1 e.2) .empty

def sampleModel (hidden : ℕ) : QwenParameters ℤ where
  embedTokens := filled [1, hidden] 0
  norm := filled [hidden] 0
  lmHead := filled [1, hidden] 0
  layers :=
    [{ inputLayernorm := filled [hidden] 0
       postAttnLayernorm := filled [hidden] 0
       qkvProj := ⟨hidden, 2, 1, 1, filled [4, hidden] 0, filled [4] 0, rfl, rfl⟩
       oProj := filled [hidden, 2] 0
       mlp := ⟨hidden, 3, filled [6, hidden] 0, filled [hidden, 3] 0, rfl, rfl⟩ }]
  tieWordEmbeddings := true

lemma sampleDict_get? (hidden : ℕ) {key : String} {t : Tensor ℤ} (h : (key, t) ∈ sampleEntries hidden) :
    (sampleDict hidden).get? key = some t := by
  have hkeys : ((sampleEntries hidden).map Prod.fst).Nodup := by
    simp only [sampleEntries, List.map_cons, List.map_nil]
    decide +kernel
  exact Dict.get?_foldl_set _ _ hkeys h

lemma sample_loads (hidden : ℕ)
    (h : ((loadQwenWeights (sampleDict hidden) (sampleModel hidden)).toOption.map (·.layers.length)) = some 1) :
    ∃ loaded layer, loadQwenWeights (sampleDict hidden) (sampleModel hidden) = .ok loaded ∧
      loaded.layers[0]? = some layer ∧ sizes layer = [hidden, 2, 1, 1, hidden, 3] ∧
        Nonempty (SeparateWeights (sampleDict hidden) 0 layer.qkvProj layer.mlp) := by
  cases hload : loadQwenWeights (sampleDict hidden) (sampleModel hidden) with
  | error err =>
    rw [hload] at h
    cases h
  | ok loaded =>
    rw [hload] at h
    obtain ⟨layer, hlayers⟩ := List.length_eq_one_iff.mp (Option.some.inj h)
    have hlayer : loaded.layers[0]? = some layer := by rw [hlayers]; rfl
    obtain ⟨old, hold, -, hsizes⟩ := loadQwenWeights_fused hload hlayer
    obtain rfl := Option.some.inj hold
    refine ⟨loaded, layer, rfl, hlayer, hsizes, ?_⟩
    simp only [sizes, List.cons.injEq] at hsizes
    obtain ⟨h₁, h₂, h₃, h₄, h₅, h₆, -⟩ := hsizes
    refine ⟨⟨filled [2, hidden] 2, filled [1, hidden] 3, filled [1, hidden] 4, filled [2] 5, filled [1] 6, filled [1] 7,
      filled [3, hidden] 1, filled [3, hidden] 2, filled [hidden, 3] 1, ?_, ?_, ?_, ?_, ?_, ?_, ?_, ?_, ?_,
      ?_, ?_, ?_, ?_, ?_, ?_, ?_, ?_⟩⟩
    iterate 9 · exact sampleDict_get? hidden (by simp [sampleEntries])
    all_goals simp [h₁, h₂, h₃, h₄, h₅, h₆, filled]

theorem loadQwenWeights_computesSeparate_sample : ∃ loaded layer,
    loadQwenWeights (sampleDict 2) (sampleModel 2) = .ok loaded ∧ loaded.layers[0]? = some layer ∧
      ∃ w : SeparateWeights (sampleDict 2) 0 layer.qkvProj layer.mlp, ComputesSeparate w (fun v => v * v) := by
  obtain ⟨loaded, layer, hload, hlayer, hsizes, ⟨w⟩⟩ := sample_loads 2 (by decide +kernel)
  simp only [sizes, List.cons.injEq] at hsizes
  refine ⟨loaded, layer, hload, hlayer, w, ?_⟩
  exact loadQwenWeights_computesSeparate hload hlayer (by omega) (by omega) w _

lemma forward_zero (p : QKVProjection ℤ) (h : p.hiddenSize = 0) (x : Tensor ℤ) :
    p.forward x = .error .shapeMismatch := by
  rw [QKVProjection.forward, toRows, if_pos h]
  rfl

theorem no_hidden_unit_breaks_computesSeparate : ¬ ∀ (stateDict : StateDict ℤ) (model loaded : QwenParameters ℤ) (i : ℕ)
    (layer : DecoderParameters ℤ) (w : SeparateWeights stateDict i layer.qkvProj layer.mlp),
    loadQwenWeights stateDict model = .ok loaded → loaded.layers[i]? = some layer →
      ComputesSeparate w (fun v => v * v) := by
  intro hall
  obtain ⟨loaded, layer, hload, hlayer, hsizes, ⟨w⟩⟩ := sample_loads 0 (by decide +kernel)
  simp only [sizes, List.cons.injEq] at hsizes
  have hx : (filled [1, 0] 0).shape = [1] ++ [layer.qkvProj.hiddenSize] := by rw [hsizes.1]; rfl
  obtain ⟨q, k, v, hforward, -⟩ := (hall _ _ _ _ _ w hload hlayer).qkv _ _ hx
  rw [forward_zero _ hsizes.1] at hforward
  cases hforward

end Sample

end WeightLoader

end MiniVllm
