import MiniVllm.Library.Tensors

/-! `model/qkv_proj.py`. -/

namespace MiniVllm

structure QKVProjection (F : Type) where
  hiddenSize : ℕ
  numHeads : ℕ
  numKvHeads : ℕ
  headDim : ℕ
  qkvWeight : Tensor F
  qkvBias : Tensor F
  weight_shape : qkvWeight.shape = [numHeads * headDim + 2 * (numKvHeads * headDim), hiddenSize]
  bias_shape : qkvBias.shape = [numHeads * headDim + 2 * (numKvHeads * headDim)]

namespace QKVProjection

variable {F : Type} (p : QKVProjection F)

def qSize : ℕ := p.numHeads * p.headDim

def kvSize : ℕ := p.numKvHeads * p.headDim

def totalSize : ℕ := p.qSize + 2 * p.kvSize

def copyWeight (source : Tensor F) : Except TensorError (QKVProjection F) :=
  if h : source.shape = p.qkvWeight.shape then
    .ok { p with qkvWeight := source, weight_shape := h.trans p.weight_shape }
  else .error .shapeMismatch

def copyBias (source : Tensor F) : Except TensorError (QKVProjection F) :=
  if h : source.shape = p.qkvBias.shape then
    .ok { p with qkvBias := source, bias_shape := h.trans p.bias_shape }
  else .error .shapeMismatch

def forward [NonAssocSemiring F] (x : Tensor F) : Except TensorError (Tensor F × Tensor F × Tensor F) := do
  let lead := x.shape.dropLast
  let x2d ← x.toRows p.hiddenSize
  let product ← x2d.matmul (← p.qkvWeight.transpose)
  let qkv ← product.addRow p.qkvBias
  let q ← (← qkv.columns 0 p.qSize).reshape (lead ++ [p.numHeads, p.headDim])
  let k ← (← qkv.columns p.qSize (p.qSize + p.kvSize)).reshape (lead ++ [p.numKvHeads, p.headDim])
  let v ← (← qkv.columns (p.qSize + p.kvSize) p.totalSize).reshape (lead ++ [p.numKvHeads, p.headDim])
  return (q, k, v)

end QKVProjection

end MiniVllm
