import MiniVllm.Library.Tensors

/-! `model/mlp.py`. -/

namespace MiniVllm

/-- `downProj` is the weight of a linear layer without a bias. -/
structure SwiGLUMLP (F : Type) where
  hiddenSize : ℕ
  intermediateSize : ℕ
  gateUpWeight : Tensor F
  downProj : Tensor F
  gate_up_shape : gateUpWeight.shape = [2 * intermediateSize, hiddenSize]
  down_shape : downProj.shape = [hiddenSize, intermediateSize]

namespace SwiGLUMLP

variable {F : Type} (m : SwiGLUMLP F)

def copyGateUp (source : Tensor F) : Except TensorError (SwiGLUMLP F) :=
  if h : source.shape = m.gateUpWeight.shape then
    .ok { m with gateUpWeight := source, gate_up_shape := h.trans m.gate_up_shape }
  else .error .shapeMismatch

def copyDown (source : Tensor F) : Except TensorError (SwiGLUMLP F) :=
  if h : source.shape = m.downProj.shape then
    .ok { m with downProj := source, down_shape := h.trans m.down_shape }
  else .error .shapeMismatch

def forward [NonAssocSemiring F] (silu : F → F) (x : Tensor F) : Except TensorError (Tensor F) := do
  let x2d ← x.toRows m.hiddenSize
  let gateUp ← x2d.matmul (← m.gateUpWeight.transpose)
  let gate ← gateUp.columns 0 m.intermediateSize
  let up ← gateUp.columns m.intermediateSize (2 * m.intermediateSize)
  let hidden ← (gate.map silu).mul up
  let out ← hidden.matmul (← m.downProj.transpose)
  out.reshape x.shape

end SwiGLUMLP

end MiniVllm
