import MiniVllm.Library.Dict
import MiniVllm.Model.Mlp
import MiniVllm.Model.QkvProj

/-! `model/weight_loader.py`, from the checkpoint's `state_dict` on. -/

namespace MiniVllm

structure DecoderParameters (F : Type) where
  inputLayernorm : Tensor F
  postAttnLayernorm : Tensor F
  qkvProj : QKVProjection F
  oProj : Tensor F
  mlp : SwiGLUMLP F

structure QwenParameters (F : Type) where
  embedTokens : Tensor F
  norm : Tensor F
  lmHead : Tensor F
  layers : List (DecoderParameters F)
  tieWordEmbeddings : Bool

inductive LoadError
  | keyError (message : String)
  | tensor (err : TensorError)
  deriving DecidableEq, Repr

namespace WeightLoader

variable {F : Type}

abbrev StateDict (F : Type) := Dict String (Tensor F)

def layerKey (i : ℕ) (name : String) : String := s!"model.layers.{i}." ++ name

def requiredGlobal : List String := ["model.embed_tokens.weight", "model.norm.weight"]

def requiredPerLayer (i : ℕ) : List String :=
  ["input_layernorm.weight", "post_attention_layernorm.weight", "self_attn.q_proj.weight", "self_attn.q_proj.bias",
    "self_attn.k_proj.weight", "self_attn.k_proj.bias", "self_attn.v_proj.weight", "self_attn.v_proj.bias",
    "self_attn.o_proj.weight", "mlp.gate_proj.weight", "mlp.up_proj.weight", "mlp.down_proj.weight"].map (layerKey i)

def checkKeys (stateDict : StateDict F) (numLayers : ℕ) : Except LoadError Unit := do
  match requiredGlobal.find? (fun key => !stateDict.contains key) with
  | some key => throw (.keyError s!"Missing required key: {key}")
  | none => pure ()
  (List.range numLayers).forM fun i =>
    match (requiredPerLayer i).find? (fun key => !stateDict.contains key) with
    | some key => throw (.keyError s!"Missing required key: {key} (layer {i})")
    | none => pure ()

def lookup (stateDict : StateDict F) (key : String) : Except LoadError (Tensor F) :=
  match stateDict.get? key with
  | some t => .ok t
  | none => .error (.keyError key)

def onTensors {α : Type} (r : Except TensorError α) : Except LoadError α := r.mapError .tensor

def loadLayer (stateDict : StateDict F) (i : ℕ) (layer : DecoderParameters F) :
    Except LoadError (DecoderParameters F) := do
  let read := fun name => lookup stateDict (layerKey i name)
  let inputLayernorm ← onTensors (layer.inputLayernorm.copy (← read "input_layernorm.weight"))
  let postAttnLayernorm ← onTensors (layer.postAttnLayernorm.copy (← read "post_attention_layernorm.weight"))
  let qW ← read "self_attn.q_proj.weight"
  let kW ← read "self_attn.k_proj.weight"
  let vW ← read "self_attn.v_proj.weight"
  let qkv ← onTensors (Tensor.cat [qW, kW, vW])
  let qkvProj ← onTensors (layer.qkvProj.copyWeight qkv)
  let qB ← read "self_attn.q_proj.bias"
  let kB ← read "self_attn.k_proj.bias"
  let vB ← read "self_attn.v_proj.bias"
  let qkvB ← onTensors (Tensor.cat [qB, kB, vB])
  let qkvProj ← onTensors (qkvProj.copyBias qkvB)
  let oProj ← onTensors (layer.oProj.copy (← read "self_attn.o_proj.weight"))
  let gateW ← read "mlp.gate_proj.weight"
  let upW ← read "mlp.up_proj.weight"
  let gateUp ← onTensors (Tensor.cat [gateW, upW])
  let mlp ← onTensors (layer.mlp.copyGateUp gateUp)
  let mlp ← onTensors (mlp.copyDown (← read "mlp.down_proj.weight"))
  return { inputLayernorm, postAttnLayernorm, qkvProj, oProj, mlp }

def loadQwenWeights (stateDict : StateDict F) (model : QwenParameters F) : Except LoadError (QwenParameters F) := do
  checkKeys stateDict model.layers.length
  let embedTokens ← onTensors (model.embedTokens.copy (← lookup stateDict "model.embed_tokens.weight"))
  let norm ← onTensors (model.norm.copy (← lookup stateDict "model.norm.weight"))
  let head := if model.tieWordEmbeddings then "model.embed_tokens.weight" else "lm_head.weight"
  let lmHead ← onTensors (model.lmHead.copy (← lookup stateDict head))
  let layers ← model.layers.zipIdx.mapM fun entry => loadLayer stateDict entry.2 entry.1
  return { model with embedTokens, norm, lmHead, layers }

end WeightLoader

end MiniVllm
