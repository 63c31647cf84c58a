import MiniVllm.Library.Attention
import MiniVllm.Sequence

/-! The parts of `model/qwen_model.py`, `model/transformer_layer.py` and `model/rotary.py` that the runner calls. -/

namespace MiniVllm

/-- The dimensions of `ModelConfig`; the last field is a check of `validate_for_attention`. -/
structure ModelConfig where
  numHeads : ℕ
  numKvHeads : ℕ
  headDim : ℕ
  maxPositionEmbeddings : ℕ
  numKvHeads_dvd : numKvHeads ∣ numHeads

lemma ModelConfig.kvHead_lt (mc : ModelConfig) {h : ℕ} (hlt : h < mc.numHeads) :
    h / (mc.numHeads / mc.numKvHeads) < mc.numKvHeads := by
  obtain ⟨n, hn⟩ := mc.numKvHeads_dvd
  rw [hn] at hlt ⊢
  have hpos : 0 < mc.numKvHeads := Nat.pos_of_mul_pos_right (Nat.zero_lt_of_lt hlt)
  rw [Nat.mul_div_cancel_left n hpos]
  exact Nat.div_lt_of_lt_mul (by rwa [Nat.mul_comm])

variable (F H L : Type) (mc : ModelConfig)

abbrev QueryRow := Fin mc.numHeads → Vec F mc.headDim

abbrev KvRow := Fin mc.numKvHeads → Vec F mc.headDim

/-- `H` is the type of one token's hidden state. -/
structure QwenDecoderLayer where
  inputLayernorm : H → H
  qkvProj : H → QueryRow F mc × KvRow F mc × KvRow F mc
  oProj : QueryRow F mc → H
  postAttention : H → H → H

/-- `L` is the type of one token's logits; `exp` and `scale` are those of the attention's softmax. -/
structure QwenModel where
  embedTokens : ℕ → H
  layers : List (QwenDecoderLayer F H mc)
  rope : ℕ → Vec F mc.headDim → Vec F mc.headDim
  norm : H → H
  lmHead : H → L
  exp : F → F
  scale : F

variable {F H L mc}

namespace QwenModel

variable (M : QwenModel F H L mc)

/-- RoPE at the tokens' absolute positions; the tables of cosines and sines end at `max_position_embeddings`. -/
def applyRope {n : ℕ} (rows : List (Fin n → Vec F mc.headDim)) (positions : List ℕ) :
    Except Exn (List (Fin n → Vec F mc.headDim)) :=
  if positions.all (· < mc.maxPositionEmbeddings) then
    .ok (List.zipWith (fun row position h => M.rope position (row h)) rows positions)
  else .error .indexError

def repeatInterleave (row : KvRow F mc) : QueryRow F mc := fun h =>
  row ⟨h / (mc.numHeads / mc.numKvHeads), mc.kvHead_lt h.isLt⟩

variable [Field F]

def scaledDotProductAttention (query : QueryRow F mc) (keys values : List (QueryRow F mc)) (mask : List Bool) :
    QueryRow F mc := fun h =>
  Attention.attend M.exp M.scale (query h) (keys.map (· h)) (values.map (· h)) mask

end QwenModel

end MiniVllm
