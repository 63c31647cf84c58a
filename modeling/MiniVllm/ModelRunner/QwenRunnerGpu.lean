import MiniVllm.Attention.PagedAttentionGpu
import MiniVllm.ModelRunner.QwenRunner

/-! `execute_model` of `model_runner/qwen_runner.py` on the Triton backend, with flat buffers for each layer. -/

namespace MiniVllm

open PagedAttentionGpu

def tableWidth (blockTables : List (List ℤ)) : ℕ := blockTables.head?.elim 0 List.length

/-- How the kernels of one layer run: the orders of their program instances, and what the fresh buffers hold. -/
structure LayerLaunch (F : Type) where
  write : List ℕ
  prefill : ℕ → Launch F
  decode : List (ℕ × ℕ)
  output : List F

variable {F H L : Type} {mc : ModelConfig} [Field F] [LinearOrder F] (M : QwenModel F H L mc) (blockSize : ℕ)

def AttentionBackendGPU.decodeAttention (cache : FlatCache F) (query : List (QueryRow F mc))
    (attnMetadata : AttentionMetadata) (launch : LayerLaunch F) : Except GpuError (List (QueryRow F mc)) :=
  if query.isEmpty then .ok query
  else
    match attnMetadata.groups.find? (·.attentionType = .decodeGpu) with
    | none => .ok query
    | some decodeGroup =>
      match tritonDecodeAttention M.exp query cache attnMetadata.decodeBlockTables
          (tableWidth attnMetadata.decodeBlockTables) decodeGroup.kvLenAfter M.scale blockSize launch.decode
          launch.output with
      | .error err => .error err
      | .ok output => .ok (tokenRows mc.numHeads mc.headDim query.length output)

namespace QwenModelRunner

section Attention

variable (cache : FlatCache F) (attnMeta : AttentionMetadata) (q : List (QueryRow F mc)) (launch : LayerLaunch F)

def attendPrefillGpu (k v : List (KvRow F mc)) : Except GpuError (List (QueryRow F mc)) :=
  let numPrefillTokens := attnMeta.prefillSlotMapping.length
  let zeros : List (QueryRow F mc) := q.map (fun _ _ _ => 0)
  if numPrefillTokens > 0 then
    match AttentionBackendGPU.prefillAttention M cache (tableWidth attnMeta.prefillBlockTables) blockSize
        (q.take numPrefillTokens) (k.take numPrefillTokens) (v.take numPrefillTokens) attnMeta launch.prefill with
    | .error err => .error err
    | .ok result => .ok (result ++ zeros.drop numPrefillTokens)
  else .ok zeros

def attendDecodeGpu (attnOut : List (QueryRow F mc)) : Except GpuError (List (QueryRow F mc)) :=
  let numPrefillTokens := attnMeta.prefillSlotMapping.length
  let numDecodeTokens := attnMeta.decodeSlotMapping.length
  match (if numDecodeTokens > 0 then buildDecodeMeta attnMeta else none) with
  | none => .ok attnOut
  | some decodeMeta =>
    match AttentionBackendGPU.decodeAttention M blockSize cache (q.drop numPrefillTokens) decodeMeta launch with
    | .error err => .error err
    | .ok result => .ok (attnOut.take numPrefillTokens ++ result)

end Attention

/-- One turn of the layer loop. A kernel that faults is not resumed: its cache stays as it was before the launch. -/
def executeLayerGpu (input : ModelInput) (launch : LayerLaunch F) (layer : QwenDecoderLayer F H mc)
    (cache : FlatCache F) (hidden : List H) : Except GpuError (List H) × FlatCache F :=
  let rows := hidden.map (fun h => layer.qkvProj (layer.inputLayernorm h))
  match M.applyRope (rows.map (·.1)) input.positions, M.applyRope (rows.map (·.2.1)) input.positions with
  | .ok q, .ok k =>
    match tritonCacheWrite k (rows.map (·.2.2)) cache input.slotMapping blockSize blockSize launch.write with
    | .error err => (.error err, cache)
    | .ok cache =>
      match attendPrefillGpu M blockSize cache input.attnMetadata q launch k (rows.map (·.2.2)) with
      | .error err => (.error err, cache)
      | .ok attnOut =>
        match attendDecodeGpu M blockSize cache input.attnMetadata q launch attnOut with
        | .error err => (.error err, cache)
        | .ok attnOut =>
          (.ok (List.zipWith (fun out residual => layer.postAttention (layer.oProj out) residual) attnOut hidden),
            cache)
  | _, _ => (.error .indexError, cache)

def runLayersGpu (input : ModelInput) (launches : ℕ → LayerLaunch F) :
    ℕ → List (QwenDecoderLayer F H mc) → List (FlatCache F) → List H → Except GpuError (List H) × List (FlatCache F)
  | _, [], pool, hidden => (.ok hidden, pool)
  | _, _ :: _, [], _ => (.error .indexError, [])
  | i, layer :: layers, cache :: pool, hidden =>
    match executeLayerGpu M blockSize input (launches i) layer cache hidden with
    | (.error err, cache) => (.error err, cache :: pool)
    | (.ok hidden, cache) =>
      let (r, pool) := runLayersGpu input launches (i + 1) layers pool hidden
      (r, cache :: pool)

def executeModelGpu (pool : List (FlatCache F)) (input : ModelInput) (launches : ℕ → LayerLaunch F) :
    Except GpuError (List L) × List (FlatCache F) :=
  match runLayersGpu M blockSize input launches 0 M.layers pool (input.inputIds.map M.embedTokens) with
  | (.error err, pool) => (.error err, pool)
  | (.ok hidden, pool) =>
    let logits := hidden.map (fun h => M.lmHead (M.norm h))
    if input.sampleTokenIndices.length > 0 then
      ((gatherLogits logits input.sampleTokenIndices).mapError (fun _ => .indexError), pool)
    else (.ok logits, pool)

end QwenModelRunner

end MiniVllm
