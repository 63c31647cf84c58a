import MiniVllm.Attention.PagedAttentionRef

/-! `QwenModelRunner.execute_model` of `model_runner/qwen_runner.py` with the reference backend. -/

namespace MiniVllm

namespace QwenModelRunner

/-- The decode group with indices from zero, as `decode_block_tables` has rows for decode sequences only. -/
def buildDecodeMeta (attnMeta : AttentionMetadata) : Option AttentionMetadata :=
  (attnMeta.groups.find? (·.attentionType = .decodeGpu)).map (fun decodeGroup =>
    { groups := [{ decodeGroup with seqIndices := List.range decodeGroup.seqIndices.length }]
      decodeBlockTables := attnMeta.decodeBlockTables
      decodeSlotMapping := attnMeta.decodeSlotMapping
      decodePositions := attnMeta.decodePositions
      blockSize := attnMeta.blockSize })

variable {F H L : Type} {mc : ModelConfig} [Field F] (M : QwenModel F H L mc)

abbrev KVCachePool (F : Type) (mc : ModelConfig) := List (LayerCache (KvRow F mc) (KvRow F mc))

section Attention

variable (cache : LayerCache (KvRow F mc) (KvRow F mc)) (attnMeta : AttentionMetadata) (q : List (QueryRow F mc))

def attendPrefill : Except Exn (List (QueryRow F mc)) :=
  let numPrefillTokens := attnMeta.prefillSlotMapping.length
  let zeros : List (QueryRow F mc) := q.map (fun _ _ _ => 0)
  if numPrefillTokens > 0 then
    match AttentionBackendRef.prefillAttention M cache (q.take numPrefillTokens) attnMeta with
    | .error err => .error err
    | .ok result => .ok (result ++ zeros.drop numPrefillTokens)
  else .ok zeros

def attendDecode (attnOut : List (QueryRow F mc)) : Except Exn (List (QueryRow F mc)) :=
  let numPrefillTokens := attnMeta.prefillSlotMapping.length
  let numDecodeTokens := attnMeta.decodeSlotMapping.length
  match (if numDecodeTokens > 0 then buildDecodeMeta attnMeta else none) with
  | none => .ok attnOut
  | some decodeMeta =>
    match AttentionBackendRef.decodeAttention M cache (q.drop numPrefillTokens) decodeMeta with
    | .error err => .error err
    | .ok result => .ok (attnOut.take numPrefillTokens ++ result)

end Attention

def executeLayer (input : ModelInput) (layer : QwenDecoderLayer F H mc)
    (cache : LayerCache (KvRow F mc) (KvRow F mc)) (hidden : List H) :
    Except Exn (List H) × LayerCache (KvRow F mc) (KvRow F mc) :=
  let rows := hidden.map (fun h => layer.qkvProj (layer.inputLayernorm h))
  match M.applyRope (rows.map (·.1)) input.positions, M.applyRope (rows.map (·.2.1)) input.positions with
  | .ok q, .ok k =>
    match cache.writeToPagedCache k (rows.map (·.2.2)) input.slotMapping cache.blockSize with
    | (.error err, cache) => (.error err.toExn, cache)
    | (.ok _, cache) =>
      match attendPrefill M cache input.attnMetadata q with
      | .error err => (.error err, cache)
      | .ok attnOut =>
        match attendDecode M cache input.attnMetadata q attnOut with
        | .error err => (.error err, cache)
        | .ok attnOut =>
          (.ok (List.zipWith (fun out residual => layer.postAttention (layer.oProj out) residual) attnOut hidden),
            cache)
  | _, _ => (.error .indexError, cache)

def runLayers (input : ModelInput) :
    List (QwenDecoderLayer F H mc) → KVCachePool F mc → List H → Except Exn (List H) × KVCachePool F mc
  | [], pool, hidden => (.ok hidden, pool)
  | _ :: _, [], _ => (.error .indexError, [])
  | layer :: layers, cache :: pool, hidden =>
    match executeLayer M input layer cache hidden with
    | (.error err, cache) => (.error err, cache :: pool)
    | (.ok hidden, cache) =>
      let (r, pool) := runLayers input layers pool hidden
      (r, cache :: pool)

def gatherLogits (logits : List L) : List ℤ → Except Exn (List L)
  | [] => .ok []
  | idx :: rest =>
    match pyIndex logits idx with
    | .error err => .error err
    | .ok row =>
      match gatherLogits logits rest with
      | .error err => .error err
      | .ok rows => .ok (row :: rows)

def executeModel (pool : KVCachePool F mc) (input : ModelInput) : Except Exn (List L) × KVCachePool F mc :=
  match runLayers M input M.layers pool (input.inputIds.map M.embedTokens) with
  | (.error err, pool) => (.error err, pool)
  | (.ok hidden, pool) =>
    let logits := hidden.map (fun h => M.lmHead (M.norm h))
    if input.sampleTokenIndices.length > 0 then (gatherLogits logits input.sampleTokenIndices, pool)
    else (.ok logits, pool)

end QwenModelRunner

end MiniVllm
