import MiniVllm.Attention.PagedAttentionRef
import MiniVllm.Library.FlatBuffers
import MiniVllm.Library.OnlineSoftmax

/-! The kernels of `attention/paged_attention_gpu.py` on flat buffers, one program instance after the other. -/

namespace MiniVllm

open Flat

structure FlatCache (F : Type) where
  key : List F
  value : List F

def LayerCache.blocks {A : Type} {heads : ℕ} (numBlocks blockSize : ℕ) (cells : ℕ × ℕ → Fin heads → A) :
    List (Fin heads → Fin blockSize → A) :=
  (List.range numBlocks).map (fun b h o => cells (b, o) h)

def LayerCache.flatten {F : Type} {heads headDim : ℕ}
    (cache : LayerCache (Fin heads → Vec F headDim) (Fin heads → Vec F headDim)) : FlatCache F where
  key := flat (flat (flat (blocks cache.numBlocks cache.blockSize cache.key)))
  value := flat (flat (flat (blocks cache.numBlocks cache.blockSize cache.value)))

inductive GpuError
  | assertion
  | valueError
  | indexError
  | fault (err : Fault)
  deriving DecidableEq, Repr

namespace PagedAttentionGpu

variable {F : Type}

section CacheWrite

variable (key value : List F) (slotMapping : List ℤ) (blockSize headDim numKvHeads : ℕ)

def cacheWriteHead (pid : ℕ) (blockId offset : ℤ) (cache : FlatCache F) (kvHead : ℕ) : Except Fault (FlatCache F) := do
  let kOff : ℤ := pid * numKvHeads * headDim + kvHead * headDim
  let kVal ← loadVec key kOff headDim
  let kcOff := blockId * numKvHeads * blockSize * headDim + kvHead * blockSize * headDim + offset * headDim
  let keyCache ← storeVec cache.key kcOff kVal
  let vOff : ℤ := pid * numKvHeads * headDim + kvHead * headDim
  let vVal ← loadVec value vOff headDim
  let vcOff := blockId * numKvHeads * blockSize * headDim + kvHead * blockSize * headDim + offset * headDim
  let valueCache ← storeVec cache.value vcOff vVal
  return { key := keyCache, value := valueCache }

def cacheWriteKernel (cache : FlatCache F) (pid : ℕ) : Except Fault (FlatCache F) := do
  let slot ← load slotMapping pid
  if slot = -1 then return cache
  else
    let blockId := slot.tdiv blockSize
    let offset := slot.tmod blockSize
    (List.range numKvHeads).foldlM
      (cacheWriteHead key value blockSize headDim numKvHeads pid blockId offset) cache

end CacheWrite

/-- `order` is the order of the program instances; `cacheBlockSize` is the third dimension of the caches. -/
def tritonCacheWrite {heads headDim : ℕ} (key value : List (Fin heads → Vec F headDim)) (cache : FlatCache F)
    (slotMapping : List ℤ) (cacheBlockSize blockSize : ℕ) (order : List ℕ) : Except GpuError (FlatCache F) :=
  if key.length = value.length ∧ slotMapping.length = key.length ∧ blockSize = cacheBlockSize ∧
      (slotMapping.filter (· ≠ -1)).Nodup then
    if key.length = 0 then .ok cache
    else
      (order.foldlM (cacheWriteKernel (flat (flat key)) (flat (flat value)) slotMapping blockSize headDim heads)
        cache).mapError .fault
  else .error .assertion

def cacheOffset (numKvHeads blockSize headDim : ℕ) (bid : ℤ) (kvHead pos : ℕ) : ℤ :=
  let strideBlock := numKvHeads * blockSize * headDim
  let strideKvHead := blockSize * headDim
  let stridePos := headDim
  bid * strideBlock + kvHead * strideKvHead + pos * stridePos

section Decode

variable [Field F] [LinearOrder F] (exp : F → F) (query keyCache valueCache : List F) (blockTable : List ℤ)
  (kvLenAfter : List ℕ) (maxBlocksPerSeq : ℕ) (scale : F) (blockSize headDim numQHeads numKvHeads repeats : ℕ)

def decodeToken (q : Vec F headDim) (kvHead : ℕ) (bid : ℤ) (st : OnlineSoftmax.State F headDim) (pos : ℕ) :
    Except Fault (OnlineSoftmax.State F headDim) := do
  let kOff := cacheOffset numKvHeads blockSize headDim bid kvHead pos
  let k ← loadVec keyCache kOff headDim
  let v ← loadVec valueCache kOff headDim
  return OnlineSoftmax.update exp st (Attention.dot q k * scale) v

def decodeBlock (q : Vec F headDim) (pidSeq kvHead numFullBlocks partialLen : ℕ) (st : OnlineSoftmax.State F headDim)
    (blockIdx : ℕ) : Except Fault (OnlineSoftmax.State F headDim) := do
  let bid ← load blockTable (pidSeq * maxBlocksPerSeq + blockIdx)
  let tokensInBlock := if 0 ≤ bid then (if blockIdx < numFullBlocks then blockSize else partialLen) else 0
  (List.range tokensInBlock).foldlM
    (decodeToken exp keyCache valueCache scale blockSize headDim numKvHeads q kvHead bid) st

def decodeSoftmax (pidSeq pidHead : ℕ) : Except Fault (OnlineSoftmax.State F headDim) := do
  let kvHead := pidHead / repeats
  let seqLen ← load kvLenAfter pidSeq
  let qOff : ℤ := pidSeq * numQHeads * headDim + pidHead * headDim
  let q ← loadVec query qOff headDim
  let numFullBlocks := seqLen / blockSize
  let partialLen := seqLen % blockSize
  let numBlocksToProcess := numFullBlocks + if partialLen > 0 then 1 else 0
  (List.range numBlocksToProcess).foldlM
    (decodeBlock exp keyCache valueCache blockTable maxBlocksPerSeq scale blockSize headDim numKvHeads q pidSeq kvHead
      numFullBlocks partialLen) OnlineSoftmax.init

def pagedDecodeKernel (output : List F) (pid : ℕ × ℕ) : Except Fault (List F) := do
  let st ← decodeSoftmax exp query keyCache valueCache blockTable kvLenAfter maxBlocksPerSeq scale blockSize headDim
    numQHeads numKvHeads repeats pid.1 pid.2
  let qOff : ℤ := pid.1 * numQHeads * headDim + pid.2 * headDim
  storeVec output qOff (fun i : Fin headDim => st.acc i / st.s)

/-- `order` is the order of the program instances; `output` is what `empty_like` allocates. -/
def tritonDecodeAttention {mc : ModelConfig} (query : List (QueryRow F mc)) (cache : FlatCache F)
    (blockTable : List (List ℤ)) (maxBlocksPerSeq : ℕ) (kvLenAfter : List ℕ) (scale : F) (blockSize : ℕ)
    (order : List (ℕ × ℕ)) (output : List F) : Except GpuError (List F) :=
  if (mc.headDim = 64 ∨ mc.headDim = 128) ∧ (0 < blockSize ∧ blockSize &&& (blockSize - 1) = 0) ∧
      mc.numHeads % mc.numKvHeads = 0 ∧ blockTable.length = query.length ∧ kvLenAfter.length = query.length then
    if kvLenAfter.any (· < 1) then .error .valueError
    else if query.length = 0 then .ok output
    else
      (order.foldlM (pagedDecodeKernel exp (flat (flat query)) cache.key cache.value blockTable.flatten kvLenAfter
        maxBlocksPerSeq scale blockSize mc.headDim mc.numHeads mc.numKvHeads (mc.numHeads / mc.numKvHeads))
        output).mapError .fault
  else .error .assertion

end Decode

section Gather

/-- The two lists built from the sequences and their numbers; `cached_len_before` may be too short. -/
def prefixMaps (cachedLenBefore : List ℕ) : List (ℕ × ℕ) → List ℕ × List ℕ → Except GpuError (List ℕ × List ℕ)
  | [], maps => .ok maps
  | (seqGlobalIdx, i) :: rest, maps =>
    match cachedLenBefore[i]? with
    | none => .error .indexError
    | some cached =>
      prefixMaps cachedLenBefore rest
        ((List.range cached).foldl (fun maps pos => (maps.1 ++ [seqGlobalIdx], maps.2 ++ [pos])) maps)

variable (cache : FlatCache F) (blockTable : List ℤ) (seqIdxMap localPosMap : List ℕ)
  (maxBlocksPerSeq blockSize headDim numKvHeads : ℕ)

def gatherPrefixKvKernel (out : FlatCache F) (pid : ℕ × ℕ) : Except Fault (FlatCache F) := do
  let seqIdx ← load seqIdxMap pid.1
  let localPos ← load localPosMap pid.1
  let blockIdx := localPos / blockSize
  let offsetInBlock := localPos % blockSize
  let bid ← load blockTable (seqIdx * maxBlocksPerSeq + blockIdx)
  if bid < 0 then return out
  else
    let kOff := cacheOffset numKvHeads blockSize headDim bid pid.2 offsetInBlock
    let kVal ← loadVec cache.key kOff headDim
    let outKOff : ℤ := pid.1 * numKvHeads * headDim + pid.2 * headDim
    let outK ← storeVec out.key outKOff kVal
    let vVal ← loadVec cache.value kOff headDim
    let outVOff : ℤ := pid.1 * numKvHeads * headDim + pid.2 * headDim
    let outV ← storeVec out.value outVOff vVal
    return { key := outK, value := outV }

end Gather

/-- A launch: the order of the instances, and what the output buffers hold before. -/
structure Launch (F : Type) where
  order : List (ℕ × ℕ)
  out : FlatCache F

def tokenRows [Zero F] (heads headDim n : ℕ) (buffer : List F) : List (Fin heads → Vec F headDim) :=
  (List.range n).map (fun t h i => buffer.getD ((t * heads + h) * headDim + i) 0)

def gatherPrefixKv [Zero F] (heads headDim : ℕ) (cache : FlatCache F) (blockTable : List (List ℤ))
    (maxBlocksPerSeq : ℕ) (cachedLenBefore seqIndices : List ℕ) (blockSize : ℕ) (launch : Launch F) :
    Except GpuError (List (Fin heads → Vec F headDim) × List (Fin heads → Vec F headDim)) :=
  let totalPrefix := cachedLenBefore.sum
  if totalPrefix = 0 then .ok ([], [])
  else
    match prefixMaps cachedLenBefore seqIndices.zipIdx ([], []) with
    | .error err => .error err
    | .ok (seqIdxMap, localPosMap) =>
      match launch.order.foldlM (gatherPrefixKvKernel cache blockTable.flatten seqIdxMap localPosMap maxBlocksPerSeq
          blockSize headDim heads) launch.out with
      | .error err => .error (.fault err)
      | .ok out => .ok (tokenRows heads headDim totalPrefix out.key, tokenRows heads headDim totalPrefix out.value)

end PagedAttentionGpu

namespace AttentionBackendGPU

open PagedAttentionGpu AttentionBackendRef

variable {F H L : Type} [Field F] {mc : ModelConfig} (M : QwenModel F H L mc) (cache : FlatCache F)
  (blockTable : List (List ℤ)) (maxBlocksPerSeq blockSize : ℕ)

section Prefill

variable (query : List (QueryRow F mc)) (key value : List (KvRow F mc))

def prefillKv (launch : Launch F) (tokenOffset seqIdx cached qLen : ℕ) :
    Except GpuError (List (KvRow F mc) × List (KvRow F mc)) :=
  match (if cached > 0 then
      gatherPrefixKv mc.numKvHeads mc.headDim cache blockTable maxBlocksPerSeq [cached] [seqIdx] blockSize launch
    else .ok ([], [])) with
  | .error err => .error err
  | .ok (prefK, prefV) =>
    let chunkK := (key.drop tokenOffset).take qLen
    let chunkV := (value.drop tokenOffset).take qLen
    .ok (prefK ++ chunkK, prefV ++ chunkV)

def prefillSequence (launch : Launch F) (tokenOffset seqIdx cached qLen : ℕ) :
    Except GpuError (List (QueryRow F mc)) :=
  match prefillKv cache blockTable maxBlocksPerSeq blockSize key value launch tokenOffset seqIdx cached qLen with
  | .error err => .error err
  | .ok (fullK, fullV) =>
    let kvLen := cached + qLen
    let qTokens := (query.drop tokenOffset).take qLen
    .ok (qTokens.zipIdx.map (fun (q, i) =>
      M.scaledDotProductAttention q (fullK.map QwenModel.repeatInterleave) (fullV.map QwenModel.repeatInterleave)
        (Attention.causalMask (cached + i) kvLen)))

def prefillLoop (launches : ℕ → Launch F) : ℕ → ℕ → List (ℕ × ℕ × ℕ) → Except GpuError (List (QueryRow F mc))
  | _, _, [] => .ok []
  | i, tokenOffset, (seqIdx, cached, qLen) :: rest =>
    match prefillSequence M cache blockTable maxBlocksPerSeq blockSize query key value (launches i) tokenOffset seqIdx
        cached qLen with
    | .error err => .error err
    | .ok out =>
      match prefillLoop launches (i + 1) (tokenOffset + qLen) rest with
      | .error err => .error err
      | .ok outs => .ok (out ++ outs)

def prefillAttention (attnMetadata : AttentionMetadata) (launches : ℕ → Launch F) :
    Except GpuError (List (QueryRow F mc)) :=
  let items := prefillItems attnMetadata.groups
  if query.isEmpty || items.isEmpty then .ok query
  else
    prefillLoop M cache attnMetadata.prefillBlockTables maxBlocksPerSeq blockSize query key value launches 0 0 items

end Prefill

end AttentionBackendGPU

end MiniVllm
