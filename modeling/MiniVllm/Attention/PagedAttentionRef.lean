import MiniVllm.Cache.PagedCache
import MiniVllm.Model.QwenModel
import MiniVllm.ModelRunner.Base

/-! `AttentionBackendRef` of `attention/paged_attention_ref.py`. -/

namespace MiniVllm

namespace AttentionBackendRef

variable {F H L : Type} {mc : ModelConfig} (M : QwenModel F H L mc)

def blockIds (blockRow : List ℤ) : List ℕ := (blockRow.filter (· ≠ -1)).map Int.toNat

variable [Field F] (cache : LayerCache (KvRow F mc) (KvRow F mc))

section Decode

variable (decodeBlockTables : List (List ℤ)) (decodeGroup : AttentionGroup)

def decodeSequence (query : QueryRow F mc) (i : ℕ) : Except Exn (QueryRow F mc) :=
  match decodeGroup.seqIndices[i]?, decodeGroup.cachedLenBefore[i]? with
  | some seqIdx, some cached =>
    match decodeBlockTables[seqIdx]? with
    | none => .error .indexError
    | some blockRow =>
      let kvLen := cached + 1
      match cache.gatherPagedKv (blockIds blockRow) kvLen cache.blockSize with
      | .error err => .error err.toExn
      | .ok (k, v) =>
        .ok (M.scaledDotProductAttention query (k.map QwenModel.repeatInterleave)
          (v.map QwenModel.repeatInterleave) (List.replicate kvLen true))
  | _, _ => .error .indexError

def decodeLoop : List (QueryRow F mc × ℕ) → Except Exn (List (QueryRow F mc))
  | [] => .ok []
  | (query, i) :: rest =>
    match decodeSequence M cache decodeBlockTables decodeGroup query i with
    | .error err => .error err
    | .ok out =>
      match decodeLoop rest with
      | .error err => .error err
      | .ok outs => .ok (out :: outs)

end Decode

def decodeAttention (query : List (QueryRow F mc)) (attnMetadata : AttentionMetadata) :
    Except Exn (List (QueryRow F mc)) :=
  match attnMetadata.groups.find? (·.attentionType = .decodeGpu) with
  | none => .ok query
  | some decodeGroup => decodeLoop M cache attnMetadata.decodeBlockTables decodeGroup query.zipIdx

section Prefill

variable (prefillBlockTables : List (List ℤ)) (query : List (QueryRow F mc))

def prefillSequence (tokenOffset seqIdx cached qLen : ℕ) : Except Exn (List (QueryRow F mc)) :=
  match prefillBlockTables[seqIdx]? with
  | none => .error .indexError
  | some blockRow =>
    let kvLen := cached + qLen
    match cache.gatherPagedKv (blockIds blockRow) kvLen cache.blockSize with
    | .error err => .error err.toExn
    | .ok (fullK, fullV) =>
      let qTokens := (query.drop tokenOffset).take qLen
      .ok (qTokens.zipIdx.map (fun (q, i) =>
        M.scaledDotProductAttention q (fullK.map QwenModel.repeatInterleave) (fullV.map QwenModel.repeatInterleave)
          (Attention.causalMask (cached + i) kvLen)))

def prefillLoop : ℕ → List (ℕ × ℕ × ℕ) → Except Exn (List (QueryRow F mc))
  | _, [] => .ok []
  | tokenOffset, (seqIdx, cached, qLen) :: rest =>
    match prefillSequence M cache prefillBlockTables query tokenOffset seqIdx cached qLen with
    | .error err => .error err
    | .ok out =>
      match prefillLoop (tokenOffset + qLen) rest with
      | .error err => .error err
      | .ok outs => .ok (out ++ outs)

end Prefill

def prefillItems (groups : List AttentionGroup) : List (ℕ × ℕ × ℕ) :=
  (groups.filter (fun g => g.attentionType = .prefillGpu ∨ g.attentionType = .prefillRef)).flatMap (fun g =>
    g.seqIndices.zip (g.cachedLenBefore.zip g.queryLen))

def prefillAttention (query : List (QueryRow F mc)) (attnMetadata : AttentionMetadata) :
    Except Exn (List (QueryRow F mc)) :=
  let items := prefillItems attnMetadata.groups
  if query.isEmpty || items.isEmpty then .ok query
  else prefillLoop M cache attnMetadata.prefillBlockTables query 0 items

end AttentionBackendRef

end MiniVllm
