import MiniVllm.Sequence

/-! The per-step data of `model_runner/base.py`. -/

namespace MiniVllm

inductive Phase
  | prefill | decode
  deriving DecidableEq, Repr

structure SequenceExecutionInfo where
  sequenceId : SeqId
  phase : Phase
  queryStart : ℕ
  queryLen : ℕ
  cachedLenBefore : ℕ
  kvLenAfter : ℕ
  sampleOutputIndex : Option ℕ
  deriving DecidableEq, Repr

inductive AttentionType
  | prefillRef | prefillGpu | decodeGpu
  deriving DecidableEq, Repr

structure AttentionGroup where
  seqIndices : List ℕ
  attentionType : AttentionType
  cachedLenBefore : List ℕ
  queryLen : List ℕ
  kvLenAfter : List ℕ
  deriving DecidableEq, Repr

structure AttentionMetadata where
  groups : List AttentionGroup
  prefillSlotMapping : List ℤ := []
  prefillBlockTables : List (List ℤ) := []
  prefillPositions : List ℕ := []
  decodeBlockTables : List (List ℤ)
  decodeSlotMapping : List ℤ
  decodePositions : List ℕ
  blockSize : ℕ
  deriving DecidableEq, Repr

structure ModelInput where
  inputIds : List ℕ
  positions : List ℕ
  slotMapping : List ℤ
  attnMetadata : AttentionMetadata
  sampleTokenIndices : List ℤ
  sequenceInfo : List SequenceExecutionInfo
  deriving DecidableEq, Repr

def ModelInput.tokenPositions (input : ModelInput) : List (SeqId × ℕ) :=
  input.sequenceInfo.flatMap (fun info =>
    (List.range info.queryLen).map (fun i => (info.sequenceId, info.queryStart + i)))

structure ModelRunnerOutput where
  sampledTokenIds : List ℕ
  sampledSequenceIds : List SeqId
  deriving DecidableEq, Repr

def sampledIds (infos : List SequenceExecutionInfo) : List SeqId :=
  (infos.filter (·.sampleOutputIndex.isSome)).map (·.sequenceId)

end MiniVllm
