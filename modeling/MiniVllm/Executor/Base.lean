import MiniVllm.Engine.InputBuilder

/-! The `Executor` protocol of `executor/base.py`, with what the engine relies on as fields. -/

namespace MiniVllm

def Covered {ε : Type} (blockSize : ℕ) (bm : BlockManager ε) (infos : List SequenceExecutionInfo) : Prop :=
  ∀ info ∈ infos, bm.tables.contains info.sequenceId ∧
    (∀ i < info.queryLen, (info.queryStart + i) / blockSize < (bm.getBlockTable info.sequenceId).length) ∧
    (info.phase = .decode → info.cachedLenBefore / blockSize < (bm.getBlockTable info.sequenceId).length)

structure Executor (config : Config) (ε : Type) where
  initial : ε
  callbacks : Callbacks ε
  tokenize : List Char → List ℕ
  detokenize : List ℕ → List Char
  execute : ModelInput → BlockManager ε → Except Exn ModelRunnerOutput × BlockManager ε
  cleanupSequence : ε → SeqId → ε
  execute_frame : ∀ input bm, Covered config.blockSize bm input.sequenceInfo →
    ∃ x, (execute input bm).2 = bm.withListener x
  execute_samples : ∀ input bm output, (execute input bm).1 = .ok output →
    (∀ info ∈ input.sequenceInfo, info.phase = .decode → info.sampleOutputIndex.isSome) →
    output.sampledSequenceIds = sampledIds input.sequenceInfo ∧
      output.sampledSequenceIds.length ≤ output.sampledTokenIds.length

end MiniVllm
