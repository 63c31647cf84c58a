import MiniVllm.Executor.Sampling
import MiniVllm.ModelRunner.QwenRunnerGpu

/-! `PagedExecutor` of `executor/paged_executor.py` over a model runner that owns its KV pool. -/

namespace MiniVllm

open PagedAttentionGpu

/-- What the executor sees of a runner: its pool `R`, and `execute_model`. The number tells the calls apart. -/
structure ModelRunner (R L : Type) where
  pool : R
  executeModel : ℕ → R → ModelInput → Except Exn (List L) × R

def GpuError.toExn : GpuError → Exn
  | .assertion => .assertionError
  | .valueError => .valueError
  | .indexError => .indexError
  | .fault _ => .valueError

namespace QwenModelRunner

def allocatePool (F : Type) [Field F] (mc : ModelConfig) (numLayers numBlocks blockSize : ℕ) : KVCachePool F mc :=
  List.replicate numLayers { numBlocks, blockSize, key := fun _ _ _ => 0, value := fun _ _ _ => 0 }

variable {F H L : Type} {mc : ModelConfig} [Field F] (M : QwenModel F H L mc)

def reference (pool : KVCachePool F mc) : ModelRunner (KVCachePool F mc) L where
  pool := pool
  executeModel _ pool input := executeModel M pool input

/-- `launches` gives the schedule of every kernel of every call. -/
def triton [LinearOrder F] (blockSize : ℕ) (launches : ℕ → ModelInput → ℕ → LayerLaunch F) (pool : List (FlatCache F)) :
    ModelRunner (List (FlatCache F)) L where
  pool := pool
  executeModel n pool input :=
    let (logits, pool) := executeModelGpu M blockSize pool input (launches n input)
    (logits.mapError GpuError.toExn, pool)

end QwenModelRunner

structure RunnerState (R : Type) where
  pool : R
  totalTokensProcessed : ℕ := 0

namespace PagedExecutor

lemma collectSequenceIds_ok {counter : ℕ} {infos : List SequenceExecutionInfo} {seqIds : List SeqId}
    (h : collectSequenceIds counter infos = .ok seqIds) : seqIds = sampledIds infos := by
  induction infos generalizing counter seqIds with
  | nil =>
    cases h
    rfl
  | cons info rest ih =>
    simp only [collectSequenceIds] at h
    split at h
    · rename_i hnone
      rw [ih h, sampledIds, sampledIds, List.filter_cons_of_neg (by simp [hnone])]
    · rename_i idx hsome
      split_ifs at h
      split at h
      · cases h
      · rename_i hrest
        cases h
        rw [ih hrest, sampledIds, sampledIds, List.filter_cons_of_pos (by simp [hsome]), List.map_cons]

variable {R L : Type} (runner : ModelRunner R L) (argmax : L → ℕ)

/-- `execute`. The last branch stands for inputs that sample more sequences than rows; `build` returns none. -/
def executeOn (input : ModelInput) (bm : BlockManager (RunnerState R)) :
    Except Exn ModelRunnerOutput × BlockManager (RunnerState R) :=
  let s := bm.allocator.listener
  match runner.executeModel s.totalTokensProcessed s.pool input with
  | (.error err, pool) => (.error err, bm.withListener { s with pool := pool })
  | (.ok logits, pool) =>
    match collectSequenceIds 0 input.sequenceInfo with
    | .error err => (.error err, bm.withListener { s with pool := pool })
    | .ok seqIds =>
      if seqIds.length ≤ logits.length then
        (.ok ⟨logits.map argmax, seqIds⟩,
          bm.withListener { pool := pool, totalTokensProcessed := s.totalTokensProcessed + input.inputIds.length })
      else (.error .assertionError, bm.withListener { s with pool := pool })

lemma executeOn_frame (input : ModelInput) (bm : BlockManager (RunnerState R)) :
    ∃ x, (executeOn runner argmax input bm).2 = bm.withListener x := by
  simp only [executeOn]
  split
  · exact ⟨_, rfl⟩
  · split
    · exact ⟨_, rfl⟩
    · split_ifs
      · exact ⟨_, rfl⟩
      · exact ⟨_, rfl⟩

lemma executeOn_samples {input : ModelInput} {bm : BlockManager (RunnerState R)} {output : ModelRunnerOutput}
    (h : (executeOn runner argmax input bm).1 = .ok output) :
    output.sampledSequenceIds = sampledIds input.sequenceInfo ∧
      output.sampledSequenceIds.length ≤ output.sampledTokenIds.length := by
  simp only [executeOn] at h
  split at h
  · cases h
  · split at h
    · cases h
    · rename_i hids
      split_ifs at h with hlen
      cases h
      exact ⟨collectSequenceIds_ok hids, by simpa using hlen⟩

end PagedExecutor

structure Tokenizer where
  encode : List Char → List ℕ
  decode : List ℕ → List Char

def qwenExecutor {R L : Type} (runner : ModelRunner R L) (argmax : L → ℕ) (tokenizer : Tokenizer) (config : Config) :
    Executor config (RunnerState R) where
  initial := { pool := runner.pool }
  callbacks := ⟨fun s _ => s, fun s _ => s⟩
  tokenize := tokenizer.encode
  detokenize := tokenizer.decode
  execute := PagedExecutor.executeOn runner argmax
  cleanupSequence s _ := s
  execute_frame input bm _ := PagedExecutor.executeOn_frame runner argmax input bm
  execute_samples _ _ _ h _ := PagedExecutor.executeOn_samples runner argmax h

end MiniVllm
