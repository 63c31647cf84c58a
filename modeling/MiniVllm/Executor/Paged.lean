import MiniVllm.Cache.PagedCache
import MiniVllm.Executor.Base

/-! `PagedExecutor` of `executor/paged_executor.py` over any model that writes one key and one value a token. -/

namespace MiniVllm

structure KvWrite (K V : Type) where
  seqId : SeqId
  position : ℕ
  key : K
  value : V

def KvWrite.isFor {K V : Type} (w : KvWrite K V) (seqId : SeqId) (position : ℕ) : Bool :=
  w.seqId == seqId && w.position == position

/-- `slots` and `journal` are the history: every slot ever mapped, and every write, the latest first. -/
structure PagedState (K V : Type) where
  cache : LayerCache K V
  totalTokensProcessed : ℕ := 0
  slots : List ℤ := []
  journal : List (KvWrite K V) := []

/-- What the executor takes from its tokenizer and its model: the row that each token writes, and the outcome. -/
structure PagedModel (K V : Type) where
  tokenize : List Char → List ℕ
  detokenize : List ℕ → List Char
  emptyKey : ℕ × ℕ → K
  emptyValue : ℕ × ℕ → V
  row : ModelInput → PagedState K V → ℕ → K × V
  sample : ModelInput → PagedState K V → Except Exn (ℕ → ℕ)

namespace PagedExecutor

variable {K V : Type} (M : PagedModel K V) (config : Config)

def written (s : PagedState K V) (seqId : SeqId) (position : ℕ) : Option (K × V) :=
  (s.journal.find? (·.isFor seqId position)).map (fun w => (w.key, w.value))

def kvWrite (token : (SeqId × ℕ) × K × V) : KvWrite K V := ⟨token.1.1, token.1.2, token.2.1, token.2.2⟩

def samplesInOrder (infos : List SequenceExecutionInfo) : Bool :=
  infos.filterMap (·.sampleOutputIndex) == List.range (sampledIds infos).length

def execute (input : ModelInput) (bm : BlockManager (PagedState K V)) :
    Except Exn ModelRunnerOutput × BlockManager (PagedState K V) :=
  let s := bm.allocator.listener
  let rows := (List.range input.slotMapping.length).map (M.row input s)
  let s := { s with slots := s.slots ++ input.slotMapping }
  match s.cache.writeToPagedCache (rows.map (·.1)) (rows.map (·.2)) input.slotMapping config.blockSize with
  | (.error err, cache) => (.error err.toExn, bm.withListener { s with cache := cache })
  | (.ok _, cache) =>
    let s := { s with
      cache := cache
      journal := (input.tokenPositions.zip rows).reverse.map kvWrite ++ s.journal }
    match M.sample input s with
    | .error err => (.error err, bm.withListener s)
    | .ok token =>
      if samplesInOrder input.sequenceInfo then
        let ids := sampledIds input.sequenceInfo
        (.ok ⟨(List.range ids.length).map token, ids⟩,
          bm.withListener { s with totalTokensProcessed := s.totalTokensProcessed + input.inputIds.length })
      else (.error .assertionError, bm.withListener s)

lemma execute_frame (input : ModelInput) (bm : BlockManager (PagedState K V)) :
    ∃ x, (execute M config input bm).2 = bm.withListener x := by
  simp only [execute]
  split
  · exact ⟨_, rfl⟩
  · split
    · exact ⟨_, rfl⟩
    · split_ifs
      · exact ⟨_, rfl⟩
      · exact ⟨_, rfl⟩

lemma execute_samples {input : ModelInput} {bm : BlockManager (PagedState K V)} {output : ModelRunnerOutput}
    (h : (execute M config input bm).1 = .ok output) : output.sampledSequenceIds = sampledIds input.sequenceInfo ∧
      output.sampledSequenceIds.length ≤ output.sampledTokenIds.length := by
  simp only [execute] at h
  split at h
  · cases h
  · split at h
    · cases h
    · split_ifs at h
      cases h
      exact ⟨rfl, by simp⟩

end PagedExecutor

/-- The pool is `torch.empty`: its first contents are the model's. -/
def pagedExecutor {K V : Type} (M : PagedModel K V) (config : Config) : Executor config (PagedState K V) where
  initial := { cache := ⟨config.numGpuBlocks, config.blockSize, M.emptyKey, M.emptyValue⟩ }
  callbacks := ⟨fun s _ => s, fun s _ => s⟩
  tokenize := M.tokenize
  detokenize := M.detokenize
  execute := PagedExecutor.execute M config
  cleanupSequence s _ := s
  execute_frame input bm _ := PagedExecutor.execute_frame M config input bm
  execute_samples _ _ _ h _ := PagedExecutor.execute_samples M config h

end MiniVllm
