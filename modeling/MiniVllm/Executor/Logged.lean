import MiniVllm.Scheduler.Scheduler

/-! An executor beside a log of the `cleanup_sequence` calls that it gets. -/

namespace MiniVllm

variable {ε α : Type}

def BlockManager.withState (bm : BlockManager ε) (x : α) : BlockManager α where
  allocator :=
    { numBlocks := bm.allocator.numBlocks
      freeFlags := bm.allocator.freeFlags
      refCounts := bm.allocator.refCounts
      listener := x }
  tables := bm.tables
  prefixCache := bm.prefixCache
  sharedPrefixBlocks := bm.sharedPrefixBlocks
  blockHashes := bm.blockHashes
  history := bm.history

namespace Executor

variable {config : Config} (E : Executor config ε)

def loggedExecute (input : ModelInput) (bm : BlockManager (ε × List SeqId)) :
    Except Exn ModelRunnerOutput × BlockManager (ε × List SeqId) :=
  let r := E.execute input (bm.withState bm.allocator.listener.1)
  (r.1, r.2.withState (r.2.allocator.listener, bm.allocator.listener.2))

/-- `E`, whose state is the first component; it neither reads nor changes the log. -/
def logged : Executor config (ε × List SeqId) where
  initial := (E.initial, [])
  callbacks := ⟨fun x pid => (E.callbacks.onAllocate x.1 pid, x.2), fun x pid => (E.callbacks.onFree x.1 pid, x.2)⟩
  tokenize := E.tokenize
  detokenize := E.detokenize
  execute := E.loggedExecute
  cleanupSequence x seqId := (E.cleanupSequence x.1 seqId, x.2 ++ [seqId])
  execute_frame input bm hc := by
    obtain ⟨x, hx⟩ := E.execute_frame input (bm.withState bm.allocator.listener.1) hc
    refine ⟨(x, bm.allocator.listener.2), ?_⟩
    simp only [loggedExecute, hx]
    rfl
  execute_samples input bm := E.execute_samples input (bm.withState bm.allocator.listener.1)

end Executor

def Setup.logged (S : Setup ε) : Setup (ε × List SeqId) where
  config := S.config
  executor := S.executor.logged
  blockHash := S.blockHash

def BlockManager.cleanups (bm : BlockManager (ε × List SeqId)) : List SeqId := bm.allocator.listener.2

end MiniVllm
