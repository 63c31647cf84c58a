import MiniVllm.EngineProofs.Requests
import MiniVllm.ExecutorProofs.Isolation

/-! Two runs: the outputs of a request do not depend on the other requests, nor on prefix caching. -/

namespace MiniVllm

open BlockManager EngineCore FakeModelExecutor

def finishedSeqs {ε : Type} (s : EngineState ε) (rid : RequestId) : List Sequence :=
  match s.queue.finished.get? rid with
  | some sg => sg.seqs.filter (·.status = .finished)
  | none => []

lemma mem_finishedSeqs {ε : Type} {s : EngineState ε} {rid : RequestId} {q : Sequence} :
    q ∈ finishedSeqs s rid ↔ ∃ sg, s.queue.finished.get? rid = some sg ∧ q ∈ sg.seqs ∧ q.status = .finished := by
  unfold finishedSeqs
  cases s.queue.finished.get? rid with
  | none => simp
  | some sg => simp [List.mem_filter]

section Caching

variable {ε : Type} {S : Setup ε} (hoff : S.config.enablePrefixCaching = false)

include hoff

lemma quietHits_off (ops : List LLMEngine.Op) : (quietHits S).Run S ops := by
  have hoff' : S.blockParams.enablePrefixCaching = false := hoff
  refine runFrom_of_forall (fun _ _ _ => trivial) (fun qu bm sg hit hm => ?_) (fun qu bm q position p hp => ?_)
    (fun _ _ _ _ => trivial) _ ops
  · simp [matchedBlocks, probe_off hoff'] at hm
  · simp [ensureHit, promptHash, hoff'] at hp

end Caching

section Outputs

variable {config : Config} {blockHash : List ℕ → ℤ} {ops : List LLMEngine.Op}

lemma finished_solo (hrun : (quietHits (fakeSetup config blockHash)).Run (fakeSetup config blockHash) ops)
    {rid : RequestId} {q : Sequence} (hq : q ∈ finishedSeqs (LLMEngine.run (fakeSetup config blockHash) ops) rid)
    (hne : q.promptTokenIds ≠ []) (hmax : 1 ≤ q.samplingParams.maxTokens) :
    q.outputTokenIds = soloOutputs config.vocabSize config.blockSize q.promptTokenIds.length
      q.samplingParams.maxTokens.toNat := by
  obtain ⟨sg, hsg, hm, hst⟩ := mem_finishedSeqs.mp hq
  exact finishedSolo_reaches (run_refines hrun) rid sg hsg q hm hst hne hmax

lemma finished_request {ε : Type} {S : Setup ε} {rid : RequestId} {q : Sequence}
    (hq : q ∈ finishedSeqs (LLMEngine.run S ops) rid) :
    (requestsOf S ops)[rid]? = some (q.promptTokenIds, q.samplingParams) := by
  obtain ⟨sg, hsg, hm, -⟩ := mem_finishedSeqs.mp hq
  obtain ⟨hprompt, hparams⟩ := finishedAlike_run S ops rid sg hsg q hm
  rw [hprompt, hparams]
  exact (serves_run S ops).2 rid sg (Or.inr (Or.inr (Or.inl hsg)))

lemma requestsOf_fakeSetup (config config' : Config) (hvocab : config'.vocabSize = config.vocabSize)
    (blockHash' : List ℕ → ℤ) :
    requestsOf (fakeSetup config' blockHash') ops = requestsOf (fakeSetup config blockHash) ops := by
  have htokenize : (fakeSetup config' blockHash').executor.tokenize =
      (fakeSetup config blockHash).executor.tokenize := by
    funext prompt
    simp only [fakeSetup, fakeModelExecutor, tokenize, hvocab]
  simp only [requestsOf, htokenize]

end Outputs

theorem outputs_isolated (config config' : Config) (blockHash blockHash' : List ℕ → ℤ)
    (hbs : config'.blockSize = config.blockSize) (hvocab : config'.vocabSize = config.vocabSize)
    (hoff : config.enablePrefixCaching = false) (hoff' : config'.enablePrefixCaching = false)
    (ops ops' : List LLMEngine.Op) (rid rid' : RequestId) (q q' : Sequence)
    (hq : q ∈ finishedSeqs (LLMEngine.run (fakeSetup config blockHash) ops) rid)
    (hq' : q' ∈ finishedSeqs (LLMEngine.run (fakeSetup config' blockHash') ops') rid')
    (hprompt : q'.promptTokenIds = q.promptTokenIds)
    (hparams : q'.samplingParams.maxTokens = q.samplingParams.maxTokens)
    (hne : q.promptTokenIds ≠ []) (hmax : 1 ≤ q.samplingParams.maxTokens) :
    q.outputTokenIds = q'.outputTokenIds := by
  rw [finished_solo (quietHits_off hoff ops) hq hne hmax,
    finished_solo (quietHits_off hoff' ops') hq' (by rwa [hprompt]) (by rwa [hparams]), hbs, hvocab, hprompt, hparams]

def finishedPair (rid : RequestId) (prompt outputs : List ℕ) : Sequence where
  seqId := ⟨rid, 0⟩
  groupId := rid
  promptTokenIds := prompt
  samplingParams := { maxTokens := 3 }
  outputTokenIds := outputs
  status := .finished
  numGeneratedTokens := 3
  prefillCursor := prompt.length

theorem outputs_isolated_of_busy_engine : (finishedPair 0 [97, 98] [4, 47, 14]).outputTokenIds =
    (finishedPair 1 [97, 98] [4, 47, 14]).outputTokenIds :=
  outputs_isolated { enablePrefixCaching := false }
    { enablePrefixCaching := false, maxPrefillChunkSize := 1, numGpuBlocks := 3 } codeHash codeHash rfl rfl rfl rfl
    [.addRequest ['a', 'b'] 3 0, .step 0, .step 0, .step 0, .step 0]
    [.addRequest ['c', 'd', 'e'] 2 0, .addRequest ['a', 'b'] 3 0, .step 0, .step 0, .cancelRequest 0, .step 0,
      .step 0, .step 0, .step 0]
    0 1 (finishedPair 0 [97, 98] [4, 47, 14]) (finishedPair 1 [97, 98] [4, 47, 14]) (by decide +kernel)
    (by decide +kernel) rfl rfl (by decide) (by decide)

def Config.withPrefixCaching (config : Config) (on : Bool) : Config := { config with enablePrefixCaching := on }

theorem caching_transparent (config : Config) (blockHash : List ℕ → ℤ) (ops : List LLMEngine.Op)
    (hrun : (quietHits (fakeSetup (config.withPrefixCaching true) blockHash)).Run
      (fakeSetup (config.withPrefixCaching true) blockHash) ops)
    (rid : RequestId) (q q' : Sequence)
    (hq : q ∈ finishedSeqs (LLMEngine.run (fakeSetup (config.withPrefixCaching true) blockHash) ops) rid)
    (hq' : q' ∈ finishedSeqs (LLMEngine.run (fakeSetup (config.withPrefixCaching false) blockHash) ops) rid)
    (hne : q.promptTokenIds ≠ []) (hmax : 1 ≤ q.samplingParams.maxTokens) :
    q.outputTokenIds = q'.outputTokenIds := by
  have hon := finished_request hq
  have hoff := finished_request hq'
  rw [requestsOf_fakeSetup (config.withPrefixCaching true) (config.withPrefixCaching false) rfl blockHash, hon] at hoff
  obtain ⟨hprompt, hparams⟩ := Prod.mk.inj (Option.some.inj hoff).symm
  have hquiet := quietHits_off (S := fakeSetup (config.withPrefixCaching false) blockHash) rfl ops
  rw [finished_solo hrun hq hne hmax, finished_solo hquiet hq' (by rwa [hprompt]) (by rwa [hparams]), hprompt, hparams]
  rfl

theorem caching_transparent_of_computed_block : (finishedPair 1 [97, 99] [4, 39, 66]).outputTokenIds =
    (finishedPair 1 [97, 99] [4, 39, 66]).outputTokenIds :=
  caching_transparent oneTokenBlocks codeHash
    [.addRequest ['a', 'b'] 3 0, .step 0, .addRequest ['a', 'c'] 3 0, .step 0, .step 0, .step 0, .step 0]
    (by decide +kernel) 1 (finishedPair 1 [97, 99] [4, 39, 66]) (finishedPair 1 [97, 99] [4, 39, 66])
    (by decide +kernel) (by decide +kernel) (by decide) (by decide)

def LLMEngine.Op.untimed : LLMEngine.Op → Bool
  | .addRequest _ _ now => now == 0
  | .step now => now == 0
  | _ => false

theorem shared_block_changes_outputs : ¬ ∀ (config : Config) (blockHash : List ℕ → ℤ),
    Function.Injective blockHash → ∀ ops : List LLMEngine.Op, (∀ op ∈ ops, op.untimed = true) →
      (∀ on, (Succeeds (fakeSetup (config.withPrefixCaching on) blockHash)).Run
        (fakeSetup (config.withPrefixCaching on) blockHash) ops) →
      ∀ rid, ∀ q ∈ finishedSeqs (LLMEngine.run (fakeSetup (config.withPrefixCaching true) blockHash) ops) rid,
        ∀ q' ∈ finishedSeqs (LLMEngine.run (fakeSetup (config.withPrefixCaching false) blockHash) ops) rid,
          q.promptTokenIds ≠ [] → 1 ≤ q.samplingParams.maxTokens → q.outputTokenIds = q'.outputTokenIds := by
  intro h
  have houtputs := h {} codeHash codeHash_injective
    [.addRequest ['a', 'b'] 3 0, .addRequest ['a', 'b'] 3 0, .step 0, .step 0, .step 0, .step 0] (by decide)
    (by decide +kernel) 0 (finishedPair 0 [97, 98] [4, 83, 250]) (by decide +kernel)
    (finishedPair 0 [97, 98] [4, 47, 14]) (by decide +kernel) (by decide) (by decide)
  revert houtputs
  decide

end MiniVllm
