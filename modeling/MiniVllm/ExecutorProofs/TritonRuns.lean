import MiniVllm.EngineProofs.PoolSizing
import MiniVllm.ExecutorProofs.GreedyRuns

/-! The whole stack, from the kernels of the Triton backend to the texts that the engine returns. -/

namespace MiniVllm

open BlockManager EngineCore LayerCache ModelInputBuilder PagedExecutor QwenModelRunner

lemma soundHits_of_off {ε : Type} {S : Setup ε} (hoff : S.config.enablePrefixCaching = false)
    (ops : List LLMEngine.Op) : (soundHits S).Run S ops := by
  have hoff' : S.blockParams.enablePrefixCaching = false := hoff
  have hmatched : ∀ (bm : BlockManager ε) prompt, bm.matchedBlocks S.blockParams prompt = [] := by
    intro bm prompt
    rw [matchedBlocks, probe_off hoff']
    rfl
  have hadmission : ∀ qu bm sg, (soundHits S).admission qu bm sg := by
    intro qu bm sg
    simp only [soundHits, CallCondition.all, settledHits, samePrefixHits, hmatched]
    exact ⟨fun _ h => absurd h List.not_mem_nil, fun _ h => absurd h List.not_mem_nil⟩
  have hensure : ∀ qu bm q position, (soundHits S).ensure qu bm q position := by
    intro qu bm q position
    have hnone : bm.ensureHit S.blockParams q position = none := by simp [ensureHit, promptHash, hoff']
    refine ⟨hnone, fun p hp => ?_⟩
    rw [hnone] at hp
    cases hp
  exact runFrom_of_forall (c := soundHits S) (fun _ _ _ => ⟨trivial, trivial⟩) hadmission hensure
    (fun _ _ _ _ => ⟨trivial, trivial⟩) _ _

section Returns

variable {F H L R : Type} {mc : ModelConfig} [Field F] {M : QwenModel F H L mc} {argmax : L → ℕ}
  {runner : ModelRunner R L} {Stands : R → KVCachePool F mc → Prop} {tokenizer : Tokenizer} {config : Config}
  {blockHash : List ℕ → ℤ}

lemma ServesGreedily.reaches (himpl : Implements M config runner Stands) {s s' : CoreState (RunnerState R)}
    (hw : WellFormed (qwenSetup runner argmax tokenizer config blockHash) s)
    (h : ServesGreedily M argmax config Stands s)
    (hr : Reaches (qwenSetup runner argmax tokenizer config blockHash)
      (greedyCalls mc (qwenSetup runner argmax tokenizer config blockHash)) s s') :
    ServesGreedily M argmax config Stands s' := by
  induction hr with
  | refl => exact h
  | tail hr ht ih => exact ih.step (hw.reaches hr) himpl ht

lemma batchesSucceed_greedy (himpl : Implements M config runner Stands) {s : EngineState (RunnerState R)}
    (hw : WellFormed (qwenSetup runner argmax tokenizer config blockHash) s.core)
    (h : ServesGreedily M argmax config Stands s.core) {now : ℚ}
    (hcalls : (greedyCalls mc (qwenSetup runner argmax tokenizer config blockHash)).Step
      (qwenSetup runner argmax tokenizer config blockHash) s now) :
    (batchesSucceed (qwenSetup runner argmax tokenizer config blockHash)).Step
      (qwenSetup runner argmax tokenizer config blockHash) s now := by
  have hwb := beginStep_wellFormed hw now
  have hb := h.reaches himpl hw (beginStep_refines hw now)
  refine (step_refines hw hcalls).2.imp ?_ ?_ ?_ ?_
  · exact fun _ _ _ _ => trivial
  · exact fun _ _ _ _ => trivial
  · exact fun _ _ _ _ _ => trivial
  · rintro queue bm prefill decode ⟨hc, hreach, hready⟩
    have hl := hb.reaches himpl hwb hreach
    obtain ⟨pool, hstands, hholds⟩ := hl.pool
    obtain ⟨output, x, pool', hexec, -⟩ := executeOn_greedy himpl
      (hwb.reaches hreach) hready hl.pairs hc.2 hstands hholds
    exact ⟨output, congrArg Prod.fst hexec⟩

end Returns

section Triton

variable {H L : Type} {mc : ModelConfig} (M : QwenModel ℝ H L mc) (argmax : L → ℕ) (tokenizer : Tokenizer)
  (config : Config) (blockHash : List ℕ → ℤ) (launches : ℕ → ModelInput → ℕ → LayerLaunch ℝ)

noncomputable def tritonSetup : Setup (RunnerState (List (FlatCache ℝ))) :=
  qwenSetup (triton M config.blockSize launches
    ((allocatePool ℝ mc M.layers.length config.numGpuBlocks config.blockSize).map LayerCache.flatten)) argmax tokenizer
    config blockHash

section Runs

variable {M argmax tokenizer config blockHash launches} (hsupports : TritonSupports M config.blockSize)
  (hlaunches : ∀ n input, LaunchesComplete M input (launches n input)) (hoff : config.enablePrefixCaching = false)
  {ops : List LLMEngine.Op}
  (hfits : ∀ r ∈ requestsOf (tritonSetup M argmax tokenizer config blockHash launches) ops, FitsModel mc r.1 r.2)

include hsupports hlaunches hoff hfits

lemma triton_succeeds {share : ℕ} (hpool : config.maxNumSeqs * share ≤ config.numGpuBlocks)
    (hshare : WithinShare (tritonSetup M argmax tokenizer config blockHash launches) share ops) :
    (Succeeds (tritonSetup M argmax tokenizer config blockHash launches)).Run
      (tritonSetup M argmax tokenizer config blockHash launches) ops := by
  have himpl := triton_implements (allocatePool_shaped config M.layers) hsupports hlaunches
  have hsound : ∀ ops, (soundHits (tritonSetup M argmax tokenizer config blockHash launches)).Run
      (tritonSetup M argmax tokenizer config blockHash launches) ops := fun ops => soundHits_of_off hoff ops
  refine succeeds_run hpool ops (fun r hr => (hfits r hr).nonempty) hshare fun done now hdone => ?_
  obtain ⟨rest, rfl⟩ := hdone
  have hfitsDone : ∀ r ∈ requestsOf (tritonSetup M argmax tokenizer config blockHash launches) (done ++ [.step now]),
      FitsModel mc r.1 r.2 := by
    intro r hr
    apply hfits
    rw [requestsOf_append]
    exact List.mem_append_left _ hr
  have hrun : (greedyCalls mc (tritonSetup M argmax tokenizer config blockHash launches)).Run
      (tritonSetup M argmax tokenizer config blockHash launches) (done ++ [.step now]) :=
    greedyCalls_run _ hfitsDone (hsound _)
  obtain ⟨-, hcalls, -⟩ := (StepCondition.runFrom_append _ _ done [.step now]).mp hrun
  rw [requestsOf_append] at hfitsDone
  exact batchesSucceed_greedy himpl (wellFormed_run _ done)
    (servesGreedily_run himpl done (fun r hr => hfitsDone r (List.mem_append_left _ hr)) (hsound done)) hcalls

lemma triton_answers {rid : RequestId} {request : List ℕ × SamplingParams}
    (hr : (requestsOf (tritonSetup M argmax tokenizer config blockHash launches) ops)[rid]? = some request) :
    GreedyAnswer M argmax (tritonSetup M argmax tokenizer config blockHash launches)
      (LLMEngine.run (tritonSetup M argmax tokenizer config blockHash launches) ops) rid request :=
  answers_of_implements (triton_implements (allocatePool_shaped config M.layers) hsupports hlaunches) ops hfits
    (soundHits_of_off hoff ops) hr

end Runs

/-- Without prefix caching, on a pool with a share of blocks for every seat, no step of an engine on the Triton backend
raises, and every request gets the greedy continuation of its prompt. -/
theorem triton_answers_greedily (hsupports : TritonSupports M config.blockSize)
    (hlaunches : ∀ n input, LaunchesComplete M input (launches n input)) (hoff : config.enablePrefixCaching = false)
    (share : ℕ) (hpool : config.maxNumSeqs * share ≤ config.numGpuBlocks) (ops : List LLMEngine.Op)
    (hfits : ∀ r ∈ requestsOf (tritonSetup M argmax tokenizer config blockHash launches) ops, FitsModel mc r.1 r.2)
    (hshare : WithinShare (tritonSetup M argmax tokenizer config blockHash launches) share ops) :
    (Succeeds (tritonSetup M argmax tokenizer config blockHash launches)).Run
        (tritonSetup M argmax tokenizer config blockHash launches) ops ∧
      ∀ rid request, (requestsOf (tritonSetup M argmax tokenizer config blockHash launches) ops)[rid]? = some request →
        GreedyAnswer M argmax (tritonSetup M argmax tokenizer config blockHash launches)
          (LLMEngine.run (tritonSetup M argmax tokenizer config blockHash launches) ops) rid request :=
  ⟨triton_succeeds hsupports hlaunches hoff hfits hpool hshare,
    fun _ _ hr => triton_answers hsupports hlaunches hoff hfits hr⟩

noncomputable def wideSetup : Setup (RunnerState (List (FlatCache ℝ))) :=
  tritonSetup wideModel (fun row => ⌊row⌋₊) charTokenizer coveredSeats codeHash
    (fun _ input _ => reversedLaunch wideConfig input)

def threePrompts : List LLMEngine.Op := [.addRequest ['a', 'b', 'c'] 2 0, .addRequest ['d'] 1 0, .addRequest ['e'] 2 0]

def fiveSteps : List LLMEngine.Op :=
  [.step 0, .addRequest ['f'] 4 0, .step 0, .cancelRequest 0, .step 0, .step 0, .step 0]

theorem triton_answers_greedily_of_three_prompts :
    (Succeeds wideSetup).Run wideSetup (threePrompts ++ fiveSteps) ∧
      ∀ rid request, (requestsOf wideSetup (threePrompts ++ fiveSteps))[rid]? = some request →
        GreedyAnswer wideModel (fun row => ⌊row⌋₊) wideSetup (LLMEngine.run wideSetup (threePrompts ++ fiveSteps)) rid
          request :=
  triton_answers_greedily wideModel (fun row => ⌊row⌋₊) charTokenizer coveredSeats codeHash
    (fun _ input _ => reversedLaunch wideConfig input) wideModel_supports
    (fun _ input _ _ => reversedLaunch_complete wideConfig input) rfl 2 (by decide) (threePrompts ++ fiveSteps)
    (by decide) (by decide)

end Triton

end MiniVllm
