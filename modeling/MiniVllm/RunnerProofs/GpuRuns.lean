import MiniVllm.RunnerProofs.GpuBackend

/-! Runs of the Triton backend. -/

namespace MiniVllm

open ModelInputBuilder QwenModelRunner

section Runs

variable {H L : Type} {mc : ModelConfig} (M : QwenModel ℝ H L mc) {ε : Type}

/-- The states between two batches of the Triton backend, as `Served` has them for the reference backend. The buffers
of the pool hold anything at the start, and the kernels of every step run in an order of their own. -/
inductive GpuServed (config : Config) (numBlocks : ℕ) : List Sequence → BlockManager ε → List (FlatCache ℝ) → Prop
  | start {bm : BlockManager ε} {pool : KVCachePool ℝ mc} (hshape : PoolShaped config numBlocks M.layers pool) :
    GpuServed config numBlocks [] bm (pool.map LayerCache.flatten)
  | regroup {seqs seqs' : List Sequence} {bm bm' : BlockManager ε} {pool : List (FlatCache ℝ)}
    (hserved : GpuServed config numBlocks seqs bm pool) (hplaced : Placed numBlocks bm' seqs')
    (hkept : ∀ q ∈ seqs', Fresh q ∨ q ∈ seqs ∧ bm.getBlockTable q.seqId <+: bm'.getBlockTable q.seqId) :
    GpuServed config numBlocks seqs' bm' pool
  | batch {seqs : List Sequence} {bm : BlockManager ε} {pool pool' : List (FlatCache ℝ)}
    {prefillMeta : List PrefillMeta} {decodeMeta : List DecodeMeta} {input : ModelInput} {logits : List L}
    {launches : ℕ → LayerLaunch ℝ} (token : SeqId → ℕ) (hserved : GpuServed config numBlocks seqs bm pool)
    (hbatch : ValidBatch mc config bm seqs prefillMeta decodeMeta)
    (hinput : assemble config bm prefillMeta decodeMeta = .ok input) (hlaunches : LaunchesComplete M input launches)
    (hlogits : executeModelGpu M config.blockSize pool input launches = (.ok logits, pool')) :
    GpuServed config numBlocks (seqs.map (afterStep token prefillMeta decodeMeta)) bm pool'

variable {M} {config : Config} {numBlocks : ℕ} {seqs : List Sequence} {bm : BlockManager ε}

lemma Cached.executeGpu (hsupports : TritonSupports M config.blockSize) {pool : KVCachePool ℝ mc}
    (h : Cached M config numBlocks seqs bm pool) {prefillMeta : List PrefillMeta} {decodeMeta : List DecodeMeta}
    (hbatch : ValidBatch mc config bm seqs prefillMeta decodeMeta) {launches : ℕ → LayerLaunch ℝ}
    (hlaunches : LaunchesComplete M (assembled config bm prefillMeta decodeMeta) launches) :
    executeModelGpu M config.blockSize (pool.map LayerCache.flatten) (assembled config bm prefillMeta decodeMeta)
      launches = onTriton (executeModel M pool (assembled config bm prefillMeta decodeMeta)) :=
  executeModel_agrees (hbatch.placed h.placed h.progress h.covered) hsupports h.shaped
    (length_inputIds fun m hm => (hbatch.chunks m hm).le_prompt) hlaunches

lemma GpuServed.reference (hsupports : TritonSupports M config.blockSize) {pool : List (FlatCache ℝ)}
    (h : GpuServed M config numBlocks seqs bm pool) :
    ∃ refPool, Served M config numBlocks seqs bm refPool ∧ pool = refPool.map LayerCache.flatten := by
  induction h with
  | start hshape => exact ⟨_, .start hshape, rfl⟩
  | regroup _ hplaced hkept ih =>
    obtain ⟨refPool, hserved, rfl⟩ := ih
    exact ⟨refPool, .regroup hserved hplaced hkept, rfl⟩
  | batch token _ hbatch hinput hlaunches hlogits ih =>
    obtain ⟨refPool, hserved, rfl⟩ := ih
    obtain rfl := Except.ok.inj (hbatch.assemble_ok.symm.trans hinput)
    obtain ⟨logits', refPool', hexec, -⟩ := hserved.cached.execute hbatch
    rw [hserved.cached.executeGpu hsupports hbatch hlaunches, hexec, onTriton] at hlogits
    cases hlogits
    exact ⟨refPool', .batch token hserved hbatch hinput hexec, rfl⟩

theorem triton_logits_exact (hsupports : TritonSupports M config.blockSize) {pool : List (FlatCache ℝ)}
    (hserved : GpuServed M config numBlocks seqs bm pool) {prefillMeta : List PrefillMeta}
    {decodeMeta : List DecodeMeta} (hbatch : ValidBatch mc config bm seqs prefillMeta decodeMeta) :
    ∃ input, assemble config bm prefillMeta decodeMeta = .ok input ∧
      ∀ launches, LaunchesComplete M input launches →
        ∃ logits pool', executeModelGpu M config.blockSize pool input launches = (.ok logits, pool') ∧
          ∀ (i : ℕ), ∀ q ∈ seqs, (sampledIds input.sequenceInfo)[i]? = some q.seqId →
            ∃ row, logits[i]? = some row ∧ (M.causalForward q.tokens).getLast? = some row := by
  obtain ⟨refPool, href, rfl⟩ := hserved.reference hsupports
  have hcached := href.cached
  obtain ⟨logits, pool', hexec, hrows, -⟩ := hcached.execute hbatch
  refine ⟨_, hbatch.assemble_ok, fun launches hlaunches => ⟨logits, pool'.map LayerCache.flatten, ?_, ?_⟩⟩
  · rw [hcached.executeGpu hsupports hbatch hlaunches, hexec, onTriton]
    rfl
  · intro i q hq hi
    rw [sampledIds_assembled, List.getElem?_map] at hi
    obtain ⟨t, ht, hid⟩ := Option.map_eq_some_iff.mp hi
    obtain ⟨hlive, hlen⟩ := hbatch.sampled (List.mem_of_getElem? ht)
    obtain rfl := hcached.placed.seq_eq hlive hq hid
    refine ⟨_, hrows i t ht, ?_⟩
    rw [QwenModel.causalForward_eq, ← hlen, List.range_succ, List.map_append, List.map_singleton, List.getLast?_concat]

end Runs

section Example

lemma gpuServed_first : GpuServed wideModel .default 3 [shortPrompt, longPrompt] sumBlocks
    (widePool.map LayerCache.flatten) := by
  have hstart : GpuServed wideModel .default 3 [] sumBlocks (widePool.map LayerCache.flatten) := .start widePool_shaped
  refine .regroup hstart served_first.cached.placed ?_
  simp only [List.mem_cons, List.not_mem_nil, or_false]
  rintro q (rfl | rfl)
  · exact Or.inl ⟨rfl, rfl, rfl⟩
  · exact Or.inl ⟨rfl, rfl, rfl⟩

lemma gpuServed_second : ∃ pool, GpuServed wideModel .default 3 [shortDecoding, longContinuing] sumBlocks pool := by
  obtain ⟨refPool, href, hpool⟩ := gpuServed_first.reference wideModel_supports
  have hlaunches : LaunchesComplete wideModel (assembled .default sumBlocks firstChunks [])
      (fun _ => reversedLaunch wideConfig (assembled .default sumBlocks firstChunks [])) :=
    fun _ _ => reversedLaunch_complete _ _
  obtain ⟨logits, pool', hexec, -⟩ := href.cached.execute valid_wide
  have hgpu := href.cached.executeGpu wideModel_supports valid_wide hlaunches
  rw [← hpool, hexec, onTriton] at hgpu
  exact ⟨_, .batch (fun _ => 9) gpuServed_first valid_wide valid_wide.assemble_ok hlaunches hgpu⟩

theorem triton_logits_exact_of_mixed_batch : ∃ pool,
    GpuServed wideModel .default 3 [shortDecoding, longContinuing] sumBlocks pool ∧
    ∃ input, assemble .default sumBlocks
        [{ seq := longContinuing, cachedLenBefore := 3, queryLen := 2, prefillCompletes := true }]
        [{ seq := shortDecoding, cachedLenBefore := 2 }] = .ok input ∧
      ∀ launches, LaunchesComplete wideModel input launches →
        ∃ logits pool', executeModelGpu wideModel 4 pool input launches = (.ok logits, pool') ∧
          ∀ (i : ℕ), ∀ q ∈ [shortDecoding, longContinuing], (sampledIds input.sequenceInfo)[i]? = some q.seqId →
            ∃ row, logits[i]? = some row ∧ (wideModel.causalForward q.tokens).getLast? = some row := by
  obtain ⟨pool, hserved⟩ := gpuServed_second
  have hbatch : ValidBatch wideConfig .default sumBlocks [shortDecoding, longContinuing]
      [{ seq := longContinuing, cachedLenBefore := 3, queryLen := 2, prefillCompletes := true }]
      [{ seq := shortDecoding, cachedLenBefore := 2 }] :=
    { distinct := by decide
      live := by decide
      chunks := by
        rintro m hm
        obtain rfl := List.mem_singleton.mp hm
        exact ⟨rfl, rfl, by decide, by decide, rfl⟩
      decodes := by
        rintro m hm
        obtain rfl := List.mem_singleton.mp hm
        exact ⟨by decide, rfl⟩
      covered := by decide
      positions := by decide }
  exact ⟨pool, hserved, triton_logits_exact wideModel_supports hserved hbatch⟩

end Example

end MiniVllm
