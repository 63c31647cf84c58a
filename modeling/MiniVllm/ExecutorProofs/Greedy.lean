import MiniVllm.EngineProofs.PoolSizing
import MiniVllm.Executor.Qwen
import MiniVllm.ExecutorProofs.Isolation
import MiniVllm.ExecutorProofs.Sampling
import MiniVllm.RunnerProofs.EngineBatches
import MiniVllm.RunnerProofs.GpuBackend
import MiniVllm.SharingProofs.SharedPrefixes

/-! Greedy decoding by the paged executor, one batch at a time. -/

namespace MiniVllm

open BlockManager EngineCore LayerCache ModelInputBuilder PagedExecutor QwenModelRunner

namespace QwenModel

variable {F H L : Type} {mc : ModelConfig} [Field F] (M : QwenModel F H L mc) (argmax : L → ℕ)

def greedyToken (tokens : List ℕ) : Option ℕ := (M.causalForward tokens).getLast?.map argmax

/-- Greedy decoding without a cache. -/
def greedyOutputs (prompt : List ℕ) : ℕ → List ℕ
  | 0 => []
  | n + 1 => greedyOutputs prompt n ++ (M.greedyToken argmax (prompt ++ greedyOutputs prompt n)).toList

lemma greedyToken_eq {tokens : List ℕ} {p : ℕ} (h : p + 1 = tokens.length) :
    M.greedyToken argmax tokens = some (argmax (M.logitsAt tokens p)) := by
  rw [greedyToken, causalForward_eq, ← h, List.range_succ, List.map_append, List.map_singleton, List.getLast?_concat,
    Option.map_some]

lemma greedyOutputs_mono (prompt : List ℕ) (k m : ℕ) :
    M.greedyOutputs argmax prompt k <+: M.greedyOutputs argmax prompt (k + m) := by
  induction m with
  | zero => exact List.prefix_rfl
  | succ m ih => exact ih.trans (List.prefix_append _ _)

lemma length_greedyOutputs_add (prompt : List ℕ) (k m : ℕ) :
    (M.greedyOutputs argmax prompt (k + m)).length ≤ (M.greedyOutputs argmax prompt k).length + m := by
  induction m with
  | zero => exact le_rfl
  | succ m ih =>
    rw [← Nat.add_assoc, greedyOutputs, List.length_append]
    have hone := Option.length_toList_le (o := M.greedyToken argmax (prompt ++ M.greedyOutputs argmax prompt (k + m)))
    omega

lemma take_greedyOutputs {prompt : List ℕ} {n : ℕ} (hfull : (M.greedyOutputs argmax prompt n).length = n) {k : ℕ}
    (hk : k ≤ n) : (M.greedyOutputs argmax prompt n).take k = M.greedyOutputs argmax prompt k := by
  obtain ⟨m, rfl⟩ := Nat.exists_eq_add_of_le hk
  have hmore := M.length_greedyOutputs_add argmax prompt k m
  have hless := M.length_greedyOutputs_add argmax prompt 0 k
  rw [Nat.zero_add] at hless
  have hlen : (M.greedyOutputs argmax prompt k).length = k := by
    have hnil : (M.greedyOutputs argmax prompt 0).length = 0 := rfl
    omega
  have htake := List.prefix_iff_eq_take.mp (M.greedyOutputs_mono argmax prompt k m)
  rw [hlen] at htake
  exact htake.symm

end QwenModel

def Sequence.IsGreedy {F H L : Type} {mc : ModelConfig} [Field F] (M : QwenModel F H L mc) (argmax : L → ℕ)
    (q : Sequence) : Prop :=
  q.outputTokenIds = M.greedyOutputs argmax q.promptTokenIds q.outputTokenIds.length

section Runner

variable {F H L R : Type} {mc : ModelConfig} [Field F]

/-- The pools of the runner stand for pools of the reference, and on placed batches the two compute the same. -/
structure Implements (M : QwenModel F H L mc) (config : Config) (runner : ModelRunner R L)
    (Stands : R → KVCachePool F mc → Prop) : Prop where
  start : ∃ pool, Stands runner.pool pool ∧ PoolShaped config config.numGpuBlocks M.layers pool
  follows : ∀ (n : ℕ) (bm : BlockManager (RunnerState R)) {x : R} {pool pool' : KVCachePool F mc}
    {prefillMeta : List PrefillMeta} {decodeMeta : List DecodeMeta} {logits : List L}, Stands x pool →
    PoolShaped config config.numGpuBlocks M.layers pool →
    BatchPlaced mc config bm config.numGpuBlocks prefillMeta decodeMeta →
    (∀ m ∈ prefillMeta, m.cachedLenBefore + m.queryLen ≤ m.seq.promptTokenIds.length) →
    executeModel M pool (assembled config bm prefillMeta decodeMeta) = (.ok logits, pool') →
      ∃ x', runner.executeModel n x (assembled config bm prefillMeta decodeMeta) = (.ok logits, x') ∧ Stands x' pool'

lemma reference_implements (M : QwenModel F H L mc) {config : Config} {pool : KVCachePool F mc}
    (hshape : PoolShaped config config.numGpuBlocks M.layers pool) : Implements M config (reference M pool) Eq where
  start := ⟨pool, rfl, hshape⟩
  follows n bm x pool pool' prefillMeta decodeMeta logits hx _ _ _ hexec := by
    subst hx
    exact ⟨pool', hexec, rfl⟩

lemma triton_implements {M : QwenModel ℝ H L mc} {config : Config} {pool : KVCachePool ℝ mc}
    (hshape : PoolShaped config config.numGpuBlocks M.layers pool) (hsupports : TritonSupports M config.blockSize)
    {launches : ℕ → ModelInput → ℕ → LayerLaunch ℝ} (hlaunches : ∀ n input, LaunchesComplete M input (launches n input)) :
    Implements M config (triton M config.blockSize launches (pool.map LayerCache.flatten))
      (fun x pool => x = pool.map LayerCache.flatten) where
  start := ⟨pool, rfl, hshape⟩
  follows n bm x pool pool' prefillMeta decodeMeta logits hx hshape hplaced hchunks hexec := by
    subst hx
    have hgpu := executeModel_agrees hplaced hsupports hshape (length_inputIds hchunks) (hlaunches n _)
    rw [hexec, onTriton] at hgpu
    refine ⟨_, ?_, rfl⟩
    simp only [triton, hgpu]
    rfl

end Runner

section Batch

variable {F H L : Type} {mc : ModelConfig} [Field F] {M : QwenModel F H L mc} {argmax : L → ℕ} {ε : Type}
  {S : Setup ε} {s : CoreState ε} {prefill decode : List Sequence}

lemma collect_sampled {bm : BlockManager ε} :
    collectSequenceIds 0 (batchInput S.config bm prefill decode).sequenceInfo =
      .ok ((sampledTokens (prefillMetas S prefill) (decodeMetas decode)).map (·.1.seqId)) := by
  have hall := @collectSequenceIds_entryInfos (entries (prefillMetas S prefill) (decodeMetas decode)) 0
  rw [← assembled_sequenceInfo S.config bm] at hall
  refine hall.trans ?_
  rw [collectSequenceIds_ok hall, sampledIds_assembled]

lemma sampled_nodup {queue : RequestQueue} {bm : BlockManager ε} (hr : BatchReady S.config queue bm prefill decode) :
    ((sampledTokens (prefillMetas S prefill) (decodeMetas decode)).map (·.1.seqId)).Nodup := by
  have hids : sampledIds (batchInput S.config bm prefill decode).sequenceInfo =
      (sampledTokens (prefillMetas S prefill) (decodeMetas decode)).map (·.1.seqId) := sampledIds_assembled
  rw [← hids, batchInput_sampledIds]
  refine hr.nodup.sublist ?_
  rw [List.map_append]
  exact (List.filter_sublist.map _).append (List.Sublist.refl _)

structure PoolHolds (M : QwenModel F H L mc) (config : Config) (s : CoreState ε) (pool : KVCachePool F mc) : Prop where
  shaped : PoolShaped config config.numGpuBlocks M.layers pool
  rows : ∀ rid q, s.queue.runningSeq rid = some q → ∀ r < q.kvLen,
    Represented M M.layers pool (M.embedAt q.tokens) (tokenCell config s.blockManager q r) r

def HoldsAfter (M : QwenModel F H L mc) (S : Setup ε) (s : CoreState ε) (prefill decode : List Sequence)
    (pool : KVCachePool F mc) : Prop :=
  ∀ token rid q, s.queue.runningSeq rid = some q →
    ∀ r < (afterBatch S.config (prefill.map (·.seqId)) (decode.map (·.seqId)) token q).kvLen,
      Represented M M.layers pool
        (M.embedAt (afterBatch S.config (prefill.map (·.seqId)) (decode.map (·.seqId)) token q).tokens)
        (tokenCell S.config s.blockManager q r) r

def SamplesRows (M : QwenModel F H L mc) (argmax : L → ℕ) (S : Setup ε) (prefill decode : List Sequence)
    (token : SeqId → ℕ) : Prop :=
  ∀ t ∈ sampledTokens (prefillMetas S prefill) (decodeMetas decode),
    token t.1.seqId = argmax (M.logitsAt t.1.tokens t.2)

lemma Sequence.IsGreedy.append {q : Sequence} {p token : ℕ} (h : q.IsGreedy M argmax) (hp : p + 1 = q.tokens.length)
    (htoken : token = argmax (M.logitsAt q.tokens p)) : q.outputTokenIds ++ [token] =
      M.greedyOutputs argmax q.promptTokenIds (q.outputTokenIds ++ [token]).length := by
  have hgreedy : M.greedyToken argmax (q.promptTokenIds ++ q.outputTokenIds) = some token :=
    htoken ▸ M.greedyToken_eq argmax hp
  rw [List.length_append, List.length_singleton, QwenModel.greedyOutputs, ← h, hgreedy]
  rfl

section Step

variable (hw : WellFormed S s) (hr : BatchReady S.config s.queue s.blockManager prefill decode)
  (hpairs : Pairs (Settled S.config) s)
  (hfits : ∀ q ∈ prefill ++ decode, FitsModel mc q.promptTokenIds q.samplingParams)

include hw hr hpairs hfits

lemma PoolHolds.batch {pool : KVCachePool F mc} (h : PoolHolds M S.config s pool) :
    ∃ logits pool', executeModel M pool (batchInput S.config s.blockManager prefill decode) = (.ok logits, pool') ∧
      (sampledTokens (prefillMetas S prefill) (decodeMetas decode)).map (fun t => M.logitsAt t.1.tokens t.2) <+: logits ∧
      PoolShaped S.config S.config.numGpuBlocks M.layers pool' ∧ HoldsAfter M S s prefill decode pool' := by
  have hplaced := batchPlaced hw hr hpairs hfits
  obtain ⟨logits, pool', hexec, hsampled, hshaped, hextends⟩ := (validBatch hw hr hfits).executes hplaced h.shaped
    (fun span hs r hlt => by
      obtain ⟨hlive, hstart⟩ := span_live hw hr hs
      exact h.rows _ _ hlive r (hstart ▸ hlt))
  refine ⟨logits, pool', hexec, hsampled, hshaped, fun token rid q hq r hlt => ?_⟩
  have hid : s.queue.runningSeq q.seqId.request = some q := by rwa [hw.queue.runningSeq_seqId hq]
  have htokens := tokens_afterBatch hw hr token hq
  have hlen := (hw.queue.runningSeq_phase hq).kvLen_le_tokens
  rcases Nat.lt_or_ge r q.kvLen with hold | hnew
  · have hrow := hextends.old _ _ r (fun t ht => live_apart hw hr hpairs hid hold ht) (h.rows rid q hq r hold)
    exact hrow.congr fun p hp => embedAt_of_isPrefix htokens (by omega)
  · obtain ⟨hcall, hr'⟩ := mem_ensureCalls_of_new hw hq hr token hnew hlt
    rw [← batchTokens_eq_calls] at hcall
    exact (hextends.new (q, r) hcall).congr fun p hp => embedAt_of_isPrefix htokens (lt_of_le_of_lt hp hr')

omit hpairs in
lemma Sequence.IsGreedy.batch {token : SeqId → ℕ} (htoken : SamplesRows M argmax S prefill decode token) {rid : RequestId}
    {q : Sequence} (hq : s.queue.runningSeq rid = some q) (h : q.IsGreedy M argmax) :
    (afterBatch S.config (prefill.map (·.seqId)) (decode.map (·.seqId)) token q).IsGreedy M argmax := by
  have hbatch := validBatch hw hr hfits
  by_cases hp : q ∈ prefill
  · by_cases hc : chunkEnd S.config q = q.promptTokenIds.length
    · have hm : (q, (collectPrefill S.config q).cachedLenBefore + (collectPrefill S.config q).queryLen - 1) ∈
          sampledTokens (prefillMetas S prefill) (decodeMetas decode) :=
        List.mem_append_left _ (List.mem_map.mpr ⟨collectPrefill S.config q, List.mem_filter.mpr
          ⟨List.mem_map_of_mem hp, (collectPrefill_completes S.config (hr.cursor_le hw.queue hp)).mpr hc⟩, rfl⟩)
      have hout : q.outputTokenIds = [] := (hbatch.chunks _ (List.mem_map_of_mem hp)).outputs
      have happend := h.append (hbatch.sampled hm).2 (htoken _ hm)
      rw [hout] at happend
      rw [afterBatch_completed hw.queue hr token hq hp hc]
      exact happend
    · rw [afterBatch_chunk hw.queue hr token hq hp hc]
      exact h
  · by_cases hd : q ∈ decode
    · have hm : (q, decodePosition q) ∈ sampledTokens (prefillMetas S prefill) (decodeMetas decode) :=
        List.mem_append_right _ (List.mem_map.mpr ⟨decodeMetaOf q, List.mem_map_of_mem hd, rfl⟩)
      rw [afterBatch_decode hw.queue hr token hq hd]
      exact h.append (hbatch.sampled hm).2 (htoken _ hm)
    · rw [afterBatch_idle hw.queue hr token hq hp hd]
      exact h

end Step

end Batch

section Execute

lemma tokenOf_sampled {A L : Type} {argmax : L → ℕ} {logits : List L} {ts : List A} {f : A → L} {sid : A → SeqId}
    (hrows : ts.map f <+: logits) (hids : (ts.map sid).Nodup) {t : A} (ht : t ∈ ts) :
    tokenOf ⟨logits.map argmax, ts.map sid⟩ (sid t) = argmax (f t) := by
  obtain ⟨rest, rfl⟩ := hrows
  have hzip : ((ts.map f ++ rest).map argmax).zip (ts.map sid) = ts.map (fun t => (argmax (f t), sid t)) := by
    have hlen : ((ts.map f).map argmax).length = (ts.map sid).length := by simp
    have happend := @List.zip_append _ _ _ (rest.map argmax) _ [] hlen
    rw [List.append_nil, List.zip_nil_right, List.append_nil] at happend
    rw [List.map_append, happend, List.map_map, List.zip_map']
    rfl
  have hfrom : tokenFrom (ts.map (fun t => (argmax (f t), sid t))) (sid t) = some (argmax (f t)) := by
    refine tokenFrom_of_mem ?_ (List.mem_map_of_mem ht)
    rw [List.map_map]
    exact hids
  rw [tokenOf, hzip, hfrom, Option.getD_some]

variable {F H L R : Type} {mc : ModelConfig} [Field F] {M : QwenModel F H L mc} {argmax : L → ℕ}
  {runner : ModelRunner R L} {Stands : R → KVCachePool F mc → Prop} {tokenizer : Tokenizer} {config : Config}
  {blockHash : List ℕ → ℤ}

def qwenSetup (runner : ModelRunner R L) (argmax : L → ℕ) (tokenizer : Tokenizer) (config : Config)
    (blockHash : List ℕ → ℤ) : Setup (RunnerState R) :=
  ⟨config, qwenExecutor runner argmax tokenizer config, blockHash⟩

lemma executeOn_greedy (himpl : Implements M config runner Stands) {s : CoreState (RunnerState R)}
    (hw : WellFormed (qwenSetup runner argmax tokenizer config blockHash) s) {prefill decode : List Sequence}
    (hr : BatchReady config s.queue s.blockManager prefill decode) (hpairs : Pairs (Settled config) s)
    (hfits : ∀ q ∈ prefill ++ decode, FitsModel mc q.promptTokenIds q.samplingParams) {pool : KVCachePool F mc}
    (hstands : Stands s.blockManager.allocator.listener.pool pool) (h : PoolHolds M config s pool) :
    ∃ output x pool', executeOn runner argmax (batchInput config s.blockManager prefill decode) s.blockManager =
        (.ok output, s.blockManager.withListener x) ∧ Stands x.pool pool' ∧
      SamplesRows M argmax (qwenSetup runner argmax tokenizer config blockHash) prefill decode (tokenOf output) ∧
      PoolShaped config config.numGpuBlocks M.layers pool' ∧
      HoldsAfter M (qwenSetup runner argmax tokenizer config blockHash) s prefill decode pool' := by
  set S := qwenSetup runner argmax tokenizer config blockHash with hS
  set input := batchInput config s.blockManager prefill decode with hinput
  obtain ⟨logits, pool', hexec, hsampled, hshaped, hafter⟩ := h.batch (S := S) hw hr hpairs hfits
  obtain ⟨x, hrun, hx⟩ := himpl.follows s.blockManager.allocator.listener.totalTokensProcessed s.blockManager hstands
    h.shaped (batchPlaced (S := S) hw hr hpairs hfits)
    (fun m hm => ((validBatch (S := S) hw hr hfits).chunks m hm).le_prompt) hexec
  have hcollect : collectSequenceIds 0 input.sequenceInfo =
      .ok ((sampledTokens (prefillMetas S prefill) (decodeMetas decode)).map (·.1.seqId)) := collect_sampled (S := S)
  have hnodup := sampled_nodup (S := S) hr
  have hlen : ((sampledTokens (prefillMetas S prefill) (decodeMetas decode)).map (·.1.seqId)).length ≤
      logits.length := by
    rw [List.length_map]
    exact (List.length_map _).symm.le.trans hsampled.length_le
  have hrun' : runner.executeModel s.blockManager.allocator.listener.totalTokensProcessed
      s.blockManager.allocator.listener.pool input = (.ok logits, x) := hrun
  have hcall : executeOn runner argmax input s.blockManager = (.ok ⟨logits.map argmax,
      (sampledTokens (prefillMetas S prefill) (decodeMetas decode)).map (·.1.seqId)⟩,
        s.blockManager.withListener
          ⟨x, s.blockManager.allocator.listener.totalTokensProcessed + input.inputIds.length⟩) := by
    simp only [executeOn, hrun', hcollect, if_pos hlen]
  exact ⟨_, _, pool', hcall, hx, fun t ht => tokenOf_sampled hsampled hnodup ht, hshaped, hafter⟩

end Execute

end MiniVllm
