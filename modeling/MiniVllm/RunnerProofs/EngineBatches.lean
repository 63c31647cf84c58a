import MiniVllm.EngineProofs.Ages
import MiniVllm.Executor.Sampling
import MiniVllm.RunnerProofs.Incremental
import MiniVllm.SharingProofs.ReadOnly

/-! The batches of the engine are batches that the model runner computes without error. -/

namespace MiniVllm

open EngineCore LayerCache ModelInputBuilder QwenModel QwenModelRunner

/-- The positions that a request can come to, all in the model's table of positions. -/
structure FitsModel (mc : ModelConfig) (prompt : List ℕ) (params : SamplingParams) : Prop where
  nonempty : prompt ≠ []
  prompt_le : prompt.length ≤ mc.maxPositionEmbeddings
  output_le : prompt.length + params.maxTokens ≤ mc.maxPositionEmbeddings + 1

instance (mc : ModelConfig) (prompt : List ℕ) (params : SamplingParams) : Decidable (FitsModel mc prompt params) :=
  decidable_of_iff (prompt ≠ [] ∧ prompt.length ≤ mc.maxPositionEmbeddings ∧
      (prompt.length : ℤ) + params.maxTokens ≤ mc.maxPositionEmbeddings + 1)
    ⟨fun h => ⟨h.1, h.2.1, h.2.2⟩, fun h => ⟨h.nonempty, h.prompt_le, h.output_le⟩⟩

section Batch

variable {ε : Type} {S : Setup ε} {s : CoreState ε} {prefill decode : List Sequence} {mc : ModelConfig}

def prefillMetas (S : Setup ε) (prefill : List Sequence) : List PrefillMeta := collectPrefillMetadata S.config prefill

def decodeMetas (decode : List Sequence) : List DecodeMeta := decode.map decodeMetaOf

lemma batchTokens_eq_calls :
    batchTokens (prefillMetas S prefill) (decodeMetas decode) = ensureCalls S.config prefill decode := by
  rw [batchTokens, prefillMetas, collectPrefillMetadata, decodeMetas, List.flatMap_map, List.map_map, ensureCalls]
  congr 1
  refine List.flatMap_congr fun q _ => ?_
  rw [prefillPositions_eq]
  rfl

variable (hw : WellFormed S s) (hr : BatchReady S.config s.queue s.blockManager prefill decode)

include hw hr

lemma span_cases {span : Sequence × ℕ × ℕ} (hs : span ∈ batchSpans (prefillMetas S prefill) (decodeMetas decode)) :
    span.1 ∈ prefill ∧ span.2 = (span.1.prefillCursor, chunkEnd S.config span.1) ∨
      span.1 ∈ decode ∧ span.2 = (decodePosition span.1, decodePosition span.1 + 1) := by
  rcases List.mem_append.mp hs with hm | hm
  · obtain ⟨m, hmem, rfl⟩ := List.mem_map.mp hm
    obtain ⟨q, hq, rfl⟩ := List.mem_map.mp hmem
    exact Or.inl ⟨hq, Prod.ext rfl (collectPrefill_end S.config (hr.cursor_le hw.queue hq))⟩
  · obtain ⟨m, hmem, rfl⟩ := List.mem_map.mp hm
    obtain ⟨q, hq, rfl⟩ := List.mem_map.mp hmem
    exact Or.inr ⟨hq, rfl⟩

lemma span_live {span : Sequence × ℕ × ℕ} (hs : span ∈ batchSpans (prefillMetas S prefill) (decodeMetas decode)) :
    s.queue.runningSeq span.1.seqId.request = some span.1 ∧ span.2.1 = span.1.kvLen := by
  rcases span_cases hw hr hs with ⟨hq, he⟩ | ⟨hq, he⟩
  · obtain ⟨hlive, hst⟩ := hr.prefill_live _ hq
    exact ⟨hlive, by rw [he, LivePhase.kvLen_prefill hst]⟩
  · obtain ⟨hlive, hst, -⟩ := hr.decode_live _ hq
    exact ⟨hlive, by rw [he, LivePhase.kvLen_running hst]⟩

lemma span_covered {span : Sequence × ℕ × ℕ} (hs : span ∈ batchSpans (prefillMetas S prefill) (decodeMetas decode))
    {r : ℕ} (hlt : r < span.2.2) : r / S.config.blockSize < (s.blockManager.getBlockTable span.1.seqId).length := by
  obtain ⟨hlive, hstart⟩ := span_live hw hr hs
  rcases Nat.lt_or_ge r span.2.1 with hold | hnew
  · exact hw.covered_lt hlive (hstart ▸ hold)
  · rcases span_cases hw hr hs with ⟨hq, he⟩ | ⟨hq, he⟩
    · rw [he] at hnew hlt
      exact hr.prefill_covered _ hq r hnew hlt
    · rw [he] at hnew hlt
      obtain rfl : r = decodePosition span.1 := by omega
      exact hr.decode_covered _ hq

lemma span_positions (hfits : ∀ q ∈ prefill ++ decode, FitsModel mc q.promptTokenIds q.samplingParams)
    {span : Sequence × ℕ × ℕ} (hs : span ∈ batchSpans (prefillMetas S prefill) (decodeMetas decode)) :
    span.2.2 ≤ mc.maxPositionEmbeddings := by
  rcases span_cases hw hr hs with ⟨hq, he⟩ | ⟨hq, he⟩
  · rw [he]
    exact (chunkEnd_le S.config).trans (hfits _ (List.mem_append_left _ hq)).prompt_le
  · obtain ⟨-, -, hlt⟩ := hr.decode_live _ hq
    have hle := (hfits _ (List.mem_append_right _ hq)).output_le
    have hpos := List.length_pos_iff.mpr (hfits _ (List.mem_append_right _ hq)).nonempty
    rw [he]
    simp only [decodePosition]
    omega

lemma validBatch (hfits : ∀ q ∈ prefill ++ decode, FitsModel mc q.promptTokenIds q.samplingParams) :
    ValidBatch mc S.config s.blockManager (prefill ++ decode) (prefillMetas S prefill) (decodeMetas decode) where
  distinct := by
    have hids : (batchSpans (prefillMetas S prefill) (decodeMetas decode)).map (·.1.seqId) =
        (prefill ++ decode).map (·.seqId) := by
      rw [batchSpans, prefillMetas, collectPrefillMetadata, decodeMetas, List.map_append, List.map_append, List.map_map,
        List.map_map, List.map_map, List.map_map]
      rfl
    rw [hids]
    exact hr.nodup
  live span hs := by
    rcases span_cases hw hr hs with ⟨hq, -⟩ | ⟨hq, -⟩
    · exact List.mem_append_left _ hq
    · exact List.mem_append_right _ hq
  chunks m hm := by
    obtain ⟨q, hq, rfl⟩ := List.mem_map.mp hm
    obtain ⟨hlive, hst⟩ := hr.prefill_live q hq
    have hpos := List.length_pos_iff.mpr (hfits q (List.mem_append_left _ hq)).nonempty
    have hchunk := S.config.maxPrefillChunkSize_pos
    rcases hw.queue.runningSeq_phase hlive with ⟨-, hout, -, hcursor⟩ | ⟨hrun, -⟩
    · refine ⟨hout, rfl, ?_, ?_, rfl⟩
      · simp only [collectPrefill]
        omega
      · rw [collectPrefill_end S.config (hr.cursor_le hw.queue hq)]
        exact chunkEnd_le S.config
    · cases hst.symm.trans hrun
  decodes m hm := by
    obtain ⟨q, hq, rfl⟩ := List.mem_map.mp hm
    obtain ⟨hlive, hst, -⟩ := hr.decode_live q hq
    obtain ⟨-, hone, hlen⟩ := (hw.queue.runningSeq_phase hlive).decode hst
    refine ⟨List.ne_nil_of_length_pos (hlen ▸ hone), ?_⟩
    simp only [decodeMetaOf, decodePosition, hlen]
  covered _ hs _ hlt := span_covered hw hr hs hlt
  positions _ hs := span_positions hw hr hfits hs

section Cells

variable (hpairs : Pairs (Settled S.config) s)

include hpairs

omit hw in
lemma call_cell_owned {call : Sequence × ℕ} (hm : call ∈ ensureCalls S.config prefill decode) {q : Sequence}
    (hq : s.queue.runningSeq q.seqId.request = some q) {r : ℕ}
    (hc : r / S.config.blockSize < (s.blockManager.getBlockTable q.seqId).length)
    (he : tokenCell S.config s.blockManager q r = tokenCell S.config s.blockManager call.1 call.2) :
    call.1.seqId = q.seqId ∧ call.2 = r := by
  obtain ⟨hblock, hoff⟩ := Prod.mk.inj he
  exact written_slot_private hpairs hr hm hq hc
    ((slotOf_eq_iff S.config s.blockManager _ _ _ _).mpr ⟨hblock.symm, hoff.symm⟩)

lemma live_apart {q : Sequence} (hq : s.queue.runningSeq q.seqId.request = some q) {r : ℕ} (hlt : r < q.kvLen)
    {t : Sequence × ℕ} (ht : t ∈ batchTokens (prefillMetas S prefill) (decodeMetas decode)) :
    tokenCell S.config s.blockManager q r ≠ tokenCell S.config s.blockManager t.1 t.2 := by
  rw [batchTokens_eq_calls] at ht
  intro he
  obtain ⟨hid, hpos⟩ := call_cell_owned hr hpairs ht hq (hw.covered_lt hq hlt) he
  obtain ⟨hlive, hle, -⟩ := hr.call ht
  obtain hsame := hw.queue.runningSeq_ext hlive hq hid
  rw [hsame] at hle
  omega

lemma batchPlaced (hfits : ∀ q ∈ prefill ++ decode, FitsModel mc q.promptTokenIds q.samplingParams) :
    BatchPlaced mc S.config s.blockManager S.config.numGpuBlocks (prefillMetas S prefill) (decodeMetas decode) where
  positions t ht := by
    obtain ⟨span, hs, -, -, hlt⟩ := mem_batchTokens.mp ht
    exact hlt.trans_le (span_positions hw hr hfits hs)
  covered span hs r hlt := by
    have hcov := span_covered hw hr hs hlt
    have hbound := hw.balanced.lt_numBlocks (List.getElem_mem hcov)
    rw [hw.numBlocks] at hbound
    exact ⟨_, List.getElem?_eq_getElem hcov, hbound⟩
  distinct := by
    rw [batchTokens_eq_calls]
    refine List.Nodup.map_on (fun call hm call' hm' he => ?_) (List.Nodup.of_map _ hr.nodup_calls)
    obtain ⟨hlive, -, -⟩ := hr.call hm
    obtain ⟨hlive', -, hcov'⟩ := hr.call hm'
    obtain ⟨hid, hpos⟩ := call_cell_owned hr hpairs hm hlive' hcov' he.symm
    exact Prod.ext (hw.queue.runningSeq_ext hlive hlive' hid) hpos
  apart span hs r hlt t ht := by
    obtain ⟨hlive, hstart⟩ := span_live hw hr hs
    exact live_apart hw hr hpairs hlive (hstart ▸ hlt) ht

end Cells

end Batch

section Execute

variable {F H L : Type} {mc : ModelConfig} [Field F] {M : QwenModel F H L mc} {ε : Type} {config : Config}
  {numBlocks : ℕ} {bm : BlockManager ε} {seqs : List Sequence} {prefillMeta : List PrefillMeta}
  {decodeMeta : List DecodeMeta}

lemma ValidBatch.sampleRows_eq (hbatch : ValidBatch mc config bm seqs prefillMeta decodeMeta) (f : Sequence → ℕ → L) :
    ∃ rows, sampleRows (assembled config bm prefillMeta decodeMeta)
        ((batchTokens prefillMeta decodeMeta).map (fun t => f t.1 t.2)) = .ok rows ∧
      (sampledTokens prefillMeta decodeMeta).map (fun t => f t.1 t.2) <+: rows := by
  have hsplit := @batchTokens_map prefillMeta decodeMeta _ f
  have hp := gatherLogits_prefill prefillMeta (fun m hm => (hbatch.chunks m hm).nonempty) 0 _ hsplit
  have hd := gatherLogits_decode decodeMeta (prefillMeta.map (·.queryLen)).sum
    ((congrArg _ hsplit).trans (List.drop_left' (prefillRows_length _ prefillMeta)))
  have hgather : gatherLogits ((batchTokens prefillMeta decodeMeta).map (fun t => f t.1 t.2))
      (assembled config bm prefillMeta decodeMeta).sampleTokenIndices =
        .ok ((sampledTokens prefillMeta decodeMeta).map (fun t => f t.1 t.2)) := by
    rw [sampledTokens, List.map_append, List.map_map, List.map_map]
    exact gatherLogits_append hp hd
  rw [sampleRows]
  split_ifs with hn
  · exact ⟨_, hgather, List.prefix_rfl⟩
  · refine ⟨_, rfl, ?_⟩
    rw [List.eq_nil_of_length_eq_zero (Nat.eq_zero_of_not_pos hn)] at hgather
    rw [← Except.ok.inj hgather]
    exact List.nil_prefix

structure Extends (M : QwenModel F H L mc) (config : Config) (bm : BlockManager ε) (tokens : List (Sequence × ℕ))
    (pool pool' : KVCachePool F mc) : Prop where
  new : ∀ t ∈ tokens, Represented M M.layers pool' (M.embedAt t.1.tokens) (tokenCell config bm t.1 t.2) t.2
  old : ∀ (x : ℕ → H) (cell : ℕ × ℕ) (r : ℕ), (∀ t ∈ tokens, cell ≠ tokenCell config bm t.1 t.2) →
    Represented M M.layers pool x cell r → Represented M M.layers pool' x cell r

lemma ValidBatch.executes (hbatch : ValidBatch mc config bm seqs prefillMeta decodeMeta)
    (hplaced : BatchPlaced mc config bm numBlocks prefillMeta decodeMeta) {pool : KVCachePool F mc}
    (hshape : PoolShaped config numBlocks M.layers pool)
    (hcached : ∀ span ∈ batchSpans prefillMeta decodeMeta, ∀ r < span.2.1,
      Represented M M.layers pool (M.embedAt span.1.tokens) (tokenCell config bm span.1 r) r) :
    ∃ logits pool', executeModel M pool (assembled config bm prefillMeta decodeMeta) = (.ok logits, pool') ∧
      (sampledTokens prefillMeta decodeMeta).map (fun t => M.logitsAt t.1.tokens t.2) <+: logits ∧
      PoolShaped config numBlocks M.layers pool' ∧
      Extends M config bm (batchTokens prefillMeta decodeMeta) pool pool' := by
  obtain ⟨pool', hrun, hshaped, hnew, hold⟩ := runLayers_eq hplaced M.layers pool hshape
    (fun q => M.embedAt q.tokens) hcached
  rw [← hbatch.embed_eq] at hrun
  obtain ⟨rows, hrows, hsampled⟩ := hbatch.sampleRows_eq (fun q => M.logitsAt q.tokens)
  refine ⟨rows, pool', ?_, hsampled, hshaped, hnew, hold⟩
  rw [executeModel_eq M hrun, List.map_map]
  exact congrArg (·, pool') hrows

end Execute

end MiniVllm
