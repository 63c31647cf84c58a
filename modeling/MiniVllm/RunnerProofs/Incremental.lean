import MiniVllm.Engine.Core
import MiniVllm.Library.Segments
import MiniVllm.RunnerProofs.Layers

/-! Batches of prompt chunks and decode steps compute what one pass over each sequence computes. -/

namespace MiniVllm

open ModelInputBuilder LayerCache QwenModel QwenModelRunner

section Sequences

def computedLength (q : Sequence) : ℕ := q.prefillCursor + (q.outputTokenIds.length - 1)

structure InProgress (q : Sequence) : Prop where
  cursor_le : q.prefillCursor ≤ q.promptTokenIds.length
  completed : q.outputTokenIds ≠ [] → q.prefillCursor = q.promptTokenIds.length
  prefilling : q.status = .prefill → q.outputTokenIds = []

lemma InProgress.computedLength_le {q : Sequence} (h : InProgress q) : computedLength q ≤ q.tokens.length := by
  have hcursor := h.cursor_le
  rw [computedLength, Sequence.tokens, List.length_append]
  omega

def Fresh (q : Sequence) : Prop := q.status = .prefill ∧ q.prefillCursor = 0 ∧ q.outputTokenIds = []

lemma Fresh.inProgress {q : Sequence} (h : Fresh q) : InProgress q where
  cursor_le := by rw [h.2.1]; exact Nat.zero_le _
  completed hne := absurd h.2.2 hne
  prefilling _ := h.2.2

lemma Fresh.computedLength_eq {q : Sequence} (h : Fresh q) : computedLength q = 0 := by
  rw [computedLength, h.2.1, h.2.2]
  rfl

structure NextChunk (m : PrefillMeta) : Prop where
  outputs : m.seq.outputTokenIds = []
  cached : m.cachedLenBefore = m.seq.prefillCursor
  nonempty : 0 < m.queryLen
  le_prompt : m.cachedLenBefore + m.queryLen ≤ m.seq.promptTokenIds.length
  completes : m.prefillCompletes = decide (m.cachedLenBefore + m.queryLen ≥ m.seq.promptTokenIds.length)

structure NextDecode (m : DecodeMeta) : Prop where
  outputs : m.seq.outputTokenIds ≠ []
  cached : m.cachedLenBefore = m.seq.promptTokenIds.length + m.seq.outputTokenIds.length - 1

def finishChunk (token : SeqId → ℕ) (m : PrefillMeta) : Sequence :=
  { (if m.prefillCompletes then EngineCore.appendToken (token m.seq.seqId) m.seq else m.seq) with
    prefillCursor := m.cachedLenBefore + m.queryLen }

def finishDecode (token : SeqId → ℕ) (m : DecodeMeta) : Sequence :=
  EngineCore.appendToken (token m.seq.seqId) m.seq

def afterStep (token : SeqId → ℕ) (prefillMeta : List PrefillMeta) (decodeMeta : List DecodeMeta) (q : Sequence) :
    Sequence :=
  match prefillMeta.find? (·.seq = q) with
  | some m => finishChunk token m
  | none =>
    match decodeMeta.find? (·.seq = q) with
    | some m => finishDecode token m
    | none => q

structure Advanced (q : Sequence) (n : ℕ) (q' : Sequence) : Prop where
  seqId : q'.seqId = q.seqId
  tokens : q.tokens <+: q'.tokens
  computed : computedLength q' = n
  progress : InProgress q'

variable {token : SeqId → ℕ}

lemma NextChunk.computedLength_eq {m : PrefillMeta} (h : NextChunk m) : computedLength m.seq = m.cachedLenBefore := by
  rw [computedLength, h.outputs, h.cached]
  rfl

lemma NextChunk.advanced {m : PrefillMeta} (h : NextChunk m) :
    Advanced m.seq (m.cachedLenBefore + m.queryLen) (finishChunk token m) := by
  have hle := h.le_prompt
  cases hc : m.prefillCompletes with
  | false =>
    have hfinish : finishChunk token m = { m.seq with prefillCursor := m.cachedLenBefore + m.queryLen } := by
      simp [finishChunk, hc]
    rw [hfinish]
    exact ⟨rfl, List.prefix_rfl, by simp [computedLength, h.outputs], hle, fun hne => absurd h.outputs hne,
      fun _ => h.outputs⟩
  | true =>
    have hend : m.cachedLenBefore + m.queryLen = m.seq.promptTokenIds.length :=
      le_antisymm hle (of_decide_eq_true (h.completes.symm.trans hc))
    have hout : (finishChunk token m).outputTokenIds = [token m.seq.seqId] ∧ (finishChunk token m).status ≠ .prefill ∧
        (finishChunk token m).seqId = m.seq.seqId ∧
          (finishChunk token m).promptTokenIds = m.seq.promptTokenIds := by
      simp only [finishChunk, hc, if_true, EngineCore.appendToken]
      split_ifs with hs
      · exact ⟨rfl, by simp, rfl, rfl⟩
      · exact ⟨by simp [h.outputs], hs, rfl, rfl⟩
    obtain ⟨houtputs, hstatus, hid, hprompt⟩ := hout
    refine ⟨hid, ?_, ?_, ?_, ?_, fun hs => absurd hs hstatus⟩
    · rw [Sequence.tokens, Sequence.tokens, h.outputs, hprompt, List.append_nil]
      exact List.prefix_append _ _
    · rw [computedLength, houtputs]
      rfl
    · rw [hprompt]
      exact hle
    · intro _
      rw [hprompt]
      exact hend

lemma NextDecode.computedLength_eq {m : DecodeMeta} (h : NextDecode m) (hq : InProgress m.seq) :
    computedLength m.seq = m.cachedLenBefore := by
  have hpos := List.length_pos_iff.mpr h.outputs
  rw [computedLength, hq.completed h.outputs, h.cached]
  omega

lemma NextDecode.advanced {m : DecodeMeta} (h : NextDecode m) (hq : InProgress m.seq) :
    Advanced m.seq (m.cachedLenBefore + 1) (finishDecode token m) := by
  have hpos := List.length_pos_iff.mpr h.outputs
  have hstatus : m.seq.status ≠ .prefill := fun hs => h.outputs (hq.prefilling hs)
  have hcursor := hq.completed h.outputs
  have hcached := h.cached
  rw [finishDecode, EngineCore.appendToken, if_neg hstatus]
  refine ⟨rfl, ?_, ?_, hcursor.le, fun _ => hcursor, fun hs => absurd hs hstatus⟩
  · rw [Sequence.tokens, Sequence.tokens, ← List.append_assoc]
    exact List.prefix_append _ _
  · simp only [computedLength, List.length_append, List.length_singleton, hcursor]
    omega

end Sequences

section Batch

variable {F H L : Type} {mc : ModelConfig} {M : QwenModel F H L mc} {ε : Type} {config : Config} {numBlocks : ℕ}
  {bm : BlockManager ε} {seqs : List Sequence} {prefillMeta : List PrefillMeta} {decodeMeta : List DecodeMeta}

structure Placed (numBlocks : ℕ) (bm : BlockManager ε) (seqs : List Sequence) : Prop where
  ids : (seqs.map (·.seqId)).Nodup
  nodup : ∀ q ∈ seqs, (bm.getBlockTable q.seqId).Nodup
  disjoint : ∀ q ∈ seqs, ∀ q' ∈ seqs, q.seqId ≠ q'.seqId →
    List.Disjoint (bm.getBlockTable q.seqId) (bm.getBlockTable q'.seqId)
  bounded : ∀ q ∈ seqs, ∀ b ∈ bm.getBlockTable q.seqId, b < numBlocks

structure ValidBatch (mc : ModelConfig) (config : Config) (bm : BlockManager ε) (seqs : List Sequence)
    (prefillMeta : List PrefillMeta) (decodeMeta : List DecodeMeta) : Prop where
  distinct : ((batchSpans prefillMeta decodeMeta).map (·.1.seqId)).Nodup
  live : ∀ span ∈ batchSpans prefillMeta decodeMeta, span.1 ∈ seqs
  chunks : ∀ m ∈ prefillMeta, NextChunk m
  decodes : ∀ m ∈ decodeMeta, NextDecode m
  covered : ∀ span ∈ batchSpans prefillMeta decodeMeta, ∀ r < span.2.2,
    r / config.blockSize < (bm.getBlockTable span.1.seqId).length
  positions : ∀ span ∈ batchSpans prefillMeta decodeMeta, span.2.2 ≤ mc.maxPositionEmbeddings

lemma Placed.seq_eq (h : Placed numBlocks bm seqs) {q q' : Sequence} (hq : q ∈ seqs) (hq' : q' ∈ seqs)
    (he : q.seqId = q'.seqId) : q = q' :=
  List.inj_on_of_nodup_map h.ids hq hq' he

lemma Placed.cell_private (h : Placed numBlocks bm seqs) {q q' : Sequence} (hq : q ∈ seqs) (hq' : q' ∈ seqs)
    {r r' : ℕ} (hc : r / config.blockSize < (bm.getBlockTable q.seqId).length)
    (hc' : r' / config.blockSize < (bm.getBlockTable q'.seqId).length)
    (he : tokenCell config bm q r = tokenCell config bm q' r') : q = q' ∧ r = r' := by
  obtain ⟨hblock, hoffset⟩ := Prod.mk.inj he
  simp only [List.getD_eq_getElem?_getD, List.getElem?_eq_getElem hc, List.getElem?_eq_getElem hc',
    Option.getD_some] at hblock
  have hid : q.seqId = q'.seqId := by
    by_contra hne
    refine h.disjoint q hq q' hq' hne (List.getElem_mem hc) ?_
    rw [hblock]
    exact List.getElem_mem hc'
  obtain rfl := h.seq_eq hq hq' hid
  refine ⟨rfl, ?_⟩
  have hidx := (h.nodup q hq).getElem_inj_iff.mp hblock
  rw [← Nat.div_add_mod r config.blockSize, ← Nat.div_add_mod r' config.blockSize, hidx, hoffset]

lemma Placed.block (h : Placed numBlocks bm seqs) {q : Sequence} (hq : q ∈ seqs) {i : ℕ}
    (hi : i < (bm.getBlockTable q.seqId).length) : ∃ b, (bm.getBlockTable q.seqId)[i]? = some b ∧ b < numBlocks :=
  ⟨_, List.getElem?_eq_getElem hi, h.bounded q hq _ (List.getElem_mem hi)⟩

lemma batchTokens_eq : batchTokens prefillMeta decodeMeta = (batchSpans prefillMeta decodeMeta).flatMap (fun span =>
    (List.range (span.2.2 - span.2.1)).map (fun i => (span.1, span.2.1 + i))) := by
  rw [batchSpans, List.flatMap_append, List.flatMap_map, List.flatMap_map, batchTokens]
  simp [prefillPositions, Function.comp_def, ← List.map_eq_flatMap]

lemma ValidBatch.nodup (h : ValidBatch mc config bm seqs prefillMeta decodeMeta) :
    (batchTokens prefillMeta decodeMeta).Nodup := by
  rw [batchTokens_eq, List.nodup_flatMap]
  refine ⟨fun span _ => ?_, ?_⟩
  · refine List.Nodup.map (fun i j he => ?_) List.nodup_range
    exact Nat.add_left_cancel (Prod.mk.inj he).2
  · refine (List.pairwise_map.mp h.distinct).imp fun hne => ?_
    intro t ht ht'
    obtain ⟨i, -, rfl⟩ := List.mem_map.mp ht
    obtain ⟨j, -, he⟩ := List.mem_map.mp ht'
    exact hne (congrArg Sequence.seqId (Prod.mk.inj he).1).symm

section Cells

variable (hplaced : Placed numBlocks bm seqs) (hbatch : ValidBatch mc config bm seqs prefillMeta decodeMeta)
  (hprogress : ∀ q ∈ seqs, InProgress q)

include hplaced hbatch hprogress

omit hplaced in
lemma ValidBatch.span_start {span : Sequence × ℕ × ℕ} (hs : span ∈ batchSpans prefillMeta decodeMeta) :
    span.2.1 = computedLength span.1 := by
  have hlive := hbatch.live span hs
  rcases List.mem_append.mp hs with hm | hm
  · obtain ⟨m, hmem, rfl⟩ := List.mem_map.mp hm
    exact (hbatch.chunks m hmem).computedLength_eq.symm
  · obtain ⟨m, hmem, rfl⟩ := List.mem_map.mp hm
    exact ((hbatch.decodes m hmem).computedLength_eq (hprogress _ hlive)).symm

lemma ValidBatch.apart {q : Sequence} (hq : q ∈ seqs) {r : ℕ} (hr : r < computedLength q)
    (hc : r / config.blockSize < (bm.getBlockTable q.seqId).length) {t : Sequence × ℕ}
    (ht : t ∈ batchTokens prefillMeta decodeMeta) : tokenCell config bm q r ≠ tokenCell config bm t.1 t.2 := by
  obtain ⟨span, hs, hseq, hle, hlt⟩ := mem_batchTokens.mp ht
  intro he
  obtain ⟨rfl, rfl⟩ := hplaced.cell_private hq (hseq ▸ hbatch.live span hs) hc
    (hseq ▸ hbatch.covered span hs _ hlt) he
  have hstart := hbatch.span_start hprogress hs
  rw [← hseq] at hstart
  omega

lemma ValidBatch.placed (hcovered : ∀ q ∈ seqs, ∀ r < computedLength q,
    r / config.blockSize < (bm.getBlockTable q.seqId).length) :
    BatchPlaced mc config bm numBlocks prefillMeta decodeMeta where
  positions t ht := by
    obtain ⟨span, hs, -, -, hlt⟩ := mem_batchTokens.mp ht
    exact hlt.trans_le (hbatch.positions span hs)
  covered span hs r hr := hplaced.block (hbatch.live span hs) (hbatch.covered span hs r hr)
  distinct := by
    refine List.Nodup.map_on (fun t ht t' ht' he => ?_) hbatch.nodup
    obtain ⟨span, hs, hseq, -, hlt⟩ := mem_batchTokens.mp ht
    obtain ⟨span', hs', hseq', -, hlt'⟩ := mem_batchTokens.mp ht'
    obtain ⟨h₁, h₂⟩ := hplaced.cell_private (hseq ▸ hbatch.live span hs) (hseq' ▸ hbatch.live span' hs')
      (hseq ▸ hbatch.covered span hs _ hlt) (hseq' ▸ hbatch.covered span' hs' _ hlt') he
    exact Prod.ext h₁ h₂
  apart span hs r hr t ht := by
    rw [hbatch.span_start hprogress hs] at hr
    have hlive := hbatch.live span hs
    exact hbatch.apart hplaced hprogress hlive hr (hcovered _ hlive r hr) ht

end Cells

lemma prefillTokens_eq {m : PrefillMeta} (h : m.cachedLenBefore + m.queryLen ≤ m.seq.promptTokenIds.length) :
    prefillTokens m = (prefillPositions m).map (fun p => m.seq.tokens.getD p 0) := by
  have hlen : (prefillTokens m).length = m.queryLen := by
    rw [prefillTokens, List.length_take, List.length_drop]
    omega
  refine List.ext_getElem (by simp [hlen, prefillPositions]) fun i h₁ h₂ => ?_
  have hi : m.cachedLenBefore + i < m.seq.promptTokenIds.length := by omega
  simp [prefillTokens, prefillPositions, Sequence.tokens, List.getD_eq_getElem?_getD, List.getElem?_append_left hi,
    List.getElem?_eq_getElem hi]

lemma lastOutput_eq {m : DecodeMeta} (h : NextDecode m) :
    lastOutput m.seq = m.seq.tokens.getD m.cachedLenBefore 0 := by
  have hpos := List.length_pos_iff.mpr h.outputs
  have hlast : m.cachedLenBefore = m.seq.tokens.length - 1 := by
    rw [h.cached, Sequence.tokens, List.length_append]
  rw [lastOutput, hlast, List.getD_eq_getElem?_getD, ← List.getLast?_eq_getElem?, Sequence.tokens,
    List.getLast?_append_of_ne_nil _ h.outputs]

lemma ValidBatch.embed_eq (hbatch : ValidBatch mc config bm seqs prefillMeta decodeMeta) :
    (assembled config bm prefillMeta decodeMeta).inputIds.map M.embedTokens =
      (batchTokens prefillMeta decodeMeta).map (fun t => M.embedAt t.1.tokens t.2) := by
  have hp : prefillMeta.flatMap prefillTokens = prefillRows (fun q p => q.tokens.getD p 0) prefillMeta :=
    List.flatMap_congr fun m hm => prefillTokens_eq (hbatch.chunks m hm).le_prompt
  have hd : decodeMeta.map (fun m => lastOutput m.seq) = decodeRows (fun q p => q.tokens.getD p 0) decodeMeta :=
    List.map_congr_left fun m hm => lastOutput_eq (hbatch.decodes m hm)
  have hids : (assembled config bm prefillMeta decodeMeta).inputIds =
      (batchTokens prefillMeta decodeMeta).map (fun t => t.1.tokens.getD t.2 0) := by
    rw [batchTokens_map (fun q p => q.tokens.getD p 0), ← hp, ← hd]
    rfl
  rw [hids, List.map_map]
  rfl

def sampledTokens (prefillMeta : List PrefillMeta) (decodeMeta : List DecodeMeta) : List (Sequence × ℕ) :=
  (prefillMeta.filter (·.prefillCompletes)).map (fun m => (m.seq, m.cachedLenBefore + m.queryLen - 1)) ++
    decodeMeta.map (fun m => (m.seq, m.cachedLenBefore))

lemma sampledIds_assembled : sampledIds (assembled config bm prefillMeta decodeMeta).sequenceInfo =
    (sampledTokens prefillMeta decodeMeta).map (·.1.seqId) := by
  rw [show (assembled config bm prefillMeta decodeMeta).sequenceInfo = sequenceInfos prefillMeta decodeMeta from rfl,
    sequenceInfos, sampledIds_append, sampledIds_prefillInfos, sampledIds_decodeInfos, sampledTokens, List.map_append,
    List.map_map, List.map_map]
  rfl

lemma ValidBatch.sampled (hbatch : ValidBatch mc config bm seqs prefillMeta decodeMeta) {t : Sequence × ℕ}
    (ht : t ∈ sampledTokens prefillMeta decodeMeta) : t.1 ∈ seqs ∧ t.2 + 1 = t.1.tokens.length := by
  rcases List.mem_append.mp ht with hm | hm
  · obtain ⟨m, hfilter, rfl⟩ := List.mem_map.mp hm
    obtain ⟨hmem, hc⟩ := List.mem_filter.mp hfilter
    have hchunk := hbatch.chunks m hmem
    have hge := of_decide_eq_true (hchunk.completes.symm.trans hc)
    have hle := hchunk.le_prompt
    have hpos := hchunk.nonempty
    refine ⟨hbatch.live _ (List.mem_append_left _ (List.mem_map_of_mem hmem)), ?_⟩
    simp only [Sequence.tokens, hchunk.outputs, List.append_nil]
    omega
  · obtain ⟨m, hmem, rfl⟩ := List.mem_map.mp hm
    have hdecode := hbatch.decodes m hmem
    have hpos := List.length_pos_iff.mpr hdecode.outputs
    have hcached := hdecode.cached
    refine ⟨hbatch.live _ (List.mem_append_right _ (List.mem_map_of_mem hmem)), ?_⟩
    simp only [Sequence.tokens, List.length_append]
    omega

section Gather

variable {rows : List L} {f : Sequence → ℕ → L}

lemma gatherLogits_append {is js : List ℤ} {xs ys : List L} (hi : gatherLogits rows is = .ok xs)
    (hj : gatherLogits rows js = .ok ys) : gatherLogits rows (is ++ js) = .ok (xs ++ ys) := by
  induction is generalizing xs with
  | nil =>
    cases hi
    exact hj
  | cons i is ih =>
    simp only [gatherLogits] at hi
    cases hrow : pyIndex rows i with
    | error err => simp [hrow] at hi
    | ok row =>
      cases hrest : gatherLogits rows is with
      | error err => simp [hrow, hrest] at hi
      | ok xs' =>
        simp only [hrow, hrest] at hi
        cases hi
        simp only [List.cons_append, gatherLogits, hrow, ih hrest]

lemma gatherLogits_prefill (metas : List PrefillMeta) (hpos : ∀ m ∈ metas, 0 < m.queryLen) (offset : ℕ)
    (tail : List L) (h : rows.drop offset = prefillRows f metas ++ tail) :
    gatherLogits rows (prefillSampleIndices offset metas) =
      .ok ((metas.filter (·.prefillCompletes)).map (fun m => f m.seq (m.cachedLenBefore + m.queryLen - 1))) := by
  induction metas generalizing offset with
  | nil => rfl
  | cons m metas ih =>
    rw [prefillRows_cons, List.append_assoc] at h
    have hlen : ((prefillPositions m).map (f m.seq)).length = m.queryLen := by simp [prefillPositions]
    have hm := hpos m List.mem_cons_self
    have hrest := ih (fun m' hm' => hpos m' (List.mem_cons_of_mem m hm')) (offset + m.queryLen) (by
      rw [← List.drop_drop, h, List.drop_left' hlen])
    have hrow : rows[offset + (m.queryLen - 1)]? = some (f m.seq (m.cachedLenBefore + m.queryLen - 1)) := by
      have hlt : m.queryLen - 1 < ((prefillPositions m).map (f m.seq)).length := by omega
      rw [← List.getElem?_drop, h, List.getElem?_append_left hlt, List.getElem?_eq_getElem hlt]
      simp only [prefillPositions, List.getElem_map, List.getElem_range]
      rw [Nat.add_sub_assoc hm]
    have hidx : ((offset + m.queryLen : ℤ) - 1) = ((offset + (m.queryLen - 1) : ℕ) : ℤ) := by omega
    rw [prefillSampleIndices]
    cases hc : m.prefillCompletes with
    | false =>
      rw [List.filter_cons_of_neg (by simp [hc])]
      exact hrest
    | true =>
      rw [List.filter_cons_of_pos hc, List.map_cons]
      have hfirst : gatherLogits rows [(offset + m.queryLen : ℤ) - 1] =
          .ok [f m.seq (m.cachedLenBefore + m.queryLen - 1)] := by
        simp only [hidx, gatherLogits, pyIndex_natCast hrow]
      exact gatherLogits_append hfirst hrest

lemma gatherLogits_decode (metas : List DecodeMeta) (offset : ℕ) (h : rows.drop offset = decodeRows f metas) :
    gatherLogits rows ((List.range metas.length).map (fun i => ((offset + i : ℕ) : ℤ))) =
      .ok (decodeRows f metas) := by
  have hrange : (List.range metas.length).map (fun i => ((offset + i : ℕ) : ℤ)) =
      (List.range' offset metas.length).map (fun i : ℕ => (i : ℤ)) := by
    rw [List.range'_eq_map_range, List.map_map]
    rfl
  rw [hrange]
  clear hrange
  induction metas generalizing offset with
  | nil => rfl
  | cons m metas ih =>
    have hrow : rows[offset]? = some (f m.seq m.cachedLenBefore) := Segments.getElem?_of_drop h
    have hrest := ih (offset + 1) (Segments.drop_succ_of_drop h)
    rw [List.length_cons, List.range'_succ, List.map_cons]
    simp only [gatherLogits, pyIndex_natCast hrow, hrest]
    rfl

end Gather

end Batch

section Runs

variable {F H L : Type} {mc : ModelConfig} [Field F] (M : QwenModel F H L mc) {ε : Type} {config : Config}
  {numBlocks : ℕ}

section Streams

variable {M} {pool : KVCachePool F mc} {cell : ℕ × ℕ} {r : ℕ}

lemma Represented.congr {layers : List (QwenDecoderLayer F H mc)} {x y : ℕ → H} (hxy : ∀ p ≤ r, x p = y p)
    (h : Represented M layers pool x cell r) : Represented M layers pool y cell r := by
  induction layers generalizing pool x y with
  | nil => trivial
  | cons layer layers ih =>
    cases pool with
    | nil => exact h
    | cons cache pool =>
      obtain ⟨⟨hk, hv⟩, hrest⟩ := h
      refine ⟨⟨hk.trans (keyAt_congr (hxy r le_rfl)), hv.trans (valueAt_congr (hxy r le_rfl))⟩, ?_⟩
      exact ih (fun p hp => layerAt_congr fun p' hp' => hxy p' (hp'.trans hp)) hrest

omit [Field F] in
lemma embedAt_of_isPrefix {tokens tokens' : List ℕ} (h : tokens <+: tokens') {p : ℕ} (hp : p < tokens.length) :
    M.embedAt tokens p = M.embedAt tokens' p := by
  obtain ⟨more, rfl⟩ := h
  rw [embedAt, embedAt, List.getD_eq_getElem?_getD, List.getD_eq_getElem?_getD, List.getElem?_append_left hp]

end Streams

structure Cached (config : Config) (numBlocks : ℕ) (seqs : List Sequence) (bm : BlockManager ε)
    (pool : KVCachePool F mc) : Prop where
  placed : Placed numBlocks bm seqs
  shaped : PoolShaped config numBlocks M.layers pool
  progress : ∀ q ∈ seqs, InProgress q
  covered : ∀ q ∈ seqs, ∀ r < computedLength q, r / config.blockSize < (bm.getBlockTable q.seqId).length
  rows : ∀ q ∈ seqs, ∀ r < computedLength q,
    Represented M M.layers pool (M.embedAt q.tokens) (tokenCell config bm q r) r

/-- The states between two batches. Sequences may come and go and their tables may grow; a sequence that stays keeps
the blocks it has. The batches and the sampled tokens are arbitrary. -/
inductive Served (config : Config) (numBlocks : ℕ) : List Sequence → BlockManager ε → KVCachePool F mc → Prop
  | start {bm : BlockManager ε} {pool : KVCachePool F mc} (hshape : PoolShaped config numBlocks M.layers pool) :
    Served config numBlocks [] bm pool
  | regroup {seqs seqs' : List Sequence} {bm bm' : BlockManager ε} {pool : KVCachePool F mc}
    (hserved : Served config numBlocks seqs bm pool) (hplaced : Placed numBlocks bm' seqs')
    (hkept : ∀ q ∈ seqs', Fresh q ∨ q ∈ seqs ∧ bm.getBlockTable q.seqId <+: bm'.getBlockTable q.seqId) :
    Served config numBlocks seqs' bm' pool
  | batch {seqs : List Sequence} {bm : BlockManager ε} {pool pool' : KVCachePool F mc} {prefillMeta : List PrefillMeta}
    {decodeMeta : List DecodeMeta} {input : ModelInput} {logits : List L} (token : SeqId → ℕ)
    (hserved : Served config numBlocks seqs bm pool) (hbatch : ValidBatch mc config bm seqs prefillMeta decodeMeta)
    (hinput : assemble config bm prefillMeta decodeMeta = .ok input)
    (hlogits : executeModel M pool input = (.ok logits, pool')) :
    Served config numBlocks (seqs.map (afterStep token prefillMeta decodeMeta)) bm pool'

variable {M}

lemma Cached.regroup {seqs seqs' : List Sequence} {bm bm' : BlockManager ε} {pool : KVCachePool F mc}
    (h : Cached M config numBlocks seqs bm pool) (hplaced : Placed numBlocks bm' seqs')
    (hkept : ∀ q ∈ seqs', Fresh q ∨ q ∈ seqs ∧ bm.getBlockTable q.seqId <+: bm'.getBlockTable q.seqId) :
    Cached M config numBlocks seqs' bm' pool where
  placed := hplaced
  shaped := h.shaped
  progress q hq := (hkept q hq).elim Fresh.inProgress fun hold => h.progress q hold.1
  covered q hq r hr := by
    rcases hkept q hq with hfresh | ⟨hold, htable⟩
    · rw [hfresh.computedLength_eq] at hr
      exact absurd hr (Nat.not_lt_zero r)
    · exact (h.covered q hold r hr).trans_le htable.length_le
  rows q hq r hr := by
    rcases hkept q hq with hfresh | ⟨hold, more, htable⟩
    · rw [hfresh.computedLength_eq] at hr
      exact absurd hr (Nat.not_lt_zero r)
    · have hcell : tokenCell config bm' q r = tokenCell config bm q r := by
        rw [tokenCell, tokenCell, tableCell, tableCell, ← htable, List.getD_eq_getElem?_getD,
          List.getD_eq_getElem?_getD, List.getElem?_append_left (h.covered q hold r hr)]
      rw [hcell]
      exact h.rows q hold r hr

section Step

variable {seqs : List Sequence} {bm : BlockManager ε} {pool : KVCachePool F mc} {prefillMeta : List PrefillMeta}
  {decodeMeta : List DecodeMeta} (h : Cached M config numBlocks seqs bm pool)
  (hbatch : ValidBatch mc config bm seqs prefillMeta decodeMeta)

include h hbatch

lemma Cached.run : ∃ pool', runLayers M (assembled config bm prefillMeta decodeMeta) M.layers pool
      ((assembled config bm prefillMeta decodeMeta).inputIds.map M.embedTokens) =
        (.ok ((batchTokens prefillMeta decodeMeta).map (fun t =>
          M.layersAt M.layers (M.embedAt t.1.tokens) t.2)), pool') ∧
    PoolShaped config numBlocks M.layers pool' ∧
    (∀ t ∈ batchTokens prefillMeta decodeMeta,
      Represented M M.layers pool' (M.embedAt t.1.tokens) (tokenCell config bm t.1 t.2) t.2) ∧
    ∀ q ∈ seqs, ∀ r < computedLength q,
      Represented M M.layers pool' (M.embedAt q.tokens) (tokenCell config bm q r) r := by
  obtain ⟨pool', hrun, hshaped, hnew, hold⟩ := runLayers_eq (hbatch.placed h.placed h.progress h.covered) M.layers pool
    h.shaped (fun q => M.embedAt q.tokens) (fun span hs r hr => by
      rw [hbatch.span_start h.progress hs] at hr
      exact h.rows _ (hbatch.live span hs) r hr)
  rw [← hbatch.embed_eq] at hrun
  refine ⟨pool', hrun, hshaped, hnew, fun q hq r hr => ?_⟩
  exact hold _ _ _ (fun t ht => hbatch.apart h.placed h.progress hq hr (h.covered q hq r hr) ht) (h.rows q hq r hr)

omit h in
lemma ValidBatch.assemble_ok : assemble config bm prefillMeta decodeMeta =
    .ok (assembled config bm prefillMeta decodeMeta) := by
  refine assemble_eq config bm prefillMeta decodeMeta (fun m hm position hp => ?_) (fun m hm => ?_)
    fun m hm => (hbatch.decodes m hm).outputs
  · obtain ⟨i, hi, rfl⟩ := List.mem_map.mp hp
    exact hbatch.covered _ (List.mem_append_left _ (List.mem_map_of_mem hm)) _
      (Nat.add_lt_add_left (List.mem_range.mp hi) _)
  · exact hbatch.covered _ (List.mem_append_right _ (List.mem_map_of_mem hm)) _ (Nat.lt_succ_self _)

lemma Cached.execute : ∃ logits pool', executeModel M pool (assembled config bm prefillMeta decodeMeta) =
      (.ok logits, pool') ∧
    (∀ (i : ℕ) (t : Sequence × ℕ), (sampledTokens prefillMeta decodeMeta)[i]? = some t →
      logits[i]? = some (M.logitsAt t.1.tokens t.2)) ∧
    PoolShaped config numBlocks M.layers pool' ∧
    (∀ t ∈ batchTokens prefillMeta decodeMeta,
      Represented M M.layers pool' (M.embedAt t.1.tokens) (tokenCell config bm t.1 t.2) t.2) ∧
    ∀ q ∈ seqs, ∀ r < computedLength q,
      Represented M M.layers pool' (M.embedAt q.tokens) (tokenCell config bm q r) r := by
  obtain ⟨pool', hrun, hstate⟩ := h.run hbatch
  set rows := (batchTokens prefillMeta decodeMeta).map (fun t => M.logitsAt t.1.tokens t.2) with hrows
  have hsplit : rows = prefillRows (fun q => M.logitsAt q.tokens) prefillMeta ++
      decodeRows (fun q => M.logitsAt q.tokens) decodeMeta := batchTokens_map (fun q => M.logitsAt q.tokens)
  have hgather : gatherLogits rows (assembled config bm prefillMeta decodeMeta).sampleTokenIndices =
      .ok ((sampledTokens prefillMeta decodeMeta).map (fun t => M.logitsAt t.1.tokens t.2)) := by
    have hp := gatherLogits_prefill prefillMeta (fun m hm => (hbatch.chunks m hm).nonempty) 0 _ hsplit
    have hd := gatherLogits_decode decodeMeta (prefillMeta.map (·.queryLen)).sum
      ((congrArg _ hsplit).trans (List.drop_left' (prefillRows_length _ prefillMeta)))
    rw [sampledTokens, List.map_append, List.map_map, List.map_map]
    exact gatherLogits_append hp hd
  have hmodel : executeModel M pool (assembled config bm prefillMeta decodeMeta) =
      if (assembled config bm prefillMeta decodeMeta).sampleTokenIndices.length > 0 then
        (gatherLogits rows (assembled config bm prefillMeta decodeMeta).sampleTokenIndices, pool')
      else (.ok rows, pool') := by
    simp only [executeModel, hrun, List.map_map]
    rfl
  by_cases hn : (assembled config bm prefillMeta decodeMeta).sampleTokenIndices.length > 0
  · rw [if_pos hn, hgather] at hmodel
    refine ⟨_, pool', hmodel, fun i t ht => ?_, hstate⟩
    rw [List.getElem?_map, ht]
    rfl
  · rw [if_neg hn] at hmodel
    refine ⟨rows, pool', hmodel, fun i t ht => ?_, hstate⟩
    rw [List.eq_nil_of_length_eq_zero (Nat.eq_zero_of_not_pos hn)] at hgather
    have hnil := List.map_eq_nil_iff.mp (Except.ok.inj hgather).symm
    rw [hnil] at ht
    cases ht

lemma Cached.afterStep_advanced (token : SeqId → ℕ) {q : Sequence} (hq : q ∈ seqs) :
    ∃ n, Advanced q n (afterStep token prefillMeta decodeMeta q) ∧ n ≤ q.tokens.length ∧
      ∀ r < n, r / config.blockSize < (bm.getBlockTable q.seqId).length ∧
        (r < computedLength q ∨ (q, r) ∈ batchTokens prefillMeta decodeMeta) := by
  have hspan : ∀ span ∈ batchSpans prefillMeta decodeMeta, span.1 = q → ∀ r < span.2.2,
      r / config.blockSize < (bm.getBlockTable q.seqId).length ∧
        (r < computedLength q ∨ (q, r) ∈ batchTokens prefillMeta decodeMeta) := by
    rintro span hs rfl r hr
    refine ⟨hbatch.covered span hs r hr, ?_⟩
    rw [← hbatch.span_start h.progress hs]
    exact (Nat.lt_or_ge r span.2.1).imp_right fun hge => mem_batchTokens.mpr ⟨span, hs, rfl, hge, hr⟩
  rw [afterStep]
  cases hp : prefillMeta.find? (·.seq = q) with
  | some m =>
    have hm := List.mem_of_find?_eq_some hp
    obtain rfl : m.seq = q := by simpa using List.find?_some hp
    have hchunk := hbatch.chunks m hm
    refine ⟨_, hchunk.advanced, ?_, hspan _ (List.mem_append_left _ (List.mem_map_of_mem hm)) rfl⟩
    rw [Sequence.tokens, List.length_append]
    exact hchunk.le_prompt.trans (Nat.le_add_right _ _)
  | none =>
    cases hd : decodeMeta.find? (·.seq = q) with
    | some m =>
      have hm := List.mem_of_find?_eq_some hd
      obtain rfl : m.seq = q := by simpa using List.find?_some hd
      have hdecode := hbatch.decodes m hm
      have hpos := List.length_pos_iff.mpr hdecode.outputs
      refine ⟨_, hdecode.advanced (h.progress _ hq), ?_, hspan _ (List.mem_append_right _ (List.mem_map_of_mem hm)) rfl⟩
      rw [Sequence.tokens, List.length_append, hdecode.cached]
      omega
    | none =>
      exact ⟨_, ⟨rfl, List.prefix_rfl, rfl, h.progress q hq⟩, (h.progress q hq).computedLength_le,
        fun r hr => ⟨h.covered q hq r hr, Or.inl hr⟩⟩

lemma Cached.batch (token : SeqId → ℕ) {input : ModelInput} {logits : List L} {pool' : KVCachePool F mc}
    (hinput : assemble config bm prefillMeta decodeMeta = .ok input)
    (hlogits : executeModel M pool input = (.ok logits, pool')) :
    Cached M config numBlocks (seqs.map (afterStep token prefillMeta decodeMeta)) bm pool' := by
  obtain rfl := Except.ok.inj (hbatch.assemble_ok.symm.trans hinput)
  obtain ⟨logits', pool'', hexec, -, hshaped, hnew, hold⟩ := h.execute hbatch
  obtain rfl := (Prod.mk.inj (hexec.symm.trans hlogits)).2
  have hadv := fun q (hq : q ∈ seqs) => h.afterStep_advanced hbatch token hq
  have hid : ∀ q ∈ seqs, (afterStep token prefillMeta decodeMeta q).seqId = q.seqId := fun q hq => by
    obtain ⟨n, hn, -⟩ := hadv q hq
    exact hn.seqId
  refine ⟨⟨?_, ?_, ?_, ?_⟩, hshaped, ?_, ?_, ?_⟩
  · rw [List.map_map, List.map_congr_left (g := fun q => q.seqId) hid]
    exact h.placed.ids
  · intro q' hq'
    obtain ⟨q, hq, rfl⟩ := List.mem_map.mp hq'
    rw [hid q hq]
    exact h.placed.nodup q hq
  · intro q' hq' u' hu' hne
    obtain ⟨q, hq, rfl⟩ := List.mem_map.mp hq'
    obtain ⟨u, hu, rfl⟩ := List.mem_map.mp hu'
    rw [hid q hq, hid u hu] at hne ⊢
    exact h.placed.disjoint q hq u hu hne
  · intro q' hq'
    obtain ⟨q, hq, rfl⟩ := List.mem_map.mp hq'
    rw [hid q hq]
    exact h.placed.bounded q hq
  · intro q' hq'
    obtain ⟨q, hq, rfl⟩ := List.mem_map.mp hq'
    obtain ⟨n, hn, -⟩ := hadv q hq
    exact hn.progress
  · intro q' hq' r hr
    obtain ⟨q, hq, rfl⟩ := List.mem_map.mp hq'
    obtain ⟨n, hn, -, hcells⟩ := hadv q hq
    rw [hn.computed] at hr
    rw [hid q hq]
    exact (hcells r hr).1
  · intro q' hq' r hr
    obtain ⟨q, hq, rfl⟩ := List.mem_map.mp hq'
    obtain ⟨n, hn, hle, hcells⟩ := hadv q hq
    rw [hn.computed] at hr
    have hcell : tokenCell config bm (afterStep token prefillMeta decodeMeta q) r = tokenCell config bm q r := by
      rw [tokenCell, hid q hq, tokenCell]
    rw [hcell]
    refine Represented.congr (fun p hp => embedAt_of_isPrefix hn.tokens (by omega)) ?_
    rcases (hcells r hr).2 with hr | hr
    · exact hold q hq r hr
    · exact hnew _ hr

end Step

lemma Served.cached {seqs : List Sequence} {bm : BlockManager ε} {pool : KVCachePool F mc}
    (h : Served M config numBlocks seqs bm pool) : Cached M config numBlocks seqs bm pool := by
  induction h with
  | start hshape =>
    exact ⟨⟨List.nodup_nil, by simp, by simp, by simp⟩, hshape, by simp, by simp, by simp⟩
  | regroup _ hplaced hkept ih => exact ih.regroup hplaced hkept
  | batch token _ hbatch hinput hlogits ih => exact ih.batch hbatch token hinput hlogits

theorem logits_eq_causalForward {seqs : List Sequence} {bm : BlockManager ε} {pool : KVCachePool F mc}
    (hserved : Served M config numBlocks seqs bm pool) {prefillMeta : List PrefillMeta} {decodeMeta : List DecodeMeta}
    (hbatch : ValidBatch mc config bm seqs prefillMeta decodeMeta) :
    ∃ input logits pool', assemble config bm prefillMeta decodeMeta = .ok input ∧
      (∀ prefill decode, collectPrefillMetadata config prefill = prefillMeta →
        collectDecodeMetadata decode = .ok decodeMeta → build config bm prefill decode = .ok input) ∧
      executeModel M pool input = (.ok logits, pool') ∧
      ∀ (i : ℕ), ∀ q ∈ seqs, (sampledIds input.sequenceInfo)[i]? = some q.seqId →
        ∃ row, logits[i]? = some row ∧ (M.causalForward q.tokens).getLast? = some row := by
  have hcached := hserved.cached
  obtain ⟨logits, pool', hexec, hrows, -⟩ := hcached.execute hbatch
  refine ⟨_, logits, pool', hbatch.assemble_ok, ?_, hexec, fun i q hq hi => ?_⟩
  · rintro prefill decode rfl hdecode
    simp only [build, hdecode, hbatch.assemble_ok]
  · rw [sampledIds_assembled, List.getElem?_map] at hi
    obtain ⟨t, ht, hid⟩ := Option.map_eq_some_iff.mp hi
    obtain ⟨hlive, hlen⟩ := hbatch.sampled (List.mem_of_getElem? ht)
    obtain rfl := hcached.placed.seq_eq hlive hq hid
    refine ⟨_, hrows i t ht, ?_⟩
    rw [causalForward_eq, ← hlen, List.range_succ, List.map_append, List.map_singleton, List.getLast?_concat]

end Runs

section Example

def sumConfig : ModelConfig where
  numHeads := 2
  numKvHeads := 1
  headDim := 1
  maxPositionEmbeddings := 8
  numKvHeads_dvd := by decide

def sumLayer : QwenDecoderLayer ℚ ℚ sumConfig where
  inputLayernorm h := h
  qkvProj h := (fun _ _ => h, fun _ _ => h, fun _ _ => h)
  oProj row := row ⟨0, by decide⟩ ⟨0, by decide⟩ + row ⟨1, by decide⟩ ⟨0, by decide⟩
  postAttention out residual := out + residual

def sumModel : QwenModel ℚ ℚ ℚ sumConfig where
  embedTokens token := token
  layers := [sumLayer, sumLayer]
  rope position row := fun i => row i + position
  norm h := h
  lmHead h := h
  exp x := 1 + x ^ 2
  scale := 1

def sumBlocks : BlockManager Unit where
  allocator := .initial 3 ()
  tables := (Dict.empty.set ⟨0, 0⟩ ⟨[⟨2, false⟩]⟩).set ⟨1, 0⟩ ⟨[⟨0, false⟩, ⟨1, false⟩]⟩

def emptyPool : KVCachePool ℚ sumConfig :=
  List.replicate 2 { numBlocks := 3, blockSize := 4, key := fun _ _ _ => 0, value := fun _ _ _ => 0 }

def shortPrompt : Sequence :=
  { seqId := ⟨0, 0⟩, groupId := 0, promptTokenIds := [7, 3], samplingParams := {}, status := .prefill }

def longPrompt : Sequence :=
  { seqId := ⟨1, 0⟩, groupId := 1, promptTokenIds := [1, 5, 2, 6, 4], samplingParams := {}, status := .prefill }

def firstChunks : List PrefillMeta :=
  [{ seq := shortPrompt, cachedLenBefore := 0, queryLen := 2, prefillCompletes := true },
    { seq := longPrompt, cachedLenBefore := 0, queryLen := 3, prefillCompletes := false }]

lemma served_first : Served sumModel .default 3 [shortPrompt, longPrompt] sumBlocks emptyPool := by
  have hstart : Served sumModel .default 3 [] sumBlocks emptyPool := by
    refine .start ⟨rfl, fun cache hc => ?_⟩
    obtain rfl := List.eq_of_mem_replicate hc
    exact ⟨rfl, rfl⟩
  refine .regroup hstart ⟨by decide, by decide, ?_, by decide⟩ ?_
  · simp only [List.disjoint_left]
    decide
  · simp only [List.mem_cons, List.not_mem_nil, or_false]
    rintro q (rfl | rfl)
    · exact Or.inl ⟨rfl, rfl, rfl⟩
    · exact Or.inl ⟨rfl, rfl, rfl⟩

lemma valid_first : ValidBatch sumConfig .default sumBlocks [shortPrompt, longPrompt] firstChunks [] where
  distinct := by decide
  live := by decide
  chunks := by
    simp only [firstChunks, List.mem_cons, List.not_mem_nil, or_false]
    rintro m (rfl | rfl)
    · exact ⟨rfl, rfl, by decide, by decide, rfl⟩
    · exact ⟨rfl, rfl, by decide, by decide, rfl⟩
  decodes := by simp
  covered := by decide
  positions := by decide

def shortDecoding : Sequence := afterStep (fun _ => 9) firstChunks [] shortPrompt

def longContinuing : Sequence := afterStep (fun _ => 9) firstChunks [] longPrompt

lemma served_second : ∃ pool, Served sumModel .default 3 [shortDecoding, longContinuing] sumBlocks pool := by
  obtain ⟨logits, pool, hexec, -⟩ := served_first.cached.execute valid_first
  exact ⟨pool, .batch (fun _ => 9) served_first valid_first valid_first.assemble_ok hexec⟩

theorem logits_eq_causalForward_of_mixed_batch : ∃ pool,
    Served sumModel .default 3 [shortDecoding, longContinuing] sumBlocks pool ∧
    ∃ input logits pool', assemble .default sumBlocks
        [{ seq := longContinuing, cachedLenBefore := 3, queryLen := 2, prefillCompletes := true }]
        [{ seq := shortDecoding, cachedLenBefore := 2 }] = .ok input ∧
      executeModel sumModel pool input = (.ok logits, pool') ∧
      ∀ (i : ℕ), ∀ q ∈ [shortDecoding, longContinuing], (sampledIds input.sequenceInfo)[i]? = some q.seqId →
        ∃ row, logits[i]? = some row ∧ (sumModel.causalForward q.tokens).getLast? = some row := by
  obtain ⟨pool, hserved⟩ := served_second
  have hbatch : ValidBatch sumConfig .default sumBlocks [shortDecoding, longContinuing]
      [{ seq := longContinuing, cachedLenBefore := 3, queryLen := 2, prefillCompletes := true }]
      [{ seq := shortDecoding, cachedLenBefore := 2 }] :=
    { distinct := by decide
      live := by decide
      chunks := by
        rintro m hm
        obtain rfl := List.mem_singleton.mp hm
        exact ⟨rfl, rfl, by decide, by decide, rfl⟩
      decodes := by
        rintro m hm
        obtain rfl := List.mem_singleton.mp hm
        exact ⟨by decide, rfl⟩
      covered := by decide
      positions := by decide }
  obtain ⟨input, logits, pool', hinput, -, hexec, hrows⟩ := logits_eq_causalForward hserved hbatch
  exact ⟨pool, hserved, input, logits, pool', hinput, hexec, hrows⟩

end Example

end MiniVllm
