import MiniVllm.RunnerProofs.Attention

/-! One layer, and all layers, on an assembled batch: every token gets the hidden state of its own sequence. -/

namespace MiniVllm

open ModelInputBuilder LayerCache AttentionBackendRef QwenModel QwenModelRunner

section Groups

variable (prefillMeta : List PrefillMeta) (decodeMeta : List DecodeMeta)

lemma prefillItems_buildGroups : prefillItems (buildGroups prefillMeta decodeMeta) =
    prefillMeta.zipIdx.map (fun (m, i) => (i, m.cachedLenBefore, m.queryLen)) := by
  have hdecode : prefillItems (if decodeMeta.length > 0 then
      [{ seqIndices := (List.range decodeMeta.length).map (prefillMeta.length + ·)
         attentionType := .decodeGpu
         cachedLenBefore := decodeMeta.map (·.cachedLenBefore)
         queryLen := decodeMeta.map (fun _ => 1)
         kvLenAfter := decodeMeta.map (·.cachedLenBefore + 1) }] else []) = [] := by
    split_ifs <;> rfl
  have hzip : (List.range prefillMeta.length).zip ((prefillMeta.map (·.cachedLenBefore)).zip
      (prefillMeta.map (·.queryLen))) = prefillMeta.zipIdx.map (fun (m, i) => (i, m.cachedLenBefore, m.queryLen)) := by
    refine List.ext_getElem (by simp) fun i h₁ h₂ => ?_
    simp
  simp only [prefillItems] at hdecode ⊢
  rw [buildGroups, List.filter_append, List.flatMap_append, hdecode, List.append_nil, ← hzip]
  cases prefillMeta with
  | nil => rfl
  | cons m metas => simp

def decodeGroup (seqIndices : List ℕ) (decodeMeta : List DecodeMeta) : AttentionGroup where
  seqIndices := seqIndices
  attentionType := .decodeGpu
  cachedLenBefore := decodeMeta.map (·.cachedLenBefore)
  queryLen := decodeMeta.map (fun _ => 1)
  kvLenAfter := decodeMeta.map (·.cachedLenBefore + 1)

lemma find?_buildGroups {decodeMeta : List DecodeMeta} (h : 0 < decodeMeta.length) :
    (buildGroups prefillMeta decodeMeta).find? (·.attentionType = .decodeGpu) =
      some (decodeGroup ((List.range decodeMeta.length).map (prefillMeta.length + ·)) decodeMeta) := by
  have hprefill : (if prefillMeta.length > 0 then
      [{ seqIndices := List.range prefillMeta.length
         attentionType := AttentionType.prefillGpu
         cachedLenBefore := prefillMeta.map (·.cachedLenBefore)
         queryLen := prefillMeta.map (·.queryLen)
         kvLenAfter := prefillMeta.map (fun m => m.cachedLenBefore + m.queryLen) : AttentionGroup }] else []).find?
        (·.attentionType = .decodeGpu) = none := by
    split_ifs <;> rfl
  rw [buildGroups, List.find?_append, hprefill, if_pos h, Option.none_or]
  rfl

end Groups

section Layers

variable {F H L : Type} {mc : ModelConfig} [Field F] {M : QwenModel F H L mc} {layer : QwenDecoderLayer F H mc}
  {cache : LayerCache (KvRow F mc) (KvRow F mc)} {ε : Type} {bm : BlockManager ε} {config : Config}
  {prefillMeta : List PrefillMeta} {decodeMeta : List DecodeMeta}

def batchTokens (prefillMeta : List PrefillMeta) (decodeMeta : List DecodeMeta) : List (Sequence × ℕ) :=
  prefillMeta.flatMap (fun m => (prefillPositions m).map (m.seq, ·)) ++
    decodeMeta.map (fun m => (m.seq, m.cachedLenBefore))

lemma batchTokens_map {α : Type} (f : Sequence → ℕ → α) : (batchTokens prefillMeta decodeMeta).map (fun t => f t.1 t.2) =
    prefillRows f prefillMeta ++ decodeRows f decodeMeta := by
  rw [batchTokens, List.map_append, List.map_flatMap, List.map_map]
  simp only [List.map_map]
  rfl

lemma assembled_slotMapping : (assembled config bm prefillMeta decodeMeta).slotMapping =
    (batchTokens prefillMeta decodeMeta).map (fun t => (slotOf config bm t.1.seqId t.2 : ℤ)) :=
  (batchTokens_map (fun q p => (slotOf config bm q.seqId p : ℤ))).symm

lemma assembled_positions : (assembled config bm prefillMeta decodeMeta).positions =
    (batchTokens prefillMeta decodeMeta).map (·.2) := by
  rw [batchTokens_map (fun _ p => p)]
  simp only [prefillRows, decodeRows, List.map_id']
  rfl

structure BatchFilled (M : QwenModel F H L mc) (layer : QwenDecoderLayer F H mc)
    (cache : LayerCache (KvRow F mc) (KvRow F mc)) (bm : BlockManager ε) (prefillMeta : List PrefillMeta)
    (decodeMeta : List DecodeMeta) (x : Sequence → ℕ → H) : Prop where
  prefill : ∀ m ∈ prefillMeta,
    Filled M layer cache (x m.seq) (bm.getBlockTable m.seq.seqId) (m.cachedLenBefore + m.queryLen)
  decode : ∀ m ∈ decodeMeta, Filled M layer cache (x m.seq) (bm.getBlockTable m.seq.seqId) (m.cachedLenBefore + 1)

section Attend

variable (config) {x : Sequence → ℕ → H} (hpos : 0 < cache.blockSize)
  (hfill : BatchFilled M layer cache bm prefillMeta decodeMeta x)

include hpos hfill

lemma attendPrefill_eq :
    attendPrefill M cache (assembled config bm prefillMeta decodeMeta).attnMetadata
        (prefillRows (fun q => M.queryAt layer (x q)) prefillMeta ++
          decodeRows (fun q => M.queryAt layer (x q)) decodeMeta) =
      .ok (prefillRows (fun q => M.attendAt layer (x q)) prefillMeta ++
        decodeRows (fun _ _ => (fun _ _ => 0 : QueryRow F mc)) decodeMeta) := by
  set A := (assembled config bm prefillMeta decodeMeta).attnMetadata with hA
  have hslots : A.prefillSlotMapping.length = (prefillMeta.map (·.queryLen)).sum :=
    prefillSlots_length config bm prefillMeta
  have hitems : prefillItems A.groups = prefillMeta.zipIdx.map (fun (m, i) => (i, m.cachedLenBefore, m.queryLen)) :=
    prefillItems_buildGroups prefillMeta decodeMeta
  set maxBlocks := computeMaxBlocks bm (prefillMeta.map (·.seq)) (decodeMeta.map (·.seq)) with hmaxBlocks
  have htables : ∀ i m, prefillMeta[i]? = some m →
      A.prefillBlockTables[0 + i]? = some (blockTableRow bm maxBlocks m.seq) := by
    intro i m hm
    simp [hA, assembled, buildBlockTableTensor, hm, hmaxBlocks]
  have hloop := prefillLoop_eq hpos prefillMeta hfill.prefill
    (fun m hm => length_le_computeMaxBlocks (List.mem_append_left _ (List.mem_map_of_mem hm))) 0 0 htables
    List.drop_zero
  have hlen := prefillRows_length (fun q => M.queryAt layer (x q)) prefillMeta
  have hzeros : ((prefillRows (fun q => M.queryAt layer (x q)) prefillMeta ++
      decodeRows (fun q => M.queryAt layer (x q)) decodeMeta).map
        (fun _ => (fun _ _ => 0 : QueryRow F mc))).drop (prefillMeta.map (·.queryLen)).sum =
      decodeRows (fun _ _ => (fun _ _ => 0 : QueryRow F mc)) decodeMeta := by
    rw [List.map_append, List.drop_left' (by rw [List.length_map, hlen]), decodeRows, List.map_map]
    rfl
  by_cases hn : (prefillMeta.map (·.queryLen)).sum > 0
  · have hquery : (prefillRows (fun q => M.queryAt layer (x q)) prefillMeta).isEmpty = false := by
      rw [List.isEmpty_eq_false_iff, ← List.length_pos_iff, hlen]
      exact hn
    have hmetas : (prefillMeta.zipIdx.map (fun (m, i) => (i, m.cachedLenBefore, m.queryLen))).isEmpty = false := by
      rw [List.isEmpty_eq_false_iff, ← List.length_pos_iff, List.length_map, List.length_zipIdx]
      refine List.length_pos_iff.mpr fun hnil => ?_
      simp [hnil] at hn
    simp only [attendPrefill, hslots, if_pos hn, List.take_left' hlen, prefillAttention, hitems, hquery, hmetas,
      Bool.or_self, Bool.false_eq_true, if_false, hloop, hzeros]
  · have hnil : ∀ {α : Type} (f : Sequence → ℕ → α), prefillRows f prefillMeta = [] := by
      intro α f
      refine List.eq_nil_of_length_eq_zero ?_
      rw [prefillRows_length]
      omega
    simp only [attendPrefill, hslots, if_neg hn, hnil, List.nil_append, decodeRows, List.map_map]
    rfl

lemma attendDecode_eq (rest : List (QueryRow F mc)) (hrest : decodeMeta = [] → rest = []) :
    attendDecode M cache (assembled config bm prefillMeta decodeMeta).attnMetadata
        (prefillRows (fun q => M.queryAt layer (x q)) prefillMeta ++
          decodeRows (fun q => M.queryAt layer (x q)) decodeMeta)
        (prefillRows (fun q => M.attendAt layer (x q)) prefillMeta ++ rest) =
      .ok (prefillRows (fun q => M.attendAt layer (x q)) prefillMeta ++
        decodeRows (fun q => M.attendAt layer (x q)) decodeMeta) := by
  set A := (assembled config bm prefillMeta decodeMeta).attnMetadata with hA
  have hslots : A.prefillSlotMapping.length = (prefillMeta.map (·.queryLen)).sum :=
    prefillSlots_length config bm prefillMeta
  have hslots' : A.decodeSlotMapping.length = decodeMeta.length := List.length_map _
  by_cases hn : decodeMeta.length > 0
  · have hgroup := find?_buildGroups prefillMeta hn
    set maxBlocks := computeMaxBlocks bm (prefillMeta.map (·.seq)) (decodeMeta.map (·.seq)) with hmaxBlocks
    set group := decodeGroup (List.range ((List.range decodeMeta.length).map (prefillMeta.length + ·)).length)
      decodeMeta with hgroupEq
    have hidx : ∀ i m, decodeMeta[i]? = some m → group.seqIndices[0 + i]? = some (0 + i) ∧
        group.cachedLenBefore[0 + i]? = some m.cachedLenBefore ∧
          A.decodeBlockTables[0 + i]? = some (blockTableRow bm maxBlocks m.seq) := by
      intro i m hm
      have hlt := (List.getElem?_eq_some_iff.mp hm).1
      rw [Nat.zero_add, hgroupEq, decodeGroup]
      exact ⟨by simp [hlt], by simp [hm], by simp [hA, assembled, buildBlockTableTensor, hm, hmaxBlocks]⟩
    have hloop := decodeLoop_eq hpos decodeMeta hfill.decode
      (fun m hm => length_le_computeMaxBlocks (List.mem_append_right _ (List.mem_map_of_mem hm))) 0 hidx
    have hfind : [group].find? (·.attentionType = .decodeGpu) = some group := rfl
    have hmeta : buildDecodeMeta A = some
        { groups := [group]
          decodeBlockTables := A.decodeBlockTables
          decodeSlotMapping := A.decodeSlotMapping
          decodePositions := A.decodePositions
          blockSize := A.blockSize } := by
      rw [buildDecodeMeta, show A.groups = buildGroups prefillMeta decodeMeta from rfl, hgroup]
      rfl
    simp only [attendDecode, hslots, hslots', if_pos hn, hmeta,
      List.drop_left' (prefillRows_length (fun q => M.queryAt layer (x q)) prefillMeta),
      List.take_left' (prefillRows_length (fun q => M.attendAt layer (x q)) prefillMeta), decodeAttention,
      hfind, hloop]
  · have hnil : decodeMeta = [] := List.eq_nil_of_length_eq_zero (by omega)
    subst hnil
    rw [hrest rfl, attendDecode, hslots', if_neg hn]
    rfl

end Attend

def layerWrites (M : QwenModel F H L mc) (layer : QwenDecoderLayer F H mc) (config : Config) (bm : BlockManager ε)
    (x : Sequence → ℕ → H) (tokens : List (Sequence × ℕ)) : List (ℕ × KvRow F mc × KvRow F mc) :=
  tokens.map (fun t => (slotOf config bm t.1.seqId t.2, M.keyAt layer (x t.1) t.2, valueAt layer (x t.1) t.2))

omit [Field F] in
lemma applyRope_eq {n : ℕ} (rows : Sequence × ℕ → Fin n → Vec F mc.headDim) {tokens : List (Sequence × ℕ)}
    (h : ∀ t ∈ tokens, t.2 < mc.maxPositionEmbeddings) :
    M.applyRope (tokens.map rows) (tokens.map (·.2)) = .ok (tokens.map (fun t h => M.rope t.2 (rows t h))) := by
  have hall : (tokens.map (·.2)).all (· < mc.maxPositionEmbeddings) = true := by
    rw [List.all_map, List.all_eq_true]
    exact fun t ht => decide_eq_true (h t ht)
  rw [applyRope, if_pos hall, List.zipWith_map, List.zipWith_self]

theorem executeLayer_eq {x : Sequence → ℕ → H} (hbs : cache.blockSize = config.blockSize)
    (hmax : ∀ t ∈ batchTokens prefillMeta decodeMeta, t.2 < mc.maxPositionEmbeddings)
    (hslots : ∀ t ∈ batchTokens prefillMeta decodeMeta,
      slotOf config bm t.1.seqId t.2 < cache.numBlocks * config.blockSize)
    (hfill : BatchFilled M layer (writeAll config.blockSize cache
      (layerWrites M layer config bm x (batchTokens prefillMeta decodeMeta))) bm prefillMeta decodeMeta x) :
    executeLayer M (assembled config bm prefillMeta decodeMeta) layer cache
        ((batchTokens prefillMeta decodeMeta).map (fun t => x t.1 t.2)) =
      (.ok ((batchTokens prefillMeta decodeMeta).map (fun t => M.layerAt layer (x t.1) t.2)),
        writeAll config.blockSize cache
          (layerWrites M layer config bm x (batchTokens prefillMeta decodeMeta))) := by
  set tokens := batchTokens prefillMeta decodeMeta with htokens
  set cache' := writeAll config.blockSize cache (layerWrites M layer config bm x tokens) with hcache'
  have hq : M.applyRope (tokens.map (fun t => (layer.qkvProj (layer.inputLayernorm (x t.1 t.2))).1))
      (tokens.map (·.2)) = .ok (tokens.map (fun t => M.queryAt layer (x t.1) t.2)) := applyRope_eq _ hmax
  have hk : M.applyRope (tokens.map (fun t => (layer.qkvProj (layer.inputLayernorm (x t.1 t.2))).2.1))
      (tokens.map (·.2)) = .ok (tokens.map (fun t => M.keyAt layer (x t.1) t.2)) := applyRope_eq _ hmax
  have hwrite : cache.writeToPagedCache (tokens.map (fun t => M.keyAt layer (x t.1) t.2))
      (tokens.map (fun t => (layer.qkvProj (layer.inputLayernorm (x t.1 t.2))).2.2))
      (tokens.map (fun t => (slotOf config bm t.1.seqId t.2 : ℤ))) config.blockSize = (.ok (), cache') := by
    have hok := writeToPagedCache_ok config.blockSize_pos hbs (layerWrites M layer config bm x tokens)
      (fun w hw => by
        obtain ⟨t, ht, rfl⟩ := List.mem_map.mp hw
        exact hslots t ht)
    simp only [layerWrites, List.map_map, Function.comp_def] at hok
    exact hok
  have hpos : 0 < cache'.blockSize := by
    rw [hcache', writeAll, hbs]
    exact config.blockSize_pos
  have hprefill := attendPrefill_eq config hpos hfill
  have hdecode := attendDecode_eq config hpos hfill (decodeRows (fun _ _ => (fun _ _ => 0)) decodeMeta)
    (fun h => by rw [h]; rfl)
  rw [← batchTokens_map (fun q => M.queryAt layer (x q)), ← htokens] at hprefill hdecode
  rw [← batchTokens_map (fun q => M.attendAt layer (x q)), ← htokens] at hdecode
  simp only [executeLayer, assembled_positions, assembled_slotMapping, ← htokens, List.map_map, Function.comp_def, hq,
    hk, hbs, hwrite, hprefill, hdecode, List.zipWith_map, List.zipWith_self]
  rfl

def batchSpans (prefillMeta : List PrefillMeta) (decodeMeta : List DecodeMeta) : List (Sequence × ℕ × ℕ) :=
  prefillMeta.map (fun m => (m.seq, m.cachedLenBefore, m.cachedLenBefore + m.queryLen)) ++
    decodeMeta.map (fun m => (m.seq, m.cachedLenBefore, m.cachedLenBefore + 1))

lemma mem_batchTokens {t : Sequence × ℕ} : t ∈ batchTokens prefillMeta decodeMeta ↔
    ∃ span ∈ batchSpans prefillMeta decodeMeta, t.1 = span.1 ∧ span.2.1 ≤ t.2 ∧ t.2 < span.2.2 := by
  simp only [batchTokens, batchSpans, List.mem_append, List.mem_flatMap, List.mem_map, prefillPositions]
  constructor
  · rintro (⟨m, hm, p, ⟨i, hi, rfl⟩, rfl⟩ | ⟨m, hm, rfl⟩)
    · have hlt := List.mem_range.mp hi
      exact ⟨_, Or.inl ⟨m, hm, rfl⟩, rfl, Nat.le_add_right _ _, Nat.add_lt_add_left hlt _⟩
    · exact ⟨_, Or.inr ⟨m, hm, rfl⟩, rfl, le_rfl, Nat.lt_succ_self _⟩
  · rintro ⟨span, ⟨m, hm, rfl⟩ | ⟨m, hm, rfl⟩, hq, hle, hlt⟩
    · simp only at hle hlt
      exact Or.inl ⟨m, hm, t.2, ⟨t.2 - m.cachedLenBefore, List.mem_range.mpr (by omega), by omega⟩,
        Prod.ext hq.symm rfl⟩
    · simp only at hle hlt
      refine Or.inr ⟨m, hm, Prod.ext hq.symm ?_⟩
      simp only
      omega

def tokenCell (config : Config) (bm : BlockManager ε) (q : Sequence) (position : ℕ) : ℕ × ℕ :=
  tableCell config.blockSize (bm.getBlockTable q.seqId) position

/-- The tables of a batch cover its positions in the pool, and its tokens go to cells that nothing else occupies. -/
structure BatchPlaced (mc : ModelConfig) (config : Config) (bm : BlockManager ε) (numBlocks : ℕ)
    (prefillMeta : List PrefillMeta) (decodeMeta : List DecodeMeta) : Prop where
  positions : ∀ t ∈ batchTokens prefillMeta decodeMeta, t.2 < mc.maxPositionEmbeddings
  covered : ∀ span ∈ batchSpans prefillMeta decodeMeta, ∀ r < span.2.2,
    ∃ b, (bm.getBlockTable span.1.seqId)[r / config.blockSize]? = some b ∧ b < numBlocks
  distinct : ((batchTokens prefillMeta decodeMeta).map (fun t => tokenCell config bm t.1 t.2)).Nodup
  apart : ∀ span ∈ batchSpans prefillMeta decodeMeta, ∀ r < span.2.1, ∀ t ∈ batchTokens prefillMeta decodeMeta,
    tokenCell config bm span.1 r ≠ tokenCell config bm t.1 t.2

omit [Field F] in
lemma layerWrites_cells (tokens : List (Sequence × ℕ)) (x : Sequence → ℕ → H) :
    (layerWrites M layer config bm x tokens).map (fun w => cellOf config.blockSize w.1) =
      tokens.map (fun t => tokenCell config bm t.1 t.2) := by
  rw [layerWrites, List.map_map]
  exact List.map_congr_left fun t _ => cellOf_slotOf config bm t.1.seqId t.2

section Placed

variable {numBlocks : ℕ} (hplaced : BatchPlaced mc config bm numBlocks prefillMeta decodeMeta)
  {x : Sequence → ℕ → H}

include hplaced

omit [Field F] in
lemma BatchPlaced.holds_new {t : Sequence × ℕ} (ht : t ∈ batchTokens prefillMeta decodeMeta) :
    HoldsRow M layer (writeAll config.blockSize cache
      (layerWrites M layer config bm x (batchTokens prefillMeta decodeMeta))) (x t.1)
        (tokenCell config bm t.1 t.2) t.2 := by
  have hn : ((layerWrites M layer config bm x (batchTokens prefillMeta decodeMeta)).map
      (fun w => cellOf config.blockSize w.1)).Nodup := by
    rw [layerWrites_cells]
    exact hplaced.distinct
  have hcell := writeAll_of_mem cache hn (List.mem_map_of_mem ht)
  rw [cellOf_slotOf] at hcell
  exact hcell

omit [Field F] hplaced in
lemma holds_old {y : ℕ → H} {cell : ℕ × ℕ} {r : ℕ} {tokens : List (Sequence × ℕ)}
    (hne : ∀ t ∈ tokens, cell ≠ tokenCell config bm t.1 t.2) {layer' : QwenDecoderLayer F H mc}
    (h : HoldsRow M layer cache y cell r) :
    HoldsRow M layer (writeAll config.blockSize cache (layerWrites M layer' config bm x tokens)) y cell r := by
  have hnot : cell ∉ (layerWrites M layer' config bm x tokens).map (fun w => cellOf config.blockSize w.1) := by
    rw [layerWrites_cells]
    intro hm
    obtain ⟨t, ht, he⟩ := List.mem_map.mp hm
    exact hne t ht he.symm
  obtain ⟨hk, hv⟩ := writeAll_of_notMem cache hnot
  exact ⟨hk.trans h.1, hv.trans h.2⟩

omit [Field F] in
lemma BatchPlaced.filled (hbs : cache.blockSize = config.blockSize) (hnum : cache.numBlocks = numBlocks)
    (hcached : ∀ span ∈ batchSpans prefillMeta decodeMeta, ∀ r < span.2.1,
      HoldsRow M layer cache (x span.1) (tokenCell config bm span.1 r) r) :
    BatchFilled M layer (writeAll config.blockSize cache
      (layerWrites M layer config bm x (batchTokens prefillMeta decodeMeta))) bm prefillMeta decodeMeta x := by
  have hspan : ∀ span ∈ batchSpans prefillMeta decodeMeta, Filled M layer (writeAll config.blockSize cache
      (layerWrites M layer config bm x (batchTokens prefillMeta decodeMeta))) (x span.1)
        (bm.getBlockTable span.1.seqId) span.2.2 := by
    intro span hs r hr
    simp only [writeAll, hbs, hnum]
    refine ⟨hplaced.covered span hs r hr, ?_⟩
    rcases Nat.lt_or_ge r span.2.1 with hold | hnew
    · exact holds_old (hplaced.apart span hs r hold) (hcached span hs r hold)
    · exact hplaced.holds_new (t := (span.1, r)) (mem_batchTokens.mpr ⟨span, hs, rfl, hnew, hr⟩)
  exact ⟨fun m hm => hspan _ (List.mem_append_left _ (List.mem_map_of_mem hm)),
    fun m hm => hspan _ (List.mem_append_right _ (List.mem_map_of_mem hm))⟩

end Placed

def Represented (M : QwenModel F H L mc) :
    List (QwenDecoderLayer F H mc) → KVCachePool F mc → (ℕ → H) → ℕ × ℕ → ℕ → Prop
  | [], _, _, _, _ => True
  | _ :: _, [], _, _, _ => False
  | layer :: layers, cache :: pool, x, cell, r =>
    HoldsRow M layer cache x cell r ∧ Represented M layers pool (M.layerAt layer x) cell r

def PoolShaped (config : Config) (numBlocks : ℕ) (layers : List (QwenDecoderLayer F H mc)) (pool : KVCachePool F mc) :
    Prop :=
  pool.length = layers.length ∧ ∀ cache ∈ pool, cache.numBlocks = numBlocks ∧ cache.blockSize = config.blockSize

theorem runLayers_eq {numBlocks : ℕ} (hplaced : BatchPlaced mc config bm numBlocks prefillMeta decodeMeta)
    (layers : List (QwenDecoderLayer F H mc)) (pool : KVCachePool F mc) (hshape : PoolShaped config numBlocks layers pool)
    (x : Sequence → ℕ → H)
    (hcached : ∀ span ∈ batchSpans prefillMeta decodeMeta, ∀ r < span.2.1,
      Represented M layers pool (x span.1) (tokenCell config bm span.1 r) r) :
    ∃ pool', runLayers M (assembled config bm prefillMeta decodeMeta) layers pool
        ((batchTokens prefillMeta decodeMeta).map (fun t => x t.1 t.2)) =
          (.ok ((batchTokens prefillMeta decodeMeta).map (fun t => M.layersAt layers (x t.1) t.2)), pool') ∧
      PoolShaped config numBlocks layers pool' ∧
      (∀ t ∈ batchTokens prefillMeta decodeMeta,
        Represented M layers pool' (x t.1) (tokenCell config bm t.1 t.2) t.2) ∧
      ∀ (y : ℕ → H) (cell : ℕ × ℕ) (r : ℕ),
        (∀ t ∈ batchTokens prefillMeta decodeMeta, cell ≠ tokenCell config bm t.1 t.2) →
          Represented M layers pool y cell r → Represented M layers pool' y cell r := by
  induction layers generalizing pool x with
  | nil => exact ⟨pool, rfl, hshape, fun _ _ => trivial, fun _ _ _ _ h => h⟩
  | cons layer layers ih =>
    cases pool with
    | nil => cases hshape.1
    | cons cache pool =>
      obtain ⟨hnum, hbs⟩ := hshape.2 cache List.mem_cons_self
      have hshape' : PoolShaped config numBlocks layers pool :=
        ⟨Nat.succ.inj hshape.1, fun c hc => hshape.2 c (List.mem_cons_of_mem _ hc)⟩
      have hslots : ∀ t ∈ batchTokens prefillMeta decodeMeta,
          slotOf config bm t.1.seqId t.2 < cache.numBlocks * config.blockSize := by
        intro t ht
        obtain ⟨span, hs, hq, -, hlt⟩ := mem_batchTokens.mp ht
        obtain ⟨b, hb, hbn⟩ := hplaced.covered span hs t.2 hlt
        rw [hnum, hq]
        exact slotOf_lt config bm hb hbn
      have hlayer := executeLayer_eq hbs hplaced.positions hslots
        (hplaced.filled hbs hnum fun span hs r hr => (hcached span hs r hr).1)
      obtain ⟨pool', hrun, hshaped, hnew, hold⟩ := ih pool hshape' (fun q => M.layerAt layer (x q))
        (fun span hs r hr => (hcached span hs r hr).2)
      refine ⟨writeAll config.blockSize cache
        (layerWrites M layer config bm x (batchTokens prefillMeta decodeMeta)) :: pool', ?_,
        ⟨congrArg Nat.succ hshaped.1, ?_⟩, fun t ht => ⟨?_, hnew t ht⟩,
        fun y cell r hne h => ⟨?_, hold _ cell r hne h.2⟩⟩
      · simp only [runLayers, hlayer, hrun]
        rfl
      · intro c hc
        rcases List.mem_cons.mp hc with rfl | hc
        · exact ⟨hnum, hbs⟩
        · exact hshaped.2 c hc
      · exact hplaced.holds_new ht
      · exact holds_old hne h.1

end Layers

end MiniVllm
