import MiniVllm.AttentionProofs.DecodeAttention
import MiniVllm.AttentionProofs.PrefixGather
import MiniVllm.ModelRunner.QwenRunnerGpu
import MiniVllm.RunnerProofs.Incremental

/-! The runner computes on the Triton backend what it computes on the reference backend. -/

namespace MiniVllm

open ModelInputBuilder LayerCache AttentionBackendRef QwenModelRunner PagedAttentionGpu Flat

structure LayerLaunch.Complete {F : Type} (launch : LayerLaunch F) (mc : ModelConfig) (input : ModelInput) : Prop where
  write : launch.write.Perm (List.range input.slotMapping.length)
  prefill : ∀ (i : ℕ) (item : ℕ × ℕ × ℕ), (prefillItems input.attnMetadata.groups)[i]? = some item →
    (launch.prefill i).Fits mc.numKvHeads mc.headDim item.2.1
  decode : launch.decode.Perm
    ((List.range input.attnMetadata.decodeSlotMapping.length).product (List.range mc.numHeads))
  output : launch.output.length = input.attnMetadata.decodeSlotMapping.length * mc.numHeads * mc.headDim

/-- What the constructor of the backend and `allocate_pool` check, for a model whose softmax is the real one. -/
structure TritonSupports {H L : Type} {mc : ModelConfig} (M : QwenModel ℝ H L mc) (blockSize : ℕ) : Prop where
  exp : M.exp = Real.exp
  headDim : mc.headDim = 64 ∨ mc.headDim = 128
  powerOfTwo : blockSize &&& (blockSize - 1) = 0

section Decode

variable {H L : Type} {mc : ModelConfig} {M : QwenModel ℝ H L mc} {cache : LayerCache (KvRow ℝ mc) (KvRow ℝ mc)}

lemma decodeLoop_eq_map {tables : List (List ℤ)} {group : AttentionGroup} (f : QueryRow ℝ mc × ℕ → QueryRow ℝ mc)
    (items : List (QueryRow ℝ mc × ℕ)) (h : ∀ x ∈ items, decodeSequence M cache tables group x.1 x.2 = .ok (f x)) :
    decodeLoop M cache tables group items = .ok (items.map f) := by
  induction items with
  | nil => rfl
  | cons x items ih =>
    have hx := h x List.mem_cons_self
    have hrest := ih fun y hy => h y (List.mem_cons_of_mem x hy)
    simp only [decodeLoop, hx, hrest, List.map_cons]

structure DecodeGroupAligned (group : AttentionGroup) (n : ℕ) : Prop where
  seqIndices : group.seqIndices = List.range n
  cached : group.cachedLenBefore.length = n
  lengths : group.kvLenAfter = group.cachedLenBefore.map (· + 1)

variable (hsupports : TritonSupports M cache.blockSize) (hpos : 0 < cache.blockSize) {query : List (QueryRow ℝ mc)}
  {tables : List (List ℤ)} {group : AttentionGroup} (hgroup : DecodeGroupAligned group query.length)
  (hb : DecodeBatch cache.numBlocks cache.blockSize (tableWidth tables) query tables group.kvLenAfter)

include hsupports hpos hgroup hb

lemma decodeSequence_agrees {i : ℕ} {q : QueryRow ℝ mc} (hq : query[i]? = some q) :
    ∃ out, decodeSequence M cache tables group q i = .ok out ∧
      (decodeOutputs Real.exp M.scale cache query tables group.kvLenAfter)[i]? = some out := by
  have hi := (List.getElem?_eq_some_iff.mp hq).1
  obtain ⟨_, row, n, hq', hrow, hn⟩ := hb.get hi
  obtain rfl := Option.some.inj (hq.symm.trans hq')
  have hseq : group.seqIndices[i]? = some i := by rw [hgroup.seqIndices, List.getElem?_range hi]
  have hcached : group.cachedLenBefore[i]? = some (n - 1) ∧ n - 1 + 1 = n := by
    rw [hgroup.lengths, List.getElem?_map] at hn
    obtain ⟨c, hc, rfl⟩ := Option.map_eq_some_iff.mp hn
    exact ⟨hc, rfl⟩
  obtain ⟨k, v, hgather, hattend⟩ := decodeOutput_attends M.scale hpos hb (q := q) hrow hn
  refine ⟨_, ?_, decodeOutputs_getElem? Real.exp M.scale cache hq hrow hn⟩
  simp only [decodeSequence, hseq, hcached.1, hrow, hcached.2, hgather]
  refine congrArg Except.ok (funext fun h => ?_)
  rw [hattend h, QwenModel.scaledDotProductAttention, hsupports.exp]

lemma decodeLoop_agrees : decodeLoop M cache tables group query.zipIdx =
    .ok (decodeOutputs Real.exp M.scale cache query tables group.kvLenAfter) := by
  have hloop := @decodeLoop_eq_map _ _ _ M cache tables group
    (fun x => (decodeOutputs Real.exp M.scale cache query tables group.kvLenAfter).getD x.2 x.1) query.zipIdx
    fun x hx => by
      obtain ⟨out, hseq, hout⟩ := decodeSequence_agrees hsupports hpos hgroup hb (List.mem_zipIdx_iff_getElem?.mp hx)
      rw [hseq, List.getD_eq_getElem?_getD, hout, Option.getD_some]
  rw [hloop]
  refine congrArg Except.ok (List.ext_getElem? fun i => ?_)
  rw [List.getElem?_map, List.getElem?_zipIdx]
  cases hq : query[i]? with
  | none =>
    have hlen := length_decodeOutputs Real.exp M.scale cache hb
    rw [Option.map_none, Option.map_none, List.getElem?_eq_none]
    rw [hlen]
    exact List.getElem?_eq_none_iff.mp hq
  | some q =>
    obtain ⟨out, -, hout⟩ := decodeSequence_agrees hsupports hpos hgroup hb hq
    simp only [Option.map_some, Nat.zero_add, List.getD_eq_getElem?_getD, hout, Option.getD_some]

lemma decodeAttention_agrees {A : AttentionMetadata} (htables : A.decodeBlockTables = tables)
    (hfind : A.groups.find? (·.attentionType = .decodeGpu) = some group) {launch : LayerLaunch ℝ}
    (horder : launch.decode.Perm ((List.range query.length).product (List.range mc.numHeads)))
    (hout : launch.output.length = query.length * mc.numHeads * mc.headDim) :
    ∃ out, AttentionBackendGPU.decodeAttention M cache.blockSize cache.flatten query A launch = .ok out ∧
      AttentionBackendRef.decodeAttention M cache query A = .ok out := by
  subst htables
  have href := decodeLoop_agrees hsupports hpos hgroup hb
  have hgpu := tritonDecodeAttention_eq Real.exp M.scale cache hpos hb hsupports.headDim hsupports.powerOfTwo horder hout
  have hrefout : AttentionBackendRef.decodeAttention M cache query A =
      .ok (decodeOutputs Real.exp M.scale cache query A.decodeBlockTables group.kvLenAfter) := by
    simp only [AttentionBackendRef.decodeAttention, hfind, href]
  refine ⟨_, ?_, hrefout⟩
  rw [AttentionBackendGPU.decodeAttention]
  split_ifs with hempty
  · rw [List.isEmpty_iff] at hempty
    subst hempty
    rfl
  · have hrows := tokenRows_flat (decodeOutputs Real.exp M.scale cache query A.decodeBlockTables group.kvLenAfter)
    rw [length_decodeOutputs Real.exp M.scale cache hb] at hrows
    simp only [hfind, hsupports.exp, hgpu, hrows]

end Decode

section Assembled

variable {mc : ModelConfig} {ε : Type} {config : Config} {bm : BlockManager ε} {numBlocks : ℕ}
  {prefillMeta : List PrefillMeta} {decodeMeta : List DecodeMeta}

lemma length_blockTableRow (maxBlocks : ℕ) (seq : Sequence) : (blockTableRow bm maxBlocks seq).length = maxBlocks := by
  simp only [blockTableRow, List.length_take, List.length_append, List.length_map, List.length_replicate]
  omega

lemma length_row_buildBlockTableTensor {seqs : List Sequence} {maxBlocks : ℕ} :
    ∀ row ∈ buildBlockTableTensor bm seqs maxBlocks,
      row.length = tableWidth (buildBlockTableTensor bm seqs maxBlocks) := by
  intro row hrow
  obtain ⟨seq, -, rfl⟩ := List.mem_map.mp hrow
  cases seqs with
  | nil => cases hrow
  | cons first rest =>
    have hwidth : tableWidth (buildBlockTableTensor bm (first :: rest) maxBlocks) =
        (blockTableRow bm maxBlocks first).length := rfl
    rw [hwidth, length_blockTableRow, length_blockTableRow]

lemma blockTableRow_getElem? {seq : Sequence} {maxBlocks j b : ℕ}
    (hmax : (bm.getBlockTable seq.seqId).length ≤ maxBlocks) (hb : (bm.getBlockTable seq.seqId)[j]? = some b) :
    (blockTableRow bm maxBlocks seq)[j]? = some (b : ℤ) := by
  have hj := (List.getElem?_eq_some_iff.mp hb).1
  have hlt : j < ((bm.getBlockTable seq.seqId).map Int.ofNat).length := by rwa [List.length_map]
  rw [blockTableRow, List.getElem?_take_of_lt (hj.trans_le hmax), List.getElem?_append_left hlt, List.getElem?_map, hb]
  rfl

variable (hplaced : BatchPlaced mc config bm numBlocks prefillMeta decodeMeta)

include hplaced

lemma BatchPlaced.row_valid {span : Sequence × ℕ × ℕ} (hs : span ∈ batchSpans prefillMeta decodeMeta) {maxBlocks : ℕ}
    (hmax : (bm.getBlockTable span.1.seqId).length ≤ maxBlocks) {j : ℕ} (hj : j * config.blockSize < span.2.2) :
    ∃ b : ℕ, (blockTableRow bm maxBlocks span.1)[j]? = some (b : ℤ) ∧ b < numBlocks := by
  obtain ⟨b, hb, hlt⟩ := hplaced.covered span hs _ hj
  rw [Nat.mul_div_cancel _ config.blockSize_pos] at hb
  exact ⟨b, blockTableRow_getElem? hmax hb, hlt⟩

lemma BatchPlaced.slot_lt {t : Sequence × ℕ} (ht : t ∈ batchTokens prefillMeta decodeMeta) :
    slotOf config bm t.1.seqId t.2 < numBlocks * config.blockSize := by
  obtain ⟨span, hs, hq, -, hlt⟩ := mem_batchTokens.mp ht
  obtain ⟨b, hb, hbn⟩ := hplaced.covered span hs t.2 hlt
  rw [hq]
  exact slotOf_lt config bm hb hbn

lemma BatchPlaced.slots_nodup : (assembled config bm prefillMeta decodeMeta).slotMapping.Nodup := by
  have hcells := hplaced.distinct
  have hslots : (batchTokens prefillMeta decodeMeta).map (fun t => tokenCell config bm t.1 t.2) =
      ((batchTokens prefillMeta decodeMeta).map (fun t => (slotOf config bm t.1.seqId t.2 : ℤ))).map
        (fun slot => cellOf config.blockSize slot.toNat) := by
    rw [List.map_map]
    exact List.map_congr_left fun t _ => (cellOf_slotOf config bm t.1.seqId t.2).symm
  rw [hslots] at hcells
  rw [assembled_slotMapping]
  exact List.Nodup.of_map _ hcells

section Kernels

variable {F H L : Type} {M : QwenModel F H L mc} {cache : LayerCache (KvRow F mc) (KvRow F mc)}
  (hbs : cache.blockSize = config.blockSize) (hnum : cache.numBlocks = numBlocks)

include hbs hnum

lemma BatchPlaced.prefillStep {key value : List (KvRow F mc)}
    (hkeys : key.length = (batchTokens prefillMeta decodeMeta).length) (hvalues : value.length = key.length) :
    PrefillStep cache key value (assembled config bm prefillMeta decodeMeta).slotMapping
      (assembled config bm prefillMeta decodeMeta).attnMetadata
      (tableWidth (assembled config bm prefillMeta decodeMeta).attnMetadata.prefillBlockTables) := by
  set maxBlocks := computeMaxBlocks bm (prefillMeta.map (·.seq)) (decodeMeta.map (·.seq)) with hmaxBlocks
  have hitems : prefillItems (assembled config bm prefillMeta decodeMeta).attnMetadata.groups =
      prefillMeta.zipIdx.map (fun x => (x.2, x.1.cachedLenBefore, x.1.queryLen)) :=
    prefillItems_buildGroups prefillMeta decodeMeta
  have htables : ∀ {i : ℕ} {m : PrefillMeta}, prefillMeta[i]? = some m →
      (assembled config bm prefillMeta decodeMeta).attnMetadata.prefillBlockTables[i]? =
        some (blockTableRow bm maxBlocks m.seq) := by
    intro i m hm
    simp [assembled, buildBlockTableTensor, hm, hmaxBlocks]
  have hmax : ∀ m ∈ prefillMeta, (bm.getBlockTable m.seq.seqId).length ≤ maxBlocks := fun m hm =>
    length_le_computeMaxBlocks (List.mem_append_left _ (List.mem_map_of_mem hm))
  constructor
  case keys => rw [assembled_slotMapping, List.length_map, hkeys]
  case values => exact hvalues
  case rows => exact length_row_buildBlockTableTensor
  case covered =>
    intro item hitem
    rw [hitems] at hitem
    obtain ⟨⟨m, i⟩, hm, rfl⟩ := List.mem_map.mp hitem
    have hi := List.mem_zipIdx_iff_getElem?.mp hm
    have hmem := List.mem_of_getElem? hi
    refine ⟨_, htables hi, fun j hj => ?_⟩
    rw [hbs] at hj
    rw [hnum]
    exact hplaced.row_valid (List.mem_append_left _ (List.mem_map_of_mem hmem)) (hmax m hmem) hj
  case slots => rfl
  case prefillSlots =>
    rw [hitems, List.flatMap_map]
    have hchunk : ∀ x ∈ prefillMeta.zipIdx, chunkSlots cache.blockSize
        (assembled config bm prefillMeta decodeMeta).attnMetadata.prefillBlockTables
          (x.2, x.1.cachedLenBefore, x.1.queryLen) =
        (prefillPositions x.1).map (fun position => (slotOf config bm x.1.seq.seqId position : ℤ)) := by
      intro x hx
      have hi := List.mem_zipIdx_iff_getElem?.mp hx
      rw [chunkSlots, hbs, tableOf_eq (htables hi), blockIds_row (hmax x.1 (List.mem_of_getElem? hi)), prefillPositions,
        List.map_map]
      rfl
    have hfst : prefillMeta.zipIdx.map (·.1) = prefillMeta := List.zipIdx_map_fst 0 prefillMeta
    have hslots : prefillSlots config bm prefillMeta = prefillMeta.zipIdx.flatMap (fun x =>
        (prefillPositions x.1).map (fun position => (slotOf config bm x.1.seq.seqId position : ℤ))) := by
      conv_lhs => rw [prefillSlots, ← hfst, List.flatMap_map]
    rw [List.flatMap_congr hchunk, ← hslots]
    rfl
  case inRange =>
    intro slot hslot
    rw [assembled_slotMapping] at hslot
    obtain ⟨t, ht, rfl⟩ := List.mem_map.mp hslot
    rw [InRange, hnum, hbs]
    exact Or.inr ⟨Int.natCast_nonneg _, Int.ofNat_lt.mpr (hplaced.slot_lt ht)⟩
  case nodup => exact hplaced.slots_nodup.filter _

lemma BatchPlaced.decodeBatch {query : List (QueryRow F mc)} (hquery : query.length = decodeMeta.length) :
    DecodeBatch cache.numBlocks cache.blockSize
      (tableWidth (assembled config bm prefillMeta decodeMeta).attnMetadata.decodeBlockTables) query
      (assembled config bm prefillMeta decodeMeta).attnMetadata.decodeBlockTables
      (decodeMeta.map (·.cachedLenBefore + 1)) := by
  constructor
  case rows => exact length_row_buildBlockTableTensor
  case tables => simp [assembled, buildBlockTableTensor, hquery]
  case lengths => rw [List.length_map, hquery]
  case nonempty =>
    intro n hn
    obtain ⟨m, -, rfl⟩ := List.mem_map.mp hn
    exact Nat.succ_pos _
  case valid =>
    intro i row n hrow hn j hj
    simp only [assembled, buildBlockTableTensor, List.map_map, List.getElem?_map, Option.map_eq_some_iff,
      Function.comp_apply] at hrow hn
    obtain ⟨m, hm, rfl⟩ := hrow
    obtain ⟨m', hm', rfl⟩ := hn
    obtain rfl := Option.some.inj (hm.symm.trans hm')
    have hmem := List.mem_of_getElem? hm
    have hspan : (m.seq, m.cachedLenBefore, m.cachedLenBefore + 1) ∈ batchSpans prefillMeta decodeMeta :=
      List.mem_append_right _ (List.mem_map.mpr ⟨m, hmem, rfl⟩)
    have hseq : m.seq ∈ prefillMeta.map (·.seq) ++ decodeMeta.map (·.seq) :=
      List.mem_append_right _ (List.mem_map_of_mem hmem)
    rw [hbs] at hj
    rw [hnum]
    exact hplaced.row_valid hspan (length_le_computeMaxBlocks hseq) hj

end Kernels

end Assembled

section Lengths

variable {F H L : Type} {mc : ModelConfig} [Field F] {M : QwenModel F H L mc} {cache : LayerCache (KvRow F mc) (KvRow F mc)}

lemma prefillSequence_length {tables : List (List ℤ)} {query : List (QueryRow F mc)}
    {tokenOffset seqIdx cached qLen : ℕ} {out : List (QueryRow F mc)}
    (h : prefillSequence M cache tables query tokenOffset seqIdx cached qLen = .ok out)
    (hle : tokenOffset + qLen ≤ query.length) : out.length = qLen := by
  cases hrow : tables[seqIdx]? with
  | none => simp [prefillSequence, hrow] at h
  | some row =>
    cases hgather : cache.gatherPagedKv (blockIds row) (cached + qLen) cache.blockSize with
    | error err => simp [prefillSequence, hrow, hgather] at h
    | ok kv =>
      simp only [prefillSequence, hrow, hgather] at h
      cases h
      simp only [List.length_map, List.length_zipIdx, List.length_take, List.length_drop]
      omega

lemma prefillLoop_length {tables : List (List ℤ)} {query : List (QueryRow F mc)} {items : List (ℕ × ℕ × ℕ)}
    {tokenOffset : ℕ} {out : List (QueryRow F mc)} (h : prefillLoop M cache tables query tokenOffset items = .ok out)
    (hle : tokenOffset + (items.map (·.2.2)).sum ≤ query.length) : out.length = (items.map (·.2.2)).sum := by
  induction items generalizing tokenOffset out with
  | nil =>
    cases h
    rfl
  | cons item items ih =>
    obtain ⟨seqIdx, cached, qLen⟩ := item
    have hle : tokenOffset + (qLen + (items.map (·.2.2)).sum) ≤ query.length := hle
    cases hseq : prefillSequence M cache tables query tokenOffset seqIdx cached qLen with
    | error err => simp [prefillLoop, hseq] at h
    | ok rows =>
      cases hrest : prefillLoop M cache tables query (tokenOffset + qLen) items with
      | error err => simp [prefillLoop, hseq, hrest] at h
      | ok rest =>
        simp only [prefillLoop, hseq, hrest] at h
        cases h
        rw [List.length_append, prefillSequence_length hseq (by omega), ih hrest (by omega), List.map_cons, List.sum_cons]

lemma decodeLoop_length {tables : List (List ℤ)} {group : AttentionGroup} {items : List (QueryRow F mc × ℕ)}
    {out : List (QueryRow F mc)} (h : decodeLoop M cache tables group items = .ok out) :
    out.length = items.length := by
  induction items generalizing out with
  | nil =>
    cases h
    rfl
  | cons item items ih =>
    cases hseq : decodeSequence M cache tables group item.1 item.2 with
    | error err => simp [decodeLoop, hseq] at h
    | ok row =>
      cases hrest : decodeLoop M cache tables group items with
      | error err => simp [decodeLoop, hseq, hrest] at h
      | ok rest =>
        simp only [decodeLoop, hseq, hrest] at h
        cases h
        rw [List.length_cons, List.length_cons, ih hrest]

lemma prefillAttention_length {query : List (QueryRow F mc)} {A : AttentionMetadata} {out : List (QueryRow F mc)}
    (h : AttentionBackendRef.prefillAttention M cache query A = .ok out)
    (hlen : query.length = ((prefillItems A.groups).map (·.2.2)).sum) : out.length = query.length := by
  rw [AttentionBackendRef.prefillAttention] at h
  split_ifs at h
  · cases h
    rfl
  · rw [prefillLoop_length h (by omega), hlen]

lemma decodeAttention_length {query : List (QueryRow F mc)} {A : AttentionMetadata} {out : List (QueryRow F mc)}
    (h : AttentionBackendRef.decodeAttention M cache query A = .ok out) : out.length = query.length := by
  rw [AttentionBackendRef.decodeAttention] at h
  split at h
  · cases h
    rfl
  · rw [decodeLoop_length h, List.length_zipIdx]

end Lengths

section Layer

variable {H L : Type} {mc : ModelConfig} {M : QwenModel ℝ H L mc} {ε : Type} {config : Config} {bm : BlockManager ε}
  {numBlocks : ℕ} {prefillMeta : List PrefillMeta} {decodeMeta : List DecodeMeta}
  (hplaced : BatchPlaced mc config bm numBlocks prefillMeta decodeMeta) {launch : LayerLaunch ℝ}
  (hlaunch : launch.Complete mc (assembled config bm prefillMeta decodeMeta))
  {cache : LayerCache (KvRow ℝ mc) (KvRow ℝ mc)} (hbs : cache.blockSize = config.blockSize)
  (hnum : cache.numBlocks = numBlocks)

lemma length_batchTokens : (batchTokens prefillMeta decodeMeta).length =
    (prefillMeta.map (·.queryLen)).sum + decodeMeta.length := by
  have htokens := congrArg List.length (@batchTokens_map prefillMeta decodeMeta _ (fun _ p => p))
  rwa [List.length_map, List.length_append, prefillRows_length, decodeRows, List.length_map] at htokens

include hplaced hlaunch hbs hnum

lemma attendPrefill_agrees {q : List (QueryRow ℝ mc)} {k v : List (KvRow ℝ mc)}
    (hq : q.length = (batchTokens prefillMeta decodeMeta).length)
    (hk : k.length = (batchTokens prefillMeta decodeMeta).length) (hv : v.length = k.length) :
    ∃ out, attendPrefillGpu M config.blockSize
        (afterWrite cache k v (assembled config bm prefillMeta decodeMeta).slotMapping).flatten
        (assembled config bm prefillMeta decodeMeta).attnMetadata q launch k v = .ok out ∧
      attendPrefill M (afterWrite cache k v (assembled config bm prefillMeta decodeMeta).slotMapping)
        (assembled config bm prefillMeta decodeMeta).attnMetadata q = .ok out ∧ out.length = q.length := by
  set A := (assembled config bm prefillMeta decodeMeta).attnMetadata with hA
  have hslots : A.prefillSlotMapping.length = (prefillMeta.map (·.queryLen)).sum :=
    prefillSlots_length config bm prefillMeta
  have hcount := @length_batchTokens prefillMeta decodeMeta
  have hitems : ((prefillItems A.groups).map (·.2.2)).sum = (prefillMeta.map (·.queryLen)).sum := by
    have hgroups : prefillItems A.groups =
        prefillMeta.zipIdx.map (fun x => (x.2, x.1.cachedLenBefore, x.1.queryLen)) :=
      prefillItems_buildGroups prefillMeta decodeMeta
    have hfst : prefillMeta.zipIdx.map (·.1) = prefillMeta := List.zipIdx_map_fst 0 prefillMeta
    conv_rhs => rw [← hfst, List.map_map]
    rw [hgroups, List.map_map]
    rfl
  by_cases hn : A.prefillSlotMapping.length > 0
  · have hpos : 0 < cache.blockSize := hbs ▸ config.blockSize_pos
    obtain ⟨out, hgpu, href⟩ := prefillAttention_agrees M (q.take A.prefillSlotMapping.length) hpos
      (hplaced.prefillStep hbs hnum hk hv) hlaunch.prefill
    have htake : (q.take A.prefillSlotMapping.length).length = A.prefillSlotMapping.length := by
      rw [List.length_take, hslots]
      omega
    have hlen := prefillAttention_length href (by rw [htake, hslots, hitems])
    rw [hbs, ← hA] at hgpu
    rw [← hA] at href
    refine ⟨out ++ (q.map (fun _ _ _ => 0)).drop A.prefillSlotMapping.length, ?_, ?_, ?_⟩
    · simp only [attendPrefillGpu, if_pos hn, hgpu]
    · simp only [attendPrefill, if_pos hn, href]
    · rw [List.length_append, hlen, htake, List.length_drop, List.length_map, hslots]
      omega
  · refine ⟨q.map (fun _ _ _ => 0), ?_, ?_, List.length_map _⟩
    · simp only [attendPrefillGpu, if_neg hn]
    · simp only [attendPrefill, if_neg hn]

lemma attendDecode_agrees (hsupports : TritonSupports M config.blockSize) {q attnOut : List (QueryRow ℝ mc)}
    (hq : q.length = (batchTokens prefillMeta decodeMeta).length) (hlen : attnOut.length = q.length) :
    ∃ out, attendDecodeGpu M config.blockSize cache.flatten (assembled config bm prefillMeta decodeMeta).attnMetadata q
        launch attnOut = .ok out ∧
      attendDecode M cache (assembled config bm prefillMeta decodeMeta).attnMetadata q attnOut = .ok out ∧
        out.length = q.length := by
  set A := (assembled config bm prefillMeta decodeMeta).attnMetadata with hA
  have hslots : A.prefillSlotMapping.length = (prefillMeta.map (·.queryLen)).sum :=
    prefillSlots_length config bm prefillMeta
  have hslots' : A.decodeSlotMapping.length = decodeMeta.length := List.length_map _
  have hcount := @length_batchTokens prefillMeta decodeMeta
  by_cases hn : A.decodeSlotMapping.length > 0
  · have hfind := find?_buildGroups prefillMeta (hslots' ▸ hn)
    set group := decodeGroup (List.range ((List.range decodeMeta.length).map (prefillMeta.length + ·)).length)
      decodeMeta with hgroupEq
    obtain ⟨decodeMetadata, hmeta, hgroups, htables⟩ : ∃ D, buildDecodeMeta A = some D ∧ D.groups = [group] ∧
        D.decodeBlockTables = A.decodeBlockTables := by
      rw [buildDecodeMeta, show A.groups = buildGroups prefillMeta decodeMeta from rfl, hfind]
      exact ⟨_, rfl, rfl, rfl⟩
    have hfound : decodeMetadata.groups.find? (·.attentionType = .decodeGpu) = some group := by
      rw [hgroups]
      rfl
    have hquery : (q.drop A.prefillSlotMapping.length).length = decodeMeta.length := by
      rw [List.length_drop, hslots]
      omega
    have hgroup : DecodeGroupAligned group (q.drop A.prefillSlotMapping.length).length := by
      rw [hquery, hgroupEq]
      refine ⟨?_, List.length_map _, ?_⟩
      · simp only [decodeGroup, List.length_map, List.length_range]
      · simp only [decodeGroup, List.map_map]
        rfl
    have hpos : 0 < cache.blockSize := hbs ▸ config.blockSize_pos
    have hdecode := hlaunch.decode
    have houtput := hlaunch.output
    rw [← hA, hslots', ← hquery] at hdecode houtput
    obtain ⟨out, hgpu, href⟩ := decodeAttention_agrees (hbs ▸ hsupports) hpos hgroup
      (hplaced.decodeBatch hbs hnum hquery) htables hfound hdecode houtput
    refine ⟨attnOut.take A.prefillSlotMapping.length ++ out, ?_, ?_, ?_⟩
    · simp only [attendDecodeGpu, if_pos hn, hmeta]
      rw [← hbs, hgpu]
    · simp only [attendDecode, if_pos hn, hmeta, href]
    · rw [List.length_append, decodeAttention_length href, hquery, List.length_take, hslots]
      omega
  · refine ⟨attnOut, ?_, ?_, hlen⟩
    · simp only [attendDecodeGpu, if_neg hn]
    · simp only [attendDecode, if_neg hn]

omit hplaced hlaunch hbs hnum in
lemma applyRope_ok {n : ℕ} (rows : List (Fin n → Vec ℝ mc.headDim)) {positions : List ℕ}
    (h : ∀ p ∈ positions, p < mc.maxPositionEmbeddings) :
    ∃ out, M.applyRope rows positions = .ok out ∧ out.length = min rows.length positions.length := by
  have hall : positions.all (· < mc.maxPositionEmbeddings) = true :=
    List.all_eq_true.mpr fun p hp => decide_eq_true (h p hp)
  rw [QwenModel.applyRope, if_pos hall]
  exact ⟨_, rfl, List.length_zipWith⟩

lemma executeLayer_agrees (hsupports : TritonSupports M config.blockSize) (layer : QwenDecoderLayer ℝ H mc)
    {hidden : List H} (hhidden : hidden.length = (batchTokens prefillMeta decodeMeta).length) :
    ∃ hidden' cache', executeLayerGpu M config.blockSize (assembled config bm prefillMeta decodeMeta) launch layer
        cache.flatten hidden = (.ok hidden', cache'.flatten) ∧
      executeLayer M (assembled config bm prefillMeta decodeMeta) layer cache hidden = (.ok hidden', cache') ∧
      hidden'.length = hidden.length ∧ cache'.blockSize = cache.blockSize ∧ cache'.numBlocks = cache.numBlocks := by
  set A := assembled config bm prefillMeta decodeMeta with hA
  set rows := hidden.map (fun h => layer.qkvProj (layer.inputLayernorm h)) with hrows
  have hpositions : ∀ p ∈ A.positions, p < mc.maxPositionEmbeddings := by
    intro p hp
    rw [hA, assembled_positions] at hp
    obtain ⟨t, ht, rfl⟩ := List.mem_map.mp hp
    exact hplaced.positions t ht
  have hcount : min hidden.length A.positions.length = (batchTokens prefillMeta decodeMeta).length := by
    rw [hA, assembled_positions, List.length_map, hhidden, min_self]
  obtain ⟨q, hq, hqlen⟩ := applyRope_ok (M := M) (rows.map (·.1)) hpositions
  obtain ⟨k, hk, hklen⟩ := applyRope_ok (M := M) (rows.map (·.2.1)) hpositions
  rw [List.length_map, hrows, List.length_map, hcount] at hqlen hklen
  set v := rows.map (·.2.2) with hv
  have hvlen : v.length = k.length := by rw [hv, List.length_map, hrows, List.length_map, hhidden, hklen]
  have hpos : 0 < config.blockSize := config.blockSize_pos
  have hstep := hplaced.prefillStep hbs hnum hklen hvlen
  have hwrite : cache.writeToPagedCache k v A.slotMapping cache.blockSize =
      (.ok (), afterWrite cache k v A.slotMapping) :=
    writeToPagedCache_eq (hbs ▸ hpos) rfl hstep.keys hstep.values hstep.inRange
  have hkernel : tritonCacheWrite k v cache.flatten A.slotMapping config.blockSize config.blockSize launch.write =
      .ok (afterWrite cache k v A.slotMapping).flatten := by
    have heq := tritonCacheWrite_eq (hbs ▸ hpos) rfl hstep.keys hstep.values hstep.inRange hstep.nodup
      (hstep.keys ▸ hlaunch.write)
    rw [hwrite] at heq
    rw [← hbs]
    exact heq
  obtain ⟨out, hgpu, href, hlen⟩ := attendPrefill_agrees (M := M) hplaced hlaunch hbs hnum hqlen hklen hvlen
  obtain ⟨out', hgpu', href', hlen'⟩ := @attendDecode_agrees _ _ _ M _ _ _ _ _ _ hplaced _ hlaunch
    (afterWrite cache k v A.slotMapping) hbs hnum hsupports _ _ hqlen hlen
  rw [← hA] at hgpu href hgpu' href'
  refine ⟨List.zipWith (fun out residual => layer.postAttention (layer.oProj out) residual) out' hidden,
    afterWrite cache k v A.slotMapping, ?_, ?_, ?_, rfl, rfl⟩
  · simp only [executeLayerGpu, ← hrows, hq, hk, ← hv, hkernel, hgpu, hgpu']
  · simp only [executeLayer, ← hrows, hq, hk, ← hv, hwrite, href, href']
  · rw [List.length_zipWith, hlen', hqlen, hhidden, min_self]

end Layer

section Model

variable {H L : Type} {mc : ModelConfig} {M : QwenModel ℝ H L mc} {ε : Type} {config : Config} {bm : BlockManager ε}
  {numBlocks : ℕ} {prefillMeta : List PrefillMeta} {decodeMeta : List DecodeMeta}

def LaunchesComplete (M : QwenModel ℝ H L mc) (input : ModelInput) (launches : ℕ → LayerLaunch ℝ) : Prop :=
  ∀ i < M.layers.length, (launches i).Complete mc input

section Layers

variable (hplaced : BatchPlaced mc config bm numBlocks prefillMeta decodeMeta)
  (hsupports : TritonSupports M config.blockSize) {launches : ℕ → LayerLaunch ℝ}

include hplaced hsupports

lemma runLayers_agrees (layers : List (QwenDecoderLayer ℝ H mc)) (pool : KVCachePool ℝ mc)
    (hshape : PoolShaped config numBlocks layers pool) (k : ℕ)
    (hlaunches : ∀ i < layers.length, (launches (k + i)).Complete mc (assembled config bm prefillMeta decodeMeta))
    {hidden : List H} (hhidden : hidden.length = (batchTokens prefillMeta decodeMeta).length) :
    ∃ hidden' pool', runLayersGpu M config.blockSize (assembled config bm prefillMeta decodeMeta) launches k layers
        (pool.map LayerCache.flatten) hidden = (.ok hidden', pool'.map LayerCache.flatten) ∧
      runLayers M (assembled config bm prefillMeta decodeMeta) layers pool hidden = (.ok hidden', pool') := by
  induction layers generalizing pool k hidden with
  | nil => exact ⟨hidden, pool, rfl, rfl⟩
  | cons layer layers ih =>
    cases pool with
    | nil => cases hshape.1
    | cons cache pool =>
      obtain ⟨hnum, hbs⟩ := hshape.2 cache List.mem_cons_self
      have hshape' : PoolShaped config numBlocks layers pool :=
        ⟨Nat.succ.inj hshape.1, fun c hc => hshape.2 c (List.mem_cons_of_mem _ hc)⟩
      have hrest : ∀ i < layers.length,
          (launches (k + 1 + i)).Complete mc (assembled config bm prefillMeta decodeMeta) := fun i hi => by
        rw [Nat.add_assoc, Nat.add_comm 1 i]
        exact hlaunches (i + 1) (Nat.succ_lt_succ hi)
      obtain ⟨hidden', cache', hgpu, href, hlen, -, -⟩ :=
        executeLayer_agrees hplaced (hlaunches 0 (Nat.succ_pos _)) hbs hnum hsupports layer hhidden
      obtain ⟨hidden'', pool', hgpus, hrefs⟩ := ih pool hshape' (k + 1) hrest (hlen.trans hhidden)
      refine ⟨hidden'', cache' :: pool', ?_, ?_⟩
      · rw [Nat.add_zero] at hgpu
        simp only [List.map_cons, runLayersGpu, hgpu, hgpus]
      · simp only [runLayers, href, hrefs]

end Layers

def onTriton (step : Except Exn (List L) × KVCachePool ℝ mc) : Except GpuError (List L) × List (FlatCache ℝ) :=
  (step.1.mapError (fun _ => .indexError), step.2.map LayerCache.flatten)

lemma executeModel_agrees (hplaced : BatchPlaced mc config bm numBlocks prefillMeta decodeMeta)
    (hsupports : TritonSupports M config.blockSize) {pool : KVCachePool ℝ mc}
    (hshape : PoolShaped config numBlocks M.layers pool)
    (hids : (assembled config bm prefillMeta decodeMeta).inputIds.length =
      (batchTokens prefillMeta decodeMeta).length) {launches : ℕ → LayerLaunch ℝ}
    (hlaunches : LaunchesComplete M (assembled config bm prefillMeta decodeMeta) launches) :
    executeModelGpu M config.blockSize (pool.map LayerCache.flatten) (assembled config bm prefillMeta decodeMeta)
      launches = onTriton (executeModel M pool (assembled config bm prefillMeta decodeMeta)) := by
  obtain ⟨hidden, pool', hgpu, href⟩ := runLayers_agrees hplaced hsupports M.layers pool hshape 0
    (fun i hi => by
      rw [Nat.zero_add]
      exact hlaunches i hi)
    ((List.length_map M.embedTokens).trans hids)
  simp only [executeModelGpu, executeModel, hgpu, href]
  split_ifs
  · rfl
  · rfl

section Assemble

variable (hplaced : BatchPlaced mc config bm numBlocks prefillMeta decodeMeta)

include hplaced

lemma BatchPlaced.lt_length {span : Sequence × ℕ × ℕ} (hs : span ∈ batchSpans prefillMeta decodeMeta) {r : ℕ}
    (hr : r < span.2.2) : r / config.blockSize < (bm.getBlockTable span.1.seqId).length := by
  obtain ⟨b, hb, -⟩ := hplaced.covered span hs r hr
  exact (List.getElem?_eq_some_iff.mp hb).1

lemma BatchPlaced.assemble_ok (hdecodes : ∀ m ∈ decodeMeta, m.seq.outputTokenIds ≠ []) :
    assemble config bm prefillMeta decodeMeta = .ok (assembled config bm prefillMeta decodeMeta) := by
  refine assemble_eq config bm prefillMeta decodeMeta (fun m hm position hp => ?_) (fun m hm => ?_) hdecodes
  · obtain ⟨i, hi, rfl⟩ := List.mem_map.mp hp
    exact hplaced.lt_length (List.mem_append_left _ (List.mem_map_of_mem hm))
      (Nat.add_lt_add_left (List.mem_range.mp hi) _)
  · exact hplaced.lt_length (List.mem_append_right _ (List.mem_map_of_mem hm)) (Nat.lt_succ_self _)

omit hplaced in
lemma length_inputIds (hchunks : ∀ m ∈ prefillMeta, m.cachedLenBefore + m.queryLen ≤ m.seq.promptTokenIds.length) :
    (assembled config bm prefillMeta decodeMeta).inputIds.length = (batchTokens prefillMeta decodeMeta).length := by
  have htokens : prefillMeta.map (fun m => (prefillTokens m).length) = prefillMeta.map (·.queryLen) := by
    refine List.map_congr_left fun m hm => ?_
    have hle := hchunks m hm
    rw [prefillTokens, List.length_take, List.length_drop]
    omega
  rw [length_batchTokens, assembled, List.length_append, List.length_flatMap, htokens, List.length_map]

/-- For every batch whose tables cover it without overlap, whatever the pool holds: in any order of the program
instances, the Triton backend returns the logits of the reference backend and leaves its pool, flattened. -/
theorem triton_refines_reference
    (hchunks : ∀ m ∈ prefillMeta, m.cachedLenBefore + m.queryLen ≤ m.seq.promptTokenIds.length)
    (hdecodes : ∀ m ∈ decodeMeta, m.seq.outputTokenIds ≠ []) (hsupports : TritonSupports M config.blockSize)
    {pool : KVCachePool ℝ mc} (hshape : PoolShaped config numBlocks M.layers pool) :
    ∃ input, assemble config bm prefillMeta decodeMeta = .ok input ∧
      ∀ launches, LaunchesComplete M input launches →
        executeModelGpu M config.blockSize (pool.map LayerCache.flatten) input launches =
          onTriton (executeModel M pool input) :=
  ⟨_, hplaced.assemble_ok hdecodes,
    fun _ hlaunches => executeModel_agrees hplaced hsupports hshape (length_inputIds hchunks) hlaunches⟩

end Assemble

end Model

noncomputable section Example

def reversedLaunch (mc : ModelConfig) (input : ModelInput) : LayerLaunch ℝ where
  write := (List.range input.slotMapping.length).reverse
  prefill i :=
    let n := (prefillItems input.attnMetadata.groups)[i]?.elim 0 (·.2.1)
    ⟨((List.range n).product (List.range mc.numKvHeads)).reverse,
      ⟨List.replicate (n * mc.numKvHeads * mc.headDim) 0, List.replicate (n * mc.numKvHeads * mc.headDim) 0⟩⟩
  decode := ((List.range input.attnMetadata.decodeSlotMapping.length).product (List.range mc.numHeads)).reverse
  output := List.replicate (input.attnMetadata.decodeSlotMapping.length * mc.numHeads * mc.headDim) 0

lemma reversedLaunch_complete (mc : ModelConfig) (input : ModelInput) :
    (reversedLaunch mc input).Complete mc input where
  write := List.reverse_perm _
  prefill i item hi := by
    have hn : (prefillItems input.attnMetadata.groups)[i]?.elim 0 (·.2.1) = item.2.1 := by rw [hi, Option.elim_some]
    simp only [reversedLaunch, hn]
    exact ⟨List.reverse_perm _, List.length_replicate, List.length_replicate⟩
  decode := List.reverse_perm _
  output := List.length_replicate

def wideConfig : ModelConfig where
  numHeads := 2
  numKvHeads := 1
  headDim := 64
  maxPositionEmbeddings := 8
  numKvHeads_dvd := ⟨2, rfl⟩

def wideLayer : QwenDecoderLayer ℝ ℝ wideConfig where
  inputLayernorm h := h
  qkvProj h := (fun _ _ => h, fun _ _ => h, fun _ _ => h)
  oProj row := row ⟨0, Nat.two_pos⟩ ⟨0, Nat.succ_pos 63⟩ + row ⟨1, Nat.one_lt_two⟩ ⟨0, Nat.succ_pos 63⟩
  postAttention out residual := out + residual

def wideModel : QwenModel ℝ ℝ ℝ wideConfig where
  embedTokens token := token
  layers := [wideLayer, wideLayer]
  rope position row := fun i => row i + position
  norm h := h
  lmHead h := h
  exp := Real.exp
  scale := 1 / 8

def widePool : KVCachePool ℝ wideConfig :=
  List.replicate 2 { numBlocks := 3, blockSize := 4, key := fun _ _ _ => 5, value := fun _ _ _ => 6 }

lemma wideModel_supports : TritonSupports wideModel Config.default.blockSize where
  exp := rfl
  headDim := Or.inl rfl
  powerOfTwo := by decide

lemma widePool_shaped : PoolShaped .default 3 wideModel.layers widePool := by
  refine ⟨rfl, fun cache hc => ?_⟩
  obtain rfl := List.eq_of_mem_replicate hc
  exact ⟨rfl, rfl⟩

lemma valid_wide : ValidBatch wideConfig .default sumBlocks [shortPrompt, longPrompt] firstChunks [] :=
  ⟨valid_first.distinct, valid_first.live, valid_first.chunks, valid_first.decodes, valid_first.covered,
    valid_first.positions⟩

theorem triton_refines_reference_of_first_chunks :
    ∃ input, assemble .default sumBlocks firstChunks [] = .ok input ∧
      ∀ launches, LaunchesComplete wideModel input launches →
        executeModelGpu wideModel 4 (widePool.map LayerCache.flatten) input launches =
          onTriton (executeModel wideModel widePool input) := by
  have hcached := served_first.cached
  exact triton_refines_reference (valid_wide.placed hcached.placed hcached.progress hcached.covered)
    (fun m hm => (valid_wide.chunks m hm).le_prompt) (fun m hm => (valid_wide.decodes m hm).outputs)
    wideModel_supports widePool_shaped

end Example

end MiniVllm
