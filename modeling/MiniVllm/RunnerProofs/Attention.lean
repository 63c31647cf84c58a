import MiniVllm.CacheProofs.PagedCache
import MiniVllm.EngineProofs.InputBuilder
import MiniVllm.ModelRunner.QwenRunner
import MiniVllm.RunnerProofs.CausalForward

/-! What the reference backend returns for a batch whose keys and values are in the cache. -/

namespace MiniVllm

open ModelInputBuilder LayerCache AttentionBackendRef QwenModel

section Tables

variable {ε : Type} {bm : BlockManager ε}

lemma blockIds_row {seq : Sequence} {maxBlocks : ℕ} (h : (bm.getBlockTable seq.seqId).length ≤ maxBlocks) :
    blockIds (blockTableRow bm maxBlocks seq) = bm.getBlockTable seq.seqId := by
  have hlen : ((bm.getBlockTable seq.seqId).map Int.ofNat ++
      List.replicate (maxBlocks - (bm.getBlockTable seq.seqId).length) (-1)).length = maxBlocks := by
    rw [List.length_append, List.length_map, List.length_replicate, Nat.add_sub_cancel' h]
  have hpad : (List.replicate (maxBlocks - (bm.getBlockTable seq.seqId).length) (-1 : ℤ)).filter (· ≠ -1) = [] :=
    List.filter_eq_nil_iff.mpr fun b hb => by simp [List.eq_of_mem_replicate hb]
  have hids : ((bm.getBlockTable seq.seqId).map Int.ofNat).filter (· ≠ -1) =
      (bm.getBlockTable seq.seqId).map Int.ofNat :=
    List.filter_eq_self.mpr fun b hb => by
      obtain ⟨p, -, rfl⟩ := List.mem_map.mp hb
      simp only [Int.ofNat_eq_natCast, decide_eq_true_eq]
      omega
  rw [blockIds, blockTableRow, List.take_of_length_le hlen.le, List.filter_append, hpad, hids, List.append_nil,
    List.map_map]
  exact List.map_id _

lemma foldl_max_ge (seqs : List Sequence) (n : ℕ) :
    n ≤ seqs.foldl (fun maxBlocks seq => max maxBlocks (bm.getBlockTable seq.seqId).length) n ∧
      ∀ seq ∈ seqs, (bm.getBlockTable seq.seqId).length ≤
        seqs.foldl (fun maxBlocks seq => max maxBlocks (bm.getBlockTable seq.seqId).length) n := by
  induction seqs generalizing n with
  | nil => exact ⟨le_rfl, fun seq hm => by cases hm⟩
  | cons q seqs ih =>
    obtain ⟨h₁, h₂⟩ := ih (max n (bm.getBlockTable q.seqId).length)
    refine ⟨(le_max_left _ _).trans h₁, fun seq hm => ?_⟩
    rcases List.mem_cons.mp hm with rfl | hm
    · exact (le_max_right _ _).trans h₁
    · exact h₂ seq hm

lemma length_le_computeMaxBlocks {prefillSeqs decodeSeqs : List Sequence} {seq : Sequence}
    (h : seq ∈ prefillSeqs ++ decodeSeqs) :
    (bm.getBlockTable seq.seqId).length ≤ computeMaxBlocks bm prefillSeqs decodeSeqs :=
  ((foldl_max_ge _ 0).2 seq h).trans (le_max_right _ _)

end Tables

section Rows

variable {α : Type} (f : Sequence → ℕ → α)

def prefillRows (prefillMeta : List PrefillMeta) : List α :=
  prefillMeta.flatMap (fun m => (prefillPositions m).map (f m.seq))

def decodeRows (decodeMeta : List DecodeMeta) : List α := decodeMeta.map (fun m => f m.seq m.cachedLenBefore)

lemma prefillRows_cons (m : PrefillMeta) (metas : List PrefillMeta) :
    prefillRows f (m :: metas) = (prefillPositions m).map (f m.seq) ++ prefillRows f metas := rfl

lemma prefillRows_length (metas : List PrefillMeta) :
    (prefillRows f metas).length = (metas.map (·.queryLen)).sum := by
  simp [prefillRows, List.length_flatMap, prefillPositions]

end Rows

section Backend

variable {F H L : Type} {mc : ModelConfig} [Field F] {M : QwenModel F H L mc} {layer : QwenDecoderLayer F H mc}
  {cache : LayerCache (KvRow F mc) (KvRow F mc)} {ε : Type} {bm : BlockManager ε}

def HoldsRow (M : QwenModel F H L mc) (layer : QwenDecoderLayer F H mc) (cache : LayerCache (KvRow F mc) (KvRow F mc))
    (x : ℕ → H) (cell : ℕ × ℕ) (r : ℕ) : Prop :=
  cache.key cell = M.keyAt layer x r ∧ cache.value cell = valueAt layer x r

def Filled (M : QwenModel F H L mc) (layer : QwenDecoderLayer F H mc) (cache : LayerCache (KvRow F mc) (KvRow F mc))
    (x : ℕ → H) (table : List ℕ) (n : ℕ) : Prop :=
  ∀ r < n, (∃ b, table[r / cache.blockSize]? = some b ∧ b < cache.numBlocks) ∧
    HoldsRow M layer cache x (tableCell cache.blockSize table r) r

omit [Field F] in
lemma Filled.gather (hpos : 0 < cache.blockSize) {x : ℕ → H} {table : List ℕ} {n : ℕ}
    (h : Filled M layer cache x table n) : cache.gatherPagedKv table n cache.blockSize =
      .ok ((List.range n).map (M.keyAt layer x), (List.range n).map (valueAt layer x)) := by
  rw [gatherPagedKv_eq hpos rfl fun r hr => (h r hr).1]
  refine congrArg Except.ok (Prod.ext ?_ ?_)
  · exact List.map_congr_left fun r hr => (h r (List.mem_range.mp hr)).2.1
  · exact List.map_congr_left fun r hr => (h r (List.mem_range.mp hr)).2.2

variable {x : Sequence → ℕ → H} {maxBlocks : ℕ} {tables : List (List ℤ)}

section Prefill

variable {query : List (QueryRow F mc)}

lemma prefillSequence_eq (hpos : 0 < cache.blockSize) {m : PrefillMeta}
    (hfill : Filled M layer cache (x m.seq) (bm.getBlockTable m.seq.seqId) (m.cachedLenBefore + m.queryLen))
    (hmax : (bm.getBlockTable m.seq.seqId).length ≤ maxBlocks) {tokenOffset seqIdx : ℕ}
    (htable : tables[seqIdx]? = some (blockTableRow bm maxBlocks m.seq))
    (hquery : (query.drop tokenOffset).take m.queryLen = (prefillPositions m).map (M.queryAt layer (x m.seq))) :
    prefillSequence M cache tables query tokenOffset seqIdx m.cachedLenBefore m.queryLen =
      .ok ((prefillPositions m).map (M.attendAt layer (x m.seq))) := by
  simp only [prefillSequence, htable, blockIds_row hmax, hfill.gather hpos, hquery, prefillPositions, List.map_map,
    zipIdx_map_range]
  refine congrArg Except.ok (List.map_congr_left fun i hi => ?_)
  have hlt := List.mem_range.mp hi
  have hattn := M.attention_causal (M.queryAt layer (x m.seq) (m.cachedLenBefore + i)) (M.keyAt layer (x m.seq))
    (valueAt layer (x m.seq)) (p := m.cachedLenBefore + i) (n := m.cachedLenBefore + m.queryLen) (by omega)
  simp only [List.map_map] at hattn
  exact hattn

lemma prefillLoop_eq (hpos : 0 < cache.blockSize) (metas : List PrefillMeta)
    (hfill : ∀ m ∈ metas, Filled M layer cache (x m.seq) (bm.getBlockTable m.seq.seqId)
      (m.cachedLenBefore + m.queryLen))
    (hmax : ∀ m ∈ metas, (bm.getBlockTable m.seq.seqId).length ≤ maxBlocks) (tokenOffset k : ℕ)
    (htables : ∀ i m, metas[i]? = some m → tables[k + i]? = some (blockTableRow bm maxBlocks m.seq))
    (hquery : query.drop tokenOffset = prefillRows (fun q => M.queryAt layer (x q)) metas) :
    prefillLoop M cache tables query tokenOffset
        ((metas.zipIdx k).map (fun (m, i) => (i, m.cachedLenBefore, m.queryLen))) =
      .ok (prefillRows (fun q => M.attendAt layer (x q)) metas) := by
  induction metas generalizing tokenOffset k with
  | nil => rfl
  | cons m metas ih =>
    rw [prefillRows_cons] at hquery
    have hlen : ((prefillPositions m).map (M.queryAt layer (x m.seq))).length = m.queryLen := by
      simp [prefillPositions]
    have hfirst : (query.drop tokenOffset).take m.queryLen =
        (prefillPositions m).map (M.queryAt layer (x m.seq)) := by
      rw [hquery, List.take_left' hlen]
    have hrest : query.drop (tokenOffset + m.queryLen) = prefillRows (fun q => M.queryAt layer (x q)) metas := by
      rw [← List.drop_drop, hquery, List.drop_left' hlen]
    have htable : tables[k]? = some (blockTableRow bm maxBlocks m.seq) := htables 0 m rfl
    have hseq := prefillSequence_eq hpos (hfill m List.mem_cons_self) (hmax m List.mem_cons_self) htable hfirst
    have htail := ih (fun m' hm => hfill m' (List.mem_cons_of_mem m hm))
      (fun m' hm => hmax m' (List.mem_cons_of_mem m hm)) (tokenOffset + m.queryLen) (k + 1)
      (fun i m' hm => by
        have h := htables (i + 1) m' hm
        rwa [show k + (i + 1) = k + 1 + i by omega] at h) hrest
    simp only [List.zipIdx_cons, List.map_cons, prefillLoop, hseq, htail, prefillRows_cons]

end Prefill

section Decode

variable {group : AttentionGroup}

lemma decodeSequence_eq (hpos : 0 < cache.blockSize) {m : DecodeMeta}
    (hfill : Filled M layer cache (x m.seq) (bm.getBlockTable m.seq.seqId) (m.cachedLenBefore + 1))
    (hmax : (bm.getBlockTable m.seq.seqId).length ≤ maxBlocks) {i : ℕ} (hidx : group.seqIndices[i]? = some i)
    (hcached : group.cachedLenBefore[i]? = some m.cachedLenBefore)
    (htable : tables[i]? = some (blockTableRow bm maxBlocks m.seq)) :
    decodeSequence M cache tables group (M.queryAt layer (x m.seq) m.cachedLenBefore) i =
      .ok (M.attendAt layer (x m.seq) m.cachedLenBefore) := by
  have hattn := M.attention_full (M.queryAt layer (x m.seq) m.cachedLenBefore) (M.keyAt layer (x m.seq))
    (valueAt layer (x m.seq)) m.cachedLenBefore
  simp only [decodeSequence, hidx, hcached, htable, blockIds_row hmax, hfill.gather hpos, hattn]
  rfl

lemma decodeLoop_eq (hpos : 0 < cache.blockSize) (metas : List DecodeMeta)
    (hfill : ∀ m ∈ metas, Filled M layer cache (x m.seq) (bm.getBlockTable m.seq.seqId) (m.cachedLenBefore + 1))
    (hmax : ∀ m ∈ metas, (bm.getBlockTable m.seq.seqId).length ≤ maxBlocks) (k : ℕ)
    (hidx : ∀ i m, metas[i]? = some m → group.seqIndices[k + i]? = some (k + i) ∧
      group.cachedLenBefore[k + i]? = some m.cachedLenBefore ∧
        tables[k + i]? = some (blockTableRow bm maxBlocks m.seq)) :
    decodeLoop M cache tables group
        ((decodeRows (fun q => M.queryAt layer (x q)) metas).zipIdx k) =
      .ok (decodeRows (fun q => M.attendAt layer (x q)) metas) := by
  induction metas generalizing k with
  | nil => rfl
  | cons m metas ih =>
    obtain ⟨h₁, h₂, h₃⟩ := hidx 0 m rfl
    have hseq := decodeSequence_eq hpos (hfill m List.mem_cons_self) (hmax m List.mem_cons_self) h₁ h₂ h₃
    have htail := ih (fun m' hm => hfill m' (List.mem_cons_of_mem m hm))
      (fun m' hm => hmax m' (List.mem_cons_of_mem m hm)) (k + 1) (fun i m' hm => by
        have h := hidx (i + 1) m' hm
        rwa [show k + (i + 1) = k + 1 + i by omega] at h)
    simp only [Nat.add_zero] at hseq
    simp only [decodeRows] at htail ⊢
    simp only [List.map_cons, List.zipIdx_cons, decodeLoop, hseq, htail]

end Decode

end Backend

end MiniVllm
