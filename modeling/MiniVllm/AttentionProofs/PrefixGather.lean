import MiniVllm.AttentionProofs.DecodeAttention
import MiniVllm.Library.Segments

/-! The prefill path of the GPU backend sees the keys and the values that the reference gathers. -/

namespace MiniVllm

open Flat LayerCache

namespace PagedAttentionGpu

lemma foldl_positions (seqIdx count : ℕ) (maps : List ℕ × List ℕ) :
    (List.range count).foldl (fun maps pos => (maps.1 ++ [seqIdx], maps.2 ++ [pos])) maps =
      (maps.1 ++ List.replicate count seqIdx, maps.2 ++ List.range count) := by
  induction count with
  | zero => simp
  | succ count ih => simp [List.range_succ, ih, List.replicate_succ']

lemma prefixMaps_append (cached : List ℕ) (seqs : List (ℕ × ℕ)) (maps : List ℕ × List ℕ) (seqIndices rest : List ℕ)
    (k : ℕ) (hseqs : seqs = seqIndices.zipIdx k) (hrest : cached.drop k = rest)
    (hlen : seqIndices.length ≤ rest.length) :
    prefixMaps cached seqs maps =
      .ok (maps.1 ++ (seqIndices.zip rest).flatMap (fun x => List.replicate x.2 x.1),
        maps.2 ++ (seqIndices.zip rest).flatMap (fun x => List.range x.2)) := by
  induction seqIndices generalizing seqs maps rest k with
  | nil =>
    subst hseqs
    simp [prefixMaps]
  | cons s seqIndices ih =>
    cases rest with
    | nil => exact absurd hlen (Nat.not_succ_le_zero _)
    | cons c rest =>
      have hget : cached[k]? = some c := Segments.getElem?_of_drop hrest
      have htail : cached.drop (k + 1) = rest := Segments.drop_succ_of_drop hrest
      subst hseqs
      simp only [List.zipIdx_cons, prefixMaps, hget, foldl_positions]
      rw [ih _ _ rest (k + 1) rfl htail (Nat.le_of_succ_le_succ hlen)]
      simp only [List.zip_cons_cons, List.flatMap_cons, List.append_assoc]

lemma prefixMaps_eq {seqIndices cached : List ℕ} (hlen : cached.length = seqIndices.length) :
    prefixMaps cached seqIndices.zipIdx ([], []) =
      .ok ((seqIndices.zip cached).flatMap (fun x => List.replicate x.2 x.1), cached.flatMap List.range) := by
  have hmaps := prefixMaps_append cached _ ([], []) seqIndices cached 0 rfl rfl hlen.ge
  have hsnd : (seqIndices.zip cached).flatMap (fun x => List.range x.2) = cached.flatMap List.range := by
    have hmap : (seqIndices.zip cached).map Prod.snd = cached := List.map_snd_zip hlen.le
    rw [← List.flatMap_map, hmap]
  rw [List.nil_append, List.nil_append, hsnd] at hmaps
  exact hmaps

section Gather

variable {F : Type} [Zero F] {heads headDim : ℕ}
  (cache : LayerCache (Fin heads → Vec F headDim) (Fin heads → Vec F headDim))
  {blockTable : List (List ℤ)} {maxBlocksPerSeq : ℕ}

structure Launch.Fits (launch : Launch F) (heads headDim n : ℕ) : Prop where
  order : launch.order.Perm ((List.range n).product (List.range heads))
  key : launch.out.key.length = n * heads * headDim
  value : launch.out.value.length = n * heads * headDim

omit [Zero F] in
lemma gatherPrefixKvKernel_eq (hpos : 0 < cache.blockSize) (hrows : ∀ row ∈ blockTable, row.length = maxBlocksPerSeq)
    {seqIdxMap localPosMap : List ℕ} {pid seqIdx localPos b : ℕ} {row : List ℤ}
    (hseq : seqIdxMap[pid]? = some seqIdx) (hlocal : localPosMap[pid]? = some localPos)
    (hrow : blockTable[seqIdx]? = some row) (hb : row[localPos / cache.blockSize]? = some (b : ℤ))
    (hlt : b < cache.numBlocks) (h : Fin heads) {outK outV : List (Vec F headDim)}
    (hk : pid * heads + h < outK.length) (hv : pid * heads + h < outV.length) :
    gatherPrefixKvKernel cache.flatten blockTable.flatten seqIdxMap localPosMap maxBlocksPerSeq cache.blockSize headDim
        heads ⟨flat outK, flat outV⟩ (pid, h) =
      .ok ⟨flat (outK.set (pid * heads + h) (cache.key (b, localPos % cache.blockSize) h)),
        flat (outV.set (pid * heads + h) (cache.value (b, localPos % cache.blockSize) h))⟩ := by
  have hlen : row.length = maxBlocksPerSeq := hrows row (List.mem_of_getElem? hrow)
  have hblock : localPos / cache.blockSize < maxBlocksPerSeq := hlen ▸ (List.getElem?_eq_some_iff.mp hb).1
  have hload : load blockTable.flatten
      ((seqIdx : ℤ) * maxBlocksPerSeq + (localPos / cache.blockSize : ℕ)) = .ok (b : ℤ) := by
    apply load_eq (r := seqIdx * maxBlocksPerSeq + localPos / cache.blockSize) _ (by push_cast; ring)
    rw [flatten_getElem? hrows hrow hblock, hb]
  have hseq' : load seqIdxMap pid = .ok seqIdx := load_eq hseq rfl
  have hlocal' : load localPosMap pid = .ok localPos := load_eq hlocal rfl
  have hoffset : localPos % cache.blockSize < cache.blockSize := Nat.mod_lt _ hpos
  have hkey := loadVec_key cache (b, localPos % cache.blockSize) hlt hoffset h
  have hvalue := loadVec_value cache (b, localPos % cache.blockSize) hlt hoffset h
  have hout : (pid * heads * headDim + h * headDim : ℤ) = ((pid * heads + h) * headDim : ℕ) := by
    push_cast
    ring
  have hstoreK := storeVec_flat outK hk hout (cache.key (b, localPos % cache.blockSize) h)
  have hstoreV := storeVec_flat outV hv hout (cache.value (b, localPos % cache.blockSize) h)
  simp only [gatherPrefixKvKernel, hseq', hlocal', bind, Except.bind, hload, if_neg (Int.natCast_nonneg b).not_gt, hkey,
    hstoreK, hvalue, hstoreV, pure, Except.pure]

lemma foldl_prod {A B ι : Type} (f : A → ι → A) (g : B → ι → B) (xs : List ι) (a : A) (b : B) :
    xs.foldl (fun t x => (f t.1 x, g t.2 x)) (a, b) = (xs.foldl f a, xs.foldl g b) := by
  induction xs generalizing a b with
  | nil => rfl
  | cons x xs ih => exact ih (f a x) (g b x)

def PrefixCovered (blockTable : List (List ℤ)) (positions : List (ℕ × ℕ)) : Prop :=
  ∀ x ∈ positions, ∃ (row : List ℤ) (b : ℕ), blockTable[x.1]? = some row ∧
    row[x.2 / cache.blockSize]? = some (b : ℤ) ∧ b < cache.numBlocks

def prefixCell (blockTable : List (List ℤ)) (x : ℕ × ℕ) : ℕ × ℕ :=
  (((blockTable.getD x.1 []).getD (x.2 / cache.blockSize) 0).toNat, x.2 % cache.blockSize)

omit [Zero F] in
lemma prefixCell_eq {x : ℕ × ℕ} {row : List ℤ} {b : ℕ} (hrow : blockTable[x.1]? = some row)
    (hb : row[x.2 / cache.blockSize]? = some (b : ℤ)) :
    prefixCell cache blockTable x = (b, x.2 % cache.blockSize) := by
  simp only [prefixCell, List.getD_eq_getElem?_getD, hrow, Option.getD_some, hb, Int.toNat_natCast]

lemma gatherGrid_eq (hpos : 0 < cache.blockSize) (hrows : ∀ row ∈ blockTable, row.length = maxBlocksPerSeq)
    {positions : List (ℕ × ℕ)} (hcovered : PrefixCovered cache blockTable positions) {launch : Launch F}
    (hlaunch : launch.Fits heads headDim positions.length) :
    launch.order.foldlM (gatherPrefixKvKernel cache.flatten blockTable.flatten (positions.map Prod.fst)
        (positions.map Prod.snd) maxBlocksPerSeq cache.blockSize headDim heads) launch.out =
      .ok ⟨flat (flat (positions.map (fun x => cache.key (prefixCell cache blockTable x)))),
        flat (flat (positions.map (fun x => cache.value (prefixCell cache blockTable x))))⟩ := by
  obtain ⟨rowsK, hlenK, hflatK⟩ := exists_rows headDim hlaunch.key
  obtain ⟨rowsV, hlenV, hflatV⟩ := exists_rows headDim hlaunch.value
  have hout : launch.out = ⟨flat rowsK, flat rowsV⟩ := by rw [hflatK, hflatV]
  set keys := flat (positions.map (fun x => cache.key (prefixCell cache blockTable x))) with hkeys
  set values := flat (positions.map (fun x => cache.value (prefixCell cache blockTable x))) with hvalues
  have hkeysLen : keys.length = positions.length * heads := by rw [hkeys, length_flat, List.length_map]
  have hvaluesLen : values.length = positions.length * heads := by rw [hvalues, length_flat, List.length_map]
  have hfold := foldl_prod
    (fun rows pid => rows.set (pid.1 * heads + pid.2) (keys.getD (pid.1 * heads + pid.2) (fun _ => 0)))
    (fun rows pid => rows.set (pid.1 * heads + pid.2) (values.getD (pid.1 * heads + pid.2) (fun _ => 0)))
    launch.order rowsK rowsV
  rw [foldl_grid hlaunch.order _ hkeysLen hlenK, foldl_grid hlaunch.order _ hvaluesLen hlenV] at hfold
  have hgoal := foldlM_simulates
    (R := fun t : List (Vec F headDim) × List (Vec F headDim) => FlatCache.mk (flat t.1) (flat t.2))
    (I := fun t => t.1.length = positions.length * heads ∧ t.2.length = positions.length * heads)
    (f := gatherPrefixKvKernel cache.flatten blockTable.flatten (positions.map Prod.fst) (positions.map Prod.snd)
      maxBlocksPerSeq cache.blockSize headDim heads)
    (g := fun t pid => (t.1.set (pid.1 * heads + pid.2) (keys.getD (pid.1 * heads + pid.2) (fun _ => 0)),
      t.2.set (pid.1 * heads + pid.2) (values.getD (pid.1 * heads + pid.2) (fun _ => 0))))
    (fun pid (hpid : pid ∈ launch.order) t ht => ⟨?_, ?_⟩) (t := (rowsK, rowsV)) ⟨hlenK, hlenV⟩
  · rw [hout, hgoal, hfold]
  · obtain ⟨hi, hh⟩ := grid_lt hlaunch.order hpid
    have hrow := grid_row_lt hlaunch.order hpid
    have hget := List.getElem?_eq_getElem hi
    obtain ⟨row, b, htable, hb, hlt⟩ := hcovered _ (List.getElem_mem hi)
    have hcell := prefixCell_eq cache htable hb
    have hkey : keys[pid.1 * heads + pid.2]? =
        some (cache.key (b, positions[pid.1].2 % cache.blockSize) ⟨pid.2, hh⟩) := by
      rw [← hcell]
      exact flat_getElem? (by rw [List.getElem?_map, hget, Option.map_some]) ⟨pid.2, hh⟩
    have hvalue : values[pid.1 * heads + pid.2]? =
        some (cache.value (b, positions[pid.1].2 % cache.blockSize) ⟨pid.2, hh⟩) := by
      rw [← hcell]
      exact flat_getElem? (by rw [List.getElem?_map, hget, Option.map_some]) ⟨pid.2, hh⟩
    have hseq : (positions.map Prod.fst)[pid.1]? = some positions[pid.1].1 := by
      rw [List.getElem?_map, hget, Option.map_some]
    have hlocal : (positions.map Prod.snd)[pid.1]? = some positions[pid.1].2 := by
      rw [List.getElem?_map, hget, Option.map_some]
    have hkernel := gatherPrefixKvKernel_eq cache hpos hrows hseq hlocal htable hb hlt ⟨pid.2, hh⟩ (ht.1 ▸ hrow)
      (ht.2 ▸ hrow)
    simp only [List.getD_eq_getElem?_getD, hkey, hvalue, Option.getD_some]
    exact hkernel
  · rw [List.length_set, List.length_set]
    exact ht

omit cache in
lemma tokenRows_flat (xs : List (Fin heads → Vec F headDim)) :
    tokenRows heads headDim xs.length (flat (flat xs)) = xs := by
  refine List.ext_getElem (by simp [tokenRows]) fun t h₁ h₂ => ?_
  simp only [tokenRows, List.getElem_map, List.getElem_range]
  funext h i
  have hx := List.getElem?_eq_getElem h₂
  rw [List.getD_eq_getElem?_getD, flat_getElem? (flat_getElem? hx h) i, Option.getD_some]

def prefixPositions (seqIndices cached : List ℕ) : List (ℕ × ℕ) :=
  (seqIndices.zip cached).flatMap (fun x => (List.range x.2).map (fun pos => (x.1, pos)))

lemma prefixPositions_fst (seqIndices cached : List ℕ) : (prefixPositions seqIndices cached).map Prod.fst =
    (seqIndices.zip cached).flatMap (fun x => List.replicate x.2 x.1) := by
  rw [prefixPositions, List.map_flatMap]
  refine List.flatMap_congr fun x _ => ?_
  rw [List.map_map]
  exact List.eq_replicate_iff.mpr ⟨by simp, by simp⟩

lemma prefixPositions_snd {seqIndices cached : List ℕ} (hlen : cached.length = seqIndices.length) :
    (prefixPositions seqIndices cached).map Prod.snd = cached.flatMap List.range := by
  have hmap : (seqIndices.zip cached).map Prod.snd = cached := List.map_snd_zip hlen.le
  have hsnd : (prefixPositions seqIndices cached).map Prod.snd =
      (seqIndices.zip cached).flatMap (fun x => List.range x.2) := by
    rw [prefixPositions, List.map_flatMap]
    refine List.flatMap_congr fun x _ => ?_
    rw [List.map_map]
    exact List.map_id _
  rw [hsnd, ← List.flatMap_map, hmap]

lemma length_prefixPositions {seqIndices cached : List ℕ} (hlen : cached.length = seqIndices.length) :
    (prefixPositions seqIndices cached).length = cached.sum := by
  rw [← List.length_map Prod.snd, prefixPositions_snd hlen, List.length_flatMap]
  simp

theorem gatherPrefixKv_eq (hpos : 0 < cache.blockSize) (hrows : ∀ row ∈ blockTable, row.length = maxBlocksPerSeq)
    {seqIndices cached : List ℕ} (hlen : cached.length = seqIndices.length)
    (hcovered : PrefixCovered cache blockTable (prefixPositions seqIndices cached)) {launch : Launch F}
    (hlaunch : launch.Fits heads headDim cached.sum) :
    gatherPrefixKv heads headDim cache.flatten blockTable maxBlocksPerSeq cached seqIndices cache.blockSize launch =
      .ok ((prefixPositions seqIndices cached).map (fun x => cache.key (prefixCell cache blockTable x)),
        (prefixPositions seqIndices cached).map (fun x => cache.value (prefixCell cache blockTable x))) := by
  have htotal := length_prefixPositions hlen
  by_cases hzero : cached.sum = 0
  · have hnil : prefixPositions seqIndices cached = [] := List.length_eq_zero_iff.mp (htotal.trans hzero)
    rw [gatherPrefixKv, if_pos hzero, hnil]
    rfl
  · have hmaps := prefixMaps_eq hlen
    rw [← prefixPositions_fst, ← prefixPositions_snd hlen] at hmaps
    have hfits : launch.Fits heads headDim (prefixPositions seqIndices cached).length := htotal ▸ hlaunch
    have hgrid := gatherGrid_eq cache hpos hrows hcovered hfits
    have hkeys := tokenRows_flat ((prefixPositions seqIndices cached).map
      (fun x => cache.key (prefixCell cache blockTable x)))
    have hvalues := tokenRows_flat ((prefixPositions seqIndices cached).map
      (fun x => cache.value (prefixCell cache blockTable x)))
    rw [List.length_map, htotal] at hkeys hvalues
    simp only [gatherPrefixKv, if_neg hzero, hmaps, hgrid, hkeys, hvalues]

end Gather

end PagedAttentionGpu

section Step

open PagedAttentionGpu AttentionBackendRef

def tableOf (blockTables : List (List ℤ)) (seqIdx : ℕ) : List ℕ := blockIds (blockTables.getD seqIdx [])

def chunkSlots (blockSize : ℕ) (blockTables : List (List ℤ)) (item : ℕ × ℕ × ℕ) : List ℤ :=
  (List.range item.2.2).map
    (fun i => (LayerCache.tableSlot blockSize (tableOf blockTables item.1) (item.2.1 + i) : ℤ))

def tokenOffset (items : List (ℕ × ℕ × ℕ)) (i : ℕ) : ℕ := Segments.start (·.2.2) items i

variable {F H L : Type} [Field F] {mc : ModelConfig} (M : QwenModel F H L mc)
  {cache : LayerCache (KvRow F mc) (KvRow F mc)} {key value : List (KvRow F mc)} (query : List (QueryRow F mc))
  {slotMapping : List ℤ} {attnMeta : AttentionMetadata} {maxBlocksPerSeq : ℕ} {launches : ℕ → Launch F}

/-- The tokens of the prefill sequences come first in the batch, and the tables cover them; no slot is written twice. -/
structure PrefillStep (cache : LayerCache (KvRow F mc) (KvRow F mc)) (key value : List (KvRow F mc))
    (slotMapping : List ℤ) (attnMeta : AttentionMetadata) (maxBlocksPerSeq : ℕ) : Prop where
  keys : slotMapping.length = key.length
  values : value.length = key.length
  rows : ∀ row ∈ attnMeta.prefillBlockTables, row.length = maxBlocksPerSeq
  covered : ∀ item ∈ prefillItems attnMeta.groups, ∃ row, attnMeta.prefillBlockTables[item.1]? = some row ∧
    ∀ j, j * cache.blockSize < item.2.1 + item.2.2 → ∃ b : ℕ, row[j]? = some (b : ℤ) ∧ b < cache.numBlocks
  slots : slotMapping = attnMeta.prefillSlotMapping ++ attnMeta.decodeSlotMapping
  prefillSlots : attnMeta.prefillSlotMapping =
    (prefillItems attnMeta.groups).flatMap (chunkSlots cache.blockSize attnMeta.prefillBlockTables)
  inRange : ∀ slot ∈ slotMapping, LayerCache.InRange cache.blockSize cache slot
  nodup : (slotMapping.filter (· ≠ -1)).Nodup

def afterWrite (cache : LayerCache (KvRow F mc) (KvRow F mc)) (key value : List (KvRow F mc))
    (slotMapping : List ℤ) : LayerCache (KvRow F mc) (KvRow F mc) :=
  LayerCache.writeAll cache.blockSize cache (LayerCache.unskipped (slotMapping.zip (key.zip value)))

def positionRows (cache : LayerCache (KvRow F mc) (KvRow F mc)) (table : List ℕ) (n : ℕ) :
    List (KvRow F mc) × List (KvRow F mc) :=
  ((List.range n).map (fun r => cache.key (LayerCache.tableCell cache.blockSize table r)),
    (List.range n).map (fun r => cache.value (LayerCache.tableCell cache.blockSize table r)))

omit [Field F] in
lemma positionRows_add (cache : LayerCache (KvRow F mc) (KvRow F mc)) (table : List ℕ) (m n : ℕ) :
    positionRows cache table (m + n) =
      ((positionRows cache table m).1 ++
          (List.range n).map (fun r => cache.key (LayerCache.tableCell cache.blockSize table (m + r))),
        (positionRows cache table m).2 ++
          (List.range n).map (fun r => cache.value (LayerCache.tableCell cache.blockSize table (m + r)))) := by
  simp only [positionRows]
  rw [List.range_add, List.map_append, List.map_append, List.map_map, List.map_map]
  rfl

omit [Field F] in
lemma tableOf_eq {blockTables : List (List ℤ)} {seqIdx : ℕ} {row : List ℤ} (hrow : blockTables[seqIdx]? = some row) :
    tableOf blockTables seqIdx = blockIds row := by
  rw [tableOf, List.getD_eq_getElem?_getD, hrow, Option.getD_some]

namespace PrefillStep

variable (hpos : 0 < cache.blockSize) (hs : PrefillStep cache key value slotMapping attnMeta maxBlocksPerSeq)
  {i seqIdx cached qLen : ℕ} (hi : (prefillItems attnMeta.groups)[i]? = some (seqIdx, cached, qLen))

include hs

omit [Field F] in
lemma token_read {t : ℕ} {k v : KvRow F mc} {s : ℕ} (hk : key[t]? = some k) (hv : value[t]? = some v)
    (hslot : slotMapping[t]? = some (s : ℤ)) :
    (afterWrite cache key value slotMapping).key (LayerCache.cellOf cache.blockSize s) = k ∧
      (afterWrite cache key value slotMapping).value (LayerCache.cellOf cache.blockSize s) = v := by
  have hzip : (slotMapping.zip (key.zip value))[t]? = some ((s : ℤ), k, v) :=
    List.getElem?_zip_eq_some.mpr ⟨hslot, List.getElem?_zip_eq_some.mpr ⟨hk, hv⟩⟩
  have hmem : (s, k, v) ∈ LayerCache.unskipped (slotMapping.zip (key.zip value)) :=
    List.mem_map.mpr ⟨((s : ℤ), k, v), List.mem_filter.mpr ⟨List.mem_of_getElem? hzip, by simp⟩, rfl⟩
  have hslots : (((slotMapping.zip (key.zip value)).map (·.1)).filter (· ≠ -1)).Nodup := by
    rw [zip_slots hs.keys hs.values]
    exact hs.nodup
  have hcells := unskipped_cells_nodup hslots fun w hw => hs.inRange w.1 (List.of_mem_zip hw).1
  exact LayerCache.writeAll_of_mem cache hcells hmem

include hi

omit [Field F] in
lemma table_ids {j : ℕ} (hj : j * cache.blockSize < cached + qLen) :
    ∃ (row : List ℤ) (b : ℕ), attnMeta.prefillBlockTables[seqIdx]? = some row ∧ row[j]? = some (b : ℤ) ∧
      (tableOf attnMeta.prefillBlockTables seqIdx)[j]? = some b ∧ b < cache.numBlocks := by
  obtain ⟨row, hrow, hvalid⟩ := hs.covered _ (List.mem_of_getElem? hi)
  obtain ⟨b, hb, hlt⟩ := hvalid j hj
  refine ⟨row, b, hrow, hb, ?_, hlt⟩
  rw [tableOf_eq hrow]
  refine blockIds_getElem? (fun k hk => ?_) hb
  obtain ⟨c, hc, -⟩ := hvalid k ((Nat.mul_le_mul_right _ hk).trans_lt hj)
  exact ⟨c, hc⟩

omit [Field F] in
lemma prefillSlots_getElem? {r : ℕ} (hr : r < qLen) :
    attnMeta.prefillSlotMapping[tokenOffset (prefillItems attnMeta.groups) i + r]? =
      some (LayerCache.tableSlot cache.blockSize (tableOf attnMeta.prefillBlockTables seqIdx) (cached + r) : ℤ) := by
  have hlen : ∀ item ∈ prefillItems attnMeta.groups,
      (chunkSlots cache.blockSize attnMeta.prefillBlockTables item).length = item.2.2 := fun item _ => by
    rw [chunkSlots, List.length_map, List.length_range]
  have hget := Segments.slice_getElem? hlen hi (r := r) hr
  rw [← hs.prefillSlots] at hget
  rw [tokenOffset, hget, chunkSlots, List.getElem?_map, List.getElem?_range hr, Option.map_some]

omit [Field F] in
lemma chunk_read (hpos : 0 < cache.blockSize) {r : ℕ} (hr : r < qLen) :
    (key.take attnMeta.prefillSlotMapping.length)[tokenOffset (prefillItems attnMeta.groups) i + r]? =
        some ((afterWrite cache key value slotMapping).key
          (LayerCache.tableCell cache.blockSize (tableOf attnMeta.prefillBlockTables seqIdx) (cached + r))) ∧
      (value.take attnMeta.prefillSlotMapping.length)[tokenOffset (prefillItems attnMeta.groups) i + r]? =
        some ((afterWrite cache key value slotMapping).value
          (LayerCache.tableCell cache.blockSize (tableOf attnMeta.prefillBlockTables seqIdx) (cached + r))) := by
  have hslot := hs.prefillSlots_getElem? hi hr
  have hlt := (List.getElem?_eq_some_iff.mp hslot).1
  have hslot' : slotMapping[tokenOffset (prefillItems attnMeta.groups) i + r]? =
      some (LayerCache.tableSlot cache.blockSize (tableOf attnMeta.prefillBlockTables seqIdx) (cached + r) : ℤ) := by
    rw [hs.slots, List.getElem?_append_left hlt, hslot]
  have hkey := (List.getElem?_eq_some_iff.mp hslot').1
  rw [hs.keys] at hkey
  have hvalue := hs.values ▸ hkey
  have hread := hs.token_read (List.getElem?_eq_getElem hkey) (List.getElem?_eq_getElem hvalue) hslot'
  rw [LayerCache.cellOf_tableSlot hpos] at hread
  rw [List.getElem?_take_of_lt hlt, List.getElem?_take_of_lt hlt, List.getElem?_eq_getElem hkey,
    List.getElem?_eq_getElem hvalue, hread.1, hread.2]
  exact ⟨rfl, rfl⟩

include hpos

omit [Field F] in
lemma gather_eq : LayerCache.gatherPagedKv (afterWrite cache key value slotMapping)
    (tableOf attnMeta.prefillBlockTables seqIdx) (cached + qLen) cache.blockSize =
      .ok (positionRows (afterWrite cache key value slotMapping) (tableOf attnMeta.prefillBlockTables seqIdx)
          (cached + qLen)) := by
  have hsize : (afterWrite cache key value slotMapping).blockSize = cache.blockSize := rfl
  refine LayerCache.gatherPagedKv_eq hpos hsize fun r hr => ?_
  have hdiv : r / cache.blockSize * cache.blockSize < cached + qLen := (Nat.div_mul_le_self r _).trans_lt hr
  obtain ⟨row, b, -, -, hb, hlt⟩ := hs.table_ids hi hdiv
  exact ⟨b, hb, hlt⟩

lemma prefix_eq {launch : Launch F} (hlaunch : launch.Fits mc.numKvHeads mc.headDim cached) :
    gatherPrefixKv mc.numKvHeads mc.headDim (afterWrite cache key value slotMapping).flatten
        attnMeta.prefillBlockTables maxBlocksPerSeq [cached] [seqIdx] cache.blockSize launch =
      .ok (positionRows (afterWrite cache key value slotMapping) (tableOf attnMeta.prefillBlockTables seqIdx)
          cached) := by
  have hpositions : prefixPositions [seqIdx] [cached] = (List.range cached).map (fun pos => (seqIdx, pos)) := by
    rw [prefixPositions, List.zip_cons_cons, List.zip_nil_left, List.flatMap_singleton]
  have hblock : ∀ r < cached, r / cache.blockSize * cache.blockSize < cached + qLen := fun r hr =>
    (Nat.div_mul_le_self r _).trans_lt (hr.trans_le (Nat.le_add_right _ _))
  have hcovered : PrefixCovered (afterWrite cache key value slotMapping) attnMeta.prefillBlockTables
      (prefixPositions [seqIdx] [cached]) := by
    intro x hx
    rw [hpositions] at hx
    obtain ⟨r, hr, rfl⟩ := List.mem_map.mp hx
    obtain ⟨row, b, hrow, hb, -, hlt⟩ := hs.table_ids hi (hblock r (List.mem_range.mp hr))
    exact ⟨row, b, hrow, hb, hlt⟩
  have hcell : ∀ r ∈ List.range cached,
      prefixCell (afterWrite cache key value slotMapping) attnMeta.prefillBlockTables (seqIdx, r) =
        LayerCache.tableCell cache.blockSize (tableOf attnMeta.prefillBlockTables seqIdx) r := by
    intro r hr
    obtain ⟨row, b, hrow, hb, htable, -⟩ := hs.table_ids hi (hblock r (List.mem_range.mp hr))
    rw [prefixCell_eq (afterWrite cache key value slotMapping) hrow hb, LayerCache.tableCell,
      List.getD_eq_getElem?_getD, htable, Option.getD_some]
    rfl
  have hlen : [cached].length = [seqIdx].length := rfl
  have hfits : launch.Fits mc.numKvHeads mc.headDim [cached].sum := by rwa [List.sum_singleton]
  have hgather := gatherPrefixKv_eq (afterWrite cache key value slotMapping) hpos hs.rows hlen hcovered hfits
  refine hgather.trans ?_
  rw [hpositions, List.map_map, List.map_map]
  refine congrArg Except.ok (Prod.ext ?_ ?_)
  · apply List.map_congr_left
    intro r hr
    rw [Function.comp_apply, hcell r hr]
    rfl
  · apply List.map_congr_left
    intro r hr
    rw [Function.comp_apply, hcell r hr]
    rfl

lemma prefillKv_eq {launch : Launch F} (hlaunch : launch.Fits mc.numKvHeads mc.headDim cached) :
    AttentionBackendGPU.prefillKv (afterWrite cache key value slotMapping).flatten attnMeta.prefillBlockTables
        maxBlocksPerSeq cache.blockSize (key.take attnMeta.prefillSlotMapping.length)
        (value.take attnMeta.prefillSlotMapping.length) launch (tokenOffset (prefillItems attnMeta.groups) i) seqIdx
        cached qLen =
      .ok (positionRows (afterWrite cache key value slotMapping) (tableOf attnMeta.prefillBlockTables seqIdx)
          (cached + qLen)) := by
  have hkeys := Segments.slice_eq fun r hr => (hs.chunk_read hi hpos (r := r) hr).1
  have hvalues := Segments.slice_eq fun r hr => (hs.chunk_read hi hpos (r := r) hr).2
  have hprefix : (if cached > 0 then
      gatherPrefixKv mc.numKvHeads mc.headDim (afterWrite cache key value slotMapping).flatten
        attnMeta.prefillBlockTables maxBlocksPerSeq [cached] [seqIdx] cache.blockSize launch
      else .ok ([], [])) =
      .ok (positionRows (afterWrite cache key value slotMapping) (tableOf attnMeta.prefillBlockTables seqIdx)
          cached) := by
    by_cases hcached : cached > 0
    · rw [if_pos hcached, hs.prefix_eq hpos hi hlaunch]
    · obtain rfl : cached = 0 := Nat.eq_zero_of_not_pos hcached
      rfl
  simp only [AttentionBackendGPU.prefillKv, hprefix, hkeys, hvalues]
  rw [positionRows_add]
  rfl

lemma prefillSequence_agrees {launch : Launch F} (hlaunch : launch.Fits mc.numKvHeads mc.headDim cached) :
    ∃ out, AttentionBackendGPU.prefillSequence M (afterWrite cache key value slotMapping).flatten
        attnMeta.prefillBlockTables maxBlocksPerSeq cache.blockSize query (key.take attnMeta.prefillSlotMapping.length)
        (value.take attnMeta.prefillSlotMapping.length) launch (tokenOffset (prefillItems attnMeta.groups) i) seqIdx
        cached qLen = .ok out ∧
      AttentionBackendRef.prefillSequence M (afterWrite cache key value slotMapping) attnMeta.prefillBlockTables query
        (tokenOffset (prefillItems attnMeta.groups) i) seqIdx cached qLen = .ok out := by
  obtain ⟨row, hrow, -⟩ := hs.covered _ (List.mem_of_getElem? hi)
  have hkv := hs.prefillKv_eq hpos hi hlaunch
  have hgather := hs.gather_eq hpos hi
  rw [tableOf_eq hrow] at hkv hgather
  have hsize : (afterWrite cache key value slotMapping).blockSize = cache.blockSize := rfl
  simp only [AttentionBackendGPU.prefillSequence, AttentionBackendRef.prefillSequence, hkv, hrow, hsize, hgather]
  exact ⟨_, rfl, rfl⟩

end PrefillStep

section Loop

variable (hpos : 0 < cache.blockSize) (hs : PrefillStep cache key value slotMapping attnMeta maxBlocksPerSeq)
  (hlaunches : ∀ (i : ℕ) (item : ℕ × ℕ × ℕ), (prefillItems attnMeta.groups)[i]? = some item →
    (launches i).Fits mc.numKvHeads mc.headDim item.2.1)

include hpos hs hlaunches

lemma prefillLoop_agrees (n : ℕ) (rest : List (ℕ × ℕ × ℕ)) (hrest : (prefillItems attnMeta.groups).drop n = rest) :
    ∃ out, AttentionBackendGPU.prefillLoop M (afterWrite cache key value slotMapping).flatten
        attnMeta.prefillBlockTables maxBlocksPerSeq cache.blockSize query (key.take attnMeta.prefillSlotMapping.length)
        (value.take attnMeta.prefillSlotMapping.length) launches n (tokenOffset (prefillItems attnMeta.groups) n) rest =
          .ok out ∧
      AttentionBackendRef.prefillLoop M (afterWrite cache key value slotMapping) attnMeta.prefillBlockTables query
        (tokenOffset (prefillItems attnMeta.groups) n) rest = .ok out := by
  induction rest generalizing n with
  | nil => exact ⟨[], rfl, rfl⟩
  | cons item rest ih =>
    obtain ⟨seqIdx, cached, qLen⟩ := item
    have hget : (prefillItems attnMeta.groups)[n]? = some (seqIdx, cached, qLen) := Segments.getElem?_of_drop hrest
    have htail : (prefillItems attnMeta.groups).drop (n + 1) = rest := Segments.drop_succ_of_drop hrest
    have hoffset : tokenOffset (prefillItems attnMeta.groups) (n + 1) =
        tokenOffset (prefillItems attnMeta.groups) n + qLen := Segments.start_succ hget
    obtain ⟨out, hgpu, href⟩ := hs.prefillSequence_agrees M query hpos hget (hlaunches n _ hget)
    obtain ⟨outs, hgpus, hrefs⟩ := ih (n + 1) htail
    rw [hoffset] at hgpus hrefs
    refine ⟨out ++ outs, ?_, ?_⟩
    · simp only [AttentionBackendGPU.prefillLoop, hgpu, hgpus]
    · simp only [AttentionBackendRef.prefillLoop, href, hrefs]

lemma prefillAttention_agrees :
    ∃ out, AttentionBackendGPU.prefillAttention M (afterWrite cache key value slotMapping).flatten maxBlocksPerSeq
        cache.blockSize query (key.take attnMeta.prefillSlotMapping.length)
        (value.take attnMeta.prefillSlotMapping.length) attnMeta launches = .ok out ∧
      AttentionBackendRef.prefillAttention M (afterWrite cache key value slotMapping) query attnMeta = .ok out := by
  rw [AttentionBackendGPU.prefillAttention, AttentionBackendRef.prefillAttention]
  by_cases hempty : (query.isEmpty || (prefillItems attnMeta.groups).isEmpty) = true
  · rw [if_pos hempty]
    simp only [hempty]
    exact ⟨query, rfl, rfl⟩
  · simp only [hempty]
    exact prefillLoop_agrees M query hpos hs hlaunches 0 _ List.drop_zero

end Loop

structure SeesSameKv (M : QwenModel F H L mc) (cache : LayerCache (KvRow F mc) (KvRow F mc))
    (key value : List (KvRow F mc)) (query : List (QueryRow F mc)) (attnMeta : AttentionMetadata)
    (maxBlocksPerSeq : ℕ) (launches : ℕ → Launch F) : Prop where
  kv : ∀ i seqIdx cached qLen, (prefillItems attnMeta.groups)[i]? = some (seqIdx, cached, qLen) →
    ∃ row k v, attnMeta.prefillBlockTables[seqIdx]? = some row ∧
      AttentionBackendGPU.prefillKv cache.flatten attnMeta.prefillBlockTables maxBlocksPerSeq cache.blockSize key value
        (launches i) (tokenOffset (prefillItems attnMeta.groups) i) seqIdx cached qLen = .ok (k, v) ∧
      cache.gatherPagedKv (blockIds row) (cached + qLen) cache.blockSize = .ok (k, v)
  attention : ∃ out, AttentionBackendGPU.prefillAttention M cache.flatten maxBlocksPerSeq cache.blockSize query key
      value attnMeta launches = .ok out ∧
    AttentionBackendRef.prefillAttention M cache query attnMeta = .ok out

theorem prefill_sees_same_kv (hpos : 0 < cache.blockSize)
    (hs : PrefillStep cache key value slotMapping attnMeta maxBlocksPerSeq) {order : List ℕ}
    (horder : order.Perm (List.range key.length))
    (hlaunches : ∀ (i : ℕ) (item : ℕ × ℕ × ℕ), (prefillItems attnMeta.groups)[i]? = some item →
      (launches i).Fits mc.numKvHeads mc.headDim item.2.1) :
    (∃ cache', LayerCache.writeToPagedCache key value cache slotMapping cache.blockSize = (.ok (), cache') ∧
      tritonCacheWrite key value cache.flatten slotMapping cache.blockSize cache.blockSize order = .ok cache'.flatten ∧
      SeesSameKv M cache' (key.take attnMeta.prefillSlotMapping.length)
        (value.take attnMeta.prefillSlotMapping.length) query attnMeta maxBlocksPerSeq launches) ∧
    ∀ seqIndices cached : List ℕ, cached.length = seqIndices.length →
      prefixMaps cached seqIndices.zipIdx ([], []) =
        .ok ((seqIndices.zip cached).flatMap (fun x => List.replicate x.2 x.1), cached.flatMap List.range) := by
  have hwrite := writeToPagedCache_eq hpos rfl hs.keys hs.values hs.inRange
  have hkernel := tritonCacheWrite_eq hpos rfl hs.keys hs.values hs.inRange hs.nodup horder
  rw [hwrite] at hkernel
  refine ⟨⟨_, hwrite, hkernel, ⟨?_, ?_⟩⟩, fun _ _ => prefixMaps_eq⟩
  · intro i seqIdx cached qLen hi
    obtain ⟨row, hrow, -⟩ := hs.covered _ (List.mem_of_getElem? hi)
    have hkv := hs.prefillKv_eq hpos hi (hlaunches i _ hi)
    have hgather := hs.gather_eq hpos hi
    rw [tableOf_eq hrow] at hkv hgather
    exact ⟨row, _, _, hrow, hkv, hgather⟩
  · exact prefillAttention_agrees M query hpos hs hlaunches

def pairModel : QwenModel ℚ ℚ ℚ pairConfig where
  embedTokens := fun token => token
  layers := []
  rope := fun _ v => v
  norm := id
  lmHead := id
  exp := id
  scale := 1

def pairMeta : AttentionMetadata where
  groups := [{ seqIndices := [0, 1], attentionType := .prefillGpu, cachedLenBefore := [2, 0], queryLen := [1, 1],
               kvLenAfter := [3, 1] }]
  prefillSlotMapping := [0, 2]
  prefillBlockTables := [[3, 0], [1, -1]]
  prefillPositions := [2, 0]
  decodeBlockTables := []
  decodeSlotMapping := []
  decodePositions := []
  blockSize := 2

def pairLaunches : ℕ → Launch ℚ
  | 0 => ⟨[(1, 0), (0, 0)], ⟨[5, 6], [7, 8]⟩⟩
  | _ => ⟨[], ⟨[], []⟩⟩

lemma pairStep (key value : KvRow ℚ pairConfig) : PrefillStep
    (⟨4, 2, fun _ _ _ => 0, fun cell _ _ => cell.1⟩ : LayerCache (KvRow ℚ pairConfig) (KvRow ℚ pairConfig)) [key, key]
    [value, value] [0, 2] pairMeta 2 where
  keys := rfl
  values := rfl
  rows := by decide
  covered := by
    intro item hitem
    have hitems : prefillItems pairMeta.groups = [(0, 2, 1), (1, 0, 1)] := rfl
    rw [hitems] at hitem
    rcases List.mem_pair.mp hitem with rfl | rfl
    · refine ⟨[3, 0], rfl, fun j hj => ?_⟩
      have hj : j * 2 < 3 := hj
      obtain rfl | rfl : j = 0 ∨ j = 1 := by omega
      · exact ⟨3, rfl, Nat.lt_succ_self 3⟩
      · exact ⟨0, rfl, Nat.succ_pos 3⟩
    · refine ⟨[1, -1], rfl, fun j hj => ?_⟩
      have hj : j * 2 < 1 := hj
      obtain rfl : j = 0 := by omega
      exact ⟨1, rfl, Nat.lt_of_sub_eq_succ rfl⟩
  slots := rfl
  prefillSlots := rfl
  inRange := by
    intro slot hslot
    rcases List.mem_pair.mp hslot with rfl | rfl
    · exact Or.inr ⟨le_refl 0, by decide⟩
    · exact Or.inr ⟨by decide, by decide⟩
  nodup := by decide

lemma pairLaunches_fit (i : ℕ) (item : ℕ × ℕ × ℕ) (hi : (prefillItems pairMeta.groups)[i]? = some item) :
    (pairLaunches i).Fits pairConfig.numKvHeads pairConfig.headDim item.2.1 := by
  have hitems : prefillItems pairMeta.groups = [(0, 2, 1), (1, 0, 1)] := rfl
  rw [hitems] at hi
  cases i with
  | zero =>
    obtain rfl := Option.some.inj hi
    exact ⟨by decide, rfl, rfl⟩
  | succ i =>
    cases i with
    | zero =>
      obtain rfl := Option.some.inj hi
      exact ⟨List.Perm.nil, rfl, rfl⟩
    | succ i => cases hi

theorem prefill_sees_same_kv_pair :
    (∃ cache', LayerCache.writeToPagedCache [fun _ _ => 1, fun _ _ => 1] [fun _ _ => 2, fun _ _ => 2]
        (⟨4, 2, fun _ _ _ => 0, fun cell _ _ => cell.1⟩ :
          LayerCache (KvRow ℚ pairConfig) (KvRow ℚ pairConfig)) [0, 2] 2 = (.ok (), cache') ∧
      tritonCacheWrite ([fun _ _ => 1, fun _ _ => 1] : List (KvRow ℚ pairConfig)) [fun _ _ => 2, fun _ _ => 2]
        (⟨4, 2, fun _ _ _ => 0, fun cell _ _ => cell.1⟩ :
          LayerCache (KvRow ℚ pairConfig) (KvRow ℚ pairConfig)).flatten [0, 2] 2 2 [1, 0] = .ok cache'.flatten ∧
      SeesSameKv pairModel cache' [fun _ _ => 1, fun _ _ => 1] [fun _ _ => 2, fun _ _ => 2]
        [fun _ _ => 1, fun _ _ => 3] pairMeta 2 pairLaunches) ∧
    ∀ seqIndices cached : List ℕ, cached.length = seqIndices.length →
      prefixMaps cached seqIndices.zipIdx ([], []) =
        .ok ((seqIndices.zip cached).flatMap (fun x => List.replicate x.2 x.1), cached.flatMap List.range) :=
  prefill_sees_same_kv pairModel [fun _ _ => 1, fun _ _ => 3] Nat.two_pos
    (pairStep (fun _ _ => 1) (fun _ _ => 2)) (by decide) pairLaunches_fit

end Step

end MiniVllm
