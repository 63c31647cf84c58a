import MiniVllm.AttentionProofs.CacheWrite
import Mathlib.Analysis.SpecialFunctions.Exp

/-! The decode kernel computes the attention of the gathered keys and values. -/

namespace MiniVllm

open Flat LayerCache

namespace PagedAttentionGpu

lemma cacheOffset_eq (heads blockSize headDim b h pos : ℕ) : cacheOffset heads blockSize headDim b h pos =
    (headRow heads blockSize (b, pos) h * headDim : ℕ) := by
  rw [cacheOffset, headRow]
  push_cast
  ring

section Cache

variable {F : Type} {heads headDim : ℕ} (cache : LayerCache (Fin heads → Vec F headDim) (Fin heads → Vec F headDim))
  (cell : ℕ × ℕ) (hb : cell.1 < cache.numBlocks) (ho : cell.2 < cache.blockSize) (h : Fin heads)

include hb ho

lemma loadVec_key : loadVec cache.flatten.key (cacheOffset heads cache.blockSize headDim cell.1 h cell.2) headDim =
    .ok (cache.key cell h) :=
  loadVec_flat (headRows_getElem? cache.key hb ho h) (cacheOffset_eq heads cache.blockSize headDim cell.1 h cell.2)

lemma loadVec_value : loadVec cache.flatten.value (cacheOffset heads cache.blockSize headDim cell.1 h cell.2) headDim =
    .ok (cache.value cell h) :=
  loadVec_flat (headRows_getElem? cache.value hb ho h) (cacheOffset_eq heads cache.blockSize headDim cell.1 h cell.2)

end Cache

section Loops

variable {F : Type} [Field F] [LinearOrder F] (exp : F → F) (scale : F) {heads headDim : ℕ}
  (cache : LayerCache (Fin heads → Vec F headDim) (Fin heads → Vec F headDim)) (q : Vec F headDim) (h : Fin heads)

def decodeItem (table : List ℕ) (r : ℕ) : F × Vec F headDim :=
  (Attention.dot q (cache.key (tableCell cache.blockSize table r) h) * scale,
    cache.value (tableCell cache.blockSize table r) h)

lemma decodeToken_eq {b pos : ℕ} (hb : b < cache.numBlocks) (ho : pos < cache.blockSize)
    (st : OnlineSoftmax.State F headDim) :
    decodeToken exp cache.flatten.key cache.flatten.value scale cache.blockSize headDim heads q h b st pos =
      .ok (OnlineSoftmax.update exp st (Attention.dot q (cache.key (b, pos) h) * scale) (cache.value (b, pos) h)) := by
  have hk := loadVec_key cache (b, pos) hb ho h
  have hv := loadVec_value cache (b, pos) hb ho h
  simp only [decodeToken, hk, hv, bind, Except.bind, pure, Except.pure]

variable {blockTable : List (List ℤ)} {maxBlocksPerSeq pidSeq : ℕ} {row : List ℤ} {table : List ℕ}

lemma decodeBlock_eq (hrows : ∀ row ∈ blockTable, row.length = maxBlocksPerSeq) (hrow : blockTable[pidSeq]? = some row)
    {j b numFullBlocks n : ℕ} (partialLen : ℕ) (hj : row[j]? = some (b : ℤ)) (ht : table[j]? = some b)
    (hb : b < cache.numBlocks) (hn : (if j < numFullBlocks then cache.blockSize else partialLen) = n)
    (hle : n ≤ cache.blockSize) (st : OnlineSoftmax.State F headDim) :
    decodeBlock exp cache.flatten.key cache.flatten.value blockTable.flatten maxBlocksPerSeq scale cache.blockSize
        headDim heads q pidSeq h numFullBlocks partialLen st j =
      .ok (((List.range n).map (fun pos => decodeItem scale cache q h table (j * cache.blockSize + pos))).foldl
        (fun st item => OnlineSoftmax.update exp st item.1 item.2) st) := by
  have hlen : row.length = maxBlocksPerSeq := hrows row (List.mem_of_getElem? hrow)
  have hlt : j < maxBlocksPerSeq := hlen ▸ (List.getElem?_eq_some_iff.mp hj).1
  have hload : load blockTable.flatten (pidSeq * maxBlocksPerSeq + j : ℤ) = .ok (b : ℤ) := by
    apply load_eq (r := pidSeq * maxBlocksPerSeq + j) _ (by push_cast; ring)
    rw [flatten_getElem? hrows hrow hlt, hj]
  simp only [decodeBlock, hload, bind, Except.bind, if_pos (Int.natCast_nonneg b), hn]
  rw [List.foldl_map]
  refine foldlM_ok (fun pos hpos st => ?_) st
  have hpos : pos < cache.blockSize := (List.mem_range.mp hpos).trans_le hle
  have hcell : tableCell cache.blockSize table (j * cache.blockSize + pos) = (b, pos) := by
    have hdiv : (j * cache.blockSize + pos) / cache.blockSize = j := by
      rw [Nat.mul_comm, Nat.mul_add_div (by omega), Nat.div_eq_of_lt hpos, Nat.add_zero]
    rw [tableCell, hdiv, Nat.mul_add_mod_self_right, Nat.mod_eq_of_lt hpos, List.getD_eq_getElem?_getD, ht,
      Option.getD_some]
  rw [decodeToken_eq exp scale cache q h hb hpos st, decodeItem, hcell]

lemma run_decodeItem_add (m t : ℕ) :
    OnlineSoftmax.run exp ((List.range (m + t)).map (decodeItem scale cache q h table)) =
      ((List.range t).map (fun pos => decodeItem scale cache q h table (m + pos))).foldl
        (fun st item => OnlineSoftmax.update exp st item.1 item.2)
        (OnlineSoftmax.run exp ((List.range m).map (decodeItem scale cache q h table))) := by
  rw [List.range_add, List.map_append, List.map_map, OnlineSoftmax.run, List.foldl_append]
  rfl

section Blocks

variable (hpos : 0 < cache.blockSize) (hrows : ∀ row ∈ blockTable, row.length = maxBlocksPerSeq)
  (hrow : blockTable[pidSeq]? = some row) {n : ℕ}
  (hvalid : ∀ j, j * cache.blockSize < n →
    ∃ b : ℕ, row[j]? = some (b : ℤ) ∧ table[j]? = some b ∧ b < cache.numBlocks)

include hpos hrows hrow hvalid

lemma fullBlocks_eq (partialLen : ℕ) {j : ℕ} (hj : j ≤ n / cache.blockSize) :
    (List.range j).foldlM
        (decodeBlock exp cache.flatten.key cache.flatten.value blockTable.flatten maxBlocksPerSeq scale cache.blockSize
          headDim heads q pidSeq h (n / cache.blockSize) partialLen) OnlineSoftmax.init =
      .ok (OnlineSoftmax.run exp ((List.range (j * cache.blockSize)).map (decodeItem scale cache q h table))) := by
  induction j with
  | zero =>
    rw [Nat.zero_mul]
    rfl
  | succ j ih =>
    have hend : (j + 1) * cache.blockSize ≤ n := (Nat.mul_le_mul_right _ hj).trans (Nat.div_mul_le_self n _)
    rw [Nat.succ_mul] at hend
    obtain ⟨b, hb, ht, hlt⟩ := hvalid j (by omega)
    have hblock := decodeBlock_eq exp scale cache q h hrows hrow partialLen hb ht hlt
      (if_pos (show j < n / cache.blockSize from hj)) le_rfl
      (OnlineSoftmax.run exp ((List.range (j * cache.blockSize)).map (decodeItem scale cache q h table)))
    rw [List.range_succ, List.foldlM_append, ih (Nat.le_of_succ_le hj)]
    simp only [bind, Except.bind, List.foldlM_cons, List.foldlM_nil, hblock, pure, Except.pure]
    rw [Nat.succ_mul, run_decodeItem_add]

lemma decodeBlocks_eq :
    (List.range (n / cache.blockSize + if n % cache.blockSize > 0 then 1 else 0)).foldlM
        (decodeBlock exp cache.flatten.key cache.flatten.value blockTable.flatten maxBlocksPerSeq scale cache.blockSize
          headDim heads q pidSeq h (n / cache.blockSize) (n % cache.blockSize)) OnlineSoftmax.init =
      .ok (OnlineSoftmax.run exp ((List.range n).map (decodeItem scale cache q h table))) := by
  have hmul : n / cache.blockSize * cache.blockSize + n % cache.blockSize = n := by
    rw [Nat.mul_comm]
    exact Nat.div_add_mod n cache.blockSize
  have hfull := fullBlocks_eq exp scale cache q h hpos hrows hrow hvalid (n % cache.blockSize) le_rfl
  by_cases hpartial : n % cache.blockSize > 0
  · obtain ⟨b, hb, ht, hlt⟩ := hvalid (n / cache.blockSize) (by omega)
    have hblock := decodeBlock_eq exp scale cache q h hrows hrow (n % cache.blockSize) hb ht hlt
      (if_neg (lt_irrefl (n / cache.blockSize))) (Nat.mod_lt n hpos).le
      (OnlineSoftmax.run exp ((List.range (n / cache.blockSize * cache.blockSize)).map
        (decodeItem scale cache q h table)))
    rw [if_pos hpartial, List.range_succ, List.foldlM_append, hfull]
    simp only [bind, Except.bind, List.foldlM_cons, List.foldlM_nil, hblock, pure, Except.pure]
    rw [← run_decodeItem_add, hmul]
  · have hexact : n / cache.blockSize * cache.blockSize = n := by omega
    rw [if_neg hpartial, Nat.add_zero, hfull, hexact]

end Blocks

end Loops

lemma blockIds_getElem? {row : List ℤ} {j b : ℕ} (h : ∀ i ≤ j, ∃ b : ℕ, row[i]? = some (b : ℤ))
    (hb : row[j]? = some (b : ℤ)) : (AttentionBackendRef.blockIds row)[j]? = some b := by
  induction row generalizing j with
  | nil => simp at hb
  | cons x row ih =>
    obtain ⟨c, hc⟩ := h 0 (Nat.zero_le j)
    obtain rfl : x = (c : ℤ) := Option.some.inj hc
    have hids : AttentionBackendRef.blockIds ((c : ℤ) :: row) = c :: AttentionBackendRef.blockIds row := by
      rw [AttentionBackendRef.blockIds, List.filter_cons_of_pos (by simp)]
      rfl
    rw [hids]
    cases j with
    | zero =>
      have hcb : (c : ℤ) = b := by simpa using hb
      rw [List.getElem?_cons_zero, Int.ofNat_inj.mp hcb]
    | succ j =>
      refine ih (fun i hi => ?_) (by simpa using hb)
      obtain ⟨b, hb⟩ := h (i + 1) (Nat.succ_le_succ hi)
      exact ⟨b, by simpa using hb⟩

structure DecodeBatch {Q : Type} (numBlocks blockSize maxBlocksPerSeq : ℕ) (query : List Q)
    (blockTable : List (List ℤ)) (kvLenAfter : List ℕ) : Prop where
  rows : ∀ row ∈ blockTable, row.length = maxBlocksPerSeq
  tables : blockTable.length = query.length
  lengths : kvLenAfter.length = query.length
  nonempty : ∀ n ∈ kvLenAfter, 1 ≤ n
  valid : ∀ (i : ℕ) (row : List ℤ) (n : ℕ), blockTable[i]? = some row → kvLenAfter[i]? = some n →
    ∀ j, j * blockSize < n → ∃ b : ℕ, row[j]? = some (b : ℤ) ∧ b < numBlocks

namespace DecodeBatch

variable {Q : Type} {numBlocks blockSize maxBlocksPerSeq : ℕ} {query : List Q} {blockTable : List (List ℤ)}
  {kvLenAfter : List ℕ} (hb : DecodeBatch numBlocks blockSize maxBlocksPerSeq query blockTable kvLenAfter)

include hb

lemma get {i : ℕ} (hi : i < query.length) :
    ∃ q row n, query[i]? = some q ∧ blockTable[i]? = some row ∧ kvLenAfter[i]? = some n :=
  ⟨_, _, _, List.getElem?_eq_getElem hi, List.getElem?_eq_getElem (hb.tables ▸ hi),
    List.getElem?_eq_getElem (hb.lengths ▸ hi)⟩

lemma valid_ids {i : ℕ} {row : List ℤ} {n : ℕ} (hrow : blockTable[i]? = some row) (hn : kvLenAfter[i]? = some n)
    {j : ℕ} (hj : j * blockSize < n) :
    ∃ b : ℕ, row[j]? = some (b : ℤ) ∧ (AttentionBackendRef.blockIds row)[j]? = some b ∧ b < numBlocks := by
  obtain ⟨b, hb', hlt⟩ := hb.valid i row n hrow hn j hj
  refine ⟨b, hb', blockIds_getElem? (fun k hk => ?_) hb', hlt⟩
  obtain ⟨c, hc, -⟩ := hb.valid i row n hrow hn k ((Nat.mul_le_mul_right _ hk).trans_lt hj)
  exact ⟨c, hc⟩

end DecodeBatch

section Batch

variable {F : Type} [Field F] [LinearOrder F] (exp : F → F) (scale : F) {mc : ModelConfig}
  (cache : LayerCache (KvRow F mc) (KvRow F mc)) {query : List (QueryRow F mc)} {blockTable : List (List ℤ)}
  {kvLenAfter : List ℕ} {maxBlocksPerSeq : ℕ}

def decodeItems (q : QueryRow F mc) (row : List ℤ) (n : ℕ) (h : Fin mc.numHeads) : List (F × Vec F mc.headDim) :=
  (List.range n).map (fun r =>
    let cell := tableCell cache.blockSize (AttentionBackendRef.blockIds row) r
    (Attention.dot (q h) (QwenModel.repeatInterleave (cache.key cell) h) * scale,
      QwenModel.repeatInterleave (cache.value cell) h))

def decodeOutput (q : QueryRow F mc) (row : List ℤ) (n : ℕ) : QueryRow F mc := fun h i =>
  (OnlineSoftmax.run exp (decodeItems scale cache q row n h)).acc i /
    (OnlineSoftmax.run exp (decodeItems scale cache q row n h)).s

def decodeOutputs (query : List (QueryRow F mc)) (blockTable : List (List ℤ)) (kvLenAfter : List ℕ) :
    List (QueryRow F mc) :=
  (query.zip (blockTable.zip kvLenAfter)).map (fun x => decodeOutput exp scale cache x.1 x.2.1 x.2.2)

variable (hpos : 0 < cache.blockSize)
  (hb : DecodeBatch cache.numBlocks cache.blockSize maxBlocksPerSeq query blockTable kvLenAfter)

lemma decodeOutputs_getElem? {i : ℕ} {q : QueryRow F mc} {row : List ℤ} {n : ℕ} (hq : query[i]? = some q)
    (hrow : blockTable[i]? = some row) (hn : kvLenAfter[i]? = some n) :
    (decodeOutputs exp scale cache query blockTable kvLenAfter)[i]? = some (decodeOutput exp scale cache q row n) := by
  have hzip : (query.zip (blockTable.zip kvLenAfter))[i]? = some (q, row, n) :=
    List.getElem?_zip_eq_some.mpr ⟨hq, List.getElem?_zip_eq_some.mpr ⟨hrow, hn⟩⟩
  rw [decodeOutputs, List.getElem?_map, hzip, Option.map_some]

include hb

lemma length_decodeOutputs : (decodeOutputs exp scale cache query blockTable kvLenAfter).length = query.length := by
  rw [decodeOutputs, List.length_map, List.length_zip, List.length_zip, hb.tables, hb.lengths, min_self, min_self]

include hpos

lemma decodeSoftmax_eq {i : ℕ} {q : QueryRow F mc} {row : List ℤ} {n : ℕ} (hq : query[i]? = some q)
    (hrow : blockTable[i]? = some row) (hn : kvLenAfter[i]? = some n) (h : Fin mc.numHeads) :
    decodeSoftmax exp (flat (flat query)) cache.flatten.key cache.flatten.value blockTable.flatten kvLenAfter
        maxBlocksPerSeq scale cache.blockSize mc.headDim mc.numHeads mc.numKvHeads (mc.numHeads / mc.numKvHeads) i h =
      .ok (OnlineSoftmax.run exp (decodeItems scale cache q row n h)) := by
  have hlen : load kvLenAfter i = .ok n := load_eq hn rfl
  have hquery : loadVec (flat (flat query)) (i * mc.numHeads * mc.headDim + h * mc.headDim) mc.headDim = .ok (q h) := by
    apply loadVec_flat (flat_getElem? hq h)
    push_cast
    ring
  have hblocks := decodeBlocks_eq exp scale cache (q h) ⟨h / (mc.numHeads / mc.numKvHeads), mc.kvHead_lt h.isLt⟩
    hpos hb.rows hrow (fun j hj => hb.valid_ids hrow hn hj)
  simp only [decodeSoftmax, hlen, hquery, bind, Except.bind]
  exact hblocks

lemma pagedDecodeKernel_eq {i : ℕ} {q : QueryRow F mc} {row : List ℤ} {n : ℕ} (hq : query[i]? = some q)
    (hrow : blockTable[i]? = some row) (hn : kvLenAfter[i]? = some n) (h : Fin mc.numHeads)
    (out : List (Vec F mc.headDim)) (hout : i * mc.numHeads + h < out.length) :
    pagedDecodeKernel exp (flat (flat query)) cache.flatten.key cache.flatten.value blockTable.flatten kvLenAfter
        maxBlocksPerSeq scale cache.blockSize mc.headDim mc.numHeads mc.numKvHeads (mc.numHeads / mc.numKvHeads)
        (flat out) (i, h) =
      .ok (flat (out.set (i * mc.numHeads + h) (decodeOutput exp scale cache q row n h))) := by
  have hsoftmax := decodeSoftmax_eq exp scale cache hpos hb hq hrow hn h
  simp only [pagedDecodeKernel, hsoftmax, bind, Except.bind]
  apply storeVec_flat out hout
  push_cast
  ring

lemma decodeGrid_eq {order : List (ℕ × ℕ)}
    (ho : order.Perm ((List.range query.length).product (List.range mc.numHeads))) {output : List F}
    (hlen : output.length = query.length * mc.numHeads * mc.headDim) :
    order.foldlM (pagedDecodeKernel exp (flat (flat query)) cache.flatten.key cache.flatten.value blockTable.flatten
        kvLenAfter maxBlocksPerSeq scale cache.blockSize mc.headDim mc.numHeads mc.numKvHeads
        (mc.numHeads / mc.numKvHeads)) output =
      .ok (flat (flat (decodeOutputs exp scale cache query blockTable kvLenAfter))) := by
  obtain ⟨rows, hrows, rfl⟩ := exists_rows mc.headDim hlen
  set out := flat (decodeOutputs exp scale cache query blockTable kvLenAfter) with hout
  have houtlen : out.length = query.length * mc.numHeads := by
    rw [hout, length_flat, length_decodeOutputs exp scale cache hb]
  rw [← foldl_grid ho (fun _ => 0) houtlen hrows]
  refine foldlM_simulates (I := fun rows => rows.length = query.length * mc.numHeads)
    (fun pid hpid rows hlen => ⟨?_, ?_⟩) hrows
  · obtain ⟨hi, hh⟩ := grid_lt ho hpid
    obtain ⟨q, row, n, hq, hrow, hn⟩ := hb.get hi
    have hkernel := pagedDecodeKernel_eq exp scale cache hpos hb hq hrow hn ⟨pid.2, hh⟩ rows
      (hlen ▸ grid_row_lt ho hpid)
    have hvalue : out[pid.1 * mc.numHeads + pid.2]? = some (decodeOutput exp scale cache q row n ⟨pid.2, hh⟩) :=
      flat_getElem? (decodeOutputs_getElem? exp scale cache hq hrow hn) ⟨pid.2, hh⟩
    rw [List.getD_eq_getElem?_getD, hvalue]
    exact hkernel
  · rw [List.length_set, hlen]

lemma tritonDecodeAttention_eq (hdim : mc.headDim = 64 ∨ mc.headDim = 128)
    (hpow : cache.blockSize &&& (cache.blockSize - 1) = 0) {order : List (ℕ × ℕ)}
    (ho : order.Perm ((List.range query.length).product (List.range mc.numHeads))) {output : List F}
    (hlen : output.length = query.length * mc.numHeads * mc.headDim) :
    tritonDecodeAttention exp query cache.flatten blockTable maxBlocksPerSeq kvLenAfter scale cache.blockSize order
        output =
      .ok (flat (flat (decodeOutputs exp scale cache query blockTable kvLenAfter))) := by
  have hnone : ¬ kvLenAfter.any (· < 1) = true := by
    intro hany
    obtain ⟨n, hn, hlt⟩ := List.any_eq_true.mp hany
    exact absurd (hb.nonempty n hn) (not_le.mpr (of_decide_eq_true hlt))
  have hdvd : mc.numHeads % mc.numKvHeads = 0 := Nat.mod_eq_zero_of_dvd mc.numKvHeads_dvd
  rw [tritonDecodeAttention, if_pos ⟨hdim, ⟨hpos, hpow⟩, hdvd, hb.tables, hb.lengths⟩, if_neg hnone]
  split_ifs with hempty
  · obtain rfl := List.length_eq_zero_iff.mp hempty
    obtain rfl : output = [] := List.length_eq_zero_iff.mp (by simpa using hlen)
    rfl
  · rw [decodeGrid_eq exp scale cache hpos hb ho hlen]
    rfl

end Batch

section Reals

variable {mc : ModelConfig} (scale : ℝ) (cache : LayerCache (KvRow ℝ mc) (KvRow ℝ mc)) (query : List (QueryRow ℝ mc))
  (blockTable : List (List ℤ)) (kvLenAfter : List ℕ) (maxBlocksPerSeq : ℕ)

def AttendsGathered (q out : QueryRow ℝ mc) (row : List ℤ) (n : ℕ) : Prop :=
  ∃ k v, gatherPagedKv cache (AttentionBackendRef.blockIds row) n cache.blockSize = .ok (k, v) ∧
    ∀ h, out h = Attention.attend Real.exp scale (q h) ((k.map QwenModel.repeatInterleave).map (· h))
      ((v.map QwenModel.repeatInterleave).map (· h)) (List.replicate n true)

structure DecodesExactly (order : List (ℕ × ℕ)) (output : List ℝ) : Prop where
  attends : ∃ out : List (QueryRow ℝ mc),
    order.foldlM (pagedDecodeKernel Real.exp (flat (flat query)) cache.flatten.key cache.flatten.value
      blockTable.flatten kvLenAfter maxBlocksPerSeq scale cache.blockSize mc.headDim mc.numHeads mc.numKvHeads
      (mc.numHeads / mc.numKvHeads)) output = .ok (flat (flat out)) ∧ out.length = query.length ∧
    ∀ (i : ℕ) (q : QueryRow ℝ mc) (row : List ℤ) (n : ℕ), query[i]? = some q → blockTable[i]? = some row →
      kvLenAfter[i]? = some n → ∃ o : QueryRow ℝ mc, out[i]? = some o ∧ AttendsGathered scale cache q o row n
  positive : ∀ i < query.length, ∀ h < mc.numHeads, ∃ st,
    decodeSoftmax Real.exp (flat (flat query)) cache.flatten.key cache.flatten.value blockTable.flatten kvLenAfter
      maxBlocksPerSeq scale cache.blockSize mc.headDim mc.numHeads mc.numKvHeads (mc.numHeads / mc.numKvHeads) i h =
        .ok st ∧ 0 < st.s

variable {cache query blockTable kvLenAfter maxBlocksPerSeq} (hpos : 0 < cache.blockSize)
  (hb : DecodeBatch cache.numBlocks cache.blockSize maxBlocksPerSeq query blockTable kvLenAfter)

include hpos hb

lemma decodeOutput_attends {i : ℕ} {q : QueryRow ℝ mc} {row : List ℤ} {n : ℕ} (hrow : blockTable[i]? = some row)
    (hn : kvLenAfter[i]? = some n) :
    AttendsGathered scale cache q (decodeOutput Real.exp scale cache q row n) row n := by
  have hone := hb.nonempty n (List.mem_of_getElem? hn)
  have hblocks : ∀ r < n, ∃ b, (AttentionBackendRef.blockIds row)[r / cache.blockSize]? = some b ∧
      b < cache.numBlocks := by
    intro r hr
    have hdiv : r / cache.blockSize * cache.blockSize < n := (Nat.div_mul_le_self r _).trans_lt hr
    obtain ⟨b, -, hb, hlt⟩ := hb.valid_ids hrow hn hdiv
    exact ⟨b, hb, hlt⟩
  have hgather := gatherPagedKv_eq hpos rfl hblocks
  refine ⟨_, _, hgather, fun h => funext fun i => ?_⟩
  let kvHead : Fin mc.numKvHeads := ⟨h / (mc.numHeads / mc.numKvHeads), mc.kvHead_lt h.isLt⟩
  let cell := tableCell cache.blockSize (AttentionBackendRef.blockIds row)
  have hrun := OnlineSoftmax.run_attend Real.exp_add Real.exp_pos scale (q h) (fun r => cache.key (cell r) kvHead)
    (fun r => cache.value (cell r) kvHead) hone i
  refine hrun.trans ?_
  simp only [List.map_map]
  rfl

theorem pagedDecode_exact {order : List (ℕ × ℕ)}
    (ho : order.Perm ((List.range query.length).product (List.range mc.numHeads))) {output : List ℝ}
    (hlen : output.length = query.length * mc.numHeads * mc.headDim) :
    DecodesExactly scale cache query blockTable kvLenAfter maxBlocksPerSeq order output where
  attends := by
    refine ⟨_, decodeGrid_eq Real.exp scale cache hpos hb ho hlen, length_decodeOutputs Real.exp scale cache hb, ?_⟩
    intro i q row n hq hrow hn
    exact ⟨_, decodeOutputs_getElem? Real.exp scale cache hq hrow hn, decodeOutput_attends scale hpos hb hrow hn⟩
  positive := by
    intro i hi h hh
    obtain ⟨q, row, n, hq, hrow, hn⟩ := hb.get hi
    refine ⟨_, decodeSoftmax_eq Real.exp scale cache hpos hb hq hrow hn ⟨h, hh⟩, ?_⟩
    apply OnlineSoftmax.run_weight_pos Real.exp_add Real.exp_pos
    have hone := hb.nonempty n (List.mem_of_getElem? hn)
    simp only [decodeItems, ne_eq, List.map_eq_nil_iff, List.range_eq_nil]
    omega

end Reals

def pairConfig : ModelConfig where
  numHeads := 2
  numKvHeads := 1
  headDim := 1
  maxPositionEmbeddings := 8
  numKvHeads_dvd := one_dvd 2

theorem pagedDecode_exact_pair :
    DecodesExactly 1
      (⟨4, 2, fun _ _ _ => 0, fun cell _ _ => cell.1⟩ : LayerCache (KvRow ℝ pairConfig) (KvRow ℝ pairConfig))
      [fun _ _ => 1] [[3, 0, -1]] [3] 3 [(0, 1), (0, 0)] [5, 6] := by
  refine pagedDecode_exact 1 Nat.two_pos ⟨?_, rfl, rfl, ?_, ?_⟩ (by decide) rfl
  · intro row hrow
    rw [List.mem_singleton.mp hrow]
    rfl
  · intro n hn
    rw [List.mem_singleton.mp hn]
    exact Nat.le_add_left 1 2
  · intro i row n hrow hn j hj
    cases i with
    | succ i => cases hrow
    | zero =>
      obtain rfl : [3, 0, -1] = row := Option.some.inj hrow
      obtain rfl : 3 = n := Option.some.inj hn
      have hj : j * 2 < 3 := hj
      obtain rfl | rfl : j = 0 ∨ j = 1 := by omega
      · exact ⟨3, rfl, Nat.lt_succ_self 3⟩
      · exact ⟨0, rfl, Nat.succ_pos 3⟩

end PagedAttentionGpu

end MiniVllm
