import MiniVllm.Cache.PagedCache
import MiniVllm.Library.Scatter

/-! What `write_to_paged_cache` leaves in the cache and what `gather_paged_kv` reads from it. -/

namespace MiniVllm

namespace LayerCache

variable {K V : Type} {blockSize : ℕ}

def tableCell (blockSize : ℕ) (table : List ℕ) (position : ℕ) : ℕ × ℕ :=
  (table.getD (position / blockSize) 0, position % blockSize)

lemma cellOf_slot {b o : ℕ} (h : o < blockSize) : cellOf blockSize (b * blockSize + o) = (b, o) := by
  have hpos : 0 < blockSize := by omega
  rw [cellOf, Nat.mul_comm, Nat.mul_add_div hpos, Nat.div_eq_of_lt h, Nat.mul_add_mod, Nat.mod_eq_of_lt h,
    Nat.add_zero]

def writeAll (blockSize : ℕ) (cache : LayerCache K V) (writes : List (ℕ × K × V)) : LayerCache K V :=
  { cache with
    key := scatter cache.key (writes.map (fun w => (cellOf blockSize w.1, w.2.1)))
    value := scatter cache.value (writes.map (fun w => (cellOf blockSize w.1, w.2.2))) }

lemma forEach_writeToken (cache : LayerCache K V) (writes : List (ℕ × K × V)) (t : ℕ)
    (h : ∀ w ∈ writes, w.1 < cache.numBlocks * blockSize) :
    forEach (writeToken blockSize) cache ((writes.map (fun w => ((w.1 : ℤ), w.2))).zipIdx t) =
      (.ok (), writeAll blockSize cache writes) := by
  induction writes generalizing cache t with
  | nil => rfl
  | cons w writes ih =>
    have hlt := h w List.mem_cons_self
    have hstep : writeToken blockSize cache (((w.1 : ℤ), w.2), t) =
        (.ok (), cache.setCell (cellOf blockSize w.1) w.2.1 w.2.2) := by
      simp only [writeToken]
      rw [if_neg (by omega), if_neg (by omega), Int.toNat_natCast]
    simp only [List.map_cons, List.zipIdx_cons, forEach, hstep]
    exact ih _ _ fun v hv => h v (List.mem_cons_of_mem _ hv)

theorem writeToPagedCache_ok (hpos : 0 < blockSize) {cache : LayerCache K V} (hbs : cache.blockSize = blockSize)
    (writes : List (ℕ × K × V)) (h : ∀ w ∈ writes, w.1 < cache.numBlocks * blockSize) :
    writeToPagedCache (writes.map (·.2.1)) (writes.map (·.2.2)) cache (writes.map (fun w => (w.1 : ℤ))) blockSize =
      (.ok (), writeAll blockSize cache writes) := by
  have hvalid : validateInputs (writes.map (·.2.1)) (writes.map (·.2.2)) cache (writes.map (fun w => (w.1 : ℤ)))
      blockSize = .ok () := by
    simp only [validateInputs, List.length_map, hbs, ne_eq, not_true_eq_false, if_false, if_neg hpos.ne']
  have hzip : (writes.map (fun w => (w.1 : ℤ))).zip ((writes.map (·.2.1)).zip (writes.map (·.2.2))) =
      writes.map (fun w => ((w.1 : ℤ), w.2)) := by
    rw [List.zip_map', List.zip_map']
  simp only [writeToPagedCache, hvalid, hzip]
  exact forEach_writeToken cache writes 0 h

section WriteAll

variable (cache : LayerCache K V) {writes : List (ℕ × K × V)}

lemma writeAll_of_mem (hn : (writes.map (fun w => cellOf blockSize w.1)).Nodup) {w : ℕ × K × V} (hw : w ∈ writes) :
    (writeAll blockSize cache writes).key (cellOf blockSize w.1) = w.2.1 ∧
      (writeAll blockSize cache writes).value (cellOf blockSize w.1) = w.2.2 := by
  have hkeys : ((writes.map (fun w => (cellOf blockSize w.1, w.2.1))).map Prod.fst).Nodup := by rwa [List.map_map]
  have hvalues : ((writes.map (fun w => (cellOf blockSize w.1, w.2.2))).map Prod.fst).Nodup := by rwa [List.map_map]
  exact ⟨scatter_of_mem hkeys (List.mem_map_of_mem hw) _, scatter_of_mem hvalues (List.mem_map_of_mem hw) _⟩

lemma writeAll_of_notMem {cell : ℕ × ℕ} (h : cell ∉ writes.map (fun w => cellOf blockSize w.1)) :
    (writeAll blockSize cache writes).key cell = cache.key cell ∧
      (writeAll blockSize cache writes).value cell = cache.value cell :=
  ⟨scatter_of_notMem (by rwa [List.map_map]) _, scatter_of_notMem (by rwa [List.map_map]) _⟩

end WriteAll

lemma gatherBlocks_eq (hpos : 0 < blockSize) {cache : LayerCache K V} (hbs : cache.blockSize = blockSize)
    (tableLength numTokens logicalIdx : ℕ) (table : List ℕ) (remaining : ℕ)
    (h : ∀ r < remaining, ∃ b, table[r / blockSize]? = some b ∧ b < cache.numBlocks) :
    gatherBlocks cache tableLength numTokens blockSize logicalIdx table remaining =
      .ok ((List.range remaining).map (fun r => cache.key (tableCell blockSize table r)),
        (List.range remaining).map (fun r => cache.value (tableCell blockSize table r))) := by
  induction table generalizing remaining logicalIdx with
  | nil =>
    cases remaining with
    | zero => rfl
    | succ n =>
      obtain ⟨b, hb, -⟩ := h 0 (Nat.succ_pos n)
      cases hb
  | cons pid rest ih =>
    cases remaining with
    | zero => rfl
    | succ n =>
      obtain ⟨b, hb, hlt⟩ := h 0 (Nat.succ_pos n)
      rw [Nat.zero_div] at hb
      obtain rfl : pid = b := Option.some.inj hb
      have hnext : ∀ r, (blockSize + r) / blockSize = r / blockSize + 1 := fun r => by
        rw [Nat.add_div_left r hpos]
      have hrest : ∀ r < n + 1 - min blockSize (n + 1), ∃ b, rest[r / blockSize]? = some b ∧ b < cache.numBlocks := by
        intro r hr
        obtain ⟨b, hb, hlt⟩ := h (blockSize + r) (by omega)
        rw [hnext] at hb
        exact ⟨b, hb, hlt⟩
      have hfirst : ∀ o ∈ List.range (min blockSize (n + 1)), tableCell blockSize (pid :: rest) o = (pid, o) := by
        intro o ho
        have hlt : o < blockSize := (List.mem_range.mp ho).trans_le (min_le_left _ _)
        rw [tableCell, Nat.div_eq_of_lt hlt, Nat.mod_eq_of_lt hlt, List.getD_cons_zero]
      have hsplit : List.range (n + 1) = List.range (min blockSize (n + 1)) ++
          (List.range (n + 1 - min blockSize (n + 1))).map (min blockSize (n + 1) + ·) := by
        rw [← List.range_add, Nat.add_sub_cancel' (min_le_right _ _)]
      -- When anything is left, the first block is full.
      have hlater : ∀ r ∈ List.range (n + 1 - min blockSize (n + 1)),
          tableCell blockSize (pid :: rest) (min blockSize (n + 1) + r) = tableCell blockSize rest r := by
        intro r hr
        have hr := List.mem_range.mp hr
        rw [min_eq_left (by omega), tableCell, hnext, List.getD_cons_succ, Nat.add_mod_left, tableCell]
      simp only [gatherBlocks, if_neg (Nat.not_le.mpr hlt), ih _ _ hrest, hbs, min_eq_left (min_le_left _ _)]
      rw [hsplit, List.map_append, List.map_append, List.map_map, List.map_map]
      refine congrArg Except.ok (Prod.ext (congrArg₂ _ ?_ ?_) (congrArg₂ _ ?_ ?_))
      · exact List.map_congr_left fun o ho => by rw [hfirst o ho]
      · exact List.map_congr_left fun r hr => by rw [Function.comp_apply, hlater r hr]
      · exact List.map_congr_left fun o ho => by rw [hfirst o ho]
      · exact List.map_congr_left fun r hr => by rw [Function.comp_apply, hlater r hr]

theorem gatherPagedKv_eq (hpos : 0 < blockSize) {cache : LayerCache K V} (hbs : cache.blockSize = blockSize)
    {table : List ℕ} {numTokens : ℕ}
    (h : ∀ r < numTokens, ∃ b, table[r / blockSize]? = some b ∧ b < cache.numBlocks) :
    gatherPagedKv cache table numTokens blockSize =
      .ok ((List.range numTokens).map (fun r => cache.key (tableCell blockSize table r)),
        (List.range numTokens).map (fun r => cache.value (tableCell blockSize table r))) :=
  gatherBlocks_eq hpos hbs _ _ _ _ _ h

end LayerCache

end MiniVllm
