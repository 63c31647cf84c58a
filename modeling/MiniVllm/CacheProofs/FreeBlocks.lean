import MiniVllm.CacheProofs.Manager
import Mathlib.Algebra.BigOperators.Group.Finset.Basic
import Mathlib.Data.Finset.Card
import Mathlib.Data.List.GetD

/-! The number of free blocks. -/

namespace MiniVllm

variable {ε : Type}

namespace BlockAllocator

variable {a b : BlockAllocator ε}

lemma countP_eq_card (flags : List Bool) : flags.countP (· = true) =
    ((Finset.range flags.length).filter (fun p => flags.getD p false = true)).card := by
  induction flags using List.reverseRecOn with
  | nil => rfl
  | append_singleton flags flag ih =>
    have hold : (Finset.range flags.length).filter (fun p => (flags ++ [flag]).getD p false = true) =
        (Finset.range flags.length).filter (fun p => flags.getD p false = true) := by
      refine Finset.filter_congr fun p hp => ?_
      rw [List.getD_append _ _ _ _ (Finset.mem_range.mp hp)]
    have hnew : (flags ++ [flag]).getD flags.length false = flag := by
      simp
    rw [List.countP_append, ih, List.length_append, List.length_singleton, Finset.range_add_one, Finset.filter_insert,
      hold, hnew]
    cases flag with
    | true =>
      rw [if_pos rfl, Finset.card_insert_of_notMem (by simp)]
      rfl
    | false => rfl

lemma numFreeBlocks_eq (hv : a.Valid) : a.numFreeBlocks =
    ((Finset.range a.numBlocks).filter (fun p => a.isFree p = true)).card := by
  rw [numFreeBlocks, countP_eq_card, hv.flags]
  rfl

lemma numFreeBlocks_eq_zero (hv : a.Valid) (hnone : ∀ p, a.isFree p = false) : a.numFreeBlocks = 0 := by
  simp [numFreeBlocks_eq hv, hnone]

lemma numFreeBlocks_congr (ha : a.Valid) (hb : b.Valid) (hn : b.numBlocks = a.numBlocks)
    (hf : ∀ p, b.isFree p = a.isFree p) : b.numFreeBlocks = a.numFreeBlocks := by
  simp only [numFreeBlocks_eq ha, numFreeBlocks_eq hb, hn, hf]

end BlockAllocator

namespace BlockManager

variable {P : BlockParams ε} {sid : SeqId} {bm bm' : BlockManager ε}

lemma Balanced.numUsedBlocks_eq (hb : bm.Balanced) (hone : ∀ p, bm.allocator.getRefCount p ≤ 1) :
    bm.allocator.numUsedBlocks = bm.tables.total (fun t => t.getBlockIds.length) := by
  have hlength : ∀ sid t, bm.tables.get? sid = some t →
      t.getBlockIds.length = ∑ p ∈ Finset.range bm.allocator.numBlocks, t.getBlockIds.count p := by
    intro sid t ht
    have hsub : ∀ p ∈ (t.getBlockIds : Multiset ℕ), p ∈ Finset.range bm.allocator.numBlocks := by
      intro p hp
      have hm : p ∈ bm.getBlockTable sid := by
        rw [getBlockTable, bm.getTable_of_get? ht]
        exact Multiset.mem_coe.mp hp
      exact Finset.mem_range.mpr (hb.lt_numBlocks hm)
    rw [← Multiset.coe_card, ← Multiset.sum_count_eq_card hsub]
    simp only [Multiset.coe_count]
  have hentries : ∀ p ∈ Finset.range bm.allocator.numBlocks,
      bm.entriesAt p = if ¬ bm.allocator.isFree p = true then 1 else 0 := by
    intro p hp
    have hle := hone p
    have hfree := hb.valid.free_iff p (Finset.mem_range.mp hp)
    rw [hb.refs p] at hle hfree
    split_ifs with hused
    · have hzero := hfree.mp hused
      omega
    · have hne := mt hfree.mpr hused
      omega
  have hcard := Finset.card_filter_add_card_filter_not (s := Finset.range bm.allocator.numBlocks)
    (fun p => bm.allocator.isFree p = true)
  rw [Finset.card_range] at hcard
  calc bm.allocator.numUsedBlocks
    _ = ((Finset.range bm.allocator.numBlocks).filter (fun p => ¬ bm.allocator.isFree p = true)).card := by
      rw [BlockAllocator.numUsedBlocks, BlockAllocator.numFreeBlocks_eq hb.valid]
      omega
    _ = ∑ p ∈ Finset.range bm.allocator.numBlocks, bm.entriesAt p := by
      rw [Finset.card_filter]
      exact (Finset.sum_congr rfl hentries).symm
    _ = bm.tables.total (fun t => ∑ p ∈ Finset.range bm.allocator.numBlocks, t.getBlockIds.count p) :=
      (bm.tables.total_sum (fun p t => t.getBlockIds.count p) _).symm
    _ = bm.tables.total (fun t => t.getBlockIds.length) :=
      (bm.tables.total_ext _ _ hlength).symm

lemma Takes.numFreeBlocks {hash : Option ℤ} {p : ℕ} (hb : bm.Balanced) (h : Takes P sid hash p bm bm') :
    bm'.allocator.numFreeBlocks + 1 = bm.allocator.numFreeBlocks := by
  have hmem : p ∈ (Finset.range bm.allocator.numBlocks).filter (fun p => bm.allocator.isFree p = true) :=
    Finset.mem_filter.mpr ⟨Finset.mem_range.mpr (BlockAllocator.lt_of_isFree hb.valid h.wasFree), h.wasFree⟩
  have herase : (Finset.range bm.allocator.numBlocks).filter (fun r => bm'.allocator.isFree r = true) =
      ((Finset.range bm.allocator.numBlocks).filter (fun r => bm.allocator.isFree r = true)).erase p := by
    ext r
    rw [Finset.mem_erase, Finset.mem_filter, Finset.mem_filter, h.isFree]
    by_cases hr : r = p <;> simp [hr]
  rw [BlockAllocator.numFreeBlocks_eq hb.valid, BlockAllocator.numFreeBlocks_eq h.balanced.valid, h.numBlocks, herase]
  exact Finset.card_erase_add_one hmem

lemma Shares.numFreeBlocks {pids : List ℕ} (hb : bm.Balanced) (h : Shares sid pids bm bm') :
    bm'.allocator.numFreeBlocks = bm.allocator.numFreeBlocks :=
  BlockAllocator.numFreeBlocks_congr hb.valid h.balanced.valid h.numBlocks h.isFree

lemma Admits.numFreeBlocks {prompt : List ℕ} (hb : bm.Balanced) (h : Admits P sid prompt bm bm') :
    bm'.allocator.numFreeBlocks = bm.allocator.numFreeBlocks :=
  BlockAllocator.numFreeBlocks_congr hb.valid h.balanced.valid h.numBlocks h.isFree

lemma Releases.numFreeBlocks (hb : bm.Balanced) (h : Releases P sid bm bm') :
    bm.allocator.numFreeBlocks ≤ bm'.allocator.numFreeBlocks := by
  rw [BlockAllocator.numFreeBlocks_eq hb.valid, BlockAllocator.numFreeBlocks_eq h.balanced.valid, h.numBlocks]
  refine Finset.card_le_card fun p hp => ?_
  obtain ⟨hlt, hfree⟩ := Finset.mem_filter.mp hp
  refine Finset.mem_filter.mpr ⟨hlt, (h.balanced.valid.free_iff p ?_).mpr ?_⟩
  · rw [h.numBlocks]
    exact Finset.mem_range.mp hlt
  · have hzero := BlockAllocator.getRefCount_of_isFree hb.valid hfree
    have hcount := List.count_eq_zero_of_not_mem (hb.not_mem_of_isFree hfree sid)
    rw [h.refCount, hzero, hcount]
    rfl

end BlockManager

end MiniVllm
