import MiniVllm.CacheProofs.PagedCache
import MiniVllm.SharingProofs.Holders

/-! Without prefix caching every block has one holder, at one index. -/

namespace MiniVllm

open BlockManager LayerCache

variable {ε : Type} {S : Setup ε} {c : CallCondition ε} {s : CoreState ε}

def Exclusive (q : Sequence) (i : ℕ) (q' : Sequence) (j : ℕ) : Prop := q.seqId = q'.seqId ∧ i = j

lemma exclusive_rule (hoff : S.config.enablePrefixCaching = false) : SharingRule S c Exclusive where
  symm _ _ _ _ h := ⟨h.1.symm, h.2.symm⟩
  fresh _ _ := ⟨rfl, rfl⟩
  batch _ _ _ _ _ _ _ _ _ _ _ _ h := by
    rw [Exclusive, afterBatch_seqId, afterBatch_seqId]
    exact h
  hit s q position p _ _ _ _ _ _ _ hhit := by
    have hoff' : S.blockParams.enablePrefixCaching = false := hoff
    simp [ensureHit, promptHash, hoff'] at hhit
  admission s sg i p _ _ _ _ hm := by
    rw [probe_off (show S.blockParams.enablePrefixCaching = false from hoff)] at hm
    cases hm

lemma Pairs.cell_private (hpairs : Pairs Exclusive s) {q q' : Sequence} {blockSize r r' : ℕ}
    (hq : s.queue.runningSeq q.seqId.request = some q) (hq' : s.queue.runningSeq q'.seqId.request = some q')
    (hc : r / blockSize < (s.blockManager.getBlockTable q.seqId).length)
    (hc' : r' / blockSize < (s.blockManager.getBlockTable q'.seqId).length)
    (he : tableCell blockSize (s.blockManager.getBlockTable q.seqId) r =
      tableCell blockSize (s.blockManager.getBlockTable q'.seqId) r') : q.seqId = q'.seqId ∧ r = r' := by
  obtain ⟨hblock, hoffset⟩ := Prod.mk.inj he
  have h := Holds.of_covered hq hc
  have h' := Holds.of_covered hq' hc'
  rw [← hblock] at h'
  obtain ⟨hid, hidx⟩ := hpairs _ _ _ _ _ h h'
  refine ⟨hid, ?_⟩
  rw [← Nat.div_add_mod r blockSize, ← Nat.div_add_mod r' blockSize, hidx, hoffset]

lemma Pairs.disjoint_tables (hpairs : Pairs Exclusive s) {q q' : Sequence}
    (hq : s.queue.runningSeq q.seqId.request = some q) (hq' : s.queue.runningSeq q'.seqId.request = some q')
    (hne : q.seqId ≠ q'.seqId) :
    List.Disjoint (s.blockManager.getBlockTable q.seqId) (s.blockManager.getBlockTable q'.seqId) := by
  intro p hp hp'
  obtain ⟨i, hi⟩ := List.getElem?_of_mem hp
  obtain ⟨j, hj⟩ := List.getElem?_of_mem hp'
  exact hne (hpairs q i q' j p ⟨hq, hi⟩ ⟨hq', hj⟩).1

end MiniVllm
