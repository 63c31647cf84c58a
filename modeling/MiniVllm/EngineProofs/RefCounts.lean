import MiniVllm.EngineProofs.Refinement

/-! Reference counts are conserved along every run, and the tables are those of the live sequences. -/

namespace MiniVllm

variable {ε : Type} (S : Setup ε)

lemma contains_iff_live (ops : List LLMEngine.Op) (sid : SeqId) :
    (LLMEngine.run S ops).blockManager.tables.contains sid ↔
      ∃ q ∈ (LLMEngine.run S ops).queue.liveSeqs, q.seqId = sid := by
  have h := wellFormed_run S ops
  refine (h.tables sid).trans ⟨?_, ?_⟩
  · rintro ⟨q, hq, rfl⟩
    exact ⟨q, h.queue.mem_liveSeqs.mpr hq, rfl⟩
  · rintro ⟨q, hq, rfl⟩
    exact ⟨q, h.queue.mem_liveSeqs.mp hq, rfl⟩

lemma isFree_of_idle (ops : List LLMEngine.Op) (hidle : (LLMEngine.run S ops).queue.numRunning = 0) {p : ℕ}
    (hp : p < S.config.numGpuBlocks) : (LLMEngine.run S ops).blockManager.allocator.isFree p = true := by
  have h := wellFormed_run S ops
  have hlt : p < (LLMEngine.run S ops).blockManager.allocator.numBlocks := h.numBlocks ▸ hp
  refine (h.balanced.valid.free_iff p hlt).mpr ?_
  by_contra hne
  have hcount : (LLMEngine.run S ops).blockManager.allocator.getRefCount p =
      (LLMEngine.run S ops).blockManager.entriesAt p := h.balanced.refs p
  have hpos : 0 < (LLMEngine.run S ops).blockManager.entriesAt p := by
    have : (LLMEngine.run S ops).blockManager.allocator.getRefCount p ≠ 0 := hne
    omega
  obtain ⟨sid, hm⟩ := BlockManager.exists_of_entriesAt _ hpos
  obtain ⟨q, hq, -⟩ := h.holder_live hm
  have hnil : (LLMEngine.run S ops).queue.running.entries = [] := List.length_eq_zero_iff.mp hidle
  have hnone : (LLMEngine.run S ops).queue.runningSeq sid.request = none := by
    simp [RequestQueue.runningSeq, Dict.get?, hnil, Dict.lookup]
  rw [EngineState.core, hnone] at hq
  cases hq

theorem refCounts_conserved (ops : List LLMEngine.Op) :
    (∀ p, (LLMEngine.run S ops).blockManager.allocator.getRefCount p =
        (((LLMEngine.run S ops).blockManager.tables.total (fun t => t.getBlockIds.count p) : ℕ) : ℤ)) ∧
      (∀ sid, (LLMEngine.run S ops).blockManager.tables.contains sid ↔
        ∃ q ∈ (LLMEngine.run S ops).queue.liveSeqs, q.seqId = sid) ∧
      ((LLMEngine.run S ops).queue.numRunning = 0 → ∀ p < S.config.numGpuBlocks,
        (LLMEngine.run S ops).blockManager.allocator.isFree p = true) ∧
      ∀ sid, ∀ p ∈ (LLMEngine.run S ops).blockManager.getBlockTable sid,
        (LLMEngine.run S ops).blockManager.allocator.isFree p = false :=
  ⟨(wellFormed_run S ops).balanced.refs, contains_iff_live S ops, fun hidle _ hp => isFree_of_idle S ops hidle hp,
    fun _ _ hm => (wellFormed_run S ops).balanced.isFree_eq_false hm⟩

end MiniVllm
