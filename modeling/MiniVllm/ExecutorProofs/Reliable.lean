import MiniVllm.EngineProofs.WellFormed
import MiniVllm.SharingProofs.Hits

/-! Executors that raise on no batch of the engine. -/

namespace MiniVllm

variable {ε : Type}

/-- The executor raises on no batch that the engine hands to it, if the prompts are not empty. -/
def Reliable (S : Setup ε) : Prop :=
  ∀ (s : CoreState ε) (prefill decode : List Sequence), WellFormed S s →
    BatchReady S.config s.queue s.blockManager prefill decode → (∀ q ∈ prefill, q.promptTokenIds ≠ []) →
      ∃ output, (S.executor.execute (batchInput S.config s.blockManager prefill decode) s.blockManager).1 = .ok output

namespace FakeModelExecutor

variable {config : Config} {bm : BlockManager FakeState}

lemma executeInfo_ok {info : SequenceExecutionInfo} {l : ExecuteLoop} {x : FakeState}
    (hl : l.blockManager = bm.withListener x) (hc : Covered config.blockSize bm [info])
    (hlen : info.phase = .prefill → 0 < info.queryLen) : (executeInfo config l info).1 = .ok () := by
  obtain ⟨ht, hp, hd⟩ := hc info (by simp)
  cases hphase : info.phase with
  | prefill =>
    have hne : chunkPositions info ≠ [] := by
      have hpos := hlen hphase
      rw [chunkPositions, ne_eq, List.map_eq_nil_iff, List.range_eq_nil]
      omega
    simp only [executeInfo, hphase, executePrefill_eq ht l x hl hp, posAfter, if_neg hne,
      List.getLast?_eq_some_getLast hne]
    split_ifs <;> rfl
  | decode => simp only [executeInfo, hphase, executeDecode_eq ht l x hl (hd hphase)]

lemma executeInfos_ok {infos : List SequenceExecutionInfo} {l : ExecuteLoop} {x : FakeState}
    (hl : l.blockManager = bm.withListener x) (hc : Covered config.blockSize bm infos)
    (hlen : ∀ info ∈ infos, info.phase = .prefill → 0 < info.queryLen) :
    (forEach (executeInfo config) l infos).1 = .ok () := by
  induction infos generalizing l x with
  | nil => rfl
  | cons info rest ih =>
    have hone : Covered config.blockSize bm [info] := by
      intro i hi
      exact hc i (by simp [List.mem_singleton.mp hi])
    have hok := executeInfo_ok hl hone (hlen info (by simp))
    obtain ⟨y, hy⟩ := executeInfo_frame hl hone
    cases he : executeInfo config l info with
    | mk r l₁ =>
      rw [he] at hok hy
      simp only at hok hy
      subst hok
      simp only [forEach, he]
      exact ih hy (fun i hi => hc i (List.mem_cons_of_mem info hi)) fun i hi => hlen i (List.mem_cons_of_mem info hi)

end FakeModelExecutor

theorem fake_reliable (config : Config) (blockHash : List ℕ → ℤ) : Reliable (fakeSetup config blockHash) := by
  intro s prefill decode hw hr hne
  have hcov : Covered config.blockSize s.blockManager (batchInput config s.blockManager prefill decode).sequenceInfo :=
    batchInput_covered hw.queue hr (hw.contains_batch hr)
  have hlen : ∀ info ∈ (batchInput config s.blockManager prefill decode).sequenceInfo,
      info.phase = .prefill → 0 < info.queryLen := by
    intro info hi hphase
    rcases List.mem_append.mp hi with hi | hi
    · obtain ⟨-, m, hm, -, -, hlen, -⟩ := mem_prefillInfos hi
      obtain ⟨q, hq, rfl⟩ := List.mem_map.mp hm
      obtain ⟨hlive, hst⟩ := hr.prefill_live q hq
      have hchunk := config.maxPrefillChunkSize_pos
      have hpos : 0 < q.promptTokenIds.length := List.length_pos_iff.mpr (hne q hq)
      have hcursor : q.prefillCursor < q.promptTokenIds.length := by
        rcases hw.queue.runningSeq_phase hlive with ⟨-, -, -, h | ⟨-, h⟩⟩ | ⟨h, -⟩
        · exact h
        · omega
        · rw [hst] at h
          cases h
      rw [hlen]
      simp only [ModelInputBuilder.collectPrefill]
      omega
    · rw [(mem_decodeInfos hi).1] at hphase
      cases hphase
  have hok : (forEach (FakeModelExecutor.executeInfo config) { blockManager := s.blockManager }
      (batchInput config s.blockManager prefill decode).sequenceInfo).1 = .ok () :=
    FakeModelExecutor.executeInfos_ok (x := s.blockManager.allocator.listener) rfl hcov hlen
  cases he : forEach (FakeModelExecutor.executeInfo config) { blockManager := s.blockManager }
      (batchInput config s.blockManager prefill decode).sequenceInfo with
  | mk r l =>
    rw [he] at hok
    simp only at hok
    subst hok
    refine ⟨⟨l.sampledTokenIds, l.sampledSequenceIds⟩, ?_⟩
    have hexec : (fakeSetup config blockHash).executor.execute (batchInput config s.blockManager prefill decode)
        s.blockManager = (.ok ⟨l.sampledTokenIds, l.sampledSequenceIds⟩, l.blockManager) := by
      simp only [fakeSetup, fakeModelExecutor, FakeModelExecutor.execute, he]
    exact congrArg Prod.fst hexec

end MiniVllm
