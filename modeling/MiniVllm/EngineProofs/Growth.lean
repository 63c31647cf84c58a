import MiniVllm.CacheProofs.FreeBlocks
import MiniVllm.EngineProofs.Steps

/-! The blocks that the requests of the engine may still take, and that they stay free. -/

namespace MiniVllm

open EngineCore

variable {ε : Type} {S : Setup ε}

/-- The blocks of the positions that a request may write: the last token of its output never is. -/
def blockLimit (config : Config) (promptLen : ℕ) (maxTokens : ℤ) : ℕ :=
  (promptLen + (maxTokens - 1).toNat + config.blockSize - 1) / config.blockSize

def SequenceGroup.blockLimit (config : Config) (sg : SequenceGroup) : ℕ :=
  MiniVllm.blockLimit config sg.promptTokenIds.length sg.samplingParams.maxTokens

def SequenceGroup.growth (config : Config) (bm : BlockManager ε) (sg : SequenceGroup) : ℕ :=
  sg.blockLimit config - (bm.getBlockTable ⟨sg.requestId, 0⟩).length

def RequestQueue.growth (config : Config) (bm : BlockManager ε) (qu : RequestQueue) : ℕ :=
  qu.waiting.total (·.blockLimit config) + qu.running.total (·.growth config bm)

def Reserved (config : Config) (s : CoreState ε) : Prop :=
  s.queue.growth config s.blockManager ≤ s.blockManager.allocator.numFreeBlocks

def decoding : CallCondition ε where
  ensure _ _ q _ := q.status = .running → (q.numGeneratedTokens : ℤ) < q.samplingParams.maxTokens

lemma decoding_step {s : EngineState ε} (hw : WellFormed S s.core) (now : ℚ) : decoding.Step S s now := by
  have hwb := beginStep_wellFormed hw now
  have hschedule : decoding.Schedule S (beginStep S s now).core.queue (beginStep S s now).core.blockManager :=
    schedule_of_forall (fun _ _ _ => trivial) (fun _ _ _ => trivial) _ _
  obtain ⟨⟨result, queue, bm, hsched, hreach, hscheduled⟩, -⟩ := schedule_refines hwb hschedule
  have hq : QueueFormed queue (beginStep S s now).core.seqGroupCount := (hwb.reaches hreach).queue
  refine ⟨hschedule, ?_⟩
  rw [show Scheduler.schedule S (beginStep S s now).queue (beginStep S s now).blockManager = (.ok result, queue, bm)
    from hsched]
  refine fun _ => ⟨.of_mem (fun bm call hm => ?_) _, ?_⟩
  · rcases mem_ensureCalls.mp hm with ⟨hp, -⟩ | ⟨hd, -⟩
    · have hst := (mem_prefillSeqs hq hp).2
      exact fun hr => by cases hst.symm.trans hr
    · exact fun _ => (mem_decodeSeqs hq hscheduled hd).2.2
  · split <;> trivial

lemma decoding_runFrom {s : EngineState ε} (hw : WellFormed S s.core) (ops : List LLMEngine.Op) :
    decoding.RunFrom S s ops := by
  induction ops generalizing s with
  | nil => trivial
  | cons op rest ih =>
    have hop : decoding.Apply S s op := by
      cases op with
      | step now => exact decoding_step hw now
      | _ => trivial
    exact ⟨hop, ih (hw.reaches (apply_refines hw hop))⟩

lemma div_lt_blocks {position positions blockSize : ℕ} (hpos : 0 < blockSize) (h : position < positions) :
    position / blockSize < (positions + blockSize - 1) / blockSize := by
  have hle : (position + blockSize) / blockSize ≤ (positions + blockSize - 1) / blockSize :=
    Nat.div_le_div_right (by omega)
  rw [Nat.add_div_right _ hpos] at hle
  exact hle

section Transition

variable {s s' : CoreState ε} (hw : WellFormed S s)

include hw

omit hw in
lemma EnsureReady.lt_blockLimit {q : Sequence} {position : ℕ}
    (hready : EnsureReady S.config s.queue s.blockManager q position)
    (hc : q.status = .running → (q.numGeneratedTokens : ℤ) < q.samplingParams.maxTokens) {sg : SequenceGroup}
    (hl : LiveSeq sg q) : position / S.config.blockSize < sg.blockLimit S.config := by
  apply div_lt_blocks S.config.blockSize_pos
  rw [← hl.prompt, ← hl.params]
  rcases hready.place with ⟨hs, -, hlt⟩ | ⟨hs, rfl⟩
  · have hle := chunkEnd_le S.config (q := q)
    omega
  · have hlt := hc hs
    have hgen := (hl.phase.decode hs).2.1
    rw [decodePosition]
    omega

lemma growth_lt {q : Sequence} {position p : ℕ} {bm : BlockManager ε}
    (hready : EnsureReady S.config s.queue s.blockManager q position)
    (hc : q.status = .running → (q.numGeneratedTokens : ℤ) < q.samplingParams.maxTokens)
    (hlen : position / S.config.blockSize = (s.blockManager.getBlockTable q.seqId).length)
    (htable : ∀ sid, bm.getBlockTable sid =
      if sid = q.seqId then s.blockManager.getBlockTable q.seqId ++ [p] else s.blockManager.getBlockTable sid) :
    s.queue.growth S.config bm < s.queue.growth S.config s.blockManager := by
  obtain ⟨sg, hsg, -, hid, hl⟩ := hw.queue.runningSeq_group hready.live
  have hseq : q.seqId = ⟨sg.requestId, 0⟩ := hl.seqId
  refine Nat.add_lt_add_left (Dict.total_lt_total _ _ _ (fun rid g hg => ?_) hsg ?_) _
  · rw [SequenceGroup.growth, SequenceGroup.growth, htable]
    split_ifs with he
    · rw [he, List.length_append]
      omega
    · exact le_refl _
  · have hlimit := hready.lt_blockLimit hc hl
    rw [SequenceGroup.growth, SequenceGroup.growth, htable, if_pos hseq.symm, List.length_append, ← hseq]
    simp only [List.length_singleton]
    omega

lemma growth_others {bm : BlockManager ε} (rid : RequestId) (htable : ∀ sid : SeqId, sid.request ≠ rid →
    bm.getBlockTable sid = s.blockManager.getBlockTable sid) {pool : Dict RequestId SequenceGroup}
    (hpool : ∀ r sg, pool.get? r = some sg → r ≠ rid ∧ s.queue.running.get? r = some sg) :
    pool.total (·.growth S.config bm) ≤ pool.total (·.growth S.config s.blockManager) := by
  refine Dict.total_le_total _ _ _ fun r sg hg => ?_
  obtain ⟨hne, hsg⟩ := hpool r sg hg
  have hid := (hw.queue.running r sg hsg).1
  rw [SequenceGroup.growth, SequenceGroup.growth, htable _ (by rw [hid]; exact hne)]

lemma Reserved.retire (h : Reserved S.config s) {sg sg' : SequenceGroup} {q : Sequence}
    (hrun : s.queue.running.get? sg.requestId = some sg) (hseqs : sg.seqs = [q]) (hid : sg'.requestId = sg.requestId) :
    Reserved S.config ⟨s.queue.markFinished sg', s.blockManager.free S.blockParams q.seqId, s.seqGroupCount⟩ := by
  have hlive := hw.queue.runningSeq_eq_some.mpr ⟨sg, hrun, hseqs⟩
  have hf := BlockManager.free_spec S.blockParams hw.balanced (hw.contains hlive)
  have hfree := hf.numFreeBlocks hw.balanced
  have hpop := s.queue.running.total_pop (·.growth S.config s.blockManager) _ sg hrun
  have hothers : (s.queue.running.pop sg.requestId).total (·.growth S.config (s.blockManager.free S.blockParams q.seqId)) ≤
      (s.queue.running.pop sg.requestId).total (·.growth S.config s.blockManager) := by
    refine growth_others hw sg.requestId (fun sid hne => ?_) fun r g hg => ⟨?_, Dict.get?_pop_some hg⟩
    · rw [hf.table, if_neg]
      rintro rfl
      rw [hw.queue.runningSeq_seqId hlive] at hne
      exact hne rfl
    · rintro rfl
      cases (s.queue.running.get?_pop_self sg.requestId).symm.trans hg
  simp only [Reserved, RequestQueue.growth, RequestQueue.markFinished, hid] at h ⊢
  omega

lemma Reserved.admission (h : Reserved S.config s) {sg sg' : SequenceGroup} {bm : BlockManager ε}
    (hwait : s.queue.waiting.get? sg.requestId = some sg)
    (ha : BlockManager.Admits S.blockParams ⟨sg.requestId, 0⟩ sg.promptTokenIds s.blockManager bm)
    (hid : sg'.requestId = sg.requestId) (hlimit : sg'.blockLimit S.config = sg.blockLimit S.config) :
    Reserved S.config ⟨s.queue.markRunning sg', bm, s.seqGroupCount⟩ := by
  have hnone : s.queue.running.get? sg.requestId = none := (hw.queue.only_waiting hwait).1
  have hfree := ha.numFreeBlocks hw.balanced
  have hpop := s.queue.waiting.total_pop (·.blockLimit S.config) _ sg hwait
  have hset := s.queue.running.total_set_new (·.growth S.config bm) _ sg' hnone
  have hle : sg'.growth S.config bm ≤ sg.blockLimit S.config := by
    rw [SequenceGroup.growth, hlimit]
    exact Nat.sub_le _ _
  have hothers : s.queue.running.total (·.growth S.config bm) ≤
      s.queue.running.total (·.growth S.config s.blockManager) := by
    refine growth_others hw sg.requestId (fun sid hne => ?_) fun r g hg => ⟨?_, hg⟩
    · rw [ha.table, if_neg]
      rintro rfl
      exact hne rfl
    · rintro rfl
      cases hnone.symm.trans hg
  simp only [Reserved, RequestQueue.growth, RequestQueue.markRunning, hid] at h ⊢
  omega

theorem Transition.reserved (ht : Transition S decoding s s') (hn : s'.seqGroupCount = s.seqGroupCount)
    (h : Reserved S.config s) : Reserved S.config s' := by
  cases ht with
  | submit => exact absurd hn (Nat.succ_ne_self _)
  | cleanup => exact h
  | refile => exact h
  | retire sg q status hrun hseqs => exact h.retire hw hrun hseqs rfl
  | withdraw sg hwait =>
    have hpop := s.queue.waiting.total_pop (·.blockLimit S.config) _ sg hwait
    simp only [Reserved, RequestQueue.growth, RequestQueue.withdraw] at h ⊢
    omega
  | reject sg hwait =>
    have hpop := s.queue.waiting.total_pop (·.blockLimit S.config) _ sg hwait
    simp only [Reserved, RequestQueue.growth, RequestQueue.markRejected] at h ⊢
    omega
  | admission sg hwait =>
    obtain ⟨bm, he, ha⟩ := hw.admits hwait
    rw [he]
    exact h.admission hw hwait ha rfl rfl
  | ensure q position hready hc =>
    have hspec := hw.ensures hready
    generalize (s.blockManager.ensureBlock S.blockParams q position).1 = r at hspec
    generalize (s.blockManager.ensureBlock S.blockParams q position).2 = bm at hspec ⊢
    cases hspec with
    | covered => exact h
    | outOfMemory => exact h
    | hit hash p _ hlen hhash hcached hs =>
      have hlt := growth_lt hw hready hc hlen hs.table
      have hfree := hs.numFreeBlocks hw.balanced
      simp only [Reserved] at h ⊢
      omega
    | miss p _ hlen hmiss htk =>
      have hlt := growth_lt hw hready hc hlen htk.table
      have hfree := htk.numFreeBlocks hw.balanced
      simp only [Reserved] at h ⊢
      omega
  | batch prefill decode hready =>
    obtain ⟨r, queue, bm, hbatch, hspec⟩ := hw.runBatch_cases hready
    simp only [hbatch]
    cases hspec with
    | failed => exact h
    | done output x _ hexec hwt hfn hrj hrun =>
      have hsame := Dict.total_map (·.growth S.config s.blockManager) _ hrun
      have htotal : queue.growth S.config s.blockManager = s.queue.growth S.config s.blockManager := by
        rw [RequestQueue.growth, RequestQueue.growth, hwt, hsame]
        rfl
      have hle : queue.growth S.config s.blockManager ≤ s.blockManager.allocator.numFreeBlocks := htotal.trans_le h
      exact hle

end Transition

lemma Reserved.reaches {s s' : CoreState ε} (hw : WellFormed S s) (hr : Reaches S decoding s s')
    (hn : s'.seqGroupCount = s.seqGroupCount) (h : Reserved S.config s) : Reserved S.config s' := by
  induction hr with
  | refl => exact h
  | tail hr ht ih =>
    have h₁ := Reaches.seqGroupCount_le hr
    have h₂ := Reaches.seqGroupCount_le (Reaches.single S decoding ht)
    exact ht.reserved (hw.reaches hr) (by omega) (ih (by omega))

end MiniVllm
