import MiniVllm.EngineProofs.Batch

/-! The invariant of the engine: every transition keeps queue, tables and counts in agreement. -/

namespace MiniVllm

open EngineCore

variable {ε : Type} {S : Setup ε} {c : CallCondition ε}

structure WellFormed (S : Setup ε) (s : CoreState ε) : Prop where
  queue : QueueFormed s.queue s.seqGroupCount
  balanced : s.blockManager.Balanced
  numBlocks : s.blockManager.allocator.numBlocks = S.config.numGpuBlocks
  tables : ∀ sid, s.blockManager.tables.contains sid ↔
    ∃ q, s.queue.runningSeq sid.request = some q ∧ q.seqId = sid
  covered : ∀ rid q, s.queue.runningSeq rid = some q →
    q.kvLen ≤ (s.blockManager.getBlockTable q.seqId).length * S.config.blockSize
  hashes : S.config.enablePrefixCaching = true → ∀ rid q, s.queue.runningSeq rid = some q →
    s.blockManager.blockHashes.get? q.seqId =
      some (computeBlockHashes S.blockHash S.config.blockSize q.promptTokenIds)

lemma Balanced.withListener {bm : BlockManager ε} (h : bm.Balanced) (x : ε) : (bm.withListener x).Balanced :=
  ⟨⟨h.valid.flags, h.valid.refs, h.valid.free_iff⟩, h.refs⟩

lemma Balanced.record {bm : BlockManager ε} (h : bm.Balanced) (events : List CacheEvent) :
    (bm.record events).Balanced :=
  ⟨h.valid, h.refs⟩

namespace WellFormed

section Facts

variable {s : CoreState ε} (h : WellFormed S s)

include h

lemma contains {rid : RequestId} {q : Sequence} (hq : s.queue.runningSeq rid = some q) :
    s.blockManager.tables.contains q.seqId := by
  have hid := h.queue.runningSeq_seqId hq
  exact (h.tables q.seqId).mpr ⟨q, by rw [hid]; exact hq, rfl⟩

lemma contains_batch {prefill decode : List Sequence}
    (hr : BatchReady S.config s.queue s.blockManager prefill decode) :
    ∀ q ∈ prefill ++ decode, s.blockManager.tables.contains q.seqId := by
  intro q hq
  rcases List.mem_append.mp hq with hq | hq
  · exact h.contains (hr.prefill_live q hq).1
  · exact h.contains (hr.decode_live q hq).1

lemma runBatch_cases {prefill decode : List Sequence}
    (hr : BatchReady S.config s.queue s.blockManager prefill decode) :
    ∃ r queue bm, EngineCore.runBatch S s.queue s.blockManager prefill decode = (r, queue, bm) ∧
      Batches S s.queue s.blockManager prefill decode r queue bm :=
  ⟨_, _, _, rfl, runBatch_spec h.queue hr (h.contains_batch hr)⟩

lemma holder_live {sid : SeqId} {p : ℕ} (hp : p ∈ s.blockManager.getBlockTable sid) :
    ∃ q, s.queue.runningSeq sid.request = some q ∧ q.seqId = sid :=
  (h.tables sid).mp (s.blockManager.contains_of_mem hp)

end Facts

section Admit

lemma admissionCursor_lt (config : Config) (promptLen cached : ℕ) (hc : cached ≤ promptLen) :
    Scheduler.admissionCursor (promptLen - cached) promptLen cached
        (Scheduler.admissionChunk config (promptLen - cached) promptLen) < promptLen ∨
      Scheduler.admissionCursor (promptLen - cached) promptLen cached
        (Scheduler.admissionChunk config (promptLen - cached) promptLen) = 0 ∧ promptLen = 0 := by
  have hpos := config.maxPrefillChunkSize_pos
  rcases Nat.lt_or_eq_of_le hc with hlt | rfl
  · left
    have hne : ¬ promptLen - cached = 0 := by omega
    simp only [Scheduler.admissionCursor, hne, false_and, if_false]
    exact hlt
  · simp only [Nat.sub_self, Scheduler.admissionCursor, Scheduler.admissionChunk, Nat.zero_min, ite_self,
      and_self, if_true]
    omega

lemma admissionCursor_le (config : Config) (promptLen cached : ℕ) :
    Scheduler.admissionCursor (promptLen - cached) promptLen cached
      (Scheduler.admissionChunk config (promptLen - cached) promptLen) ≤ cached := by
  simp only [Scheduler.admissionCursor]
  split_ifs with h
  · omega
  · exact le_refl cached

variable (bm : BlockManager ε) (sg : SequenceGroup)

lemma cachedTokenCount_eq (P : BlockParams ε) (prompt : List ℕ) :
    (bm.probePrefixCache P prompt).cachedTokenCount =
      min ((bm.probePrefixCache P prompt).matchedPhysicalBlockIds.length * P.blockSize) prompt.length := by
  simp only [BlockManager.probePrefixCache]
  split_ifs
  · rfl
  · simp

lemma admittedSeq_live : LiveSeq { sg with seqs := sg.seqs ++ [Scheduler.admittedSeq S bm sg] }
    (Scheduler.admittedSeq S bm sg) := by
  have hle : (bm.probePrefixCache S.blockParams sg.promptTokenIds).cachedTokenCount ≤
      sg.promptTokenIds.length := by
    rw [cachedTokenCount_eq]
    exact Nat.min_le_right _ _
  exact ⟨rfl, rfl, rfl, rfl, Or.inl ⟨rfl, rfl, rfl, admissionCursor_lt S.config _ _ hle⟩⟩

lemma admittedSeq_cursor_le : (Scheduler.admittedSeq S bm sg).prefillCursor ≤
    (bm.probePrefixCache S.blockParams sg.promptTokenIds).cachedTokenCount :=
  admissionCursor_le S.config _ _

lemma admittedSeq_kvLen : (Scheduler.admittedSeq S bm sg).kvLen ≤
    (bm.probePrefixCache S.blockParams sg.promptTokenIds).matchedPhysicalBlockIds.length *
      S.config.blockSize := by
  have h := cachedTokenCount_eq bm S.blockParams sg.promptTokenIds
  refine (admittedSeq_cursor_le bm sg).trans ?_
  rw [h]
  exact Nat.min_le_left _ _

variable {bm sg} in
lemma admittedSeq_kvLen_of_lt
    (h : (bm.probePrefixCache S.blockParams sg.promptTokenIds).cachedTokenCount < sg.promptTokenIds.length) :
    (Scheduler.admittedSeq S bm sg).kvLen =
      (bm.probePrefixCache S.blockParams sg.promptTokenIds).matchedPhysicalBlockIds.length *
        S.config.blockSize := by
  have hc := cachedTokenCount_eq bm S.blockParams sg.promptTokenIds
  have hbs : S.blockParams.blockSize = S.config.blockSize := rfl
  have hk : (Scheduler.admittedSeq S bm sg).kvLen =
      (bm.probePrefixCache S.blockParams sg.promptTokenIds).cachedTokenCount := by
    have hne : ¬ sg.promptTokenIds.length -
        (bm.probePrefixCache S.blockParams sg.promptTokenIds).cachedTokenCount = 0 := by omega
    simp only [Scheduler.admittedSeq, Sequence.kvLen, if_true, Scheduler.admissionCursor, hne, false_and, if_false]
  rw [hbs] at hc
  omega

end Admit

lemma chunk_covered {config : Config} {length len : ℕ}
    (h : ∀ position < len, position / config.blockSize < length) : len ≤ length * config.blockSize := by
  rcases Nat.eq_zero_or_pos len with rfl | hpos
  · exact Nat.zero_le _
  · have hlt := h (len - 1) (by omega)
    have := (Nat.div_lt_iff_lt_mul config.blockSize_pos).mp hlt
    omega

lemma of_same {s s' : CoreState ε} (h : WellFormed S s) (hq : QueueFormed s'.queue s'.seqGroupCount)
    (hrun : ∀ rid, s'.queue.runningSeq rid = s.queue.runningSeq rid)
    (hbm : s'.blockManager = s.blockManager) : WellFormed S s' := by
  refine ⟨hq, hbm ▸ h.balanced, hbm ▸ h.numBlocks, fun sid => ?_, fun rid q hr => ?_, fun hon rid q hr => ?_⟩
  · simpa only [hbm, hrun] using h.tables sid
  · rw [hrun] at hr
    rw [hbm]
    exact h.covered rid q hr
  · rw [hrun] at hr
    rw [hbm]
    exact h.hashes hon rid q hr

lemma withListener {s : CoreState ε} (h : WellFormed S s) (x : ε) :
    WellFormed S ⟨s.queue, s.blockManager.withListener x, s.seqGroupCount⟩ :=
  ⟨h.queue, Balanced.withListener h.balanced x, h.numBlocks, h.tables, h.covered, h.hashes⟩

lemma retire {s : CoreState ε} (h : WellFormed S s) {sg : SequenceGroup} {q : Sequence} {status : Status}
    (hrun : s.queue.running.get? sg.requestId = some sg) (hseqs : sg.seqs = [q])
    (hstatus : Retirement q status) :
    WellFormed S ⟨s.queue.markFinished { sg with seqs := [{ q with status := status }] },
      s.blockManager.free S.blockParams q.seqId, s.seqGroupCount⟩ := by
  have hlive : s.queue.runningSeq sg.requestId = some q := h.queue.runningSeq_eq_some.mpr ⟨sg, hrun, hseqs⟩
  have hid := h.queue.runningSeq_seqId hlive
  have hfree := BlockManager.free_spec S.blockParams h.balanced (h.contains hlive)
  have hother : ∀ rid q', (s.queue.markFinished { sg with seqs := [{ q with status := status }] }).runningSeq
      rid = some q' → s.queue.runningSeq rid = some q' ∧ q'.seqId ≠ q.seqId := by
    intro rid q' hq'
    rw [RequestQueue.runningSeq_markFinished] at hq'
    split_ifs at hq' with hr
    rw [hid]
    exact ⟨hq', h.queue.seqId_ne hq' hr⟩
  refine ⟨h.queue.markFinished hrun rfl ?_, hfree.balanced, hfree.numBlocks.trans h.numBlocks, fun sid => ?_,
    fun rid q' hq' => ?_, fun hon rid q' hq' => ?_⟩
  · intro q' hq'
    obtain rfl : q' = { q with status := status } := by simpa using hq'
    cases hstatus <;> rfl
  · rw [hfree.contains, h.tables, RequestQueue.runningSeq_markFinished]
    constructor
    · rintro ⟨hne, q', hq', rfl⟩
      refine ⟨q', ?_, rfl⟩
      rwa [if_neg]
      intro hr
      rw [hr] at hq'
      exact hne (congrArg Sequence.seqId (Option.some.inj (hq'.symm.trans hlive)))
    · rintro ⟨q', hq', rfl⟩
      split_ifs at hq' with hr
      refine ⟨fun he => hr ?_, q', hq', rfl⟩
      rw [he, hid]
  · obtain ⟨hq', hne⟩ := hother rid q' hq'
    simpa only [hfree.table, if_neg hne] using h.covered rid q' hq'
  · obtain ⟨hq', hne⟩ := hother rid q' hq'
    simpa only [hfree.blockHashes, Dict.get?_pop, if_neg hne] using h.hashes hon rid q' hq'

lemma not_contains_of_waiting {s : CoreState ε} (h : WellFormed S s) {sg : SequenceGroup}
    (hwait : s.queue.waiting.get? sg.requestId = some sg) :
    ¬ s.blockManager.tables.contains ⟨sg.requestId, 0⟩ := by
  intro hc
  obtain ⟨q, hq, -⟩ := (h.tables _).mp hc
  have hn := (h.queue.only_waiting hwait).1
  simp [RequestQueue.runningSeq, hn] at hq

lemma admits {s : CoreState ε} (h : WellFormed S s) {sg : SequenceGroup}
    (hwait : s.queue.waiting.get? sg.requestId = some sg) :
    ∃ bm', s.blockManager.allocateForSeq S.blockParams (sg.createSequence ⟨sg.requestId, 0⟩) = (.ok (), bm') ∧
      BlockManager.Admits S.blockParams ⟨sg.requestId, 0⟩ sg.promptTokenIds s.blockManager bm' :=
  BlockManager.allocateForSeq_spec S.blockParams h.balanced (h.not_contains_of_waiting hwait)

lemma runningSeq_admission {s : CoreState ε} (h : WellFormed S s) {sg : SequenceGroup}
    (hwait : s.queue.waiting.get? sg.requestId = some sg) (rid : RequestId) :
    (s.queue.markRunning { sg with seqs := sg.seqs ++ [Scheduler.admittedSeq S s.blockManager sg] }).runningSeq
      rid = if rid = sg.requestId then some (Scheduler.admittedSeq S s.blockManager sg)
        else s.queue.runningSeq rid := by
  rw [RequestQueue.runningSeq_markRunning, (h.queue.waiting _ sg hwait).2.2]
  rfl

lemma admission {s : CoreState ε} (h : WellFormed S s) {sg : SequenceGroup}
    (hwait : s.queue.waiting.get? sg.requestId = some sg) :
    WellFormed S ⟨s.queue.markRunning
        { sg with seqs := sg.seqs ++ [Scheduler.admittedSeq S s.blockManager sg] },
      (s.blockManager.allocateForSeq S.blockParams (sg.createSequence ⟨sg.requestId, 0⟩)).2,
      s.seqGroupCount⟩ := by
  obtain ⟨bm', he, ha⟩ := h.admits hwait
  have hs := (h.queue.waiting _ sg hwait).2.2
  have hrun := h.runningSeq_admission hwait
  have hne : ∀ rid q', s.queue.runningSeq rid = some q' → rid ≠ sg.requestId →
      q'.seqId ≠ ⟨sg.requestId, 0⟩ := fun rid q' hq' hr => h.queue.seqId_ne hq' hr
  have hid : (Scheduler.admittedSeq S s.blockManager sg).seqId = ⟨sg.requestId, 0⟩ := rfl
  rw [he]
  refine ⟨h.queue.markRunning hwait rfl (by simp [hs]) (admittedSeq_live s.blockManager sg), ha.balanced,
    ha.numBlocks.trans h.numBlocks, fun sid => ?_, fun rid q' hq' => ?_, fun hon rid q' hq' => ?_⟩
  · rw [ha.contains, h.tables]
    simp only [hrun]
    constructor
    · rintro (rfl | ⟨q', hq', rfl⟩)
      · exact ⟨_, if_pos rfl, rfl⟩
      · refine ⟨q', ?_, rfl⟩
        rwa [if_neg]
        intro hr
        have hn := (h.queue.only_waiting hwait).1
        simp [RequestQueue.runningSeq, hr, hn] at hq'
    · rintro ⟨q', hq', rfl⟩
      split_ifs at hq' with hr
      · cases hq'
        exact Or.inl rfl
      · exact Or.inr ⟨q', hq', rfl⟩
  · simp only [hrun] at hq'
    split_ifs at hq' with hr
    · cases hq'
      rw [ha.table, if_pos hid]
      exact admittedSeq_kvLen s.blockManager sg
    · simpa only [ha.table, if_neg (hne rid q' hq' hr)] using h.covered rid q' hq'
  · simp only [hrun] at hq'
    have hon' : S.blockParams.enablePrefixCaching = true := hon
    simp only [ha.blockHashes, hon', if_true, Dict.get?_set]
    split_ifs at hq' with hr
    · cases hq'
      exact if_pos hid
    · simpa only [if_neg (hne rid q' hq' hr)] using h.hashes hon rid q' hq'

lemma ensures {s : CoreState ε} (h : WellFormed S s) {q : Sequence} {position : ℕ}
    (hr : EnsureReady S.config s.queue s.blockManager q position) :
    BlockManager.Ensures S.blockParams q position s.blockManager
      (s.blockManager.ensureBlock S.blockParams q position).1
      (s.blockManager.ensureBlock S.blockParams q position).2 :=
  BlockManager.ensureBlock_spec S.blockParams h.balanced (h.contains hr.live) hr.next

lemma of_ensures {s : CoreState ε} (h : WellFormed S s) {q : Sequence} {position : ℕ}
    {r : Except Exn (Option ℕ)} {bm' : BlockManager ε}
    (he : BlockManager.Ensures S.blockParams q position s.blockManager r bm') :
    WellFormed S ⟨s.queue, bm', s.seqGroupCount⟩ := by
  have hgrow : ∀ p, (∀ sid, bm'.getBlockTable sid = if sid = q.seqId
      then s.blockManager.getBlockTable q.seqId ++ [p] else s.blockManager.getBlockTable sid) →
      ∀ rid q', s.queue.runningSeq rid = some q' →
        q'.kvLen ≤ (bm'.getBlockTable q'.seqId).length * S.config.blockSize := by
    intro p ht rid q' hq'
    refine (h.covered rid q' hq').trans (Nat.mul_le_mul_right _ ?_)
    rw [ht]
    split_ifs with hid
    · simp [hid]
    · exact le_refl _
  cases he with
  | covered => exact h
  | outOfMemory => exact h
  | hit hash p _ _ _ _ hs =>
    refine ⟨h.queue, hs.balanced, hs.numBlocks.trans h.numBlocks, fun sid => ?_, hgrow p hs.table, ?_⟩
    · rw [hs.contains]
      exact h.tables sid
    · simpa only [hs.blockHashes] using h.hashes
  | miss p _ _ _ ht =>
    refine ⟨h.queue, ht.balanced, ht.numBlocks.trans h.numBlocks, fun sid => ?_, hgrow p ht.table, ?_⟩
    · rw [ht.contains]
      exact h.tables sid
    · simpa only [ht.blockHashes] using h.hashes

lemma of_batches {s : CoreState ε} (h : WellFormed S s) {prefill decode : List Sequence}
    (hr : BatchReady S.config s.queue s.blockManager prefill decode) {r : Except Exn Unit}
    {queue' : RequestQueue} {bm' : BlockManager ε}
    (hb : Batches S s.queue s.blockManager prefill decode r queue' bm') :
    WellFormed S ⟨queue', bm', s.seqGroupCount⟩ := by
  cases hb with
  | failed err x => exact h.withListener x
  | done output x queue' _ hw hf hj hrun =>
    have hseq := RequestQueue.runningSeq_map hrun
    refine ⟨h.queue.updateRunning hw hf hj hrun ?_, Balanced.record (Balanced.withListener h.balanced x) _, h.numBlocks,
      fun sid => ?_, fun rid q' hq' => ?_, fun hon rid q' hq' => ?_⟩
    · intro sg q hl hlive
      exact ⟨by rw [afterBatch_seqId]; exact hl.seqId, by rw [afterBatch_groupId]; exact hl.groupId,
        by rw [afterBatch_prompt]; exact hl.prompt, by rw [afterBatch_params]; exact hl.params,
        afterBatch_phase h.queue hr (tokenOf output) hlive⟩
    · rw [BlockManager.record_tables, BlockManager.withListener_tables, h.tables]
      simp only [hseq, Option.map_eq_some_iff]
      constructor
      · rintro ⟨q, hq, rfl⟩
        exact ⟨_, ⟨q, hq, rfl⟩, afterBatch_seqId _ _ _ _ _⟩
      · rintro ⟨_, ⟨q, hq, rfl⟩, rfl⟩
        exact ⟨q, hq, (afterBatch_seqId _ _ _ _ _).symm⟩
    · rw [hseq] at hq'
      obtain ⟨q, hq, rfl⟩ := Option.map_eq_some_iff.mp hq'
      rw [afterBatch_seqId, BlockManager.record_getBlockTable, BlockManager.withListener_getBlockTable]
      have hcov := h.covered rid q hq
      by_cases hp : q ∈ prefill
      · rw [kvLen_afterBatch_prefill h.queue hr _ hq hp]
        refine chunk_covered fun position hlt => ?_
        rcases Nat.lt_or_ge position q.prefillCursor with hlow | hhigh
        · rw [LivePhase.kvLen_prefill (hr.prefill_live q hp).2] at hcov
          exact (Nat.div_lt_iff_lt_mul S.config.blockSize_pos).mpr (hlow.trans_le hcov)
        · exact hr.prefill_covered q hp position hhigh hlt
      · by_cases hd : q ∈ decode
        · rw [kvLen_afterBatch_decode h.queue hr _ hq hd]
          exact (Nat.div_lt_iff_lt_mul S.config.blockSize_pos).mp (hr.decode_covered q hd)
        · rwa [afterBatch_idle h.queue hr _ hq hp hd]
    · rw [hseq] at hq'
      obtain ⟨q, hq, rfl⟩ := Option.map_eq_some_iff.mp hq'
      rw [afterBatch_seqId, afterBatch_prompt, BlockManager.record_blockHashes,
        BlockManager.withListener_blockHashes]
      exact h.hashes hon rid q hq

theorem step {s s' : CoreState ε} (h : WellFormed S s) (ht : Transition S c s s') : WellFormed S s' := by
  cases ht with
  | submit sg hid hseqs => exact h.of_same (h.queue.add hid hseqs) (fun _ => rfl) rfl
  | retire sg q status hrun hseqs hstatus => exact h.retire hrun hseqs hstatus
  | cleanup sid => exact h.withListener _
  | withdraw sg hwait => exact h.of_same (h.queue.withdraw hwait) (fun _ => rfl) rfl
  | reject sg hwait => exact h.of_same (h.queue.reject hwait) (fun _ => rfl) rfl
  | refile sg hrej => exact h.of_same (h.queue.refile hrej) (fun _ => rfl) rfl
  | admission sg hwait => exact h.admission hwait
  | ensure q position hready => exact h.of_ensures (h.ensures hready)
  | batch prefill decode hready =>
    exact h.of_batches hready (runBatch_spec h.queue hready (h.contains_batch hready))

theorem reaches {s s' : CoreState ε} (h : WellFormed S s) (hr : Reaches S c s s') : WellFormed S s' := by
  induction hr with
  | refl => exact h
  | tail _ ht ih => exact ih.step ht

theorem initial (S : Setup ε) : WellFormed S (LLMEngine.initial S).core where
  queue := QueueFormed.initial
  balanced := by
    refine ⟨BlockAllocator.initial_valid _ _, fun p => ?_⟩
    have hz : (LLMEngine.initial S).core.blockManager.entriesAt p = 0 := rfl
    rw [hz]
    simp only [EngineState.core, LLMEngine.initial, BlockAllocator.initial, BlockAllocator.getRefCount,
      List.getD_eq_getElem?_getD, List.getElem?_replicate]
    split_ifs <;> rfl
  numBlocks := rfl
  tables sid := by
    constructor
    · intro h
      cases h
    · rintro ⟨q, hq, -⟩
      cases hq
  covered rid q hq := by cases hq
  hashes _ rid q hq := by cases hq

end WellFormed

end MiniVllm
