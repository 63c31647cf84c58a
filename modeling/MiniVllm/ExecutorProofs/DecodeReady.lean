import MiniVllm.CacheProofs.OwnEntries
import MiniVllm.ExecutorProofs.Isolation

/-! What the legacy `decode` finds in every state of the engine. -/

namespace MiniVllm

open BlockManager EngineCore ModelInputBuilder FakeModelExecutor

section Kept

variable {config : Config} {p : ℕ}

lemma contains_writeAt {x : FakeState} (h : x.kvCache.contains p = true) (table : List ℕ) (position tokenId : ℕ) :
    (writeAt config table x position tokenId).kvCache.contains p = true := by
  simp only [writeAt, writeTokens, Dict.contains_set, h, Bool.or_true]

lemma contains_writePrompts {x : FakeState} (h : x.kvCache.contains p = true) (table positions : List ℕ) :
    (writePrompts config table x positions).kvCache.contains p = true := by
  induction positions generalizing x with
  | nil => exact h
  | cons position rest ih => exact ih (contains_writeAt h table position _)

lemma FakeModelExecutor.InfoEffect.contains {table : List ℕ} {pos : Option ℕ} {x y : FakeState}
    {info : SequenceExecutionInfo} {items : List (ℕ × SeqId)} (he : InfoEffect config table pos x info y items)
    (h : x.kvCache.contains p = true) : y.kvCache.contains p = true := by
  cases he with
  | chunk => exact contains_writePrompts h table _
  | completed => exact contains_writePrompts h table _
  | decode hphase token =>
    exact contains_writeAt (x := setLast x info.sequenceId (lastOf x info.sequenceId)) h table _ token

variable {bm : BlockManager FakeState}

lemma forEach_contains {infos : List SequenceExecutionInfo} (hc : Covered config.blockSize bm infos)
    {l l' : ExecuteLoop} {x : FakeState} {items : List (ℕ × SeqId)} (hl : l.blockManager = bm.withListener x)
    (hs : Sampled l items) (h : forEach (executeInfo config) l infos = (.ok (), l'))
    (hp : x.kvCache.contains p = true) : ∃ y, l'.blockManager = bm.withListener y ∧ y.kvCache.contains p = true := by
  induction infos generalizing l x items with
  | nil =>
    cases h
    exact ⟨x, hl, hp⟩
  | cons info rest ih =>
    obtain ⟨l₁, he, hrest⟩ := forEach_cons_ok h
    obtain ⟨y, more, heff, hl₁, hs₁⟩ := executeInfo_effect (covered_head hc) hl hs he
    exact ih (fun i hi => hc i (List.mem_cons_of_mem info hi)) hl₁ hs₁ hrest (heff.contains hp)

lemma execute_contains {input : ModelInput} (hc : Covered config.blockSize bm input.sequenceInfo)
    {output : ModelRunnerOutput} {x : FakeState}
    (hexec : execute config input bm = (.ok output, bm.withListener x))
    (hp : bm.allocator.listener.kvCache.contains p = true) : x.kvCache.contains p = true := by
  obtain ⟨l, h, -, hbm⟩ := execute_returns hexec
  have hs₀ : Sampled { blockManager := bm } [] := ⟨rfl, rfl⟩
  obtain ⟨y, hl, hy⟩ := forEach_contains hc (x := bm.allocator.listener) rfl hs₀ h hp
  obtain rfl : y = x := congrArg (·.allocator.listener) (hl.symm.trans hbm.symm)
  exact hy

lemma contains_release {released : List ℕ} (hp : p ∉ released) (x : FakeState) :
    (released.foldl releaseBlock x).kvCache.contains p = x.kvCache.contains p := by
  induction released generalizing x with
  | nil => rfl
  | cons r rest ih =>
    rw [List.mem_cons, not_or] at hp
    rw [List.foldl_cons, ih hp.2]
    simp [releaseBlock, Dict.contains_pop, hp.1]

end Kept

def BlocksStored (bm : BlockManager FakeState) : Prop :=
  ∀ sid, ∀ p ∈ bm.getBlockTable sid, bm.allocator.listener.kvCache.contains p = true

def LastTokens (s : CoreState FakeState) : Prop :=
  ∀ rid q, s.queue.runningSeq rid = some q → q.status = .running →
    lastOf s.blockManager.allocator.listener q.seqId = q.outputTokenIds.getLast?

section Steps

variable {config : Config} {blockHash : List ℕ → ℤ} {c : CallCondition FakeState} {s s' : CoreState FakeState}

theorem ownEntries_step (hoff : config.enablePrefixCaching = false) (hw : WellFormed (fakeSetup config blockHash) s)
    (h : s.blockManager.OwnEntries) (ht : Transition (fakeSetup config blockHash) c s s') :
    s'.blockManager.OwnEntries := by
  cases ht with
  | retire sg q => exact h.free q.seqId
  | admission sg => exact h.allocateForSeq hoff _
  | ensure q position => exact h.ensureBlock hoff q position
  | batch prefill decode hready =>
    obtain ⟨r, queue, bm, hbatch, hspec⟩ := hw.runBatch_cases hready
    simp only [hbatch]
    cases hspec with
    | failed => exact h.of_tables rfl
    | done => exact h.of_tables rfl
  | cleanup => exact h.of_tables rfl
  | _ => exact h

lemma BlocksStored.releases {P : BlockParams FakeState} {sid : SeqId} {bm bm' : BlockManager FakeState} (h : BlocksStored bm)
    (hP : P.callbacks = callbacks) (hf : Releases P sid bm bm') : BlocksStored bm' := by
  intro s p hp
  obtain ⟨released, hlis, hrel⟩ := hf.listener
  have hkept : p ∉ released := by
    intro hm
    have hpos := hf.balanced.getRefCount_pos hp
    rw [((hrel p).mp hm).2] at hpos
    exact absurd hpos (lt_irrefl _)
  have hlis' : bm'.allocator.listener = released.foldl releaseBlock bm.allocator.listener := by
    rw [hlis, hP]
    rfl
  rw [hf.table] at hp
  split_ifs at hp
  · cases hp
  · rw [hlis', contains_release hkept]
    exact h s p hp

lemma BlocksStored.takes {P : BlockParams FakeState} {sid : SeqId} {hash : Option ℤ} {r : ℕ}
    {bm bm' : BlockManager FakeState} (h : BlocksStored bm) (hP : P.callbacks = callbacks)
    (ht : Takes P sid hash r bm bm') : BlocksStored bm' := by
  intro s p hp
  have hlis : bm'.allocator.listener = prepareBlock bm.allocator.listener r := by
    rw [ht.listener, hP]
    rfl
  simp only [hlis, prepareBlock, Dict.contains_set, Bool.or_eq_true, decide_eq_true_eq]
  rw [ht.table] at hp
  split_ifs at hp
  · rcases List.mem_append.mp hp with hp | hp
    · exact Or.inr (h sid p hp)
    · exact Or.inl (List.mem_singleton.mp hp)
  · exact Or.inr (h s p hp)

theorem blocksStored_step (hw : WellFormed (fakeSetup config blockHash) s) (h : BlocksStored s.blockManager)
    (hoff : config.enablePrefixCaching = false)
    (ht : Transition (fakeSetup config blockHash) c s s') : BlocksStored s'.blockManager := by
  cases hw.effect ht with
  | retire sg q status bm hid hseqs hlive hstatus hf => exact h.releases rfl hf
  | admission sg bm hwait hfresh hc ha =>
    intro sid p hp
    rw [ha.table] at hp
    rw [ha.listener]
    split_ifs at hp
    · simp [probePrefixCache, Setup.blockParams, fakeSetup, hoff] at hp
    · exact h sid p hp
  | hit q position hash p bm hready hc hlen hhash =>
    simp [promptHash, Setup.blockParams, fakeSetup, hoff] at hhash
  | miss q position p bm hready hc hlen hmiss htk => exact h.takes rfl htk
  | failed prefill decode err x hready hc hexec =>
    rw [failed_listener hw hready hexec]
    exact h
  | done prefill decode output x queue hready hc hexec =>
    intro sid p hp
    exact execute_contains
      (batchInput_covered (S := fakeSetup config blockHash) hw.queue hready (hw.contains_batch hready)) hexec
      (h sid p hp)
  | _ => exact h

lemma foreign_others (bm : BlockManager FakeState) (sid : SeqId) (infos : List SequenceExecutionInfo) :
    Foreign config bm (fun _ => False) sid (infos.filter (·.sequenceId ≠ sid)) := by
  intro info hm
  exact ⟨by simpa using (List.mem_filter.mp hm).2, fun _ _ h => h⟩

lemma lastOf_effect {table : List ℕ} {pos : Option ℕ} {x y : FakeState} {info : SequenceExecutionInfo}
    {q q' : Sequence} (heff : EntryEffect config table pos x info q y q') (hs : q'.status = .running) :
    lastOf y q.seqId = q'.outputTokenIds.getLast? := by
  cases heff with
  | chunk hstatus => cases hstatus.symm.trans hs
  | completed =>
    rw [lastOf_setLast, if_pos rfl]
    rfl
  | decode => rw [lastOf_setLast, if_pos rfl, List.getLast?_append, List.getLast?_singleton, Option.some_or]

lemma lastOf_batch {prefill decode : List Sequence} {q : Sequence} (hq : s.queue.runningSeq q.seqId.request = some q)
    (hw : WellFormed (fakeSetup config blockHash) s)
    (hr : BatchReady config s.queue s.blockManager prefill decode) {output : ModelRunnerOutput} {x : FakeState}
    (hexec : execute config (batchInput config s.blockManager prefill decode) s.blockManager =
      (.ok output, s.blockManager.withListener x))
    (h : q.status = .running → lastOf s.blockManager.allocator.listener q.seqId = q.outputTokenIds.getLast?)
    (hs : (afterBatch config (prefill.map (·.seqId)) (decode.map (·.seqId)) (tokenOf output) q).status = .running) :
    lastOf x q.seqId =
      (afterBatch config (prefill.map (·.seqId)) (decode.map (·.seqId)) (tokenOf output) q).outputTokenIds.getLast? := by
  have hcov : Covered config.blockSize s.blockManager
      (batchInput config s.blockManager prefill decode).sequenceInfo :=
    batchInput_covered (S := fakeSetup config blockHash) hw.queue hr (hw.contains_batch hr)
  by_cases hm : q ∈ prefill ++ decode
  · obtain ⟨info, hinfo, hid, hentry⟩ := batch_entry hw hr hq hm
    obtain ⟨pos, x₁, y, items, -, heff, hafter, htok⟩ := execute_effect hcov hexec
      (by rw [batchInput_ids]; exact hr.nodup) (batchInput_decode_sampled (S := fakeSetup config blockHash)) hinfo
      (foreign_others _ _ _)
    rw [← hid, hafter.last, hid]
    exact lastOf_effect (entry_effect hw hr hq hentry heff htok) hs
  · have hother : Foreign config s.blockManager (fun _ => False) q.seqId
        (batchInput config s.blockManager prefill decode).sequenceInfo :=
      fun info hinfo => ⟨batch_no_entry hw hr hq hm hinfo, fun _ _ h => h⟩
    rw [List.mem_append, not_or] at hm
    have hidle : afterBatch config (prefill.map (·.seqId)) (decode.map (·.seqId)) (tokenOf output) q = q :=
      afterBatch_idle (S := fakeSetup config blockHash) hw.queue hr _ hq hm.1 hm.2
    rw [hidle] at hs ⊢
    exact (execute_foreign hcov hexec hother).last.trans (h hs)

theorem lastTokens_step (hw : WellFormed (fakeSetup config blockHash) s) (h : LastTokens s)
    (ht : Transition (fakeSetup config blockHash) c s s') : LastTokens s' := by
  cases hw.effect ht with
  | idle => exact h
  | requeue queue n hrun =>
    exact fun rid q hq => h rid q (by simpa only [RequestQueue.runningSeq, hrun] using hq)
  | cleanup => exact h
  | retire sg q status bm hid hseqs hlive hstatus hf =>
    intro rid q' hq' hs
    obtain ⟨released, hlis, -⟩ := hf.listener
    have hlis' : bm.allocator.listener = released.foldl releaseBlock s.blockManager.allocator.listener := hlis
    rw [RequestQueue.runningSeq_markFinished] at hq'
    split_ifs at hq'
    simp only [hlis', lastOf_release]
    exact h rid q' hq' hs
  | admission sg bm hwait hfresh hc ha =>
    intro rid q' hq' hs
    rw [hw.runningSeq_admission hwait] at hq'
    simp only [ha.listener]
    split_ifs at hq'
    · cases hq'
      cases hs
    · exact h rid q' hq' hs
  | hit q position hash p bm hready hc hlen hhash hcached hs =>
    simpa only [LastTokens, hs.listener] using h
  | miss q position p bm hready hc hlen hmiss htk =>
    intro rid q' hq' hs
    simp only [htk.listener]
    exact h rid q' hq' hs
  | failed prefill decode err x hready hc hexec =>
    rw [failed_listener hw hready hexec]
    exact h
  | done prefill decode output x queue hready hc hexec hwt hfn hrj hrun =>
    intro rid q' hq' hs
    rw [RequestQueue.runningSeq_map hrun] at hq'
    obtain ⟨q, hq, rfl⟩ := Option.map_eq_some_iff.mp hq'
    have hid : q.seqId.request = rid := by rw [hw.queue.runningSeq_seqId hq]
    rw [afterBatch_seqId]
    exact lastOf_batch (by rwa [hid]) hw hready hexec (h rid q hq) hs

end Steps

end MiniVllm
