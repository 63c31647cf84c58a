import MiniVllm.EngineProofs.Ages
import MiniVllm.Executor.Paged
import MiniVllm.SharingProofs.Exclusive

/-! The paged KV store refines one list of keys and values for each sequence, as long as no block is shared. -/

namespace MiniVllm

open EngineCore ModelInputBuilder LayerCache PagedExecutor

def pagedSetup {K V : Type} (M : PagedModel K V) (config : Config) (blockHash : List ℕ → ℤ) :
    Setup (PagedState K V) :=
  ⟨config, pagedExecutor M config, blockHash⟩

variable {K V : Type} {M : PagedModel K V} {config : Config} {blockHash : List ℕ → ℤ}

structure PoolFormed (config : Config) (x : PagedState K V) : Prop where
  numBlocks : x.cache.numBlocks = config.numGpuBlocks
  blockSize : x.cache.blockSize = config.blockSize
  slots : ∀ slot ∈ x.slots, 0 ≤ slot ∧ slot < config.numGpuBlocks * config.blockSize

def Stored (config : Config) (x : PagedState K V) (table : List ℕ) (sid : SeqId) (position : ℕ) : Prop :=
  ∃ row, written x sid position = some row ∧
    x.cache.key (tableCell config.blockSize table position) = row.1 ∧
      x.cache.value (tableCell config.blockSize table position) = row.2

section Execute

variable {s : CoreState (PagedState K V)} {prefill decode : List Sequence}

structure Writes (config : Config) (bm : BlockManager (PagedState K V))
    (tokens : List ((Sequence × ℕ) × K × V)) (x y : PagedState K V) : Prop where
  cache : y.cache = writeAll config.blockSize x.cache
    (tokens.map (fun t => (slotOf config bm t.1.1.seqId t.1.2, t.2)))
  slots : y.slots = x.slots ++ tokens.map (fun t => (slotOf config bm t.1.1.seqId t.1.2 : ℤ))
  journal : y.journal = (tokens.map (fun t => kvWrite ((t.1.1.seqId, t.1.2), t.2))).reverse ++ x.journal

lemma execute_writes (hcache : PoolFormed config s.blockManager.allocator.listener)
    (hslots : ∀ call ∈ ensureCalls config prefill decode,
      slotOf config s.blockManager call.1.seqId call.2 < config.numGpuBlocks * config.blockSize)
    {r : Except Exn ModelRunnerOutput} {y : PagedState K V}
    (hexec : execute M config (batchInput config s.blockManager prefill decode) s.blockManager =
      (r, s.blockManager.withListener y)) :
    ∃ tokens : List ((Sequence × ℕ) × K × V), tokens.map (·.1) = ensureCalls config prefill decode ∧
      Writes config s.blockManager tokens s.blockManager.allocator.listener y := by
  set calls := ensureCalls config prefill decode with hcalls
  set input := batchInput config s.blockManager prefill decode with hinput
  set x := s.blockManager.allocator.listener with hx
  have hmapping : input.slotMapping = calls.map (fun call => (slotOf config s.blockManager call.1.seqId call.2 : ℤ)) :=
    batchInput_slotMapping config s.blockManager prefill decode
  have hpositions : input.tokenPositions = calls.map (fun call => (call.1.seqId, call.2)) :=
    batchInput_positions config s.blockManager prefill decode
  set rows := (List.range input.slotMapping.length).map (M.row input x) with hrows
  have hlen : calls.length = rows.length := by
    rw [hrows, List.length_map, List.length_range, hmapping, List.length_map]
  have hfst : (calls.zip rows).map (·.1) = calls := List.map_fst_zip hlen.le
  have hsnd : (calls.zip rows).map (·.2) = rows := List.map_snd_zip hlen.ge
  have hwrite : x.cache.writeToPagedCache (rows.map (·.1)) (rows.map (·.2)) input.slotMapping config.blockSize =
      (.ok (), writeAll config.blockSize x.cache
        ((calls.zip rows).map (fun t => (slotOf config s.blockManager t.1.1.seqId t.1.2, t.2)))) := by
    have hok := writeToPagedCache_ok config.blockSize_pos hcache.blockSize
      ((calls.zip rows).map (fun t => (slotOf config s.blockManager t.1.1.seqId t.1.2, t.2))) (fun w hw => by
        obtain ⟨t, ht, rfl⟩ := List.mem_map.mp hw
        rw [hcache.numBlocks]
        exact hslots t.1 (by rw [← hfst]; exact List.mem_map_of_mem ht))
    rw [← hok, hmapping]
    conv_lhs => rw [← hsnd, ← hfst]
    simp only [List.map_map, Function.comp_def]
    rw [hfst]
  have hjournal : (input.tokenPositions.zip rows).reverse.map kvWrite =
      ((calls.zip rows).map (fun t => kvWrite ((t.1.1.seqId, t.1.2), t.2))).reverse := by
    rw [hpositions, List.zip_map_left, List.map_reverse, List.map_map]
    rfl
  have hall : ∀ y, y.cache = writeAll config.blockSize x.cache
        ((calls.zip rows).map (fun t => (slotOf config s.blockManager t.1.1.seqId t.1.2, t.2))) →
      y.slots = x.slots ++ input.slotMapping →
      y.journal = (input.tokenPositions.zip rows).reverse.map kvWrite ++ x.journal →
      Writes config s.blockManager (calls.zip rows) x y := by
    intro y h₁ h₂ h₃
    refine ⟨h₁, ?_, by rw [h₃, hjournal]⟩
    rw [h₂, hmapping]
    conv_lhs => rw [← hfst, List.map_map]
    rfl
  refine ⟨calls.zip rows, hfst, ?_⟩
  have hlistener := congrArg (fun p => p.2.allocator.listener) hexec
  simp only [execute, ← hx, ← hrows, hwrite, BlockManager.withListener_listener] at hlistener
  rw [← hlistener]
  split
  · exact hall _ rfl rfl rfl
  · split_ifs
    · exact hall _ rfl rfl rfl
    · exact hall _ rfl rfl rfl

lemma isFor_iff {w : KvWrite K V} {sid : SeqId} {position : ℕ} :
    w.isFor sid position = true ↔ w.seqId = sid ∧ w.position = position := by
  simp only [KvWrite.isFor, Bool.and_eq_true, beq_iff_eq]

lemma find?_write {writes : List (KvWrite K V)} (hn : (writes.map (fun w => (w.seqId, w.position))).Nodup)
    {w : KvWrite K V} (hw : w ∈ writes) :
    writes.find? (·.isFor w.seqId w.position) = some w := by
  induction writes with
  | nil => cases hw
  | cons v writes ih =>
    rw [List.map_cons, List.nodup_cons] at hn
    rcases List.mem_cons.mp hw with rfl | hw
    · exact List.find?_cons_of_pos (isFor_iff.mpr ⟨rfl, rfl⟩)
    · refine (List.find?_cons_of_neg fun h => ?_).trans (ih hn.2 hw)
      obtain ⟨hid, hpos⟩ := isFor_iff.mp h
      exact hn.1 (List.mem_map.mpr ⟨w, hw, Prod.ext hid.symm hpos.symm⟩)

section Effect

variable (hpairs : Pairs Exclusive s) (hr : BatchReady config s.queue s.blockManager prefill decode)
  {tokens : List ((Sequence × ℕ) × K × V)} (htokens : tokens.map (·.1) = ensureCalls config prefill decode)
  {x y : PagedState K V} (hw : Writes config s.blockManager tokens x y)

include hr htokens hw

lemma Writes.written_of_mem {t : (Sequence × ℕ) × K × V} (ht : t ∈ tokens) :
    written y t.1.1.seqId t.1.2 = some t.2 := by
  have hn : ((tokens.map (fun t => kvWrite ((t.1.1.seqId, t.1.2), t.2))).reverse.map
      (fun w => (w.seqId, w.position))).Nodup := by
    rw [List.map_reverse, List.nodup_reverse, List.map_map]
    have h := hr.nodup_calls
    rwa [← htokens, List.map_map] at h
  have hfind := find?_write hn (w := kvWrite ((t.1.1.seqId, t.1.2), t.2))
    (List.mem_reverse.mpr (List.mem_map_of_mem ht))
  simp only [kvWrite] at hfind
  simp only [written, hw.journal, List.find?_append, kvWrite, hfind, Option.some_or, Option.map_some]

omit hr in
lemma Writes.written_of_notMem {sid : SeqId} {position : ℕ}
    (h : ∀ call ∈ ensureCalls config prefill decode, call.1.seqId = sid → call.2 ≠ position) :
    written y sid position = written x sid position := by
  have hnone : (tokens.map (fun t => kvWrite ((t.1.1.seqId, t.1.2), t.2))).reverse.find?
      (·.isFor sid position) = none := by
    refine List.find?_eq_none.mpr fun w hm hfor => ?_
    obtain ⟨t, ht, rfl⟩ := List.mem_map.mp (List.mem_reverse.mp hm)
    obtain ⟨hid, hpos⟩ := isFor_iff.mp hfor
    exact h t.1 (by rw [← htokens]; exact List.mem_map_of_mem ht) hid hpos
  rw [written, hw.journal, List.find?_append, hnone, Option.none_or]
  rfl

include hpairs

omit htokens hw in
lemma call_cell_private {call : Sequence × ℕ} (hm : call ∈ ensureCalls config prefill decode) {q : Sequence}
    (hq : s.queue.runningSeq q.seqId.request = some q) {r : ℕ}
    (hcov : r / config.blockSize < (s.blockManager.getBlockTable q.seqId).length)
    (he : tableCell config.blockSize (s.blockManager.getBlockTable call.1.seqId) call.2 =
      tableCell config.blockSize (s.blockManager.getBlockTable q.seqId) r) : call.1.seqId = q.seqId ∧ call.2 = r := by
  obtain ⟨hlive, -, hcov'⟩ := hr.call hm
  exact hpairs.cell_private hlive hq hcov' hcov he

lemma Writes.stored_of_mem {call : Sequence × ℕ} (hm : call ∈ ensureCalls config prefill decode) :
    Stored config y (s.blockManager.getBlockTable call.1.seqId) call.1.seqId call.2 := by
  have hn : ((tokens.map (fun t => (slotOf config s.blockManager t.1.1.seqId t.1.2, t.2))).map
      (fun w => cellOf config.blockSize w.1)).Nodup := by
    have hcalls := List.Nodup.of_map _ hr.nodup_calls
    have hcells : ((ensureCalls config prefill decode).map (fun call => cellOf config.blockSize
        (slotOf config s.blockManager call.1.seqId call.2))).Nodup := by
      refine List.Nodup.map_on (fun call hm call' hm' he => ?_) hcalls
      rw [cellOf_slotOf, cellOf_slotOf] at he
      obtain ⟨hlive, -, -⟩ := hr.call hm
      obtain ⟨hlive', -, hcov'⟩ := hr.call hm'
      obtain ⟨hid, hpos⟩ := call_cell_private hpairs hr hm hlive' hcov' he
      rw [hid, hlive'] at hlive
      exact Prod.ext (Option.some.inj hlive).symm hpos
    rw [← htokens, List.map_map] at hcells
    rwa [List.map_map]
  rw [← htokens] at hm
  obtain ⟨t, ht, rfl⟩ := List.mem_map.mp hm
  have hcell := writeAll_of_mem x.cache hn (List.mem_map_of_mem ht)
  rw [← hw.cache, cellOf_slotOf] at hcell
  exact ⟨t.2, hw.written_of_mem hr htokens ht, hcell⟩

lemma Writes.stored_of_live {q : Sequence} (hq : s.queue.runningSeq q.seqId.request = some q)
    {r : ℕ} (hlt : r < q.kvLen) (hcov : r / config.blockSize < (s.blockManager.getBlockTable q.seqId).length)
    (h : Stored config x (s.blockManager.getBlockTable q.seqId) q.seqId r) :
    Stored config y (s.blockManager.getBlockTable q.seqId) q.seqId r := by
  have hcalls : ∀ call ∈ ensureCalls config prefill decode, call.1.seqId = q.seqId → call.2 ≠ r := by
    intro call hm hid hpos
    obtain ⟨hlive, hle, -⟩ := hr.call hm
    rw [hid, hq] at hlive
    rw [← Option.some.inj hlive] at hle
    omega
  have hcell : tableCell config.blockSize (s.blockManager.getBlockTable q.seqId) r ∉
      (tokens.map (fun t => (slotOf config s.blockManager t.1.1.seqId t.1.2, t.2))).map
        (fun w => cellOf config.blockSize w.1) := by
    rw [List.map_map]
    intro hm
    obtain ⟨t, ht, he⟩ := List.mem_map.mp hm
    have hcall : t.1 ∈ ensureCalls config prefill decode := by
      rw [← htokens]
      exact List.mem_map_of_mem ht
    rw [Function.comp_apply, cellOf_slotOf] at he
    obtain ⟨hid, hpos⟩ := call_cell_private hpairs hr hcall hq hcov he
    exact hcalls _ hcall hid hpos
  obtain ⟨row, hrow, hkey, hvalue⟩ := h
  obtain ⟨hkey', hvalue'⟩ := writeAll_of_notMem x.cache hcell
  rw [← hw.cache] at hkey' hvalue'
  exact ⟨row, (hw.written_of_notMem htokens hcalls).trans hrow, hkey'.trans hkey, hvalue'.trans hvalue⟩

end Effect

end Execute

def AllStored (config : Config) (s : CoreState (PagedState K V)) : Prop :=
  ∀ rid q, s.queue.runningSeq rid = some q → ∀ r < q.kvLen,
    Stored config s.blockManager.allocator.listener (s.blockManager.getBlockTable q.seqId) q.seqId r

section Run

variable {c : CallCondition (PagedState K V)} {s s' : CoreState (PagedState K V)}

lemma Stored.of_longer {x : PagedState K V} {table table' : List ℕ} {sid : SeqId} {r : ℕ}
    (h : Stored config x table sid r) (ht : table <+: table') (hcov : r / config.blockSize < table.length) :
    Stored config x table' sid r := by
  have hcell : tableCell config.blockSize table' r = tableCell config.blockSize table r := by
    simp only [tableCell, List.getD_eq_getElem?_getD, getElem?_of_isPrefix ht hcov]
  obtain ⟨row, hrow, hkey, hvalue⟩ := h
  exact ⟨row, hrow, by rwa [hcell], by rwa [hcell]⟩

lemma call_slot_lt (hw : WellFormed (pagedSetup M config blockHash) s) {prefill decode : List Sequence}
    (hr : BatchReady config s.queue s.blockManager prefill decode) :
    ∀ call ∈ ensureCalls config prefill decode,
      slotOf config s.blockManager call.1.seqId call.2 < config.numGpuBlocks * config.blockSize := by
  intro call hm
  obtain ⟨-, -, hcov⟩ := hr.call hm
  have hlt := hw.balanced.lt_numBlocks (List.getElem_mem hcov)
  rw [hw.numBlocks] at hlt
  exact slotOf_lt config s.blockManager (List.getElem?_eq_getElem hcov) hlt

lemma PoolFormed.writes {x y : PagedState K V} {bm : BlockManager (PagedState K V)}
    {prefill decode : List Sequence} {tokens : List ((Sequence × ℕ) × K × V)}
    (htokens : tokens.map (·.1) = ensureCalls config prefill decode)
    (hslots : ∀ call ∈ ensureCalls config prefill decode,
      slotOf config bm call.1.seqId call.2 < config.numGpuBlocks * config.blockSize)
    (hw : Writes config bm tokens x y) (h : PoolFormed config x) : PoolFormed config y := by
  refine ⟨hw.cache ▸ h.numBlocks, hw.cache ▸ h.blockSize, fun slot hm => ?_⟩
  rw [hw.slots, List.mem_append] at hm
  rcases hm with hm | hm
  · exact h.slots slot hm
  · obtain ⟨t, ht, rfl⟩ := List.mem_map.mp hm
    have hlt := hslots t.1 (by rw [← htokens]; exact List.mem_map_of_mem ht)
    exact ⟨Int.natCast_nonneg _, by exact_mod_cast hlt⟩

structure PagedInvariant (config : Config) (s : CoreState (PagedState K V)) : Prop where
  pairs : Pairs Exclusive s
  pool : PoolFormed config s.blockManager.allocator.listener
  stored : AllStored config s

lemma AllStored.kept (hw : WellFormed (pagedSetup M config blockHash) s) (h : AllStored config s)
    {bm : BlockManager (PagedState K V)} {rid : RequestId} {q : Sequence} (hq : s.queue.runningSeq rid = some q)
    (hlistener : bm.allocator.listener = s.blockManager.allocator.listener)
    (htable : s.blockManager.getBlockTable q.seqId <+: bm.getBlockTable q.seqId) :
    ∀ r < q.kvLen, Stored config bm.allocator.listener (bm.getBlockTable q.seqId) q.seqId r := by
  intro r hr
  rw [hlistener]
  exact (h rid q hq r hr).of_longer htable (hw.covered_lt hq hr)

theorem pagedInvariant_step (hoff : config.enablePrefixCaching = false)
    (hw : WellFormed (pagedSetup M config blockHash) s) (h : PagedInvariant config s)
    (ht : Transition (pagedSetup M config blockHash) c s s') : PagedInvariant config s' := by
  have hpairs := (exclusive_rule hoff).step hw h.pairs ht
  cases hw.effect ht with
  | idle => exact h
  | cleanup => exact ⟨hpairs, h.pool, h.stored⟩
  | requeue queue n hrun =>
    exact ⟨hpairs, h.pool, fun rid q hq => h.stored rid q (by simpa only [RequestQueue.runningSeq, hrun] using hq)⟩
  | retire sg q status bm hid hseqs hlive hstatus hf =>
    obtain ⟨released, hlistener, -⟩ := hf.listener
    have hsame : bm.allocator.listener = s.blockManager.allocator.listener :=
      hlistener.trans (List.foldl_fixed released)
    refine ⟨hpairs, hsame ▸ h.pool, fun rid q' hq' => ?_⟩
    rw [RequestQueue.runningSeq_markFinished] at hq'
    split_ifs at hq' with hr
    refine h.stored.kept hw hq' hsame ?_
    rw [hid] at hr
    rw [hf.table, if_neg (hw.queue.seqId_ne hq' hr)]
  | admission sg bm hwait hfresh hc ha =>
    refine ⟨hpairs, ha.listener ▸ h.pool, fun rid q' hq' => ?_⟩
    rw [hw.runningSeq_admission hwait] at hq'
    split_ifs at hq' with hr
    · obtain rfl := Option.some.inj hq'
      intro r hlt
      have hkv := WellFormed.admittedSeq_kvLen (S := pagedSetup M config blockHash) s.blockManager sg
      have hmatched : (s.blockManager.probePrefixCache (pagedSetup M config blockHash).blockParams
          sg.promptTokenIds).matchedPhysicalBlockIds = [] := by
        rw [BlockManager.probe_off hoff]
      rw [hmatched, List.length_nil, Nat.zero_mul] at hkv
      omega
    · refine h.stored.kept hw hq' ha.listener ?_
      rw [ha.table, if_neg (hw.queue.seqId_ne hq' hr)]
  | hit q position hash p bm hready hc hlen hhash hcached hs =>
    refine ⟨hpairs, hs.listener ▸ h.pool, fun rid q' hq' => h.stored.kept hw hq' hs.listener ?_⟩
    exact BlockManager.isPrefix_of_grown hs.table q'.seqId
  | miss q position p bm hready hc hlen hmiss htk =>
    have hsame : bm.allocator.listener = s.blockManager.allocator.listener := htk.listener
    refine ⟨hpairs, hsame ▸ h.pool, fun rid q' hq' => h.stored.kept hw hq' hsame ?_⟩
    exact BlockManager.isPrefix_of_grown htk.table q'.seqId
  | failed prefill decode err x hready hc hexec =>
    have hslots := call_slot_lt hw hready
    obtain ⟨tokens, htokens, hwr⟩ := execute_writes h.pool hslots hexec
    refine ⟨hpairs, h.pool.writes htokens hslots hwr, fun rid q hq r hlt => ?_⟩
    have hid : q.seqId.request = rid := by rw [hw.queue.runningSeq_seqId hq]
    exact hwr.stored_of_live h.pairs hready htokens (by rwa [hid]) hlt (hw.covered_lt hq hlt) (h.stored rid q hq r hlt)
  | done prefill decode output x queue hready hc hexec hwt hfn hrj hrun =>
    have hslots := call_slot_lt hw hready
    obtain ⟨tokens, htokens, hwr⟩ := execute_writes h.pool hslots hexec
    refine ⟨hpairs, h.pool.writes htokens hslots hwr, fun rid q' hq' r hlt => ?_⟩
    rw [RequestQueue.runningSeq_map hrun] at hq'
    obtain ⟨q, hq, rfl⟩ := Option.map_eq_some_iff.mp hq'
    have hid : q.seqId.request = rid := by rw [hw.queue.runningSeq_seqId hq]
    rw [afterBatch_seqId]
    rcases Nat.lt_or_ge r q.kvLen with hold | hnew
    · exact hwr.stored_of_live h.pairs hready htokens (by rwa [hid]) hold (hw.covered_lt hq hold)
        (h.stored rid q hq r hold)
    · exact hwr.stored_of_mem h.pairs hready htokens (mem_ensureCalls_of_new hw hq hready _ hnew hlt).1

end Run

structure RefinesSequences (config : Config) (s : EngineState (PagedState K V)) : Prop where
  disjoint : ∀ q ∈ s.queue.liveSeqs, ∀ q' ∈ s.queue.liveSeqs, q.seqId ≠ q'.seqId →
    List.Disjoint (s.blockManager.getBlockTable q.seqId) (s.blockManager.getBlockTable q'.seqId)
  slots : ∀ slot ∈ s.blockManager.allocator.listener.slots,
    0 ≤ slot ∧ slot < config.numGpuBlocks * config.blockSize
  gather : ∀ q ∈ s.queue.liveSeqs, ∃ rows : List (K × V),
    rows.map some = (List.range q.kvLen).map (written s.blockManager.allocator.listener q.seqId) ∧
      s.blockManager.allocator.listener.cache.gatherPagedKv (s.blockManager.getBlockTable q.seqId) q.kvLen
        config.blockSize = .ok (rows.map (·.1), rows.map (·.2))

lemma gather_stored {s : CoreState (PagedState K V)} (hw : WellFormed (pagedSetup M config blockHash) s)
    (h : PagedInvariant config s) {rid : RequestId} {q : Sequence} (hq : s.queue.runningSeq rid = some q) :
    ∃ rows : List (K × V),
      rows.map some = (List.range q.kvLen).map (written s.blockManager.allocator.listener q.seqId) ∧
        s.blockManager.allocator.listener.cache.gatherPagedKv (s.blockManager.getBlockTable q.seqId) q.kvLen
          config.blockSize = .ok (rows.map (·.1), rows.map (·.2)) := by
  set x := s.blockManager.allocator.listener
  set table := s.blockManager.getBlockTable q.seqId
  have hstored := h.stored rid q hq
  refine ⟨(List.range q.kvLen).map (fun r => (x.cache.key (tableCell config.blockSize table r),
    x.cache.value (tableCell config.blockSize table r))), ?_, ?_⟩
  · rw [List.map_map]
    refine List.map_congr_left fun r hr => ?_
    obtain ⟨row, hrow, hkey, hvalue⟩ := hstored r (List.mem_range.mp hr)
    rw [hrow, Function.comp_apply, hkey, hvalue]
  · rw [List.map_map, List.map_map]
    refine gatherPagedKv_eq config.blockSize_pos h.pool.blockSize fun r hr => ?_
    have hcov := hw.covered_lt hq hr
    refine ⟨_, List.getElem?_eq_getElem hcov, ?_⟩
    rw [h.pool.numBlocks]
    have hlt := hw.balanced.lt_numBlocks (List.getElem_mem hcov)
    rwa [hw.numBlocks] at hlt

theorem paged_kv_refines (M : PagedModel K V) (config : Config) (hoff : config.enablePrefixCaching = false)
    (blockHash : List ℕ → ℤ) (ops : List LLMEngine.Op) :
    RefinesSequences config (LLMEngine.run (pagedSetup M config blockHash) ops) := by
  have hw := wellFormed_run (pagedSetup M config blockHash) ops
  have hinit : PagedInvariant config (LLMEngine.initial (pagedSetup M config blockHash)).core :=
    ⟨fun q i q' j p h₁ _ => (by cases h₁.live), ⟨rfl, rfl, fun slot hm => (by cases hm)⟩,
      fun rid q hq => (by cases hq)⟩
  have h : PagedInvariant config (LLMEngine.run (pagedSetup M config blockHash) ops).core :=
    run_invariant (c := {}) hinit (fun s s' hw hi ht => pagedInvariant_step hoff hw hi ht)
      (run_refines (runFrom_true _ ops))
  refine ⟨fun q hq q' hq' hne => ?_, h.pool.slots, fun q hq => ?_⟩
  · exact h.pairs.disjoint_tables (hw.queue.mem_liveSeqs.mp hq) (hw.queue.mem_liveSeqs.mp hq') hne
  · exact gather_stored hw h (hw.queue.mem_liveSeqs.mp hq)

def echoModel : PagedModel ℕ ℕ where
  tokenize prompt := prompt.map (·.toNat)
  detokenize tokenIds := tokenIds.map Char.ofNat
  emptyKey _ := 0
  emptyValue _ := 0
  row input _ i := (input.inputIds.getD i 0, input.positions.getD i 0)
  sample _ _ := .ok (fun i => i)

def twoBlocks : Config :=
  { Config.default with
    enablePrefixCaching := false
    maxPrefillChunkSize := 2
    numGpuBlocks := 2
    maxPrefillChunkSize_pos := Nat.two_pos
    numGpuBlocks_pos := Nat.two_pos }

theorem paged_kv_refines_of_two_requests :
    RefinesSequences twoBlocks (LLMEngine.run (pagedSetup echoModel twoBlocks (fun _ => 0))
        [.addRequest ['a', 'b', 'c'] 9 0, .addRequest ['d'] 2 0, .step 0, .step 0, .step 0, .cancelRequest 0, .step 0]) :=
  paged_kv_refines echoModel twoBlocks rfl (fun _ => 0)
    [.addRequest ['a', 'b', 'c'] 9 0, .addRequest ['d'] 2 0, .step 0, .step 0, .step 0, .cancelRequest 0, .step 0]

end MiniVllm
