import MiniVllm.EngineProofs.Ages
import MiniVllm.ExecutorProofs.Solo
import MiniVllm.SharingProofs.Hits
import MiniVllm.SharingProofs.QuietBlocks

/-! Every live sequence of the fake model generates what it would generate alone. -/

namespace MiniVllm

open BlockManager EngineCore ModelInputBuilder FakeModelExecutor

section Entries

variable {config : Config} {ε : Type} {bm : BlockManager ε} {prefill decode : List Sequence}

lemma prefillInfos_ids (counter : ℕ) (prefillMeta : List PrefillMeta) :
    (prefillInfos counter prefillMeta).map (·.sequenceId) = prefillMeta.map (·.seq.seqId) := by
  induction prefillMeta generalizing counter with
  | nil => rfl
  | cons m rest ih => simp only [prefillInfos, List.map_cons, ih]

lemma decodeInfos_ids (counter : ℕ) (decodeMeta : List DecodeMeta) :
    (decodeInfos counter decodeMeta).map (·.sequenceId) = decodeMeta.map (·.seq.seqId) := by
  induction decodeMeta generalizing counter with
  | nil => rfl
  | cons m rest ih => simp only [decodeInfos, List.map_cons, ih]

lemma batchInput_ids : (batchInput config bm prefill decode).sequenceInfo.map (·.sequenceId) =
    (prefill ++ decode).map (·.seqId) := by
  have hm : (batchInput config bm prefill decode).sequenceInfo =
    sequenceInfos (collectPrefillMetadata config prefill) (decode.map decodeMetaOf) := rfl
  rw [hm, sequenceInfos, List.map_append, prefillInfos_ids, decodeInfos_ids, collectPrefillMetadata, List.map_map,
    List.map_map, List.map_append]
  rfl

structure PrefillEntry (config : Config) (q : Sequence) (info : SequenceExecutionInfo) : Prop where
  phase : info.phase = .prefill
  sequenceId : info.sequenceId = q.seqId
  positions : chunkPositions info = (List.range (chunkEnd config q - q.prefillCursor)).map (q.prefillCursor + ·)
  sample : info.sampleOutputIndex.isSome = (collectPrefill config q).prefillCompletes

structure DecodeEntry (q : Sequence) (info : SequenceExecutionInfo) : Prop where
  phase : info.phase = .decode
  sequenceId : info.sequenceId = q.seqId
  cached : info.cachedLenBefore = decodePosition q

lemma batchInput_entry {info : SequenceExecutionInfo}
    (h : info ∈ (batchInput config bm prefill decode).sequenceInfo) :
    (∃ q ∈ prefill, PrefillEntry config q info) ∨ ∃ q ∈ decode, DecodeEntry q info := by
  rcases List.mem_append.mp h with h | h
  · obtain ⟨hphase, m, hm, hid, hstart, hlen, hs⟩ := mem_prefillInfos h
    obtain ⟨q, hq, rfl⟩ := List.mem_map.mp hm
    refine Or.inl ⟨q, hq, hphase, hid, ?_, hs⟩
    have hq' : (collectPrefill config q).queryLen = chunkEnd config q - q.prefillCursor := by
      simp only [collectPrefill, chunkEnd]
      omega
    rw [chunkPositions, hstart, hlen, hq']
    rfl
  · obtain ⟨hphase, -, m, hm, hid, -, hcached, -⟩ := mem_decodeInfos h
    obtain ⟨q, hq, rfl⟩ := List.mem_map.mp hm
    exact Or.inr ⟨q, hq, hphase, hid, hcached⟩

lemma batchInput_positions_mem {info : SequenceExecutionInfo}
    (h : info ∈ (batchInput config bm prefill decode).sequenceInfo) {r : ℕ} (hr : r ∈ infoPositions info) :
    ∃ q, q.seqId = info.sequenceId ∧ (q, r) ∈ ensureCalls config prefill decode := by
  rcases batchInput_entry h with ⟨q, hq, he⟩ | ⟨q, hq, he⟩
  · simp only [infoPositions, he.phase, he.positions] at hr
    obtain ⟨i, hi, rfl⟩ := List.mem_map.mp hr
    have hlt := List.mem_range.mp hi
    exact ⟨q, he.sequenceId.symm, mem_ensureCalls.mpr (Or.inl ⟨hq, by simp only; omega, by simp only; omega⟩)⟩
  · simp only [infoPositions, he.phase, List.mem_singleton] at hr
    exact ⟨q, he.sequenceId.symm, mem_ensureCalls.mpr (Or.inr ⟨hq, by rw [hr, he.cached]⟩)⟩

lemma PrefillEntry.samples_iff {q : Sequence} {info : SequenceExecutionInfo} (he : PrefillEntry config q info)
    (hle : q.prefillCursor ≤ q.promptTokenIds.length) :
    info.sampleOutputIndex.isSome = true ↔ chunkEnd config q = q.promptTokenIds.length := by
  rw [he.sample]
  exact collectPrefill_completes config hle

end Entries

inductive EntryEffect (config : Config) (table : List ℕ) (pos : Option ℕ) (x : FakeState)
    (info : SequenceExecutionInfo) (q : Sequence) : FakeState → Sequence → Prop
  | chunk (hs : q.status = .prefill) (hc : chunkEnd config q ≠ q.promptTokenIds.length) :
      EntryEffect config table pos x info q (writePrompts config table x (chunkPositions info))
        { q with prefillCursor := chunkEnd config q }
  | completed (hs : q.status = .prefill) (hc : chunkEnd config q = q.promptTokenIds.length) (r : ℕ)
      (hpos : posAfter pos info = some r) :
      EntryEffect config table pos x info q
        (setLast (writePrompts config table x (chunkPositions info)) q.seqId (some (firstToken config r)))
        { q with
          outputTokenIds := [firstToken config r]
          numGeneratedTokens := 1
          status := .running
          prefillCursor := chunkEnd config q }
  | decode (hs : q.status = .running) (t : ℕ)
      (ht : t = nextToken config table x info.sequenceId info.cachedLenBefore) :
      EntryEffect config table pos x info q
        (setLast (writeAt config table (setLast x info.sequenceId (lastOf x info.sequenceId)) info.cachedLenBefore t)
          q.seqId (some t))
        { q with
          outputTokenIds := q.outputTokenIds ++ [t]
          numGeneratedTokens := q.numGeneratedTokens + 1 }

/-- `q` has generated what its prompt generates alone, and the blocks that it reads hold just its own positions. -/
structure Isolated (config : Config) (x : FakeState) (table : List ℕ) (q : Sequence) : Prop where
  outputs : q.outputTokenIds =
    soloOutputs config.vocabSize config.blockSize q.promptTokenIds.length q.outputTokenIds.length
  last : q.status = .running → lastOf x q.seqId = q.outputTokenIds.getLast?
  blocks : ∀ i p, ReadsBlock config q i → table[i]? = some p → blockTotal x p =
    blockSum config.vocabSize config.blockSize q.promptTokenIds.length q.outputTokenIds i q.kvLen

def ReadBy (config : Config) (table : List ℕ) (q : Sequence) (p : ℕ) : Prop :=
  ∃ i, ReadsBlock config q i ∧ table[i]? = some p

lemma Isolated.of_agrees {config : Config} {x y : FakeState} {table : List ℕ} {q : Sequence}
    (h : Isolated config x table q) (ha : Agrees (ReadBy config table q) q.seqId x y) :
    Isolated config y table q :=
  ⟨h.outputs, fun hs => ha.last.trans (h.last hs), fun i p hr hp => (ha.blocks p ⟨i, hr, hp⟩).trans (h.blocks i p hr hp)⟩

section Batch

variable {config : Config} {blockHash : List ℕ → ℤ} {s : CoreState FakeState}
  (hw : WellFormed (fakeSetup config blockHash) s) (hpairs : Pairs (Quiet config) s)
  {prefill decode : List Sequence} (hr : BatchReady config s.queue s.blockManager prefill decode)
  {q : Sequence} (hq : s.queue.runningSeq q.seqId.request = some q)

include hw hpairs hr hq

omit hw in
lemma batch_foreign : Foreign config s.blockManager (ReadBy config (s.blockManager.getBlockTable q.seqId) q) q.seqId
    ((batchInput config s.blockManager prefill decode).sequenceInfo.filter (·.sequenceId ≠ q.seqId)) := by
  intro info hm
  obtain ⟨hinfo, hid⟩ := List.mem_filter.mp hm
  have hne : info.sequenceId ≠ q.seqId := by simpa using hid
  refine ⟨hne, fun r hpos ⟨i, hreads, hp⟩ => ?_⟩
  obtain ⟨q', hq', hcall⟩ := batchInput_positions_mem hinfo hpos
  rw [← hq'] at hne
  refine written_elsewhere (S := fakeSetup config (fun _ => 0)) hpairs hr _ ⟨hq, hp⟩ hreads hcall (Or.inl hne.symm) ?_
  rw [hq']
  rfl

omit hw in
lemma chunk_filter (hp : q ∈ prefill) {i p : ℕ} (hreads : ReadsBlock config q i)
    (hip : (s.blockManager.getBlockTable q.seqId)[i]? = some p) {rs : List ℕ}
    (hrs : ∀ r ∈ rs, q.prefillCursor ≤ r ∧ r < chunkEnd config q) :
    rs.filter (fun r => (s.blockManager.getBlockTable q.seqId).getD (r / config.blockSize) 0 = p) =
      rs.filter (· / config.blockSize = i) := by
  refine List.filter_congr fun r hm => ?_
  obtain ⟨h₁, h₂⟩ := hrs r hm
  refine decide_eq_decide.mpr ⟨fun he => ?_, fun he => ?_⟩
  · by_contra hne
    exact written_elsewhere (S := fakeSetup config (fun _ => 0)) hpairs hr (q, r) ⟨hq, hip⟩ hreads
      (mem_ensureCalls.mpr (Or.inl ⟨hp, h₁, h₂⟩)) (Or.inr (Ne.symm hne)) he
  · rw [he, List.getD_eq_getElem?_getD, hip, Option.getD_some]

omit hpairs in
lemma prefill_unfinished (hp : q ∈ prefill) (hne : q.promptTokenIds ≠ []) :
    q.outputTokenIds = [] ∧ q.prefillCursor < q.promptTokenIds.length := by
  have hstatus := (hr.prefill_live q hp).2
  rcases hw.queue.runningSeq_phase hq with ⟨-, hout, -, hlt | ⟨-, hz⟩⟩ | ⟨hs, -⟩
  · exact ⟨hout, hlt⟩
  · exact absurd (List.length_eq_zero_iff.mp hz) hne
  · simp [hstatus] at hs

lemma chunk_total (hp : q ∈ prefill) (hne : q.promptTokenIds ≠ []) {x : FakeState} {info : SequenceExecutionInfo}
    (hi : Isolated config x (s.blockManager.getBlockTable q.seqId) q) (he : PrefillEntry config q info) {i p : ℕ}
    (hreads : ReadsBlock config q i) (hip : (s.blockManager.getBlockTable q.seqId)[i]? = some p) :
    blockTotal (writePrompts config (s.blockManager.getBlockTable q.seqId) x (chunkPositions info)) p =
      blockSum config.vocabSize config.blockSize q.promptTokenIds.length [] i (chunkEnd config q) := by
  obtain ⟨hout, hlt⟩ := prefill_unfinished hw hr hq hp hne
  have hend := cursor_le_chunkEnd config hlt.le
  have hendle := chunkEnd_le config (q := q)
  have hkv : q.kvLen = q.prefillCursor := LivePhase.kvLen_prefill (hr.prefill_live q hp).2
  have hmem : ∀ r ∈ chunkPositions info, q.prefillCursor ≤ r ∧ r < chunkEnd config q := by
    intro r hm
    rw [he.positions] at hm
    obtain ⟨k, hk, rfl⟩ := List.mem_map.mp hm
    have := List.mem_range.mp hk
    omega
  have hsum := blockSum_add config.vocabSize config.blockSize q.promptTokenIds.length [] i q.prefillCursor
    (chunkEnd config q - q.prefillCursor)
  rw [Nat.add_sub_cancel' hend] at hsum
  rw [blockTotal_writePrompts, hi.blocks i p hreads hip, hkv, hout,
    chunk_filter hpairs hr hq hp hreads hip hmem, he.positions, hsum]
  congr 2
  apply List.map_congr_left
  intro r hm
  obtain ⟨k, hk, rfl⟩ := List.mem_map.mp (List.mem_of_mem_filter hm)
  have := List.mem_range.mp hk
  rw [tokenAt, if_pos (by omega)]

omit hw hpairs hr hq in
lemma chunk_last {info : SequenceExecutionInfo} (he : PrefillEntry config q info)
    (hlt : q.prefillCursor < q.promptTokenIds.length) (hc : chunkEnd config q = q.promptTokenIds.length)
    {pos : Option ℕ} {r : ℕ} (hpos : posAfter pos info = some r) : r = q.promptTokenIds.length - 1 := by
  obtain ⟨k, hk⟩ : ∃ k, chunkEnd config q - q.prefillCursor = k + 1 := ⟨_, (Nat.succ_pred (by omega)).symm⟩
  simp only [posAfter, he.positions, hk, List.range_succ, List.map_append, List.map_cons, List.map_nil,
    List.append_eq_nil_iff, List.cons_ne_nil, and_false, if_false, List.getLast?_append, List.getLast?_singleton,
    Option.some_or, Option.some.injEq] at hpos
  omega

omit hpairs in
theorem entry_effect {table : List ℕ} {pos : Option ℕ} {x y : FakeState} {info : SequenceExecutionInfo}
    {items : List (ℕ × SeqId)}
    (hentry : (q ∈ prefill ∧ PrefillEntry config q info) ∨ (q ∈ decode ∧ DecodeEntry q info))
    (heff : InfoEffect config table pos x info y items) {token : SeqId → ℕ}
    (htok : ∀ item ∈ items, token item.2 = item.1) :
    EntryEffect config table pos x info q y
      (afterBatch config (prefill.map (·.seqId)) (decode.map (·.seqId)) token q) := by
  have hqf := hw.queue
  rcases hentry with ⟨hp, he⟩ | ⟨hd, he⟩
  · have hle := (hqf.runningSeq_phase hq).cursor_le
    have hstatus := (hr.prefill_live q hp).2
    cases heff with
    | chunk hphase hsample =>
      have hc : chunkEnd config q ≠ q.promptTokenIds.length := by
        intro hc
        have hsome := (he.samples_iff hle).mpr hc
        rw [hsample] at hsome
        cases hsome
      have hafter : afterBatch config (prefill.map (·.seqId)) (decode.map (·.seqId)) token q =
          { q with prefillCursor := chunkEnd config q } :=
        afterBatch_chunk (S := fakeSetup config blockHash) hqf hr token hq hp hc
      rw [hafter]
      exact .chunk hstatus hc
    | completed hphase hsample r hpos =>
      have hc := (he.samples_iff hle).mp hsample
      have ht : token info.sequenceId = firstToken config r := htok _ (List.mem_singleton_self _)
      have hafter : afterBatch config (prefill.map (·.seqId)) (decode.map (·.seqId)) token q =
          { q with
            outputTokenIds := [token q.seqId]
            numGeneratedTokens := 1
            status := .running
            prefillCursor := chunkEnd config q } :=
        afterBatch_completed (S := fakeSetup config blockHash) hqf hr token hq hp hc
      rw [hafter, ← he.sequenceId, ht, he.sequenceId]
      exact .completed hstatus hc r hpos
    | decode hphase => cases he.phase.symm.trans hphase
  · obtain ⟨-, hstatus, -⟩ := hr.decode_live q hd
    cases heff with
    | chunk hphase => cases he.phase.symm.trans hphase
    | completed hphase => cases he.phase.symm.trans hphase
    | decode hphase t ht =>
      have htoken : token q.seqId = t := by
        rw [← he.sequenceId]
        exact htok _ (List.mem_singleton_self _)
      have hafter : afterBatch config (prefill.map (·.seqId)) (decode.map (·.seqId)) token q =
          { q with
            outputTokenIds := q.outputTokenIds ++ [token q.seqId]
            numGeneratedTokens := q.numGeneratedTokens + 1 } :=
        afterBatch_decode (S := fakeSetup config blockHash) hqf hr token hq hd
      have heffect : EntryEffect config table pos x info q _ _ := .decode hstatus t ht
      rw [hafter, htoken, he.sequenceId]
      rwa [he.sequenceId] at heffect

lemma isolated_prefill (hp : q ∈ prefill) (hne : q.promptTokenIds ≠ []) {q' : Sequence}
    {pos : Option ℕ} {x y : FakeState} {info : SequenceExecutionInfo}
    (hi : Isolated config x (s.blockManager.getBlockTable q.seqId) q) (he : PrefillEntry config q info)
    (heff : EntryEffect config (s.blockManager.getBlockTable q.seqId) pos x info q y q') :
    Isolated config y (s.blockManager.getBlockTable q.seqId) q' := by
  have hstatus := (hr.prefill_live q hp).2
  obtain ⟨hout, hlt⟩ := prefill_unfinished hw hr hq hp hne
  cases heff with
  | chunk =>
    refine ⟨hi.outputs, fun hs => ?_, fun i p hreads hip => ?_⟩
    · simp [hstatus] at hs
    · have hk : ({ q with prefillCursor := chunkEnd config q } : Sequence).kvLen = chunkEnd config q :=
        LivePhase.kvLen_prefill hstatus
      rw [hk]
      simp only [hout]
      exact chunk_total hw hpairs hr hq hp hne hi he hreads hip
  | completed hs hc r hpos =>
    have hlast := chunk_last he hlt hc hpos
    refine ⟨?_, fun _ => ?_, fun i p hreads hip => ?_⟩
    · simp only [List.length_singleton, soloOutputs, List.nil_append, nextOutput, List.getLast?_nil, hlast,
        firstToken]
    · rw [lastOf_setLast, if_pos rfl]
      rfl
    · have hk : ({ q with
          outputTokenIds := [firstToken config r]
          numGeneratedTokens := 1
          status := .running
          prefillCursor := chunkEnd config q } : Sequence).kvLen = q.promptTokenIds.length := by
        simp [Sequence.kvLen, decodePosition]
      rw [hk, ← hc]
      refine (chunk_total hw hpairs hr hq hp hne hi he hreads hip).trans ?_
      rw [hc]
      exact blockSum_congr fun r hlt => by simp only [tokenAt, if_pos hlt]
  | decode hs => cases hstatus.symm.trans hs

omit hw hpairs hr hq in
lemma biasOf_eq {x : FakeState} {table : List ℕ} {r p : ℕ} (h : table[r / config.blockSize]? = some p) :
    biasOf config table x r = blockTotal x p % config.vocabSize := by
  have hidx : pyIndex table ((r : ℤ) / config.blockSize) = .ok p := by
    have hcast : (r : ℤ) / config.blockSize = ((r / config.blockSize : ℕ) : ℤ) := (Int.natCast_ediv _ _).symm
    simp only [pyIndex, hcast, Int.natCast_nonneg, if_true, Int.toNat_natCast, h]
  simp only [biasOf, hidx, blockTotal]

omit hpairs in
lemma decode_token (hd : q ∈ decode) (hne : q.promptTokenIds ≠ []) {x : FakeState} {info : SequenceExecutionInfo}
    (hi : Isolated config x (s.blockManager.getBlockTable q.seqId) q) (he : DecodeEntry q info) :
    nextToken config (s.blockManager.getBlockTable q.seqId) x info.sequenceId info.cachedLenBefore =
      nextOutput config.vocabSize config.blockSize q.promptTokenIds.length q.outputTokenIds := by
  obtain ⟨-, hstatus, -⟩ := hr.decode_live q hd
  obtain ⟨-, hgen, hlen⟩ := (hw.queue.runningSeq_phase hq).decode hstatus
  have hprompt := List.length_pos_of_ne_nil hne
  have hkv : q.kvLen = decodePosition q := LivePhase.kvLen_running hstatus
  have hdp : decodePosition q = q.promptTokenIds.length + q.outputTokenIds.length - 1 := by
    rw [decodePosition, hlen]
  obtain ⟨last, hlast⟩ := Option.isSome_iff_exists.mp (List.getLast?_isSome.mpr
    (List.ne_nil_of_length_pos (by omega : 0 < q.outputTokenIds.length)))
  -- The block that the step reads is one that `q` reads, so it holds exactly `q`'s positions.
  have hcov : (decodePosition q - 1) / config.blockSize < (s.blockManager.getBlockTable q.seqId).length :=
    hw.covered_lt hq (by omega)
  have hblock := List.getElem?_eq_getElem hcov
  have hreads : ReadsBlock config q ((decodePosition q - 1) / config.blockSize) := by
    have := Nat.lt_div_mul_add (a := decodePosition q - 1) config.blockSize_pos
    rw [ReadsBlock, Nat.succ_mul]
    omega
  have hcast : ((decodePosition q : ℕ) : ℤ) - 1 = ((decodePosition q - 1 : ℕ) : ℤ) := by omega
  rw [nextToken, he.sequenceId, hi.last hstatus, he.cached, hcast, biasOf_eq hblock, hi.blocks _ _ hreads hblock,
    nextOutput, hlast, hkv, hdp, Nat.sub_sub]
  rfl

lemma decode_total (hd : q ∈ decode) (hne : q.promptTokenIds ≠ []) {x : FakeState} {info : SequenceExecutionInfo}
    (hi : Isolated config x (s.blockManager.getBlockTable q.seqId) q) (he : DecodeEntry q info) (t : ℕ) {i p : ℕ}
    (hreads : ReadsBlock config q i) (hip : (s.blockManager.getBlockTable q.seqId)[i]? = some p) :
    blockTotal (writeAt config (s.blockManager.getBlockTable q.seqId)
        (setLast x info.sequenceId (lastOf x info.sequenceId)) info.cachedLenBefore t) p =
      blockSum config.vocabSize config.blockSize q.promptTokenIds.length (q.outputTokenIds ++ [t]) i
        (decodePosition q + 1) := by
  obtain ⟨-, hstatus, -⟩ := hr.decode_live q hd
  obtain ⟨-, hgen, hlen⟩ := (hw.queue.runningSeq_phase hq).decode hstatus
  have hprompt := List.length_pos_of_ne_nil hne
  have hkv : q.kvLen = decodePosition q := LivePhase.kvLen_running hstatus
  have hdp : decodePosition q = q.promptTokenIds.length + q.outputTokenIds.length - 1 := by
    rw [decodePosition, hlen]
  have hsplit : (s.blockManager.getBlockTable q.seqId).getD (decodePosition q / config.blockSize) 0 = p ↔
      decodePosition q / config.blockSize = i := by
    refine ⟨fun he => ?_, fun he => by rw [he, List.getD_eq_getElem?_getD, hip, Option.getD_some]⟩
    by_contra hne
    exact written_elsewhere (S := fakeSetup config blockHash) hpairs hr (q, decodePosition q) ⟨hq, hip⟩
      hreads (mem_ensureCalls.mpr (Or.inr ⟨hd, rfl⟩)) (Or.inr (Ne.symm hne)) he
  have hbase : blockTotal x p = blockSum config.vocabSize config.blockSize q.promptTokenIds.length
      (q.outputTokenIds ++ [t]) i (decodePosition q) := by
    rw [hi.blocks i p hreads hip, hkv]
    exact blockSum_congr fun r hlt => (tokenAt_append [t] (by omega)).symm
  have hwritten : tokenAt config.vocabSize q.promptTokenIds.length (q.outputTokenIds ++ [t]) (decodePosition q) = t := by
    rw [tokenAt, if_neg (by omega), List.getD_eq_getElem?_getD,
      show decodePosition q - q.promptTokenIds.length + 1 = q.outputTokenIds.length by omega,
      List.getElem?_concat_length, Option.getD_some]
  have htotal := blockTotal_writeAt config (s.blockManager.getBlockTable q.seqId)
    (setLast x info.sequenceId (lastOf x info.sequenceId)) p info.cachedLenBefore t
  rw [blockSum_add, ← hbase]
  refine htotal.trans ?_
  rw [he.cached]
  by_cases hblock : decodePosition q / config.blockSize = i
  · rw [if_pos (hsplit.mpr hblock)]
    simp [hblock, hwritten]
    rfl
  · rw [if_neg (hsplit.not.mpr hblock)]
    simp [hblock]
    rfl

lemma isolated_decode (hd : q ∈ decode) (hne : q.promptTokenIds ≠ []) {q' : Sequence}
    {pos : Option ℕ} {x y : FakeState} {info : SequenceExecutionInfo}
    (hi : Isolated config x (s.blockManager.getBlockTable q.seqId) q) (he : DecodeEntry q info)
    (heff : EntryEffect config (s.blockManager.getBlockTable q.seqId) pos x info q y q') :
    Isolated config y (s.blockManager.getBlockTable q.seqId) q' := by
  obtain ⟨-, hstatus, -⟩ := hr.decode_live q hd
  obtain ⟨-, hgen, hlen⟩ := (hw.queue.runningSeq_phase hq).decode hstatus
  cases heff with
  | chunk hs => cases hstatus.symm.trans hs
  | completed hs => cases hstatus.symm.trans hs
  | decode hs t ht =>
    rw [decode_token hw hr hq hd hne hi he] at ht
    refine ⟨?_, fun _ => ?_, fun i p hreads hip => ?_⟩
    · simp only [List.length_append, List.length_singleton, soloOutputs, ← hi.outputs, ← ht]
    · rw [lastOf_setLast, if_pos rfl, List.getLast?_append, List.getLast?_singleton, Option.some_or]
    · have hk : ({ q with
          outputTokenIds := q.outputTokenIds ++ [t]
          numGeneratedTokens := q.numGeneratedTokens + 1 } : Sequence).kvLen = decodePosition q + 1 := by
        simp only [Sequence.kvLen, hstatus, decodePosition, reduceCtorEq, if_false]
        omega
      rw [hk]
      exact decode_total hw hpairs hr hq hd hne hi he t hreads hip

omit hpairs in
lemma batch_entry (hm : q ∈ prefill ++ decode) :
    ∃ info ∈ (batchInput config s.blockManager prefill decode).sequenceInfo, info.sequenceId = q.seqId ∧
      ((q ∈ prefill ∧ PrefillEntry config q info) ∨ (q ∈ decode ∧ DecodeEntry q info)) := by
  have hids : q.seqId ∈ (batchInput config s.blockManager prefill decode).sequenceInfo.map (·.sequenceId) := by
    rw [batchInput_ids]
    exact List.mem_map_of_mem hm
  obtain ⟨info, hinfo, hid⟩ := List.mem_map.mp hids
  refine ⟨info, hinfo, hid, ?_⟩
  rcases batchInput_entry hinfo with ⟨q₁, hq₁, he⟩ | ⟨q₁, hq₁, he⟩
  · obtain rfl := hw.queue.runningSeq_ext (hr.prefill_live q₁ hq₁).1 hq (he.sequenceId.symm.trans hid)
    exact Or.inl ⟨hq₁, he⟩
  · obtain rfl := hw.queue.runningSeq_ext (hr.decode_live q₁ hq₁).1 hq (he.sequenceId.symm.trans hid)
    exact Or.inr ⟨hq₁, he⟩

omit hpairs in
lemma batch_no_entry (hm : q ∉ prefill ++ decode) {info : SequenceExecutionInfo}
    (hinfo : info ∈ (batchInput config s.blockManager prefill decode).sequenceInfo) : info.sequenceId ≠ q.seqId := by
  have hids : info.sequenceId ∈ (prefill ++ decode).map (·.seqId) := by
    rw [← batchInput_ids]
    exact List.mem_map_of_mem hinfo
  obtain ⟨q₁, hq₁, hid⟩ := List.mem_map.mp hids
  have hlive : s.queue.runningSeq q₁.seqId.request = some q₁ := by
    rcases List.mem_append.mp hq₁ with h | h
    · exact (hr.prefill_live q₁ h).1
    · exact (hr.decode_live q₁ h).1
  intro hsame
  rw [← hid] at hsame
  obtain rfl := hw.queue.runningSeq_ext hlive hq hsame
  exact hm hq₁

omit hpairs hq in
lemma failed_listener {err : Exn} {x : FakeState}
    (hexec : execute config (batchInput config s.blockManager prefill decode) s.blockManager =
      (.error err, s.blockManager.withListener x)) : x = s.blockManager.allocator.listener :=
  execute_error (batchInput_covered (S := fakeSetup config blockHash) hw.queue hr (hw.contains_batch hr)) rfl
    (fun _ hi => (mem_prefillInfos hi).1) (fun _ hi => (mem_decodeInfos hi).1) hexec

theorem isolated_batch (hne : q.promptTokenIds ≠ []) {output : ModelRunnerOutput} {x' : FakeState}
    (hexec : execute config (batchInput config s.blockManager prefill decode) s.blockManager =
      (.ok output, s.blockManager.withListener x'))
    (hi : Isolated config s.blockManager.allocator.listener (s.blockManager.getBlockTable q.seqId) q) :
    Isolated config x' (s.blockManager.getBlockTable q.seqId)
      (afterBatch config (prefill.map (·.seqId)) (decode.map (·.seqId)) (tokenOf output) q) := by
  have hcov : Covered config.blockSize s.blockManager
      (batchInput config s.blockManager prefill decode).sequenceInfo :=
    batchInput_covered (S := fakeSetup config blockHash) hw.queue hr (hw.contains_batch hr)
  have hf := batch_foreign hpairs hr hq
  by_cases hm : q ∈ prefill ++ decode
  · obtain ⟨info, hinfo, hid, hentry⟩ := batch_entry hw hr hq hm
    obtain ⟨pos, x, y, items, ha₁, heff, ha₂, htok⟩ := execute_effect hcov hexec
      (by rw [batchInput_ids]; exact hr.nodup) (batchInput_decode_sampled (S := fakeSetup config blockHash)) hinfo
      (by rw [hid]; exact hf)
    rw [hid] at ha₁ ha₂ heff
    have hafter : Isolated config y (s.blockManager.getBlockTable q.seqId)
        (afterBatch config (prefill.map (·.seqId)) (decode.map (·.seqId)) (tokenOf output) q) := by
      have heffect := entry_effect hw hr hq hentry heff htok
      rcases hentry with ⟨hp, he⟩ | ⟨hd, he⟩
      · exact isolated_prefill hw hpairs hr hq hp hne (hi.of_agrees ha₁) he heffect
      · exact isolated_decode hw hpairs hr hq hd hne (hi.of_agrees ha₁) he heffect
    refine hafter.of_agrees ⟨fun p hp => ha₂.blocks p ?_, ?_⟩
    · simpa only [ReadBy, ReadsBlock, afterBatch_prompt] using hp
    · rw [afterBatch_seqId]
      exact ha₂.last
  · have hother : ∀ info ∈ (batchInput config s.blockManager prefill decode).sequenceInfo,
        info.sequenceId ≠ q.seqId := fun info hinfo => batch_no_entry hw hr hq hm hinfo
    rw [List.mem_append, not_or] at hm
    have hidle : afterBatch config (prefill.map (·.seqId)) (decode.map (·.seqId)) (tokenOf output) q = q :=
      afterBatch_idle (S := fakeSetup config blockHash) hw.queue hr _ hq hm.1 hm.2
    rw [hidle]
    refine hi.of_agrees (execute_foreign hcov hexec fun info hinfo => ?_)
    exact hf info (List.mem_filter.mpr ⟨hinfo, by simpa using hother info hinfo⟩)

end Batch

def Simulates (config : Config) (s : CoreState FakeState) : Prop :=
  ∀ rid q, s.queue.runningSeq rid = some q → q.promptTokenIds ≠ [] →
    Isolated config s.blockManager.allocator.listener (s.blockManager.getBlockTable q.seqId) q

def FinishedSolo (config : Config) (s : CoreState FakeState) : Prop :=
  ∀ rid sg, s.queue.finished.get? rid = some sg → ∀ q ∈ sg.seqs, q.status = .finished → q.promptTokenIds ≠ [] →
    1 ≤ q.samplingParams.maxTokens → q.outputTokenIds = soloOutputs config.vocabSize config.blockSize
      q.promptTokenIds.length q.samplingParams.maxTokens.toNat

section Run

variable {config : Config} {blockHash : List ℕ → ℤ} {s s' : CoreState FakeState}

lemma blockTotal_release {released : List ℕ} {p : ℕ} (hp : p ∉ released) (x : FakeState) :
    blockTotal (released.foldl releaseBlock x) p = blockTotal x p := by
  induction released generalizing x with
  | nil => rfl
  | cons r rest ih =>
    rw [List.mem_cons, not_or] at hp
    rw [List.foldl_cons, ih hp.2]
    simp only [blockTotal, block, releaseBlock, Dict.get?_pop, if_neg hp.1]

lemma lastOf_release (released : List ℕ) (x : FakeState) (sid : SeqId) :
    lastOf (released.foldl releaseBlock x) sid = lastOf x sid := by
  induction released generalizing x with
  | nil => rfl
  | cons r rest ih => exact ih (releaseBlock x r)

lemma Isolated.of_table {x y : FakeState} {table table' : List ℕ} {q : Sequence} (h : Isolated config x table q)
    (hlast : lastOf y q.seqId = lastOf x q.seqId)
    (hblocks : ∀ i p, ReadsBlock config q i → table'[i]? = some p → table[i]? = some p ∧ blockTotal y p = blockTotal x p ∨
      q.kvLen ≤ i * config.blockSize ∧ blockTotal y p = 0) : Isolated config y table' q := by
  refine ⟨h.outputs, fun hs => hlast.trans (h.last hs), fun i p hr hp => ?_⟩
  rcases hblocks i p hr hp with ⟨hold, hsame⟩ | ⟨hle, hzero⟩
  · rw [hsame, h.blocks i p hr hold]
  · rw [hzero, blockSum_eq_zero _ config.blockSize_pos hle]

section Simulates

variable (hw : WellFormed (fakeSetup config blockHash) s) (h : Simulates config s)

include hw h

lemma Simulates.retire {sg : SequenceGroup} {q : Sequence} {status : Status} {bm : BlockManager FakeState}
    (hid : sg.requestId = q.seqId.request)
    (hf : BlockManager.Releases (fakeSetup config blockHash).blockParams q.seqId s.blockManager bm) :
    Simulates config
      ⟨s.queue.markFinished { sg with seqs := [{ q with status := status }] }, bm, s.seqGroupCount⟩ := by
  intro rid q' hq' hne
  rw [RequestQueue.runningSeq_markFinished] at hq'
  split_ifs at hq' with hr
  rw [hid] at hr
  have hother : q'.seqId ≠ q.seqId := hw.queue.seqId_ne hq' hr
  obtain ⟨released, hlis, hrel⟩ := hf.listener
  have htable := hf.table q'.seqId
  rw [if_neg hother] at htable
  have hlis' : bm.allocator.listener = released.foldl releaseBlock s.blockManager.allocator.listener := hlis
  refine (h rid q' hq' hne).of_table (by rw [hlis', lastOf_release]) fun i p _ hp => Or.inl ⟨by rwa [← htable], ?_⟩
  rw [hlis', blockTotal_release]
  intro hm
  have hpos := hf.balanced.getRefCount_pos (List.mem_of_getElem? hp)
  rw [((hrel p).mp hm).2] at hpos
  exact absurd hpos (lt_irrefl _)

lemma Simulates.admission {sg : SequenceGroup} {bm : BlockManager FakeState}
    (hwait : s.queue.waiting.get? sg.requestId = some sg)
    (hc : (quietHits (fakeSetup config blockHash)).admission s.queue s.blockManager sg)
    (ha : BlockManager.Admits (fakeSetup config blockHash).blockParams ⟨sg.requestId, 0⟩ sg.promptTokenIds
      s.blockManager bm) :
    Simulates config ⟨s.queue.markRunning
      { sg with seqs := sg.seqs ++ [Scheduler.admittedSeq (fakeSetup config blockHash) s.blockManager sg] }, bm,
      s.seqGroupCount⟩ := by
  intro rid q' hq' hne
  rw [hw.runningSeq_admission hwait] at hq'
  split_ifs at hq' with hr
  · obtain rfl := Option.some.inj hq'
    refine ⟨rfl, fun hs => (by cases hs), fun i p hreads hp => ?_⟩
    have hid : (Scheduler.admittedSeq (fakeSetup config blockHash) s.blockManager sg).seqId = ⟨sg.requestId, 0⟩ := rfl
    rw [ha.table, if_pos hid] at hp
    exact absurd hreads (Nat.not_le.mpr (matched_computed hc hp).1)
  · have hother : q'.seqId ≠ ⟨sg.requestId, 0⟩ := hw.queue.seqId_ne hq' hr
    simp only [ha.table, if_neg hother, ha.listener]
    exact h rid q' hq' hne

lemma Simulates.hit {q : Sequence} {position : ℕ} {hash : ℤ} {p : ℕ} {bm : BlockManager FakeState}
    (hready : EnsureReady config s.queue s.blockManager q position)
    (hc : (quietHits (fakeSetup config blockHash)).ensure s.queue s.blockManager q position)
    (hlen : position / config.blockSize = (s.blockManager.getBlockTable q.seqId).length)
    (hhash : s.blockManager.promptHash (fakeSetup config blockHash).blockParams q position
      (position / config.blockSize) = some hash)
    (hcached : s.blockManager.cachedBlock hash = some p)
    (hs : BlockManager.Shares q.seqId [p] s.blockManager bm) : Simulates config ⟨s.queue, bm, s.seqGroupCount⟩ := by
  intro rid q' hq' hne
  simp only [hs.table, hs.listener]
  refine (h rid q' hq' hne).of_table rfl fun i r hreads hp => Or.inl ⟨?_, rfl⟩
  split_ifs at hp with hid
  · obtain rfl := hw.queue.runningSeq_ext hq' hready.live hid
    rcases getElem?_concat_cases hp with hold | ⟨hi, -⟩
    · exact hold
    · have hquiet := (hc p (ensureHit_of_cached hlen hhash hcached)).1
      rw [show (fakeSetup config blockHash).config.blockSize = config.blockSize from rfl, hlen, ← hi] at hquiet
      exact absurd hreads (Nat.not_le.mpr hquiet)
  · exact hp

lemma Simulates.miss {q : Sequence} {hash : Option ℤ} {p : ℕ} {bm : BlockManager FakeState}
    (htk : BlockManager.Takes (fakeSetup config blockHash).blockParams q.seqId hash p s.blockManager bm) :
    Simulates config ⟨s.queue, bm, s.seqGroupCount⟩ := by
  intro rid q' hq' hne
  have hlis : bm.allocator.listener = prepareBlock s.blockManager.allocator.listener p := htk.listener
  have hother : ∀ r ≠ p, blockTotal bm.allocator.listener r = blockTotal s.blockManager.allocator.listener r := by
    intro r hr
    simp only [hlis, blockTotal, block, prepareBlock, Dict.get?_set, if_neg hr]
  have hold : ∀ i r : ℕ, (s.blockManager.getBlockTable q'.seqId)[i]? = some r → r ≠ p := by
    rintro i r hr rfl
    exact hw.balanced.not_mem_of_isFree htk.wasFree _ (List.mem_of_getElem? hr)
  refine (h rid q' hq' hne).of_table (by rw [hlis]; rfl) fun i r _ hp => ?_
  rw [htk.table] at hp
  split_ifs at hp with hid
  · rw [← hid] at hp
    rcases getElem?_concat_cases hp with hp | ⟨hi, rfl⟩
    · exact Or.inl ⟨hp, hother r (hold i r hp)⟩
    · refine Or.inr ⟨(hw.covered rid q' hq').trans (Nat.mul_le_mul_right _ hi.ge), ?_⟩
      simp only [hlis, blockTotal, block, prepareBlock, Dict.get?_set, if_true, Option.getD_some, List.sum_nil]
  · exact Or.inl ⟨hp, hother r (hold i r hp)⟩

end Simulates

theorem simulates_step (hw : WellFormed (fakeSetup config blockHash) s) (hpairs : Pairs (Quiet config) s)
    (h : Simulates config s)
    (ht : Transition (fakeSetup config blockHash) (quietHits (fakeSetup config blockHash)) s s') :
    Simulates config s' := by
  cases hw.effect ht with
  | idle => exact h
  | requeue queue n hrun =>
    exact fun rid q hq => h rid q (by simpa only [RequestQueue.runningSeq, hrun] using hq)
  | cleanup => exact h
  | retire sg q status bm hid hseqs hlive hstatus hf => exact h.retire hw hid hf
  | admission sg bm hwait hfresh hc ha => exact h.admission hw hwait hc ha
  | hit q position hash p bm hready hc hlen hhash hcached hs => exact h.hit hw hready hc hlen hhash hcached hs
  | miss q position p bm hready hc hlen hmiss htk => exact h.miss hw htk
  | failed prefill decode err x hready hc hexec =>
    rw [failed_listener hw hready hexec]
    exact h
  | done prefill decode output x queue hready hc hexec hwt hfn hrj hrun =>
    intro rid q' hq' hne
    rw [RequestQueue.runningSeq_map hrun] at hq'
    obtain ⟨q, hq, rfl⟩ := Option.map_eq_some_iff.mp hq'
    have hid : q.seqId.request = rid := by rw [hw.queue.runningSeq_seqId hq]
    rw [afterBatch_prompt] at hne
    rw [afterBatch_seqId]
    exact isolated_batch hw hpairs hready (by rwa [hid]) hne hexec (h rid q hq hne)

lemma LivePhase.finished_length {q : Sequence} (h : LivePhase q) (hmax : 1 ≤ q.samplingParams.maxTokens)
    (hdone : q.samplingParams.maxTokens ≤ q.numGeneratedTokens) :
    q.outputTokenIds.length = q.samplingParams.maxTokens.toNat := by
  rcases h with ⟨-, -, hg, -⟩ | ⟨-, -, -, hlen, hle⟩
  · omega
  · rw [max_eq_right hmax] at hle
    omega

lemma finishedSolo_step (hw : WellFormed (fakeSetup config blockHash) s) (hs : Simulates config s)
    (h : FinishedSolo config s)
    (ht : Transition (fakeSetup config blockHash) (quietHits (fakeSetup config blockHash)) s s') :
    FinishedSolo config s' := by
  cases hw.effect ht with
  | idle => exact h
  | cleanup => exact h
  | admission => exact h
  | hit => exact h
  | miss => exact h
  | failed => exact h
  | done _ _ _ _ _ _ _ _ _ hfn =>
    intro rid sg hsg
    exact h rid sg (by rwa [← hfn])
  | requeue queue n hrun hfin =>
    intro rid sg hsg q hq
    rcases hfin rid sg hsg with hold | hnil
    · exact h rid sg hold q hq
    · rw [hnil] at hq
      cases hq
  | retire sg q status bm hid hseqs hlive hstatus hf =>
    intro rid sg' hsg' q' hq' hst hne hmax
    simp only [RequestQueue.markFinished, Dict.get?_set] at hsg'
    split_ifs at hsg' with hr
    · obtain rfl := Option.some.inj hsg'
      obtain rfl : q' = { q with status := status } := by simpa using hq'
      have hiso := (hs _ q hlive hne).outputs
      obtain rfl : status = .finished := hst
      cases hstatus with
      | finished hdone =>
        rw [(hw.queue.runningSeq_phase hlive).finished_length hmax hdone] at hiso
        exact hiso
    · exact h rid sg' hsg' q' hq' hst hne hmax

theorem finishedSolo_reaches (h : Reaches (fakeSetup config blockHash) (quietHits (fakeSetup config blockHash))
    (LLMEngine.initial (fakeSetup config blockHash)).core s) : FinishedSolo config s := by
  have hall := run_invariant (I := fun s => Pairs (Quiet config) s ∧ Simulates config s ∧ FinishedSolo config s)
    ⟨fun q i q' j p h₁ _ => (by cases h₁.live), fun rid q hq => (by cases hq), fun rid sg hsg => (by cases hsg)⟩
    (fun s s' hw hi ht => ⟨quietHits_rule.step hw hi.1 ht, simulates_step hw hi.1 hi.2.1 ht,
      finishedSolo_step hw hi.2.1 hi.2.2 ht⟩) h
  exact hall.2.2

end Run

end MiniVllm
