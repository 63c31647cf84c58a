import MiniVllm.EngineProofs.Refinement

/-! The KV writes of a batch: one for each `ensure_block` call of its step. -/

namespace MiniVllm

open EngineCore ModelInputBuilder

variable {ε : Type} (config : Config) (bm : BlockManager ε) (prefill decode : List Sequence)

lemma slot_eq_iff {n b c o r : ℕ} (ho : o < n) (hr : r < n) : b * n + o = c * n + r ↔ b = c ∧ o = r := by
  constructor
  · intro h
    have hn : 0 < n := by omega
    have h₁ : (b * n + o) / n = b := by
      rw [Nat.mul_comm, Nat.mul_add_div hn, Nat.div_eq_of_lt ho, Nat.add_zero]
    have h₂ : (c * n + r) / n = c := by
      rw [Nat.mul_comm, Nat.mul_add_div hn, Nat.div_eq_of_lt hr, Nat.add_zero]
    obtain rfl : b = c := by rw [← h₁, h, h₂]
    exact ⟨rfl, by omega⟩
  · rintro ⟨rfl, rfl⟩
    rfl

lemma slotOf_eq_iff (s t : SeqId) (a b : ℕ) :
    slotOf config bm s a = slotOf config bm t b ↔
      (bm.getBlockTable s).getD (a / config.blockSize) 0 = (bm.getBlockTable t).getD (b / config.blockSize) 0 ∧
        a % config.blockSize = b % config.blockSize :=
  slot_eq_iff (Nat.mod_lt _ config.blockSize_pos) (Nat.mod_lt _ config.blockSize_pos)

lemma prefillPositions_eq (q : Sequence) : prefillPositions (collectPrefill config q) =
    List.range' q.prefillCursor (chunkEnd config q - q.prefillCursor) := by
  have hlen : (collectPrefill config q).queryLen = chunkEnd config q - q.prefillCursor := by
    simp only [collectPrefill, chunkEnd]
    omega
  rw [prefillPositions, hlen, List.range'_eq_map_range]
  rfl

lemma batchInput_slotMapping : (batchInput config bm prefill decode).slotMapping =
    (ensureCalls config prefill decode).map (fun call => (slotOf config bm call.1.seqId call.2 : ℤ)) := by
  have hm : (batchInput config bm prefill decode).slotMapping =
    prefillSlots config bm (collectPrefillMetadata config prefill) ++
      decodeSlots config bm (decode.map decodeMetaOf) := rfl
  rw [hm, ensureCalls, List.map_append, List.map_flatMap, prefillSlots, collectPrefillMetadata,
    List.flatMap_map, decodeSlots, List.map_map, List.map_map]
  congr 1
  refine congrArg (fun f => List.flatMap f prefill) (funext fun q => ?_)
  rw [prefillPositions_eq, List.map_map]
  rfl

lemma prefillInfos_positions (counter : ℕ) (prefillMeta : List PrefillMeta) :
    (prefillInfos counter prefillMeta).flatMap (fun info =>
        (List.range info.queryLen).map (fun i => (info.sequenceId, info.queryStart + i))) =
      prefillMeta.flatMap (fun m => (prefillPositions m).map (m.seq.seqId, ·)) := by
  induction prefillMeta generalizing counter with
  | nil => rfl
  | cons m rest ih => simp only [prefillInfos, List.flatMap_cons, ih, prefillPositions, List.map_map]; rfl

lemma decodeInfos_positions (counter : ℕ) (decodeMeta : List DecodeMeta) :
    (decodeInfos counter decodeMeta).flatMap (fun info =>
        (List.range info.queryLen).map (fun i => (info.sequenceId, info.queryStart + i))) =
      decodeMeta.map (fun m => (m.seq.seqId, m.cachedLenBefore)) := by
  induction decodeMeta generalizing counter with
  | nil => rfl
  | cons m rest ih => simp [decodeInfos, ih]

lemma batchInput_positions : (batchInput config bm prefill decode).tokenPositions =
    (ensureCalls config prefill decode).map (fun call => (call.1.seqId, call.2)) := by
  have hm : (batchInput config bm prefill decode).sequenceInfo =
    sequenceInfos (collectPrefillMetadata config prefill) (decode.map decodeMetaOf) := rfl
  rw [ModelInput.tokenPositions, hm, sequenceInfos, List.flatMap_append, prefillInfos_positions,
    decodeInfos_positions, ensureCalls, List.map_append, List.map_flatMap, collectPrefillMetadata, List.flatMap_map,
    List.map_map, List.map_map]
  congr 1
  refine congrArg (fun f => List.flatMap f prefill) (funext fun q => ?_)
  rw [prefillPositions_eq, List.map_map]
  rfl

section Ready

variable {config bm prefill decode} {queue : RequestQueue}
  (hr : BatchReady config queue bm prefill decode)

include hr

lemma BatchReady.call {call : Sequence × ℕ} (hm : call ∈ ensureCalls config prefill decode) :
    queue.runningSeq call.1.seqId.request = some call.1 ∧ call.1.kvLen ≤ call.2 ∧
      call.2 / config.blockSize < (bm.getBlockTable call.1.seqId).length := by
  rcases mem_ensureCalls.mp hm with ⟨hq, h₁, h₂⟩ | ⟨hq, h₁⟩
  · refine ⟨(hr.prefill_live _ hq).1, ?_, hr.prefill_covered _ hq _ h₁ h₂⟩
    rwa [LivePhase.kvLen_prefill (hr.prefill_live _ hq).2]
  · refine ⟨(hr.decode_live _ hq).1, ?_, h₁ ▸ hr.decode_covered _ hq⟩
    rw [LivePhase.kvLen_running (hr.decode_live _ hq).2.1, h₁]

omit hr in
lemma BatchReady.call_lt {S : Setup ε} {n : ℕ} (hq : QueueFormed queue n)
    (hr : BatchReady S.config queue bm prefill decode) (token : SeqId → ℕ) {call : Sequence × ℕ}
    (hm : call ∈ ensureCalls S.config prefill decode) :
    call.2 < (afterBatch S.config (prefill.map (·.seqId)) (decode.map (·.seqId)) token call.1).kvLen := by
  have hlive := (hr.call hm).1
  rcases mem_ensureCalls.mp hm with ⟨hp, -, hlt⟩ | ⟨hd, he⟩
  · rwa [kvLen_afterBatch_prefill hq hr token hlive hp]
  · rw [kvLen_afterBatch_decode hq hr token hlive hd, he]
    exact Nat.lt_succ_self _

lemma BatchReady.nodup_calls :
    ((ensureCalls config prefill decode).map (fun call => (call.1.seqId, call.2))).Nodup := by
  have hids := hr.nodup
  rw [List.map_append] at hids
  obtain ⟨hp, hd, hdisj⟩ := List.nodup_append.mp hids
  rw [ensureCalls, List.map_append, List.map_flatMap, List.map_map]
  refine List.nodup_append.mpr ⟨List.nodup_flatMap.mpr ⟨fun q _ => ?_, ?_⟩, ?_, ?_⟩
  · rw [List.map_map]
    exact (List.nodup_range').map (fun a b h => congrArg Prod.snd h)
  · refine (List.pairwise_map.mp hp).imp fun {q q'} hne => List.disjoint_left.mpr fun x hx hx' => hne ?_
    obtain ⟨_, hc, rfl⟩ := List.mem_map.mp hx
    obtain ⟨_, hc', he⟩ := List.mem_map.mp hx'
    obtain ⟨_, -, rfl⟩ := List.mem_map.mp hc
    obtain ⟨_, -, rfl⟩ := List.mem_map.mp hc'
    exact (congrArg Prod.fst he).symm
  · refine List.Nodup.of_map Prod.fst ?_
    rw [List.map_map]
    exact hd
  · rintro x hx y hy rfl
    obtain ⟨q, hq, hx⟩ := List.mem_flatMap.mp hx
    obtain ⟨_, hc, rfl⟩ := List.mem_map.mp hx
    obtain ⟨_, -, rfl⟩ := List.mem_map.mp hc
    obtain ⟨q', hq', he⟩ := List.mem_map.mp hy
    exact hdisj _ (List.mem_map_of_mem hq) _ (List.mem_map_of_mem hq') (congrArg Prod.fst he).symm

lemma BatchReady.context_eq {call : Sequence × ℕ} (hm : call ∈ ensureCalls config prefill decode) :
    context (prefill ++ decode) call.1.seqId call.2 = call.1.tokens.take (call.2 + 1) := by
  have hq : call.1 ∈ prefill ++ decode := by
    rcases mem_ensureCalls.mp hm with ⟨hq, -⟩ | ⟨hq, -⟩
    · exact List.mem_append_left _ hq
    · exact List.mem_append_right _ hq
  have hfind : (prefill ++ decode).find? (·.seqId = call.1.seqId) = some call.1 := by
    refine List.find?_eq_some_iff_getElem.mpr ⟨by simp, ?_⟩
    obtain ⟨i, hi, hget⟩ := List.getElem_of_mem hq
    refine ⟨i, hi, hget, fun j hj => ?_⟩
    have hne := (List.pairwise_iff_getElem.mp (List.pairwise_map.mp hr.nodup)) j i (hj.trans hi) hi hj
    simpa [hget] using hne
  simp only [context, hfind]

theorem BatchReady.kvWrites_eq : kvWrites (prefill ++ decode) (batchInput config bm prefill decode) =
    (ensureCalls config prefill decode).map (fun call =>
      .wrote (slotOf config bm call.1.seqId call.2 : ℤ) call.1.seqId call.2 (call.1.tokens.take (call.2 + 1))) := by
  rw [kvWrites, batchInput_slotMapping, batchInput_positions, List.zip_map', List.map_map]
  refine List.map_congr_left fun call hm => ?_
  simp only [Function.comp_apply, hr.context_eq hm]

end Ready

end MiniVllm
