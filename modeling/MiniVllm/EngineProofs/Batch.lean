import MiniVllm.EngineProofs.InputBuilder
import MiniVllm.EngineProofs.Queue

/-! One batch: `build` succeeds, `execute` runs on covered tables, sampled tokens reach their sequences. -/

namespace MiniVllm

open EngineCore ModelInputBuilder

section Positions

variable (config : Config) {q : Sequence}

lemma chunkEnd_le : chunkEnd config q ≤ q.promptTokenIds.length := Nat.min_le_right _ _

lemma cursor_le_chunkEnd (h : q.prefillCursor ≤ q.promptTokenIds.length) : q.prefillCursor ≤ chunkEnd config q :=
  Nat.le_min.mpr ⟨Nat.le_add_right _ _, h⟩

lemma collectPrefill_end (h : q.prefillCursor ≤ q.promptTokenIds.length) :
    (collectPrefill config q).cachedLenBefore + (collectPrefill config q).queryLen = chunkEnd config q := by
  simp only [collectPrefill, chunkEnd]
  omega

lemma mem_prefillPositions (h : q.prefillCursor ≤ q.promptTokenIds.length) {position : ℕ} :
    position ∈ prefillPositions (collectPrefill config q) ↔
      q.prefillCursor ≤ position ∧ position < chunkEnd config q := by
  have he := collectPrefill_end config h
  have hc : (collectPrefill config q).cachedLenBefore = q.prefillCursor := rfl
  simp only [prefillPositions, List.mem_map, List.mem_range]
  constructor
  · rintro ⟨i, hi, rfl⟩
    omega
  · rintro ⟨h₁, h₂⟩
    exact ⟨position - q.prefillCursor, by omega, by omega⟩

lemma collectPrefill_completes (h : q.prefillCursor ≤ q.promptTokenIds.length) :
    (collectPrefill config q).prefillCompletes = true ↔ chunkEnd config q = q.promptTokenIds.length := by
  have he := collectPrefill_end config h
  have hl := chunkEnd_le config (q := q)
  have hc : (collectPrefill config q).prefillCompletes = decide ((collectPrefill config q).cachedLenBefore +
    (collectPrefill config q).queryLen ≥ q.promptTokenIds.length) := rfl
  rw [hc, decide_eq_true_iff, he]
  omega

end Positions

def decodeMetaOf (q : Sequence) : DecodeMeta := ⟨q, decodePosition q⟩

variable {ε : Type}

def batchInput (config : Config) (bm : BlockManager ε) (prefill decode : List Sequence) : ModelInput :=
  assembled config bm (collectPrefillMetadata config prefill) (decode.map decodeMetaOf)

lemma collectDecodeMetadata_eq (decode : List Sequence)
    (h : ∀ q ∈ decode, 1 ≤ q.numGeneratedTokens ∧ q.numGeneratedTokens = q.outputTokenIds.length) :
    collectDecodeMetadata decode = .ok (decode.map decodeMetaOf) := by
  induction decode with
  | nil => rfl
  | cons q rest ih =>
    obtain ⟨h₁, h₂⟩ := h q (by simp)
    have hq : q.numGeneratedTokens ≥ 1 ∧ q.outputTokenIds.length ≥ 1 ∧
        q.numGeneratedTokens = q.outputTokenIds.length := ⟨h₁, h₂ ▸ h₁, h₂⟩
    have hrest := ih (fun q' hq' => h q' (List.mem_cons_of_mem q hq'))
    rw [collectDecodeMetadata, collectDecode, if_pos hq, hrest]
    rfl

section Infos

lemma mem_prefillInfos {counter : ℕ} {prefillMeta : List PrefillMeta} {info : SequenceExecutionInfo}
    (h : info ∈ prefillInfos counter prefillMeta) :
    info.phase = .prefill ∧ ∃ m ∈ prefillMeta, info.sequenceId = m.seq.seqId ∧
      info.queryStart = m.cachedLenBefore ∧ info.queryLen = m.queryLen ∧
        info.sampleOutputIndex.isSome = m.prefillCompletes := by
  induction prefillMeta generalizing counter with
  | nil => simp [prefillInfos] at h
  | cons m rest ih =>
    rcases List.mem_cons.mp h with rfl | h
    · exact ⟨rfl, m, by simp, rfl, rfl, rfl, by cases m.prefillCompletes <;> rfl⟩
    · obtain ⟨hp, m', hm, h'⟩ := ih h
      exact ⟨hp, m', List.mem_cons_of_mem m hm, h'⟩

lemma mem_decodeInfos {counter : ℕ} {decodeMeta : List DecodeMeta} {info : SequenceExecutionInfo}
    (h : info ∈ decodeInfos counter decodeMeta) :
    info.phase = .decode ∧ info.sampleOutputIndex.isSome ∧ ∃ m ∈ decodeMeta,
      info.sequenceId = m.seq.seqId ∧ info.queryStart = m.cachedLenBefore ∧
        info.cachedLenBefore = m.cachedLenBefore ∧ info.queryLen = 1 := by
  induction decodeMeta generalizing counter with
  | nil => simp [decodeInfos] at h
  | cons m rest ih =>
    rcases List.mem_cons.mp h with rfl | h
    · exact ⟨rfl, rfl, m, by simp, rfl, rfl, rfl, rfl⟩
    · obtain ⟨hp, hs, m', hm, h'⟩ := ih h
      exact ⟨hp, hs, m', List.mem_cons_of_mem m hm, h'⟩

end Infos

section Outputs

lemma mapSeqs_mapSeqs (f g : Sequence → Sequence) (sg : SequenceGroup) :
    (sg.mapSeqs f).mapSeqs g = sg.mapSeqs (g ∘ f) := by
  simp [SequenceGroup.mapSeqs]

lemma appendToken_seqId (token : ℕ) (q : Sequence) : (appendToken token q).seqId = q.seqId := by
  simp only [appendToken]
  split_ifs <;> rfl

def tokenFrom (items : List (ℕ × SeqId)) (sid : SeqId) : Option ℕ :=
  (items.find? (fun item => item.2 = sid)).map Prod.fst

def appendFrom (items : List (ℕ × SeqId)) (q : Sequence) : Sequence :=
  match tokenFrom items q.seqId with
  | some token => appendToken token q
  | none => q

lemma tokenFrom_eq_none {items : List (ℕ × SeqId)} {sid : SeqId} :
    tokenFrom items sid = none ↔ sid ∉ items.map Prod.snd := by
  simp only [tokenFrom, Option.map_eq_none_iff, List.find?_eq_none, decide_eq_true_eq, List.mem_map]
  constructor
  · rintro h ⟨item, hi, rfl⟩
    exact h item hi rfl
  · intro h item hi hid
    exact h ⟨item, hi, hid⟩

def applyItems (ids : List SeqId) (queue : RequestQueue) (items : List (ℕ × SeqId)) : RequestQueue :=
  items.foldl (fun queue item =>
    if item.2 ∈ ids then
      queue.updateRunningSeqs (fun q => if q.seqId = item.2 then appendToken item.1 q else q)
    else queue) queue

lemma applyItems_frame (ids : List SeqId) (queue : RequestQueue) (items : List (ℕ × SeqId)) :
    (applyItems ids queue items).waiting = queue.waiting ∧
      (applyItems ids queue items).finished = queue.finished ∧
      (applyItems ids queue items).rejected = queue.rejected := by
  induction items generalizing queue with
  | nil => exact ⟨rfl, rfl, rfl⟩
  | cons item rest ih =>
    simp only [applyItems, List.foldl_cons] at ih ⊢
    split_ifs
    · exact ih _
    · exact ih queue

lemma applyItems_running (ids : List SeqId) (queue : RequestQueue) (items : List (ℕ × SeqId))
    (hmem : ∀ item ∈ items, item.2 ∈ ids) (hnd : (items.map Prod.snd).Nodup) (rid : RequestId) :
    (applyItems ids queue items).running.get? rid =
      (queue.running.get? rid).map (SequenceGroup.mapSeqs (appendFrom items)) := by
  induction items generalizing queue with
  | nil =>
    have hid : SequenceGroup.mapSeqs (appendFrom []) = id := by
      funext sg
      have hf : appendFrom [] = id := rfl
      simp [SequenceGroup.mapSeqs, hf]
    simp [applyItems, hid]
  | cons item rest ih =>
    simp only [List.map_cons, List.nodup_cons] at hnd
    have hin := hmem item (by simp)
    have hrest := ih (queue.updateRunningSeqs (fun q => if q.seqId = item.2 then appendToken item.1 q else q))
      (fun i hi => hmem i (List.mem_cons_of_mem item hi)) hnd.2
    have hstep : applyItems ids queue (item :: rest) = applyItems ids
        (queue.updateRunningSeqs (fun q => if q.seqId = item.2 then appendToken item.1 q else q)) rest := by
      simp only [applyItems, List.foldl_cons, hin, if_true]
    rw [hstep, hrest]
    simp only [RequestQueue.updateRunningSeqs, Dict.get?_mapValues, Option.map_map]
    congr 1
    funext sg
    simp only [Function.comp_apply, mapSeqs_mapSeqs]
    congr 1
    funext q
    simp only [Function.comp_apply]
    by_cases hq : q.seqId = item.2
    · have hn : tokenFrom rest item.2 = none := tokenFrom_eq_none.mpr hnd.1
      have hs : tokenFrom (item :: rest) item.2 = some item.1 := by simp [tokenFrom]
      simp [hq, appendFrom, appendToken_seqId, hn, hs]
    · have hne : item.2 ≠ q.seqId := Ne.symm hq
      simp [hq, appendFrom, tokenFrom, hne]

end Outputs

def tokenOf (output : ModelRunnerOutput) (sid : SeqId) : ℕ :=
  (tokenFrom (output.sampledTokenIds.zip output.sampledSequenceIds) sid).getD 0

def afterBatch (config : Config) (prefill decode : List SeqId) (token : SeqId → ℕ) (q : Sequence) : Sequence :=
  if q.seqId ∈ prefill then
    if chunkEnd config q = q.promptTokenIds.length then
      { q with
        outputTokenIds := [token q.seqId]
        numGeneratedTokens := 1
        status := .running
        prefillCursor := chunkEnd config q }
    else { q with prefillCursor := chunkEnd config q }
  else if q.seqId ∈ decode then
    { q with
      outputTokenIds := q.outputTokenIds ++ [token q.seqId]
      numGeneratedTokens := q.numGeneratedTokens + 1 }
  else q

inductive Batches (S : Setup ε) (queue : RequestQueue) (bm : BlockManager ε) (prefill decode : List Sequence) :
    Except Exn Unit → RequestQueue → BlockManager ε → Prop
  | failed (err : Exn) (x : ε)
      (hexec : S.executor.execute (batchInput S.config bm prefill decode) bm = (.error err, bm.withListener x)) :
      Batches S queue bm prefill decode (.error err) queue (bm.withListener x)
  | done (output : ModelRunnerOutput) (x : ε) (queue' : RequestQueue)
      (hexec : S.executor.execute (batchInput S.config bm prefill decode) bm = (.ok output, bm.withListener x))
      (hwaiting : queue'.waiting = queue.waiting) (hfinished : queue'.finished = queue.finished)
      (hrejected : queue'.rejected = queue.rejected)
      (hrunning : ∀ rid, queue'.running.get? rid = (queue.running.get? rid).map (SequenceGroup.mapSeqs
        (afterBatch S.config (prefill.map (·.seqId)) (decode.map (·.seqId)) (tokenOf output)))) :
      Batches S queue bm prefill decode (.ok ()) queue'
        ((bm.withListener x).record (kvWrites (prefill ++ decode) (batchInput S.config bm prefill decode)))

section RunBatch

variable {S : Setup ε} {queue : RequestQueue} {n : ℕ} {bm : BlockManager ε} {prefill decode : List Sequence}
  (hq : QueueFormed queue n) (hr : BatchReady S.config queue bm prefill decode)

include hq hr

lemma BatchReady.cursor_le {q : Sequence} (h : q ∈ prefill) : q.prefillCursor ≤ q.promptTokenIds.length :=
  (hq.runningSeq_phase (hr.prefill_live q h).1).cursor_le

lemma BatchReady.prefillCovered :
    PrefillCovered S.config bm (collectPrefillMetadata S.config prefill) := by
  intro m hm position hp
  obtain ⟨q, hqm, rfl⟩ := List.mem_map.mp hm
  obtain ⟨h₁, h₂⟩ := (mem_prefillPositions S.config (hr.cursor_le hq hqm)).mp hp
  exact hr.prefill_covered q hqm position h₁ h₂

omit hq in
lemma BatchReady.decodeCovered : DecodeCovered S.config bm (decode.map decodeMetaOf) := by
  intro m hm
  obtain ⟨q, hqm, rfl⟩ := List.mem_map.mp hm
  exact hr.decode_covered q hqm

lemma build_eq :
    build S.config bm prefill decode = .ok (batchInput S.config bm prefill decode) := by
  have hgen : ∀ q ∈ decode, 1 ≤ q.numGeneratedTokens ∧ q.numGeneratedTokens = q.outputTokenIds.length := by
    intro q hqm
    obtain ⟨hlive, hs, -⟩ := hr.decode_live q hqm
    exact ((hq.runningSeq_phase hlive).decode hs).2
  have hout : ∀ m ∈ decode.map decodeMetaOf, m.seq.outputTokenIds ≠ [] := by
    intro m hm
    obtain ⟨q, hqm, rfl⟩ := List.mem_map.mp hm
    obtain ⟨h₁, h₂⟩ := hgen q hqm
    exact List.ne_nil_of_length_pos (h₂ ▸ h₁)
  simp only [build, collectDecodeMetadata_eq decode hgen]
  exact assemble_eq S.config bm _ _ (hr.prefillCovered hq) hr.decodeCovered hout

lemma batchInput_covered (ht : ∀ q ∈ prefill ++ decode, bm.tables.contains q.seqId) :
    Covered S.config.blockSize bm (batchInput S.config bm prefill decode).sequenceInfo := by
  intro info hi
  rcases List.mem_append.mp hi with hi | hi
  · obtain ⟨hphase, m, hm, hid, hstart, hlen, -⟩ := mem_prefillInfos hi
    obtain ⟨q, hqm, rfl⟩ := List.mem_map.mp hm
    rw [hid, hstart, hlen]
    refine ⟨ht q (List.mem_append_left _ hqm), fun i hlt => ?_, fun hd => by simp [hphase] at hd⟩
    exact hr.prefillCovered hq _ hm _ (List.mem_map.mpr ⟨i, List.mem_range.mpr hlt, rfl⟩)
  · obtain ⟨-, -, m, hm, hid, hstart, hcached, hlen⟩ := mem_decodeInfos hi
    obtain ⟨q, hqm, rfl⟩ := List.mem_map.mp hm
    rw [hid, hstart, hlen, hcached]
    refine ⟨ht q (List.mem_append_right _ hqm), fun i hlt => ?_, fun _ => hr.decode_covered q hqm⟩
    obtain rfl : i = 0 := by omega
    exact hr.decode_covered q hqm

omit hq hr in
lemma batchInput_sampledIds : sampledIds (batchInput S.config bm prefill decode).sequenceInfo =
    (prefill.filter (fun q => (collectPrefill S.config q).prefillCompletes)).map (·.seqId) ++
      decode.map (·.seqId) := by
  have h : (batchInput S.config bm prefill decode).sequenceInfo = sequenceInfos
      (collectPrefillMetadata S.config prefill) (decode.map decodeMetaOf) := rfl
  rw [h, sequenceInfos, sampledIds_append, sampledIds_prefillInfos, sampledIds_decodeInfos]
  congr 1
  · rw [collectPrefillMetadata, List.filter_map, List.map_map]
    rfl
  · rw [List.map_map]
    rfl

omit hq hr in
lemma batchInput_decode_sampled : ∀ info ∈ (batchInput S.config bm prefill decode).sequenceInfo,
    info.phase = .decode → info.sampleOutputIndex.isSome := by
  intro info hi hp
  rcases List.mem_append.mp hi with hi | hi
  · simp [(mem_prefillInfos hi).1] at hp
  · exact (mem_decodeInfos hi).2.1

lemma BatchReady.mem_of_seqId {xs : List Sequence} (hsub : ∀ q ∈ xs, q ∈ prefill ++ decode) {rid : RequestId}
    {q : Sequence} (hlive : queue.runningSeq rid = some q) : q.seqId ∈ xs.map (·.seqId) ↔ q ∈ xs := by
  refine ⟨fun h => ?_, fun h => List.mem_map.mpr ⟨q, h, rfl⟩⟩
  obtain ⟨q', hm, hid⟩ := List.mem_map.mp h
  have hlive' : queue.runningSeq q'.seqId.request = some q' := by
    rcases List.mem_append.mp (hsub q' hm) with h' | h'
    · exact (hr.prefill_live q' h').1
    · exact (hr.decode_live q' h').1
  rwa [hq.runningSeq_ext hlive hlive' hid.symm]

lemma advanced_eq_afterBatch {output : ModelRunnerOutput} {items : List (ℕ × SeqId)}
    (hitems : items = output.sampledTokenIds.zip output.sampledSequenceIds)
    (hsnd : items.map Prod.snd = (prefill.filter (fun q => (collectPrefill S.config q).prefillCompletes)).map (·.seqId) ++
      decode.map (·.seqId))
    {rid : RequestId} {q : Sequence} (hlive : queue.runningSeq rid = some q) :
    (if (appendFrom items q).seqId ∈ prefill.map (·.seqId) then
      { appendFrom items q with prefillCursor := chunkEnd S.config (appendFrom items q) }
      else appendFrom items q) =
      afterBatch S.config (prefill.map (·.seqId)) (decode.map (·.seqId)) (tokenOf output) q := by
  have hpre := hr.mem_of_seqId hq (fun q h => List.mem_append_left _ h) hlive
  have hdec := hr.mem_of_seqId hq (fun q h => List.mem_append_right _ h) hlive
  have hcompletes : ∀ q ∈ prefill.filter (fun q => (collectPrefill S.config q).prefillCompletes),
      q ∈ prefill ++ decode := fun q h => List.mem_append_left _ (List.mem_of_mem_filter h)
  have hfil := hr.mem_of_seqId hq hcompletes hlive
  have htok : tokenFrom items q.seqId = none ↔
      ¬ ((q ∈ prefill ∧ (collectPrefill S.config q).prefillCompletes = true) ∨ q ∈ decode) := by
    rw [tokenFrom_eq_none, hsnd, List.mem_append, hfil, hdec, List.mem_filter]
  by_cases hp : q ∈ prefill
  · obtain ⟨-, hst⟩ := hr.prefill_live q hp
    have hcomp := collectPrefill_completes S.config (hr.cursor_le hq hp)
    have hnd : q ∉ decode := by
      intro hd
      simp [(hr.decode_live q hd).2.1] at hst
    by_cases hc : chunkEnd S.config q = q.promptTokenIds.length
    · obtain ⟨token, ht⟩ := Option.ne_none_iff_exists'.mp
        (fun hn => (htok.mp hn) (Or.inl ⟨hp, hcomp.mpr hc⟩))
      have htok' : tokenOf output q.seqId = token := by rw [tokenOf, ← hitems, ht]; rfl
      have ha : appendFrom items q = appendToken token q := by simp [appendFrom, ht]
      rw [ha, appendToken_seqId, if_pos (hpre.mpr hp), afterBatch, if_pos (hpre.mpr hp), if_pos hc, htok']
      simp [appendToken, hst, chunkEnd]
    · have hn : tokenFrom items q.seqId = none :=
        htok.mpr (fun h => h.elim (fun h => hc (hcomp.mp h.2)) hnd)
      have ha : appendFrom items q = q := by simp [appendFrom, hn]
      rw [ha, if_pos (hpre.mpr hp), afterBatch, if_pos (hpre.mpr hp), if_neg hc]
  · by_cases hd : q ∈ decode
    · obtain ⟨-, hst, -⟩ := hr.decode_live q hd
      obtain ⟨token, ht⟩ := Option.ne_none_iff_exists'.mp
        (fun hn => (htok.mp hn) (Or.inr hd))
      have htok' : tokenOf output q.seqId = token := by rw [tokenOf, ← hitems, ht]; rfl
      have ha : appendFrom items q = appendToken token q := by simp [appendFrom, ht]
      have hp' : q.seqId ∉ prefill.map (·.seqId) := fun h => hp (hpre.mp h)
      rw [ha, appendToken_seqId, if_neg hp', afterBatch, if_neg hp', if_pos (hdec.mpr hd), htok']
      simp [appendToken, hst]
    · have hn : tokenFrom items q.seqId = none :=
        htok.mpr (fun h => h.elim (fun h => hp h.1) hd)
      have ha : appendFrom items q = q := by simp [appendFrom, hn]
      rw [ha, if_neg (fun h => hp (hpre.mp h)), afterBatch, if_neg (fun h => hp (hpre.mp h)),
        if_neg (fun h => hd (hdec.mp h))]

lemma runBatch_running (output : ModelRunnerOutput)
    (hids : output.sampledSequenceIds = sampledIds (batchInput S.config bm prefill decode).sequenceInfo)
    (hlen : output.sampledSequenceIds.length ≤ output.sampledTokenIds.length) (rid : RequestId) :
    (advanceCursors S.config (applyModelOutput queue output ((prefill ++ decode).map (·.seqId)))
        (prefill.map (·.seqId))).running.get? rid =
      (queue.running.get? rid).map (SequenceGroup.mapSeqs
        (afterBatch S.config (prefill.map (·.seqId)) (decode.map (·.seqId)) (tokenOf output))) := by
  set items := output.sampledTokenIds.zip output.sampledSequenceIds with hitems
  have hsnd : items.map Prod.snd = sampledIds (batchInput S.config bm prefill decode).sequenceInfo := by
    rw [hitems, List.map_snd_zip hlen, hids]
  rw [batchInput_sampledIds] at hsnd
  have hsub : (items.map Prod.snd).Sublist ((prefill ++ decode).map (·.seqId)) := by
    rw [hsnd, List.map_append]
    exact List.Sublist.append (List.filter_sublist.map _) (List.Sublist.refl _)
  have happly := applyItems_running ((prefill ++ decode).map (·.seqId)) queue items
    (fun item hi => hsub.subset (List.mem_map.mpr ⟨item, hi, rfl⟩)) (hr.nodup.sublist hsub) rid
  have hdef : applyModelOutput queue output ((prefill ++ decode).map (·.seqId)) =
      applyItems ((prefill ++ decode).map (·.seqId)) queue items := rfl
  simp only [advanceCursors, RequestQueue.updateRunningSeqs, Dict.get?_mapValues, hdef, happly,
    Option.map_map]
  cases hg : queue.running.get? rid with
  | none => rfl
  | some sg =>
    obtain ⟨hrid, -, q, hs, hl⟩ := hq.running rid sg hg
    have hkey := advanced_eq_afterBatch hq hr hitems hsnd (hq.runningSeq_eq_some.mpr ⟨sg, hg, hs⟩)
    simp only [Option.map_some, Function.comp_apply, mapSeqs_mapSeqs]
    simp only [SequenceGroup.mapSeqs, hs, List.map_cons, List.map_nil, Function.comp_apply]
    rw [hkey]

theorem runBatch_spec (ht : ∀ q ∈ prefill ++ decode, bm.tables.contains q.seqId) :
    Batches S queue bm prefill decode (runBatch S queue bm prefill decode).1
      (runBatch S queue bm prefill decode).2.1 (runBatch S queue bm prefill decode).2.2 := by
  obtain ⟨x, hx⟩ := S.executor.execute_frame (batchInput S.config bm prefill decode) bm
    (batchInput_covered hq hr ht)
  cases hexec : S.executor.execute (batchInput S.config bm prefill decode) bm with
  | mk r bm' =>
    obtain rfl : bm' = bm.withListener x := by rw [← hx, hexec]
    cases r with
    | error err =>
      simp only [runBatch, build_eq hq hr, hexec]
      exact .failed err x hexec
    | ok output =>
      obtain ⟨hids, hlen⟩ := S.executor.execute_samples (batchInput S.config bm prefill decode) bm output
        (by rw [hexec]) batchInput_decode_sampled
      simp only [runBatch, build_eq hq hr, hexec]
      have hframe := applyItems_frame ((prefill ++ decode).map (·.seqId)) queue
        (output.sampledTokenIds.zip output.sampledSequenceIds)
      exact .done output x _ hexec hframe.1 hframe.2.1 hframe.2.2
        (runBatch_running hq hr output hids hlen)

end RunBatch

section AfterBatch

variable {S : Setup ε} {queue : RequestQueue} {n : ℕ} {bm : BlockManager ε} {prefill decode : List Sequence}
  (hq : QueueFormed queue n) (hr : BatchReady S.config queue bm prefill decode) (token : SeqId → ℕ)
  {rid : RequestId} {q : Sequence} (hlive : queue.runningSeq rid = some q)

lemma afterBatch_seqId (config : Config) (ps ds : List SeqId) (q : Sequence) :
    (afterBatch config ps ds token q).seqId = q.seqId := by
  simp only [afterBatch]
  split_ifs <;> rfl

lemma afterBatch_prompt (config : Config) (ps ds : List SeqId) (q : Sequence) :
    (afterBatch config ps ds token q).promptTokenIds = q.promptTokenIds := by
  simp only [afterBatch]
  split_ifs <;> rfl

lemma afterBatch_params (config : Config) (ps ds : List SeqId) (q : Sequence) :
    (afterBatch config ps ds token q).samplingParams = q.samplingParams := by
  simp only [afterBatch]
  split_ifs <;> rfl

lemma afterBatch_groupId (config : Config) (ps ds : List SeqId) (q : Sequence) :
    (afterBatch config ps ds token q).groupId = q.groupId := by
  simp only [afterBatch]
  split_ifs <;> rfl

include hq hr hlive

lemma afterBatch_completed (hp : q ∈ prefill) (hc : chunkEnd S.config q = q.promptTokenIds.length) :
    afterBatch S.config (prefill.map (·.seqId)) (decode.map (·.seqId)) token q =
      { q with
        outputTokenIds := [token q.seqId]
        numGeneratedTokens := 1
        status := .running
        prefillCursor := chunkEnd S.config q } := by
  have hpre := (hr.mem_of_seqId hq (fun q h => List.mem_append_left _ h) hlive).mpr hp
  rw [afterBatch, if_pos hpre, if_pos hc]

lemma afterBatch_chunk (hp : q ∈ prefill) (hc : chunkEnd S.config q ≠ q.promptTokenIds.length) :
    afterBatch S.config (prefill.map (·.seqId)) (decode.map (·.seqId)) token q =
      { q with prefillCursor := chunkEnd S.config q } := by
  have hpre := (hr.mem_of_seqId hq (fun q h => List.mem_append_left _ h) hlive).mpr hp
  rw [afterBatch, if_pos hpre, if_neg hc]

lemma afterBatch_decode (hd : q ∈ decode) :
    afterBatch S.config (prefill.map (·.seqId)) (decode.map (·.seqId)) token q =
      { q with
        outputTokenIds := q.outputTokenIds ++ [token q.seqId]
        numGeneratedTokens := q.numGeneratedTokens + 1 } := by
  have hnp : q ∉ prefill := by
    intro hp
    have h₁ := (hr.prefill_live q hp).2
    simp [(hr.decode_live q hd).2.1] at h₁
  have hpre := (hr.mem_of_seqId hq (fun q h => List.mem_append_left _ h) hlive).not.mpr hnp
  have hdec := (hr.mem_of_seqId hq (fun q h => List.mem_append_right _ h) hlive).mpr hd
  rw [afterBatch, if_neg hpre, if_pos hdec]

lemma afterBatch_idle (hp : q ∉ prefill) (hd : q ∉ decode) :
    afterBatch S.config (prefill.map (·.seqId)) (decode.map (·.seqId)) token q = q := by
  have hpre := (hr.mem_of_seqId hq (fun q h => List.mem_append_left _ h) hlive).not.mpr hp
  have hdec := (hr.mem_of_seqId hq (fun q h => List.mem_append_right _ h) hlive).not.mpr hd
  rw [afterBatch, if_neg hpre, if_neg hdec]

theorem afterBatch_phase :
    LivePhase (afterBatch S.config (prefill.map (·.seqId)) (decode.map (·.seqId)) token q) := by
  have hphase := hq.runningSeq_phase hlive
  by_cases hp : q ∈ prefill
  · by_cases hc : chunkEnd S.config q = q.promptTokenIds.length
    · rw [afterBatch_completed hq hr token hlive hp hc]
      exact Or.inr ⟨rfl, hc, le_refl 1, rfl, by simp⟩
    · rw [afterBatch_chunk hq hr token hlive hp hc]
      have hle := chunkEnd_le S.config (q := q)
      rcases hphase with ⟨hst, ho, hg, -⟩ | ⟨hst, -⟩
      · exact Or.inl ⟨hst, ho, hg, Or.inl (Nat.lt_of_le_of_ne hle hc)⟩
      · simp [(hr.prefill_live q hp).2] at hst
  · by_cases hd : q ∈ decode
    · rw [afterBatch_decode hq hr token hlive hd]
      obtain ⟨-, hst, hlt⟩ := hr.decode_live q hd
      obtain ⟨hc, hg, ho⟩ := hphase.decode hst
      exact Or.inr ⟨hst, hc, Nat.le_add_left 1 _, by simp [ho], by push_cast; omega⟩
    · rwa [afterBatch_idle hq hr token hlive hp hd]

lemma kvLen_afterBatch_prefill (hp : q ∈ prefill) :
    (afterBatch S.config (prefill.map (·.seqId)) (decode.map (·.seqId)) token q).kvLen =
      chunkEnd S.config q := by
  by_cases hc : chunkEnd S.config q = q.promptTokenIds.length
  · rw [afterBatch_completed hq hr token hlive hp hc]
    simp [Sequence.kvLen, decodePosition, hc]
  · rw [afterBatch_chunk hq hr token hlive hp hc]
    simp [Sequence.kvLen, (hr.prefill_live q hp).2]

lemma kvLen_afterBatch_decode (hd : q ∈ decode) :
    (afterBatch S.config (prefill.map (·.seqId)) (decode.map (·.seqId)) token q).kvLen =
      decodePosition q + 1 := by
  obtain ⟨-, hst, -⟩ := hr.decode_live q hd
  have hg := ((hq.runningSeq_phase hlive).decode hst).2.1
  rw [afterBatch_decode hq hr token hlive hd]
  simp only [Sequence.kvLen, hst, decodePosition, reduceCtorEq, if_false]
  omega

lemma kvLen_le_afterBatch :
    q.kvLen ≤ (afterBatch S.config (prefill.map (·.seqId)) (decode.map (·.seqId)) token q).kvLen := by
  by_cases hp : q ∈ prefill
  · rw [kvLen_afterBatch_prefill hq hr token hlive hp, LivePhase.kvLen_prefill (hr.prefill_live q hp).2]
    exact cursor_le_chunkEnd S.config (hr.cursor_le hq hp)
  · by_cases hd : q ∈ decode
    · rw [kvLen_afterBatch_decode hq hr token hlive hd, LivePhase.kvLen_running (hr.decode_live q hd).2.1]
      exact Nat.le_succ _
    · rw [afterBatch_idle hq hr token hlive hp hd]

end AfterBatch

end MiniVllm
