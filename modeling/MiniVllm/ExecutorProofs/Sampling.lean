import MiniVllm.Executor.Sampling
import MiniVllm.RunnerProofs.ModelInputs

/-! Every sampled token reaches the sequence that it was sampled for. -/

namespace MiniVllm

open EngineCore ModelInputBuilder PagedExecutor QwenModelRunner

section Lists

variable {L : Type} {es : List (PrefillMeta ⊕ DecodeMeta)} {e : PrefillMeta ⊕ DecodeMeta} {i : ℕ}

lemma collectSequenceIds_entryInfos (counter : ℕ) : collectSequenceIds counter (entryInfos counter es) =
    .ok ((es.filter entrySampled).map (fun e => (entrySeq e).seqId)) := by
  induction es generalizing counter with
  | nil => rfl
  | cons e es ih =>
    cases hs : entrySampled e with
    | true => simp [entryInfos, entryInfo, collectSequenceIds, hs, ih]
    | false => simp [entryInfos, entryInfo, collectSequenceIds, hs, ih]

lemma filter_getElem? (he : es[i]? = some e) (hs : entrySampled e = true) :
    (es.filter entrySampled)[sampledBefore es i]? = some e := by
  induction es generalizing i with
  | nil => cases he
  | cons e' es ih =>
    cases i with
    | zero =>
      obtain rfl : e' = e := Option.some.inj he
      rw [List.filter_cons_of_pos hs]
      rfl
    | succ i =>
      rw [sampledBefore, List.take_succ_cons, List.countP_cons, ← sampledBefore]
      cases hs' : entrySampled e' with
      | true =>
        rw [List.filter_cons_of_pos hs', if_pos rfl, List.getElem?_cons_succ]
        exact ih he
      | false =>
        rw [List.filter_cons_of_neg (by simp [hs']), if_neg Bool.false_ne_true]
        exact ih he

lemma mem_entrySampleIndices (offset : ℕ) {idx : ℤ} (h : idx ∈ entrySampleIndices offset es) :
    ∃ (i : ℕ) (e : PrefillMeta ⊕ DecodeMeta), es[i]? = some e ∧ entrySampled e = true ∧
      idx = (offset + Segments.start entryLen es i + entryLen e : ℤ) - 1 := by
  induction es generalizing offset with
  | nil => cases h
  | cons e es ih =>
    rcases List.mem_append.mp h with h | h
    · split_ifs at h with hs
      · refine ⟨0, e, rfl, hs, ?_⟩
        rw [List.mem_singleton.mp h, Segments.start_zero, Nat.cast_zero, add_zero]
      · cases h
    · obtain ⟨i, e', he, hs, hidx⟩ := ih (offset + entryLen e) h
      refine ⟨i + 1, e', he, hs, ?_⟩
      rw [hidx, Segments.start_cons_succ]
      push_cast
      ring

def ChunksNonempty (es : List (PrefillMeta ⊕ DecodeMeta)) : Prop := ∀ e ∈ es, entrySampled e = true → 0 < entryLen e

lemma start_add_le (he : es[i]? = some e) : Segments.start entryLen es i + entryLen e ≤ (es.map entryLen).sum := by
  rw [← Segments.start_succ he, Segments.start, ← List.sum_take_add_sum_drop (es.map entryLen) (i + 1), List.map_take]
  exact Nat.le_add_right _ _

lemma sampleIndex_lt (hne : ChunksNonempty es) {idx : ℤ} (h : idx ∈ entrySampleIndices 0 es) :
    ∃ n : ℕ, idx = n ∧ n < (es.map entryLen).sum := by
  obtain ⟨i, e, he, hs, rfl⟩ := mem_entrySampleIndices 0 h
  have hpos := hne e (List.mem_of_getElem? he) hs
  have hle := start_add_le he
  exact ⟨Segments.start entryLen es i + entryLen e - 1, by omega, by omega⟩

lemma gatherLogits_range (logits : ℕ → L) {n : ℕ} (idxs : List ℤ) (h : ∀ idx ∈ idxs, ∃ k : ℕ, idx = k ∧ k < n) :
    gatherLogits ((List.range n).map logits) idxs = .ok (idxs.map (fun idx => logits idx.toNat)) := by
  induction idxs with
  | nil => rfl
  | cons idx idxs ih =>
    obtain ⟨k, rfl, hlt⟩ := h idx List.mem_cons_self
    have hrow : ((List.range n).map logits)[k]? = some (logits k) := by
      rw [List.getElem?_map, List.getElem?_range hlt, Option.map_some]
    have hrest := ih fun idx hm => h idx (List.mem_cons_of_mem _ hm)
    simp only [gatherLogits, pyIndex_natCast hrow, hrest, List.map_cons, Int.toNat_natCast]

end Lists

section Step

variable {ε L : Type} {config : Config} {bm : BlockManager ε} {prefillMeta : List PrefillMeta}
  {decodeMeta : List DecodeMeta} (argmax : L → ℕ) (logits : ℕ → L)

def sampledItems (es : List (PrefillMeta ⊕ DecodeMeta)) : List (ℕ × SeqId) :=
  ((entrySampleIndices 0 es).map (fun idx => argmax (logits idx.toNat))).zip
    ((es.filter entrySampled).map (fun e => (entrySeq e).seqId))

variable (config bm) in
lemma sampleStep_eq (hfit : TokensFit prefillMeta) (hne : ChunksNonempty (entries prefillMeta decodeMeta)) :
    ∃ output, sampleStep argmax (perPosition logits) (assembled config bm prefillMeta decodeMeta) = .ok output ∧
      output.sampledTokenIds.zip output.sampledSequenceIds =
        sampledItems argmax logits (entries prefillMeta decodeMeta) := by
  set es := entries prefillMeta decodeMeta with hes
  have hids : collectSequenceIds 0 (entryInfos 0 es) = .ok ((es.filter entrySampled).map (fun e => (entrySeq e).seqId)) :=
    collectSequenceIds_entryInfos 0
  have hlen : (assembled config bm prefillMeta decodeMeta).inputIds.length = (es.map entryLen).sum := by
    rw [assembled_inputIds]
    exact Segments.length_flatMap fun e he => length_entryTokens hfit he
  have hcount : (entrySampleIndices 0 es).length = es.countP entrySampled := length_entrySampleIndices 0
  rw [← assembled_sequenceInfo config bm] at hids
  by_cases hany : (entrySampleIndices 0 es).length > 0
  · have hgather := gatherLogits_range logits (entrySampleIndices 0 es) fun idx hm => sampleIndex_lt hne hm
    have hrows : perPosition logits (assembled config bm prefillMeta decodeMeta) =
        .ok ((entrySampleIndices 0 es).map (fun idx => logits idx.toNat)) := by
      rw [perPosition, sampleRows, hlen, assembled_sampleTokenIndices, if_pos hany, hgather]
    simp only [sampleStep, hrows, hids]
    refine ⟨_, rfl, ?_⟩
    rw [List.map_map]
    rfl
  · have hrows : perPosition logits (assembled config bm prefillMeta decodeMeta) =
        .ok ((List.range (es.map entryLen).sum).map logits) := by
      rw [perPosition, sampleRows, hlen, assembled_sampleTokenIndices, if_neg hany]
    have hnone : es.filter entrySampled = [] := by
      rw [← List.length_eq_zero_iff, ← List.countP_eq_length_filter, ← hcount]
      exact Nat.eq_zero_of_not_pos hany
    simp only [sampleStep, hrows, hids]
    refine ⟨_, rfl, ?_⟩
    rw [sampledItems, hnone, List.map_nil, List.zip_nil_right, List.zip_nil_right]

lemma sampledItems_ids (es : List (PrefillMeta ⊕ DecodeMeta)) : (sampledItems argmax logits es).map Prod.snd =
    (es.filter entrySampled).map (fun e => (entrySeq e).seqId) := by
  apply List.map_snd_zip
  rw [List.length_map, List.length_map, length_entrySampleIndices, List.countP_eq_length_filter]

lemma tokenFrom_of_mem {items : List (ℕ × SeqId)} (hn : (items.map Prod.snd).Nodup) {token : ℕ} {sid : SeqId}
    (h : (token, sid) ∈ items) : tokenFrom items sid = some token := by
  induction items with
  | nil => cases h
  | cons item items ih =>
    rw [List.map_cons, List.nodup_cons] at hn
    by_cases hid : item.2 = sid
    · rcases List.mem_cons.mp h with rfl | h
      · simp [tokenFrom]
      · exact absurd (hid ▸ List.mem_map.mpr ⟨_, h, rfl⟩) hn.1
    · rcases List.mem_cons.mp h with rfl | h
      · exact absurd rfl hid
      · rw [tokenFrom, List.find?_cons_of_neg (by simpa using hid)]
        exact ih hn.2 h

lemma tokenFrom_sampled {es : List (PrefillMeta ⊕ DecodeMeta)} (hn : (es.map (fun e => (entrySeq e).seqId)).Nodup)
    {i : ℕ} {e : PrefillMeta ⊕ DecodeMeta} (he : es[i]? = some e) (hs : entrySampled e = true) {p : ℕ}
    (hp : p + 1 = Segments.start entryLen es i + entryLen e) :
    tokenFrom (sampledItems argmax logits es) (entrySeq e).seqId = some (argmax (logits p)) := by
  have hidx : (Segments.start entryLen es i + entryLen e : ℤ) - 1 = (p : ℤ) := by omega
  have htoken := entrySampleIndices_getElem? 0 he hs
  rw [Nat.cast_zero, Int.zero_add, hidx] at htoken
  have hid := filter_getElem? he hs
  have hitem : (sampledItems argmax logits es)[sampledBefore es i]? =
      some (argmax (logits p), (entrySeq e).seqId) := by
    refine List.getElem?_zip_eq_some.mpr ⟨?_, ?_⟩
    · rw [List.getElem?_map, htoken]
      rfl
    · rw [List.getElem?_map, hid]
      rfl
  refine tokenFrom_of_mem ?_ (List.mem_of_getElem? hitem)
  rw [sampledItems_ids]
  exact hn.sublist (List.filter_sublist.map _)

end Step

section Delivery

variable {ε L : Type} (config : Config) (prefill decode : List Sequence) (input : ModelInput) (argmax : L → ℕ)
  (logits : ℕ → L)

def LastPosition (i p : ℕ) : Prop := ∃ info : SequenceExecutionInfo, input.sequenceInfo[i]? = some info ∧
  Segments.start (·.queryLen) input.sequenceInfo i ≤ p ∧
    p + 1 = Segments.start (·.queryLen) input.sequenceInfo i + info.queryLen

def GivesToken (f : Sequence → Sequence) (i : ℕ) (sid : SeqId) : Prop :=
  ∃ p, LastPosition input i p ∧ ∀ q : Sequence, q.seqId = sid → f q = appendToken (argmax (logits p)) q

structure Delivers (queue : RequestQueue) (output : ModelRunnerOutput) (f : Sequence → Sequence) : Prop where
  executed : sampleStep argmax (perPosition logits) input = .ok output
  running : ∀ rid, (applyModelOutput queue output ((prefill ++ decode).map (·.seqId))).running.get? rid =
    (queue.running.get? rid).map (SequenceGroup.mapSeqs f)
  waiting : (applyModelOutput queue output ((prefill ++ decode).map (·.seqId))).waiting = queue.waiting
  finished : (applyModelOutput queue output ((prefill ++ decode).map (·.seqId))).finished = queue.finished
  rejected : (applyModelOutput queue output ((prefill ++ decode).map (·.seqId))).rejected = queue.rejected
  decodes : ∀ (i : ℕ) (q : Sequence), decode[i]? = some q →
    GivesToken input argmax logits f (prefill.length + i) q.seqId
  prefills : ∀ (i : ℕ) (q : Sequence), prefill[i]? = some q → chunkEnd config q = q.promptTokenIds.length →
    GivesToken input argmax logits f i q.seqId
  others : ∀ q : Sequence, q.seqId ∉ decode.map (·.seqId) →
    (∀ p ∈ prefill, chunkEnd config p = p.promptTokenIds.length → p.seqId ≠ q.seqId) → f q = q

lemma givesToken_sampled {config : Config} {bm : BlockManager ε} {prefillMeta : List PrefillMeta}
    {decodeMeta : List DecodeMeta} {i : ℕ} {e : PrefillMeta ⊕ DecodeMeta}
    (hids : ((entries prefillMeta decodeMeta).map (fun e => (entrySeq e).seqId)).Nodup)
    (he : (entries prefillMeta decodeMeta)[i]? = some e) (hs : entrySampled e = true) (hpos : 0 < entryLen e) :
    GivesToken (assembled config bm prefillMeta decodeMeta) argmax logits
      (appendFrom (sampledItems argmax logits (entries prefillMeta decodeMeta))) i (entrySeq e).seqId := by
  have hstart : Segments.start (·.queryLen) (assembled config bm prefillMeta decodeMeta).sequenceInfo i =
      Segments.start entryLen (entries prefillMeta decodeMeta) i := by
    rw [assembled_sequenceInfo]
    exact start_entryInfos 0
  have hinfo := entryInfos_getElem? 0 he
  have hend : Segments.start entryLen (entries prefillMeta decodeMeta) i + entryLen e - 1 + 1 =
      Segments.start entryLen (entries prefillMeta decodeMeta) i + entryLen e := by omega
  have htoken := tokenFrom_sampled argmax logits hids he hs hend
  rw [← assembled_sequenceInfo config bm] at hinfo
  refine ⟨Segments.start entryLen (entries prefillMeta decodeMeta) i + entryLen e - 1, ⟨_, hinfo, ?_, ?_⟩, ?_⟩
  · rw [hstart]
    omega
  · rw [hstart]
    exact hend
  · intro q hq
    rw [appendFrom, hq, htoken]

section Entries

variable {prefill decode config}

lemma entries_seqIds : (entries (collectPrefillMetadata config prefill) (decode.map decodeMetaOf)).map
    (fun e => (entrySeq e).seqId) = (prefill ++ decode).map (·.seqId) := by
  rw [entries, collectPrefillMetadata, List.map_append, List.map_append, List.map_map, List.map_map, List.map_map,
    List.map_map]
  rfl

lemma filter_entries_seqIds (hcursor : ∀ q ∈ prefill, q.prefillCursor ≤ q.promptTokenIds.length) {sid : SeqId}
    (h : sid ∈ ((entries (collectPrefillMetadata config prefill) (decode.map decodeMetaOf)).filter entrySampled).map
      (fun e => (entrySeq e).seqId)) :
    sid ∈ decode.map (·.seqId) ∨ ∃ p ∈ prefill, chunkEnd config p = p.promptTokenIds.length ∧ p.seqId = sid := by
  obtain ⟨e, he, rfl⟩ := List.mem_map.mp h
  obtain ⟨he, hs⟩ := List.mem_filter.mp he
  rcases List.mem_append.mp he with he | he
  · obtain ⟨m, hm, rfl⟩ := List.mem_map.mp he
    obtain ⟨p, hp, rfl⟩ := List.mem_map.mp hm
    exact Or.inr ⟨p, hp, (collectPrefill_completes config (hcursor p hp)).mp hs, rfl⟩
  · obtain ⟨m, hm, rfl⟩ := List.mem_map.mp he
    obtain ⟨q, hq, rfl⟩ := List.mem_map.mp hm
    exact Or.inl (List.mem_map_of_mem hq)

lemma chunksNonempty (hcursor : ∀ q ∈ prefill, q.prefillCursor < q.promptTokenIds.length) :
    ChunksNonempty (entries (collectPrefillMetadata config prefill) (decode.map decodeMetaOf)) := by
  intro e he _
  rcases List.mem_append.mp he with he | he
  · obtain ⟨m, hm, rfl⟩ := List.mem_map.mp he
    obtain ⟨p, hp, rfl⟩ := List.mem_map.mp hm
    exact Nat.lt_min.mpr ⟨config.maxPrefillChunkSize_pos, Nat.sub_pos_of_lt (hcursor p hp)⟩
  · obtain ⟨m, -, rfl⟩ := List.mem_map.mp he
    exact Nat.one_pos

end Entries

variable {config prefill decode input} {bm : BlockManager ε}

lemma delivers_of_nonempty (hcursor : ∀ q ∈ prefill, q.prefillCursor < q.promptTokenIds.length)
    (hnodup : ((prefill ++ decode).map (·.seqId)).Nodup) (hbuild : build config bm prefill decode = .ok input)
    (queue : RequestQueue) : ∃ output f, Delivers config prefill decode input argmax logits queue output f := by
  have hcursor' : ∀ q ∈ prefill, q.prefillCursor ≤ q.promptTokenIds.length := fun q hq => (hcursor q hq).le
  have hc := buildable_of_ok hcursor' hbuild
  obtain rfl : batchInput config bm prefill decode = input := Except.ok.inj (hc.build_eq.symm.trans hbuild)
  set prefillMeta := collectPrefillMetadata config prefill with hprefillMeta
  set decodeMeta := decode.map decodeMetaOf with hdecodeMeta
  set es := entries prefillMeta decodeMeta with hes
  have hinput : batchInput config bm prefill decode = assembled config bm prefillMeta decodeMeta := rfl
  have hlenP : prefillMeta.length = prefill.length := List.length_map _
  have hfit : TokensFit prefillMeta := tokensFit
  have hne : ChunksNonempty es := chunksNonempty hcursor
  obtain ⟨output, hexec, hzip⟩ := sampleStep_eq config bm argmax logits hfit hne
  have hseqIds : es.map (fun e => (entrySeq e).seqId) = (prefill ++ decode).map (·.seqId) := entries_seqIds
  have hids : (es.map (fun e => (entrySeq e).seqId)).Nodup := hseqIds ▸ hnodup
  have hsub : ((sampledItems argmax logits es).map Prod.snd).Sublist ((prefill ++ decode).map (·.seqId)) := by
    rw [sampledItems_ids, ← hseqIds]
    exact List.filter_sublist.map _
  have happly := applyItems_running ((prefill ++ decode).map (·.seqId)) queue (sampledItems argmax logits es)
    (fun item hi => hsub.subset (List.mem_map.mpr ⟨item, hi, rfl⟩)) (hnodup.sublist hsub)
  have hframe := applyItems_frame ((prefill ++ decode).map (·.seqId)) queue (sampledItems argmax logits es)
  have hdef : applyModelOutput queue output ((prefill ++ decode).map (·.seqId)) =
      applyItems ((prefill ++ decode).map (·.seqId)) queue (sampledItems argmax logits es) := by
    rw [← hzip]
    rfl
  have hgives : ∀ (i : ℕ) (e : PrefillMeta ⊕ DecodeMeta), es[i]? = some e → entrySampled e = true →
      GivesToken (batchInput config bm prefill decode) argmax logits (appendFrom (sampledItems argmax logits es)) i
        (entrySeq e).seqId := fun i e he hs =>
    givesToken_sampled argmax logits hids he hs (hne e (List.mem_of_getElem? he) hs)
  refine ⟨output, appendFrom (sampledItems argmax logits es), hexec, ?_, ?_, ?_, ?_, ?_, ?_, ?_⟩
  · rw [hdef]
    exact happly
  · rw [hdef, hframe.1]
  · rw [hdef, hframe.2.1]
  · rw [hdef, hframe.2.2]
  · intro i q hi
    rw [← hlenP]
    exact hgives _ _ (decode_entry prefillMeta decodeMeta (decodeMetaOf_getElem? hi)) rfl
  · intro i q hi hend
    exact hgives _ _ (prefill_entry prefillMeta decodeMeta (collectPrefillMetadata_getElem? config hi))
      ((collectPrefill_completes config (hcursor' q (List.mem_of_getElem? hi))).mpr hend)
  · intro q hdecode hprefill
    have hnone : tokenFrom (sampledItems argmax logits es) q.seqId = none := by
      rw [tokenFrom_eq_none, sampledItems_ids]
      intro hm
      rcases filter_entries_seqIds hcursor' hm with hm | ⟨p, hp, hend, hid⟩
      · exact hdecode hm
      · exact hprefill p hp hend hid
    rw [appendFrom, hnone]

lemma nonempty_of_gives (hcursor : ∀ q ∈ prefill, q.prefillCursor ≤ q.promptTokenIds.length)
    (hbuild : build config bm prefill decode = .ok input) {f : Sequence → Sequence} {i : ℕ} {q : Sequence}
    (hi : prefill[i]? = some q) (h : GivesToken input argmax logits f i q.seqId) :
    q.prefillCursor < q.promptTokenIds.length := by
  have hc := buildable_of_ok hcursor hbuild
  obtain rfl : batchInput config bm prefill decode = input := Except.ok.inj (hc.build_eq.symm.trans hbuild)
  obtain ⟨p, ⟨info, hinfo, hge, hlast⟩, -⟩ := h
  have hentry := entryInfos_getElem? 0
    (prefill_entry _ (decode.map decodeMetaOf) (collectPrefillMetadata_getElem? config hi))
  have hinput : (batchInput config bm prefill decode).sequenceInfo =
      entryInfos 0 (entries (collectPrefillMetadata config prefill) (decode.map decodeMetaOf)) :=
    assembled_sequenceInfo config bm _ _
  rw [hinput, hentry] at hinfo
  obtain rfl := Option.some.inj hinfo
  have hlen : (collectPrefill config q).queryLen = min config.maxPrefillChunkSize
      (q.promptTokenIds.length - q.prefillCursor) := rfl
  have hqueryLen : (entryInfo (0 + sampledBefore (entries (collectPrefillMetadata config prefill)
      (decode.map decodeMetaOf)) i) (Sum.inl (collectPrefill config q))).queryLen = (collectPrefill config q).queryLen :=
    rfl
  omega

theorem tokens_delivered_iff (hcursor : ∀ q ∈ prefill, q.prefillCursor ≤ q.promptTokenIds.length)
    (hnodup : ((prefill ++ decode).map (·.seqId)).Nodup) (hbuild : build config bm prefill decode = .ok input)
    (queue : RequestQueue) : (∃ output f, Delivers config prefill decode input argmax logits queue output f) ↔
      ∀ q ∈ prefill, q.prefillCursor < q.promptTokenIds.length := by
  constructor
  · rintro ⟨output, f, hd⟩ q hq
    by_contra hge
    have heq : q.prefillCursor = q.promptTokenIds.length := le_antisymm (hcursor q hq) (Nat.not_lt.mp hge)
    have hend : chunkEnd config q = q.promptTokenIds.length := by
      rw [chunkEnd, heq]
      exact Nat.min_eq_right (Nat.le_add_right _ _)
    obtain ⟨i, hi⟩ := List.mem_iff_getElem?.mp hq
    exact hge (nonempty_of_gives argmax logits hcursor hbuild hi (hd.prefills i q hi hend))
  · intro hlt
    exact delivers_of_nonempty argmax logits hlt hnodup hbuild queue

end Delivery

section Example

theorem tokens_delivered_iff_mixed : (∃ output f,
    Delivers .default [unfinishedPrompt, finishedPrompt] [decodingSequence]
      (batchInput .default mixedBlocks [unfinishedPrompt, finishedPrompt] [decodingSequence]) id id
      { running := Dict.empty.set 2
          { requestId := 2, samplingParams := {}, promptTokenIds := [8, 8, 8], arrivalTime := 0,
            seqs := [decodingSequence] } } output f) ↔
      ∀ q ∈ [unfinishedPrompt, finishedPrompt], q.prefillCursor < q.promptTokenIds.length :=
  tokens_delivered_iff id id (by decide) (by decide)
    (show build .default mixedBlocks [unfinishedPrompt, finishedPrompt] [decodingSequence] = .ok _ from rfl) _

def emptyPrompt : Sequence :=
  { seqId := ⟨3, 0⟩, groupId := 3, promptTokenIds := [], samplingParams := {}, status := .prefill }

theorem empty_prompt_takes_other_token : ∃ input,
    build .default mixedBlocks [finishedPrompt, emptyPrompt] [] = .ok input ∧
      sampleStep id (perPosition id) input = .ok ⟨[1, 1], [⟨0, 0⟩, ⟨3, 0⟩]⟩ ∧
      ∀ queue, ¬ ∃ output f, Delivers .default [finishedPrompt, emptyPrompt] [] input id id queue output f := by
  refine ⟨batchInput .default mixedBlocks [finishedPrompt, emptyPrompt] [], rfl, rfl, ?_⟩
  rintro queue ⟨output, f, hd⟩
  have hgives := hd.prefills 1 emptyPrompt rfl rfl
  have hcursor : ∀ q ∈ [finishedPrompt, emptyPrompt], q.prefillCursor ≤ q.promptTokenIds.length := by decide
  have hbuild : build .default mixedBlocks [finishedPrompt, emptyPrompt] [] =
      .ok (batchInput .default mixedBlocks [finishedPrompt, emptyPrompt] []) := rfl
  exact Nat.lt_irrefl 0 (nonempty_of_gives id id hcursor hbuild rfl hgives)

end Example

end MiniVllm
