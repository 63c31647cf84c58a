import MiniVllm.EngineProofs.Batch
import MiniVllm.Library.Segments
import MiniVllm.RunnerProofs.Attention

/-! The arrays that `build` fills in separate loops describe the same batch. -/

namespace MiniVllm

open EngineCore AttentionBackendRef

namespace ModelInputBuilder

section Entries

variable {ε : Type} (config : Config) (bm : BlockManager ε)

def entries (prefillMeta : List PrefillMeta) (decodeMeta : List DecodeMeta) : List (PrefillMeta ⊕ DecodeMeta) :=
  prefillMeta.map Sum.inl ++ decodeMeta.map Sum.inr

def entrySeq : PrefillMeta ⊕ DecodeMeta → Sequence := Sum.elim (·.seq) (·.seq)

def entryPhase : PrefillMeta ⊕ DecodeMeta → Phase := Sum.elim (fun _ => .prefill) (fun _ => .decode)

def entryCached : PrefillMeta ⊕ DecodeMeta → ℕ := Sum.elim (·.cachedLenBefore) (·.cachedLenBefore)

def entryLen : PrefillMeta ⊕ DecodeMeta → ℕ := Sum.elim (·.queryLen) (fun _ => 1)

def entrySampled : PrefillMeta ⊕ DecodeMeta → Bool := Sum.elim (·.prefillCompletes) (fun _ => true)

def entryTokens : PrefillMeta ⊕ DecodeMeta → List ℕ := Sum.elim prefillTokens (fun m => [lastOutput m.seq])

def entryPositions (e : PrefillMeta ⊕ DecodeMeta) : List ℕ := (List.range (entryLen e)).map (entryCached e + ·)

def entrySlots (e : PrefillMeta ⊕ DecodeMeta) : List ℤ :=
  (entryPositions e).map (fun position => (slotOf config bm (entrySeq e).seqId position : ℤ))

def entryInfo (counter : ℕ) (e : PrefillMeta ⊕ DecodeMeta) : SequenceExecutionInfo where
  sequenceId := (entrySeq e).seqId
  phase := entryPhase e
  queryStart := entryCached e
  queryLen := entryLen e
  cachedLenBefore := entryCached e
  kvLenAfter := entryCached e + entryLen e
  sampleOutputIndex := if entrySampled e then some counter else none

def sampledBefore (es : List (PrefillMeta ⊕ DecodeMeta)) (i : ℕ) : ℕ := (es.take i).countP entrySampled

def entryInfos : ℕ → List (PrefillMeta ⊕ DecodeMeta) → List SequenceExecutionInfo
  | _, [] => []
  | counter, e :: rest => entryInfo counter e :: entryInfos (if entrySampled e then counter + 1 else counter) rest

def entrySampleIndices : ℕ → List (PrefillMeta ⊕ DecodeMeta) → List ℤ
  | _, [] => []
  | offset, e :: rest =>
    (if entrySampled e then [(offset + entryLen e : ℤ) - 1] else []) ++ entrySampleIndices (offset + entryLen e) rest

variable {es : List (PrefillMeta ⊕ DecodeMeta)} {e : PrefillMeta ⊕ DecodeMeta} {i : ℕ}

omit config bm in
lemma length_entryPositions (e : PrefillMeta ⊕ DecodeMeta) : (entryPositions e).length = entryLen e := by
  rw [entryPositions, List.length_map, List.length_range]

lemma length_entrySlots (e : PrefillMeta ⊕ DecodeMeta) : (entrySlots config bm e).length = entryLen e := by
  rw [entrySlots, List.length_map, length_entryPositions]

lemma entryInfos_append (counter : ℕ) (xs ys : List (PrefillMeta ⊕ DecodeMeta)) :
    entryInfos counter (xs ++ ys) = entryInfos counter xs ++ entryInfos (counter + xs.countP entrySampled) ys := by
  induction xs generalizing counter with
  | nil => rfl
  | cons e xs ih =>
    cases hs : entrySampled e with
    | true => simp [entryInfos, hs, ih, Nat.add_assoc, Nat.add_comm 1]
    | false => simp [entryInfos, hs, ih]

lemma entrySampleIndices_append (offset : ℕ) (xs ys : List (PrefillMeta ⊕ DecodeMeta)) :
    entrySampleIndices offset (xs ++ ys) =
      entrySampleIndices offset xs ++ entrySampleIndices (offset + (xs.map entryLen).sum) ys := by
  induction xs generalizing offset with
  | nil => rfl
  | cons e xs ih => simp [entrySampleIndices, ih, Nat.add_assoc]

lemma length_entryInfos (counter : ℕ) : (entryInfos counter es).length = es.length := by
  induction es generalizing counter with
  | nil => rfl
  | cons e es ih => rw [entryInfos, List.length_cons, ih, List.length_cons]

lemma length_entrySampleIndices (offset : ℕ) : (entrySampleIndices offset es).length = es.countP entrySampled := by
  induction es generalizing offset with
  | nil => rfl
  | cons e es ih =>
    cases hs : entrySampled e with
    | true => simp [entrySampleIndices, hs, ih]
    | false => simp [entrySampleIndices, hs, ih]

lemma entryInfos_getElem? (counter : ℕ) (he : es[i]? = some e) :
    (entryInfos counter es)[i]? = some (entryInfo (counter + sampledBefore es i) e) := by
  induction es generalizing counter i with
  | nil => cases he
  | cons e' es ih =>
    cases i with
    | zero =>
      obtain rfl : e' = e := Option.some.inj he
      rfl
    | succ i =>
      rw [entryInfos, List.getElem?_cons_succ, ih _ he, sampledBefore, sampledBefore, List.take_succ_cons,
        List.countP_cons]
      congr 2
      cases entrySampled e' with
      | true => simp only [if_true]; omega
      | false => simp

lemma entrySampleIndices_getElem? (offset : ℕ) (he : es[i]? = some e) (hs : entrySampled e = true) :
    (entrySampleIndices offset es)[sampledBefore es i]? =
      some ((offset + Segments.start entryLen es i + entryLen e : ℤ) - 1) := by
  induction es generalizing offset i with
  | nil => cases he
  | cons e' es ih =>
    cases i with
    | zero =>
      obtain rfl : e' = e := Option.some.inj he
      simp [entrySampleIndices, sampledBefore, hs]
    | succ i =>
      have hrest := ih (offset + entryLen e') he
      rw [Segments.start_cons_succ]
      push_cast at hrest ⊢
      rw [← Int.add_assoc, ← hrest, entrySampleIndices, sampledBefore, List.take_succ_cons, List.countP_cons,
        ← sampledBefore]
      cases entrySampled e' with
      | true => simp
      | false => simp

lemma start_entryInfos (counter : ℕ) :
    Segments.start (·.queryLen) (entryInfos counter es) i = Segments.start entryLen es i := by
  induction es generalizing counter i with
  | nil => rw [entryInfos, Segments.start, Segments.start, List.take_nil, List.take_nil, List.map_nil, List.map_nil]
  | cons e es ih =>
    cases i with
    | zero => rfl
    | succ i =>
      rw [entryInfos, Segments.start_cons_succ, Segments.start_cons_succ, ih]
      rfl

lemma entryInfos_used (counter : ℕ) : (entryInfos counter es).filterMap (·.sampleOutputIndex) =
    List.range' counter (es.countP entrySampled) := by
  induction es generalizing counter with
  | nil => rfl
  | cons e es ih =>
    cases hs : entrySampled e with
    | true => simp [entryInfos, entryInfo, hs, ih, List.range'_succ]
    | false => simp [entryInfos, entryInfo, hs, ih]

lemma prefillInfos_eq (counter : ℕ) (prefillMeta : List PrefillMeta) :
    prefillInfos counter prefillMeta = entryInfos counter (prefillMeta.map Sum.inl) := by
  induction prefillMeta generalizing counter with
  | nil => rfl
  | cons m rest ih =>
    rw [prefillInfos, ih]
    rfl

lemma decodeInfos_eq (counter : ℕ) (decodeMeta : List DecodeMeta) :
    decodeInfos counter decodeMeta = entryInfos counter (decodeMeta.map Sum.inr) := by
  induction decodeMeta generalizing counter with
  | nil => rfl
  | cons m rest ih =>
    rw [decodeInfos, ih]
    rfl

lemma prefillSampleIndices_eq (offset : ℕ) (prefillMeta : List PrefillMeta) :
    prefillSampleIndices offset prefillMeta = entrySampleIndices offset (prefillMeta.map Sum.inl) := by
  induction prefillMeta generalizing offset with
  | nil => rfl
  | cons m rest ih =>
    rw [prefillSampleIndices, ih]
    rfl

lemma decodeSampleIndices_eq (offset : ℕ) (decodeMeta : List DecodeMeta) :
    (List.range decodeMeta.length).map (fun i => ((offset + i : ℕ) : ℤ)) =
      entrySampleIndices offset (decodeMeta.map Sum.inr) := by
  induction decodeMeta generalizing offset with
  | nil => rfl
  | cons m rest ih =>
    have hshift : (fun i => ((offset + i : ℕ) : ℤ)) ∘ Nat.succ = fun i => ((offset + 1 + i : ℕ) : ℤ) := by
      funext i
      rw [Function.comp_apply]
      congr 1
      omega
    rw [List.length_cons, List.range_succ_eq_map, List.map_cons, List.map_map, hshift, ih, List.map_cons,
      entrySampleIndices]
    simp [entrySampled, entryLen]

end Entries

section Segment

variable {ε : Type} (config : Config) (bm : BlockManager ε)

def segment {A : Type} (infos : List SequenceExecutionInfo) (xs : List A) (i : ℕ) (info : SequenceExecutionInfo) :
    List A :=
  (xs.drop (Segments.start (·.queryLen) infos i)).take info.queryLen

structure IsSegment (input : ModelInput) (i : ℕ) (seq : Sequence) (phase : Phase) (cached : ℕ) (tokens : List ℕ)
    (completes : Prop) (info : SequenceExecutionInfo) : Prop where
  listed : input.sequenceInfo[i]? = some info
  sequenceId : info.sequenceId = seq.seqId
  phase : info.phase = phase
  queryStart : info.queryStart = cached
  queryLen : info.queryLen = tokens.length
  cachedLenBefore : info.cachedLenBefore = cached
  kvLenAfter : info.kvLenAfter = cached + tokens.length
  inputIds : segment input.sequenceInfo input.inputIds i info = tokens
  positions : segment input.sequenceInfo input.positions i info = (List.range tokens.length).map (cached + ·)
  slots : segment input.sequenceInfo input.slotMapping i info =
    (List.range tokens.length).map (fun r => (slotOf config bm seq.seqId (cached + r) : ℤ))
  unsampled : info.sampleOutputIndex = none ↔ ¬ completes
  sampled : ∀ idx, info.sampleOutputIndex = some idx → input.sampleTokenIndices[idx]? =
    some ((Segments.start (·.queryLen) input.sequenceInfo i + info.queryLen : ℤ) - 1)

section Assembled

variable (prefillMeta : List PrefillMeta) (decodeMeta : List DecodeMeta)

lemma flatMap_entries {B : Type} (f : PrefillMeta ⊕ DecodeMeta → List B) : (entries prefillMeta decodeMeta).flatMap f =
    prefillMeta.flatMap (fun m => f (Sum.inl m)) ++ decodeMeta.flatMap (fun m => f (Sum.inr m)) := by
  rw [entries, List.flatMap_append, List.flatMap_map, List.flatMap_map]

lemma assembled_inputIds : (assembled config bm prefillMeta decodeMeta).inputIds =
    (entries prefillMeta decodeMeta).flatMap entryTokens := by
  rw [flatMap_entries]
  exact congrArg _ List.map_eq_flatMap

lemma assembled_positions : (assembled config bm prefillMeta decodeMeta).positions =
    (entries prefillMeta decodeMeta).flatMap entryPositions := by
  rw [flatMap_entries]
  exact congrArg _ List.map_eq_flatMap

lemma assembled_slotMapping : (assembled config bm prefillMeta decodeMeta).slotMapping =
    (entries prefillMeta decodeMeta).flatMap (entrySlots config bm) := by
  rw [flatMap_entries]
  exact congrArg _ List.map_eq_flatMap

lemma countP_inl (metas : List PrefillMeta) :
    (metas.map Sum.inl).countP entrySampled = metas.countP (·.prefillCompletes) := by
  rw [List.countP_map]
  rfl

lemma assembled_sequenceInfo : (assembled config bm prefillMeta decodeMeta).sequenceInfo =
    entryInfos 0 (entries prefillMeta decodeMeta) := by
  rw [entries, entryInfos_append, Nat.zero_add, countP_inl, ← prefillInfos_eq, ← decodeInfos_eq]
  rfl

lemma assembled_sampleTokenIndices : (assembled config bm prefillMeta decodeMeta).sampleTokenIndices =
    entrySampleIndices 0 (entries prefillMeta decodeMeta) := by
  have hlens : ((prefillMeta.map Sum.inl).map entryLen).sum = (prefillMeta.map (·.queryLen)).sum := by
    rw [List.map_map]
    rfl
  rw [entries, entrySampleIndices_append, Nat.zero_add, hlens, ← prefillSampleIndices_eq, ← decodeSampleIndices_eq]
  rfl

def TokensFit (prefillMeta : List PrefillMeta) : Prop := ∀ m ∈ prefillMeta, (prefillTokens m).length = m.queryLen

variable {config bm prefillMeta decodeMeta} (hfit : TokensFit prefillMeta)

include hfit

omit config bm in
lemma length_entryTokens {e : PrefillMeta ⊕ DecodeMeta} (he : e ∈ entries prefillMeta decodeMeta) :
    (entryTokens e).length = entryLen e := by
  rcases List.mem_append.mp he with he | he
  · obtain ⟨m, hm, rfl⟩ := List.mem_map.mp he
    exact hfit m hm
  · obtain ⟨m, -, rfl⟩ := List.mem_map.mp he
    rfl

variable (config bm) in
lemma assembled_segment {e : PrefillMeta ⊕ DecodeMeta} {i : ℕ} (he : (entries prefillMeta decodeMeta)[i]? = some e) :
    IsSegment config bm (assembled config bm prefillMeta decodeMeta) i (entrySeq e) (entryPhase e) (entryCached e)
      (entryTokens e) (entrySampled e = true) (entryInfo (sampledBefore (entries prefillMeta decodeMeta) i) e) := by
  set es := entries prefillMeta decodeMeta with hes
  have hlen : (entryTokens e).length = entryLen e := length_entryTokens hfit (List.mem_of_getElem? he)
  have hstart : Segments.start (·.queryLen) (assembled config bm prefillMeta decodeMeta).sequenceInfo i =
      Segments.start entryLen es i := by
    rw [assembled_sequenceInfo]
    exact start_entryInfos 0
  have hinfo := entryInfos_getElem? 0 he
  rw [Nat.zero_add] at hinfo
  refine ⟨?_, rfl, rfl, rfl, hlen.symm, rfl, ?_, ?_, ?_, ?_, ?_, ?_⟩
  · rw [assembled_sequenceInfo]
    exact hinfo
  · rw [hlen]
    rfl
  · rw [segment, hstart, assembled_inputIds]
    have hslice := Segments.slice (fun e (hm : e ∈ es) => length_entryTokens hfit hm) he
    exact hslice
  · rw [segment, hstart, assembled_positions, hlen]
    have hslice := Segments.slice (fun e (_ : e ∈ es) => length_entryPositions e) he
    exact hslice
  · have hslots : entrySlots config bm e = (List.range (entryLen e)).map
        (fun r => (slotOf config bm (entrySeq e).seqId (entryCached e + r) : ℤ)) := by
      rw [entrySlots, entryPositions, List.map_map]
      rfl
    rw [segment, hstart, assembled_slotMapping, hlen, ← hslots]
    have hslice := Segments.slice (fun e (_ : e ∈ es) => length_entrySlots config bm e) he
    exact hslice
  · cases hs : entrySampled e with
    | true => simp [entryInfo, hs]
    | false => simp [entryInfo, hs]
  · intro idx hidx
    cases hs : entrySampled e with
    | false => simp [entryInfo, hs] at hidx
    | true =>
      have hcounter : sampledBefore es i = idx := by simpa [entryInfo, hs] using hidx
      have hget := entrySampleIndices_getElem? 0 he hs
      rw [← hcounter, hstart, assembled_sampleTokenIndices, hget, Nat.cast_zero, Int.zero_add]
      rfl

omit hfit in
lemma sum_queryLen : ((assembled config bm prefillMeta decodeMeta).sequenceInfo.map (·.queryLen)).sum =
    ((entries prefillMeta decodeMeta).map entryLen).sum := by
  have hall : Segments.start (·.queryLen) (entryInfos 0 (entries prefillMeta decodeMeta))
      (entryInfos 0 (entries prefillMeta decodeMeta)).length = Segments.start entryLen (entries prefillMeta decodeMeta)
        (entryInfos 0 (entries prefillMeta decodeMeta)).length := start_entryInfos 0
  rw [Segments.start, Segments.start, List.take_length, length_entryInfos, List.take_length] at hall
  rw [assembled_sequenceInfo, hall]

end Assembled

end Segment

section Groups

variable (prefillMeta : List PrefillMeta) (decodeMeta : List DecodeMeta) {i : ℕ}

lemma prefill_entry {m : PrefillMeta} (hi : prefillMeta[i]? = some m) :
    (entries prefillMeta decodeMeta)[i]? = some (Sum.inl m) := by
  have hlt := (List.getElem?_eq_some_iff.mp hi).1
  rw [entries, List.getElem?_append_left (by rwa [List.length_map]), List.getElem?_map, hi, Option.map_some]

lemma decode_entry {m : DecodeMeta} (hi : decodeMeta[i]? = some m) :
    (entries prefillMeta decodeMeta)[prefillMeta.length + i]? = some (Sum.inr m) := by
  rw [entries, List.getElem?_append_right (by rw [List.length_map]; exact Nat.le_add_right _ _), List.length_map,
    Nat.add_sub_cancel_left, List.getElem?_map, hi, Option.map_some]

lemma grouped_eq :
    (buildGroups prefillMeta decodeMeta).flatMap (·.seqIndices) =
      List.range (prefillMeta.length + decodeMeta.length) := by
  rw [List.range_add, buildGroups, List.flatMap_append]
  congr 1
  · split_ifs with h
    · rw [List.flatMap_singleton]
    · rw [Nat.eq_zero_of_not_pos h]
      rfl
  · split_ifs with h
    · rw [List.flatMap_singleton]
    · rw [Nat.eq_zero_of_not_pos h]
      rfl

def GroupAligned (infos : List SequenceExecutionInfo) (g : AttentionGroup) : Prop :=
  ∀ k i : ℕ, g.seqIndices[k]? = some i → ∃ info : SequenceExecutionInfo, infos[i]? = some info ∧
    g.cachedLenBefore[k]? = some info.cachedLenBefore ∧ g.queryLen[k]? = some info.queryLen ∧
      g.kvLenAfter[k]? = some info.kvLenAfter

variable {prefillMeta decodeMeta}

lemma groupAligned {g : AttentionGroup} (hg : g ∈ buildGroups prefillMeta decodeMeta) :
    GroupAligned (entryInfos 0 (entries prefillMeta decodeMeta)) g := by
  intro k i hk
  rcases List.mem_append.mp hg with hg | hg
  · split_ifs at hg with h
    · obtain rfl := List.mem_singleton.mp hg
      obtain ⟨hlt, rfl⟩ : k < prefillMeta.length ∧ k = i := by simpa [List.getElem?_eq_some_iff] using hk
      have hget := List.getElem?_eq_getElem hlt
      refine ⟨_, entryInfos_getElem? 0 (prefill_entry prefillMeta decodeMeta hget), ?_, ?_, ?_⟩
      · rw [List.getElem?_map, hget]
        rfl
      · rw [List.getElem?_map, hget]
        rfl
      · rw [List.getElem?_map, hget]
        rfl
    · cases hg
  · split_ifs at hg with h
    · obtain rfl := List.mem_singleton.mp hg
      obtain ⟨hlt, rfl⟩ : k < decodeMeta.length ∧ prefillMeta.length + k = i := by
        simpa [List.getElem?_eq_some_iff] using hk
      have hget := List.getElem?_eq_getElem hlt
      refine ⟨_, entryInfos_getElem? 0 (decode_entry prefillMeta decodeMeta hget), ?_, ?_, ?_⟩
      · rw [List.getElem?_map, hget]
        rfl
      · rw [List.getElem?_map, hget]
        rfl
      · rw [List.getElem?_map, hget]
        rfl
    · cases hg

end Groups

section Structure

variable {ε : Type} (config : Config) (bm : BlockManager ε) (prefill decode : List Sequence)

structure Buildable : Prop where
  cursor : ∀ q ∈ prefill, q.prefillCursor ≤ q.promptTokenIds.length
  prefill : ∀ q ∈ prefill, ∀ position, q.prefillCursor ≤ position → position < chunkEnd config q →
    position / config.blockSize < (bm.getBlockTable q.seqId).length
  decode : ∀ q ∈ decode, 1 ≤ q.outputTokenIds.length ∧ q.numGeneratedTokens = q.outputTokenIds.length ∧
    decodePosition q / config.blockSize < (bm.getBlockTable q.seqId).length

def RowsOf (tables : List (List ℤ)) (seqs : List Sequence) : Prop :=
  tables.map blockIds = seqs.map (fun q => bm.getBlockTable q.seqId)

structure StructurallyCorrect (input : ModelInput) : Prop where
  sequences : input.sequenceInfo.length = prefill.length + decode.length
  inputIds : input.inputIds.length = (input.sequenceInfo.map (·.queryLen)).sum
  positions : input.positions.length = (input.sequenceInfo.map (·.queryLen)).sum
  slotMapping : input.slotMapping.length = (input.sequenceInfo.map (·.queryLen)).sum
  prefillSegments : ∀ (i : ℕ) (q : Sequence), prefill[i]? = some q → ∃ info, IsSegment config bm input i q .prefill
    q.prefillCursor ((q.promptTokenIds.take (chunkEnd config q)).drop q.prefillCursor)
    (chunkEnd config q = q.promptTokenIds.length) info
  decodeSegments : ∀ (i : ℕ) (q : Sequence), decode[i]? = some q → ∃ info, IsSegment config bm input
    (prefill.length + i) q .decode (decodePosition q) q.outputTokenIds.getLast?.toList True info
  used : input.sequenceInfo.filterMap (·.sampleOutputIndex) = List.range input.sampleTokenIndices.length
  prefillTables : RowsOf bm input.attnMetadata.prefillBlockTables prefill
  decodeTables : RowsOf bm input.attnMetadata.decodeBlockTables decode
  grouped : input.attnMetadata.groups.flatMap (·.seqIndices) = List.range (prefill.length + decode.length)
  groups : ∀ g ∈ input.attnMetadata.groups, GroupAligned input.sequenceInfo g

variable {config bm prefill decode}

lemma rowsOf_buildBlockTableTensor {seqs : List Sequence} {maxBlocks : ℕ}
    (h : ∀ q ∈ seqs, (bm.getBlockTable q.seqId).length ≤ maxBlocks) :
    RowsOf bm (buildBlockTableTensor bm seqs maxBlocks) seqs := by
  rw [RowsOf, buildBlockTableTensor, List.map_map]
  exact List.map_congr_left fun q hq => blockIds_row (h q hq)

lemma chunk_tokens {q : Sequence} (hle : q.prefillCursor ≤ q.promptTokenIds.length) :
    prefillTokens (collectPrefill config q) = (q.promptTokenIds.take (chunkEnd config q)).drop q.prefillCursor := by
  have hcached : (collectPrefill config q).cachedLenBefore = q.prefillCursor := rfl
  have hlen : chunkEnd config q - q.prefillCursor = (collectPrefill config q).queryLen := by
    rw [← collectPrefill_end config hle, hcached, Nat.add_sub_cancel_left]
  rw [List.drop_take, hlen]
  rfl

lemma tokensFit : TokensFit (collectPrefillMetadata config prefill) := by
  intro m hm
  obtain ⟨q, -, rfl⟩ := List.mem_map.mp hm
  simp only [prefillTokens, collectPrefill, List.length_take, List.length_drop]
  omega

lemma map_seq_collectPrefillMetadata : (collectPrefillMetadata config prefill).map (·.seq) = prefill := by
  rw [collectPrefillMetadata, List.map_map]
  exact List.map_id _

lemma map_seq_decodeMetaOf : (decode.map decodeMetaOf).map (·.seq) = decode := by
  rw [List.map_map]
  exact List.map_id _

variable (config) in
lemma collectPrefillMetadata_getElem? {i : ℕ} {q : Sequence} (hi : prefill[i]? = some q) :
    (collectPrefillMetadata config prefill)[i]? = some (collectPrefill config q) := by
  rw [collectPrefillMetadata, List.getElem?_map, hi, Option.map_some]

lemma decodeMetaOf_getElem? {i : ℕ} {q : Sequence} (hi : decode[i]? = some q) :
    (decode.map decodeMetaOf)[i]? = some (decodeMetaOf q) := by
  rw [List.getElem?_map, hi, Option.map_some]

lemma rowsOf_prefillBlockTables :
    RowsOf bm (batchInput config bm prefill decode).attnMetadata.prefillBlockTables prefill := by
  have htables : (batchInput config bm prefill decode).attnMetadata.prefillBlockTables =
      buildBlockTableTensor bm ((collectPrefillMetadata config prefill).map (·.seq))
        (computeMaxBlocks bm ((collectPrefillMetadata config prefill).map (·.seq))
          ((decode.map decodeMetaOf).map (·.seq))) := rfl
  rw [htables, map_seq_collectPrefillMetadata, map_seq_decodeMetaOf]
  apply rowsOf_buildBlockTableTensor
  exact fun q hq => length_le_computeMaxBlocks (List.mem_append_left _ hq)

lemma rowsOf_decodeBlockTables :
    RowsOf bm (batchInput config bm prefill decode).attnMetadata.decodeBlockTables decode := by
  have htables : (batchInput config bm prefill decode).attnMetadata.decodeBlockTables =
      buildBlockTableTensor bm ((decode.map decodeMetaOf).map (·.seq))
        (computeMaxBlocks bm ((collectPrefillMetadata config prefill).map (·.seq))
          ((decode.map decodeMetaOf).map (·.seq))) := rfl
  rw [htables, map_seq_collectPrefillMetadata, map_seq_decodeMetaOf]
  apply rowsOf_buildBlockTableTensor
  exact fun q hq => length_le_computeMaxBlocks (List.mem_append_right _ hq)

variable (hc : Buildable config bm prefill decode)

include hc

lemma Buildable.build_eq : build config bm prefill decode = .ok (batchInput config bm prefill decode) := by
  have hgen : ∀ q ∈ decode, 1 ≤ q.numGeneratedTokens ∧ q.numGeneratedTokens = q.outputTokenIds.length := fun q hq =>
    ⟨(hc.decode q hq).2.1 ▸ (hc.decode q hq).1, (hc.decode q hq).2.1⟩
  have hprefill : PrefillCovered config bm (collectPrefillMetadata config prefill) := by
    intro m hm position hp
    obtain ⟨q, hq, rfl⟩ := List.mem_map.mp hm
    obtain ⟨hle, hend⟩ := (mem_prefillPositions config (hc.cursor q hq)).mp hp
    exact hc.prefill q hq position hle hend
  have hdecode : DecodeCovered config bm (decode.map decodeMetaOf) := by
    intro m hm
    obtain ⟨q, hq, rfl⟩ := List.mem_map.mp hm
    exact (hc.decode q hq).2.2
  have hout : ∀ m ∈ decode.map decodeMetaOf, m.seq.outputTokenIds ≠ [] := by
    intro m hm
    obtain ⟨q, hq, rfl⟩ := List.mem_map.mp hm
    exact List.ne_nil_of_length_pos (hc.decode q hq).1
  simp only [build, collectDecodeMetadata_eq decode hgen]
  exact assemble_eq config bm _ _ hprefill hdecode hout

lemma Buildable.prefill_segment {i : ℕ} {q : Sequence} (hi : prefill[i]? = some q) :
    ∃ info, IsSegment config bm (batchInput config bm prefill decode) i q .prefill q.prefillCursor
      ((q.promptTokenIds.take (chunkEnd config q)).drop q.prefillCursor)
      (chunkEnd config q = q.promptTokenIds.length) info := by
  have hle := hc.cursor q (List.mem_of_getElem? hi)
  have hentry := prefill_entry _ (decode.map decodeMetaOf) (collectPrefillMetadata_getElem? config hi)
  have hsegment := assembled_segment config bm tokensFit hentry
  rw [← chunk_tokens hle, ← collectPrefill_completes config hle]
  exact ⟨_, hsegment⟩

lemma Buildable.decode_segment {i : ℕ} {q : Sequence} (hi : decode[i]? = some q) :
    ∃ info, IsSegment config bm (batchInput config bm prefill decode) (prefill.length + i) q .decode
      (decodePosition q) q.outputTokenIds.getLast?.toList True info := by
  have hentry := decode_entry (collectPrefillMetadata config prefill) _ (decodeMetaOf_getElem? hi)
  have hlen : (collectPrefillMetadata config prefill).length = prefill.length := List.length_map _
  have hsegment := assembled_segment config bm tokensFit hentry
  obtain ⟨token, ht⟩ := Option.isSome_iff_exists.mp
    (List.getLast?_isSome.mpr (List.ne_nil_of_length_pos (hc.decode q (List.mem_of_getElem? hi)).1))
  have htokens : [lastOutput q] = q.outputTokenIds.getLast?.toList := by
    rw [lastOutput, ht]
    rfl
  have htrue : (entrySampled (Sum.inr (decodeMetaOf q)) = true) = True := by simp [entrySampled]
  rw [hlen, htrue] at hsegment
  rw [← htokens]
  exact ⟨_, hsegment⟩

omit hc in
theorem build_structure (hcursor : ∀ q ∈ prefill, q.prefillCursor < q.promptTokenIds.length)
    (hprefill : ∀ q ∈ prefill, ∀ position, q.prefillCursor ≤ position → position < chunkEnd config q →
      position / config.blockSize < (bm.getBlockTable q.seqId).length)
    (hdecode : ∀ q ∈ decode, 1 ≤ q.outputTokenIds.length ∧ q.numGeneratedTokens = q.outputTokenIds.length ∧
      decodePosition q / config.blockSize < (bm.getBlockTable q.seqId).length) :
    ∃ input, build config bm prefill decode = .ok input ∧ StructurallyCorrect config bm prefill decode input := by
  have hc : Buildable config bm prefill decode := ⟨fun q hq => (hcursor q hq).le, hprefill, hdecode⟩
  have hfit : TokensFit (collectPrefillMetadata config prefill) := tokensFit
  have hlenP : (collectPrefillMetadata config prefill).length = prefill.length := List.length_map _
  have hlenD : (decode.map decodeMetaOf).length = decode.length := List.length_map _
  have hinput : batchInput config bm prefill decode =
      assembled config bm (collectPrefillMetadata config prefill) (decode.map decodeMetaOf) := rfl
  refine ⟨_, hc.build_eq, ?_⟩
  constructor
  case sequences =>
    rw [hinput, assembled_sequenceInfo, length_entryInfos, entries, List.length_append, List.length_map,
      List.length_map, hlenP, hlenD]
  case inputIds =>
    rw [hinput, sum_queryLen, assembled_inputIds]
    exact Segments.length_flatMap fun e he => length_entryTokens hfit he
  case positions =>
    rw [hinput, sum_queryLen, assembled_positions]
    exact Segments.length_flatMap fun e _ => length_entryPositions e
  case slotMapping =>
    rw [hinput, sum_queryLen, assembled_slotMapping]
    exact Segments.length_flatMap fun e _ => length_entrySlots config bm e
  case prefillSegments => exact fun i q hi => hc.prefill_segment hi
  case decodeSegments => exact fun i q hi => hc.decode_segment hi
  case used =>
    rw [hinput, assembled_sequenceInfo, assembled_sampleTokenIndices, entryInfos_used, length_entrySampleIndices,
      List.range_eq_range']
  case prefillTables => exact rowsOf_prefillBlockTables
  case decodeTables => exact rowsOf_decodeBlockTables
  case grouped =>
    rw [← hlenP, ← hlenD]
    exact grouped_eq _ _
  case groups =>
    intro g hg
    rw [hinput, assembled_sequenceInfo]
    exact groupAligned hg

end Structure

section Inversion

variable {ε : Type} {config : Config} {bm : BlockManager ε}

lemma lt_of_computeSlot_ok {seq : Sequence} {position : ℕ} {slot : ℤ}
    (h : computeSlot config bm seq position = .ok slot) :
    position / config.blockSize < (bm.getBlockTable seq.seqId).length := by
  by_contra hge
  have hnone : (bm.getBlockTable seq.seqId)[position / config.blockSize]? = none :=
    List.getElem?_eq_none (Nat.not_lt.mp hge)
  simp [computeSlot, hnone] at h

lemma lt_of_computeSlots_ok {seq : Sequence} {positions : List ℕ} {slots : List ℤ}
    (h : computeSlots config bm seq positions = .ok slots) :
    ∀ position ∈ positions, position / config.blockSize < (bm.getBlockTable seq.seqId).length := by
  induction positions generalizing slots with
  | nil => exact fun position hm => by cases hm
  | cons first rest ih =>
    cases hfirst : computeSlot config bm seq first with
    | error err => simp [computeSlots, hfirst] at h
    | ok slot =>
      cases hrest : computeSlots config bm seq rest with
      | error err => simp [computeSlots, hfirst, hrest] at h
      | ok slots =>
        intro position hm
        rcases List.mem_cons.mp hm with rfl | hm
        · exact lt_of_computeSlot_ok hfirst
        · exact ih hrest position hm

lemma prefillCovered_of_ok {prefillMeta : List PrefillMeta} {arrays arrays' : TokenArrays}
    (h : addPrefillTokens config bm prefillMeta arrays = .ok arrays') : PrefillCovered config bm prefillMeta := by
  induction prefillMeta generalizing arrays with
  | nil => exact fun m hm => by cases hm
  | cons first rest ih =>
    cases hslots : computeSlots config bm first.seq (prefillPositions first) with
    | error err =>
      simp only [prefillPositions] at hslots
      simp [addPrefillTokens, hslots] at h
    | ok slots =>
      have hcover := lt_of_computeSlots_ok hslots
      simp only [prefillPositions] at hslots
      simp only [addPrefillTokens, hslots] at h
      intro m hm
      rcases List.mem_cons.mp hm with rfl | hm
      · exact hcover
      · exact ih h m hm

lemma decodeCovered_of_ok {decodeMeta : List DecodeMeta} {arrays arrays' : TokenArrays}
    (h : addDecodeTokens config bm decodeMeta arrays = .ok arrays') : DecodeCovered config bm decodeMeta := by
  induction decodeMeta generalizing arrays with
  | nil => exact fun m hm => by cases hm
  | cons first rest ih =>
    cases hslot : computeSlot config bm first.seq first.cachedLenBefore with
    | error err => simp [addDecodeTokens, hslot] at h
    | ok slot =>
      cases hlast : first.seq.outputTokenIds.getLast? with
      | none => simp [addDecodeTokens, hslot, hlast] at h
      | some token =>
        simp only [addDecodeTokens, hslot, hlast] at h
        intro m hm
        rcases List.mem_cons.mp hm with rfl | hm
        · exact lt_of_computeSlot_ok hslot
        · exact ih h m hm

lemma collectDecodeMetadata_ok {decode : List Sequence} {metas : List DecodeMeta}
    (h : collectDecodeMetadata decode = .ok metas) : metas = decode.map decodeMetaOf ∧
      ∀ q ∈ decode, 1 ≤ q.outputTokenIds.length ∧ q.numGeneratedTokens = q.outputTokenIds.length := by
  induction decode generalizing metas with
  | nil =>
    cases h
    exact ⟨rfl, fun q hq => by cases hq⟩
  | cons first rest ih =>
    by_cases hfirst : first.numGeneratedTokens ≥ 1 ∧ first.outputTokenIds.length ≥ 1 ∧
        first.numGeneratedTokens = first.outputTokenIds.length
    · cases hrest : collectDecodeMetadata rest with
      | error err => simp [collectDecodeMetadata, collectDecode, hfirst, hrest] at h
      | ok infos =>
        obtain ⟨rfl, hall⟩ := ih hrest
        simp only [collectDecodeMetadata, collectDecode, if_pos hfirst, hrest] at h
        cases h
        refine ⟨rfl, fun q hq => ?_⟩
        rcases List.mem_cons.mp hq with rfl | hq
        · exact hfirst.2
        · exact hall q hq
    · simp [collectDecodeMetadata, collectDecode, hfirst] at h

lemma buildable_of_ok {prefill decode : List Sequence} {input : ModelInput}
    (hcursor : ∀ q ∈ prefill, q.prefillCursor ≤ q.promptTokenIds.length)
    (h : build config bm prefill decode = .ok input) : Buildable config bm prefill decode := by
  cases hdecode : collectDecodeMetadata decode with
  | error err => simp [build, hdecode] at h
  | ok metas =>
    obtain ⟨rfl, hgen⟩ := collectDecodeMetadata_ok hdecode
    simp only [build, hdecode, assemble] at h
    cases harrays : addPrefillTokens config bm (collectPrefillMetadata config prefill) {} with
    | error err => simp [harrays] at h
    | ok arrays =>
      cases harrays' : addDecodeTokens config bm (decode.map decodeMetaOf) arrays with
      | error err => simp [harrays, harrays'] at h
      | ok arrays' =>
        refine ⟨hcursor, fun q hq position hle hlt => ?_, fun q hq => ?_⟩
        · exact prefillCovered_of_ok harrays _ (List.mem_map_of_mem hq) position
            ((mem_prefillPositions config (hcursor q hq)).mpr ⟨hle, hlt⟩)
        · exact ⟨(hgen q hq).1, (hgen q hq).2, decodeCovered_of_ok harrays' _ (List.mem_map_of_mem hq)⟩

end Inversion

section Example

def mixedBlocks : BlockManager Unit where
  allocator := .initial 4 ()
  tables := ((Dict.empty.set ⟨0, 0⟩ ⟨[⟨2, false⟩]⟩).set ⟨1, 0⟩ ⟨[⟨0, false⟩, ⟨1, false⟩]⟩).set ⟨2, 0⟩ ⟨[⟨3, false⟩]⟩

def unfinishedPrompt : Sequence :=
  { seqId := ⟨1, 0⟩, groupId := 1, promptTokenIds := [1, 5, 2, 6, 4], samplingParams := {}, status := .prefill }

def finishedPrompt : Sequence :=
  { seqId := ⟨0, 0⟩, groupId := 0, promptTokenIds := [7, 3], samplingParams := {}, status := .prefill }

def decodingSequence : Sequence where
  seqId := ⟨2, 0⟩
  groupId := 2
  promptTokenIds := [8, 8, 8]
  samplingParams := {}
  outputTokenIds := [9]
  status := .running
  numGeneratedTokens := 1
  prefillCursor := 3

lemma mixed_covered (q : Sequence) (hq : q ∈ [unfinishedPrompt, finishedPrompt]) (position : ℕ)
    (hlt : position < chunkEnd .default q) :
    position / Config.default.blockSize < (mixedBlocks.getBlockTable q.seqId).length := by
  rcases List.mem_pair.mp hq with rfl | rfl
  · have hlt : position < 4 := hlt
    exact (Nat.div_lt_iff_lt_mul (Nat.succ_pos 3)).mpr (hlt.trans (Nat.lt_add_of_pos_right (Nat.succ_pos 3)))
  · have hlt : position < 2 := hlt
    exact (Nat.div_lt_iff_lt_mul (Nat.succ_pos 3)).mpr (hlt.trans (Nat.lt_add_of_pos_right Nat.two_pos))

theorem build_structure_mixed : ∃ input,
    build .default mixedBlocks [unfinishedPrompt, finishedPrompt] [decodingSequence] = .ok input ∧
      StructurallyCorrect .default mixedBlocks [unfinishedPrompt, finishedPrompt] [decodingSequence] input :=
  build_structure (by decide) (fun q hq position _ hlt => mixed_covered q hq position hlt) (by decide)

end Example

end ModelInputBuilder

end MiniVllm
