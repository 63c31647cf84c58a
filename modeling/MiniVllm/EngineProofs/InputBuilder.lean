import MiniVllm.CacheProofs.PagedCache
import MiniVllm.Engine.InputBuilder

/-! The `ModelInput` that `build` returns when the block tables cover every position of the batch. -/

namespace MiniVllm

namespace ModelInputBuilder

variable {ε : Type} (config : Config) (bm : BlockManager ε)

def slotOf (sid : SeqId) (position : ℕ) : ℕ :=
  (bm.getBlockTable sid).getD (position / config.blockSize) 0 * config.blockSize + position % config.blockSize

lemma cellOf_slotOf (sid : SeqId) (position : ℕ) : LayerCache.cellOf config.blockSize (slotOf config bm sid position) =
    LayerCache.tableCell config.blockSize (bm.getBlockTable sid) position :=
  LayerCache.cellOf_slot (Nat.mod_lt _ config.blockSize_pos)

lemma slotOf_lt {sid : SeqId} {position numBlocks b : ℕ}
    (hb : (bm.getBlockTable sid)[position / config.blockSize]? = some b) (hlt : b < numBlocks) :
    slotOf config bm sid position < numBlocks * config.blockSize := by
  have hoffset := Nat.mod_lt position config.blockSize_pos
  calc slotOf config bm sid position
      < (b + 1) * config.blockSize := by
        rw [slotOf, List.getD_eq_getElem?_getD, hb, Option.getD_some, Nat.succ_mul]
        omega
    _ ≤ numBlocks * config.blockSize := Nat.mul_le_mul_right _ hlt

lemma computeSlot_eq {seq : Sequence} {position : ℕ}
    (h : position / config.blockSize < (bm.getBlockTable seq.seqId).length) :
    computeSlot config bm seq position = .ok (slotOf config bm seq.seqId position : ℤ) := by
  simp [computeSlot, slotOf, List.getElem?_eq_getElem h]

lemma computeSlots_eq {seq : Sequence} (positions : List ℕ)
    (h : ∀ position ∈ positions, position / config.blockSize < (bm.getBlockTable seq.seqId).length) :
    computeSlots config bm seq positions =
      .ok (positions.map (fun position => (slotOf config bm seq.seqId position : ℤ))) := by
  induction positions with
  | nil => rfl
  | cons position rest ih =>
    simp only [List.mem_cons, forall_eq_or_imp] at h
    simp only [computeSlots, computeSlot_eq config bm h.1, ih h.2, List.map_cons]

def prefillPositions (m : PrefillMeta) : List ℕ := (List.range m.queryLen).map (m.cachedLenBefore + ·)

def prefillTokens (m : PrefillMeta) : List ℕ := (m.seq.promptTokenIds.drop m.cachedLenBefore).take m.queryLen

def prefillSampleIndices : ℕ → List PrefillMeta → List ℤ
  | _, [] => []
  | offset, m :: rest =>
    (if m.prefillCompletes then [(offset + m.queryLen : ℤ) - 1] else []) ++
      prefillSampleIndices (offset + m.queryLen) rest

def PrefillCovered (prefillMeta : List PrefillMeta) : Prop :=
  ∀ m ∈ prefillMeta, ∀ position ∈ prefillPositions m,
    position / config.blockSize < (bm.getBlockTable m.seq.seqId).length

def DecodeCovered (decodeMeta : List DecodeMeta) : Prop :=
  ∀ m ∈ decodeMeta, m.cachedLenBefore / config.blockSize < (bm.getBlockTable m.seq.seqId).length

lemma addPrefillTokens_eq (prefillMeta : List PrefillMeta) (arrays : TokenArrays)
    (h : PrefillCovered config bm prefillMeta) :
    addPrefillTokens config bm prefillMeta arrays = .ok
      { inputIds := arrays.inputIds ++ prefillMeta.flatMap prefillTokens
        positions := arrays.positions ++ prefillMeta.flatMap prefillPositions
        slotMapping := arrays.slotMapping ++ prefillMeta.flatMap (fun m =>
          (prefillPositions m).map (fun position => (slotOf config bm m.seq.seqId position : ℤ)))
        sampleIndices := arrays.sampleIndices ++ prefillSampleIndices arrays.tokenOffset prefillMeta
        tokenOffset := arrays.tokenOffset + (prefillMeta.map (·.queryLen)).sum } := by
  induction prefillMeta generalizing arrays with
  | nil => simp [addPrefillTokens, prefillSampleIndices]
  | cons m rest ih =>
    have hm : ∀ position ∈ prefillPositions m,
        position / config.blockSize < (bm.getBlockTable m.seq.seqId).length := h m (by simp)
    have hrest : PrefillCovered config bm rest := fun m' hm' => h m' (List.mem_cons_of_mem m hm')
    have hs := computeSlots_eq config bm (prefillPositions m) hm
    simp only [prefillPositions] at hs
    simp only [addPrefillTokens, hs, ih _ hrest]
    simp [prefillPositions, prefillTokens, prefillSampleIndices, List.append_assoc, Nat.add_assoc]

def lastOutput (seq : Sequence) : ℕ := seq.outputTokenIds.getLast?.getD 0

lemma addDecodeTokens_eq (decodeMeta : List DecodeMeta) (arrays : TokenArrays)
    (h : DecodeCovered config bm decodeMeta) (hout : ∀ m ∈ decodeMeta, m.seq.outputTokenIds ≠ []) :
    addDecodeTokens config bm decodeMeta arrays = .ok
      { inputIds := arrays.inputIds ++ decodeMeta.map (fun m => lastOutput m.seq)
        positions := arrays.positions ++ decodeMeta.map (·.cachedLenBefore)
        slotMapping := arrays.slotMapping ++
          decodeMeta.map (fun m => (slotOf config bm m.seq.seqId m.cachedLenBefore : ℤ))
        sampleIndices := arrays.sampleIndices ++
          (List.range decodeMeta.length).map (fun i => ((arrays.tokenOffset + i : ℕ) : ℤ))
        tokenOffset := arrays.tokenOffset + decodeMeta.length } := by
  induction decodeMeta generalizing arrays with
  | nil => simp [addDecodeTokens]
  | cons m rest ih =>
    have hm := computeSlot_eq config bm (h m (by simp))
    obtain ⟨token, ht⟩ := Option.isSome_iff_exists.mp
      (List.getLast?_isSome.mpr (hout m (by simp)))
    have hrest : DecodeCovered config bm rest := fun m' hm' => h m' (List.mem_cons_of_mem m hm')
    have hout' : ∀ m' ∈ rest, m'.seq.outputTokenIds ≠ [] := fun m' hm' => hout m' (List.mem_cons_of_mem m hm')
    have hl : lastOutput m.seq = token := by simp [lastOutput, ht]
    simp only [addDecodeTokens, hm, ht, ih _ hrest hout']
    simp only [hl, List.map_cons, List.append_assoc, List.singleton_append, List.length_cons,
      List.range_succ_eq_map, List.map_map, Except.ok.injEq, TokenArrays.mk.injEq, true_and]
    refine ⟨?_, by omega⟩
    congr 2
    exact List.map_congr_left (fun i _ => by simp only [Function.comp_apply]; omega)

lemma prefillInfos_lengthsAgree (prefillMeta : List PrefillMeta) (counter : ℕ) :
    (prefillInfos counter prefillMeta).all lengthsAgree = true := by
  induction prefillMeta generalizing counter with
  | nil => rfl
  | cons m rest ih => simp [prefillInfos, lengthsAgree, ih]

lemma decodeInfos_lengthsAgree (decodeMeta : List DecodeMeta) (counter : ℕ) :
    (decodeInfos counter decodeMeta).all lengthsAgree = true := by
  induction decodeMeta generalizing counter with
  | nil => rfl
  | cons m rest ih => simp [decodeInfos, lengthsAgree, ih]

lemma sampledIds_append (xs ys : List SequenceExecutionInfo) :
    sampledIds (xs ++ ys) = sampledIds xs ++ sampledIds ys := by
  simp [sampledIds]

lemma sampledIds_prefillInfos (counter : ℕ) (prefillMeta : List PrefillMeta) :
    sampledIds (prefillInfos counter prefillMeta) =
      (prefillMeta.filter (·.prefillCompletes)).map (·.seq.seqId) := by
  induction prefillMeta generalizing counter with
  | nil => rfl
  | cons m rest ih =>
    cases hm : m.prefillCompletes with
    | true => simpa [prefillInfos, sampledIds, hm] using ih (counter + 1)
    | false => simpa [prefillInfos, sampledIds, hm] using ih counter

lemma sampledIds_decodeInfos (counter : ℕ) (decodeMeta : List DecodeMeta) :
    sampledIds (decodeInfos counter decodeMeta) = decodeMeta.map (·.seq.seqId) := by
  induction decodeMeta generalizing counter with
  | nil => rfl
  | cons m rest ih => simpa [decodeInfos, sampledIds] using ih (counter + 1)

def prefillSlots (prefillMeta : List PrefillMeta) : List ℤ :=
  prefillMeta.flatMap (fun m =>
    (prefillPositions m).map (fun position => (slotOf config bm m.seq.seqId position : ℤ)))

def decodeSlots (decodeMeta : List DecodeMeta) : List ℤ :=
  decodeMeta.map (fun m => (slotOf config bm m.seq.seqId m.cachedLenBefore : ℤ))

lemma prefillSlots_length (prefillMeta : List PrefillMeta) :
    (prefillSlots config bm prefillMeta).length = (prefillMeta.map (·.queryLen)).sum := by
  simp [prefillSlots, prefillPositions, List.length_flatMap]

lemma prefillPositions_length (prefillMeta : List PrefillMeta) :
    (prefillMeta.flatMap prefillPositions).length = (prefillMeta.map (·.queryLen)).sum := by
  simp [prefillPositions, List.length_flatMap]

variable (prefillMeta : List PrefillMeta) (decodeMeta : List DecodeMeta)

def assembled : ModelInput where
  inputIds := prefillMeta.flatMap prefillTokens ++ decodeMeta.map (fun m => lastOutput m.seq)
  positions := prefillMeta.flatMap prefillPositions ++ decodeMeta.map (·.cachedLenBefore)
  slotMapping := prefillSlots config bm prefillMeta ++ decodeSlots config bm decodeMeta
  attnMetadata :=
    { groups := buildGroups prefillMeta decodeMeta
      prefillSlotMapping := prefillSlots config bm prefillMeta
      prefillBlockTables := buildBlockTableTensor bm (prefillMeta.map (·.seq))
        (computeMaxBlocks bm (prefillMeta.map (·.seq)) (decodeMeta.map (·.seq)))
      prefillPositions := prefillMeta.flatMap prefillPositions
      decodeBlockTables := buildBlockTableTensor bm (decodeMeta.map (·.seq))
        (computeMaxBlocks bm (prefillMeta.map (·.seq)) (decodeMeta.map (·.seq)))
      decodeSlotMapping := decodeSlots config bm decodeMeta
      decodePositions := decodeMeta.map (·.cachedLenBefore)
      blockSize := config.blockSize }
  sampleTokenIndices := prefillSampleIndices 0 prefillMeta ++
    (List.range decodeMeta.length).map (fun i => (((prefillMeta.map (·.queryLen)).sum + i : ℕ) : ℤ))
  sequenceInfo := sequenceInfos prefillMeta decodeMeta

theorem assemble_eq (hp : PrefillCovered config bm prefillMeta) (hd : DecodeCovered config bm decodeMeta)
    (hout : ∀ m ∈ decodeMeta, m.seq.outputTokenIds ≠ []) :
    assemble config bm prefillMeta decodeMeta = .ok (assembled config bm prefillMeta decodeMeta) := by
  have hall : (sequenceInfos prefillMeta decodeMeta).all lengthsAgree = true := by
    simp only [sequenceInfos, List.all_append, prefillInfos_lengthsAgree, decodeInfos_lengthsAgree,
      Bool.and_self]
  have hs := prefillSlots_length config bm prefillMeta
  have hq := prefillPositions_length prefillMeta
  have hdrop : (if decodeMeta.length > 0 then decodeSlots config bm decodeMeta else []) =
      decodeSlots config bm decodeMeta := by
    cases decodeMeta <;> simp [decodeSlots]
  have hdrop' : (if decodeMeta.length > 0 then decodeMeta.map (·.cachedLenBefore) else []) =
      decodeMeta.map (·.cachedLenBefore) := by
    cases decodeMeta <;> simp
  simp only [prefillSlots, decodeSlots] at hs hdrop
  simp only [assemble, addPrefillTokens_eq config bm prefillMeta {} hp,
    addDecodeTokens_eq config bm decodeMeta _ hd hout, hall, if_true, List.nil_append, zero_add, ← hs]
  rw [List.take_left, List.drop_left, hs, ← hq, List.take_left, List.drop_left, hdrop, hdrop', hq]
  simp [assembled, prefillSlots, decodeSlots]

end ModelInputBuilder

end MiniVllm
