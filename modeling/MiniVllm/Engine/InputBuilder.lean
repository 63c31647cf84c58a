import MiniVllm.Cache.Manager
import MiniVllm.Config
import MiniVllm.ModelRunner.Base

/-! `engine/input_builder.py`. -/

namespace MiniVllm

structure PrefillMeta where
  seq : Sequence
  cachedLenBefore : ℕ
  queryLen : ℕ
  prefillCompletes : Bool

structure DecodeMeta where
  seq : Sequence
  cachedLenBefore : ℕ

structure TokenArrays where
  inputIds : List ℕ := []
  positions : List ℕ := []
  slotMapping : List ℤ := []
  sampleIndices : List ℤ := []
  tokenOffset : ℕ := 0

namespace ModelInputBuilder

variable {ε : Type} (config : Config) (bm : BlockManager ε)

def computeSlot (seq : Sequence) (tokenPosition : ℕ) : Except Exn ℤ :=
  let blockIds := bm.getBlockTable seq.seqId
  let logicalIdx := tokenPosition / config.blockSize
  match blockIds[logicalIdx]? with
  | none => .error (.blockNotAllocated seq.seqId tokenPosition logicalIdx blockIds.length)
  | some blockId => .ok (blockId * config.blockSize + tokenPosition % config.blockSize : ℕ)

def computeSlots (seq : Sequence) : List ℕ → Except Exn (List ℤ)
  | [] => .ok []
  | pos :: rest =>
    match computeSlot config bm seq pos with
    | .error err => .error err
    | .ok slot =>
      match computeSlots seq rest with
      | .error err => .error err
      | .ok slots => .ok (slot :: slots)

def collectPrefill (seq : Sequence) : PrefillMeta :=
  let queryLen := min config.maxPrefillChunkSize (seq.promptTokenIds.length - seq.prefillCursor)
  { seq := seq
    cachedLenBefore := seq.prefillCursor
    queryLen := queryLen
    prefillCompletes := decide (seq.prefillCursor + queryLen ≥ seq.promptTokenIds.length) }

def collectPrefillMetadata (seqs : List Sequence) : List PrefillMeta := seqs.map (collectPrefill config)

def collectDecode (seq : Sequence) : Except Exn DecodeMeta :=
  if seq.numGeneratedTokens ≥ 1 ∧ seq.outputTokenIds.length ≥ 1 ∧
      seq.numGeneratedTokens = seq.outputTokenIds.length then
    .ok { seq := seq
          cachedLenBefore := seq.promptTokenIds.length + seq.numGeneratedTokens - 1 }
  else .error .assertionError

def collectDecodeMetadata : List Sequence → Except Exn (List DecodeMeta)
  | [] => .ok []
  | seq :: rest =>
    match collectDecode seq with
    | .error err => .error err
    | .ok info =>
      match collectDecodeMetadata rest with
      | .error err => .error err
      | .ok infos => .ok (info :: infos)

def addPrefillTokens : List PrefillMeta → TokenArrays → Except Exn TokenArrays
  | [], arrays => .ok arrays
  | info :: rest, arrays =>
    let positions := (List.range info.queryLen).map (info.cachedLenBefore + ·)
    match computeSlots config bm info.seq positions with
    | .error err => .error err
    | .ok slots =>
      addPrefillTokens rest
        { inputIds := arrays.inputIds ++ (info.seq.promptTokenIds.drop info.cachedLenBefore).take info.queryLen
          positions := arrays.positions ++ positions
          slotMapping := arrays.slotMapping ++ slots
          sampleIndices := arrays.sampleIndices ++
            if info.prefillCompletes then [(arrays.tokenOffset + info.queryLen : ℤ) - 1] else []
          tokenOffset := arrays.tokenOffset + info.queryLen }

def addDecodeTokens : List DecodeMeta → TokenArrays → Except Exn TokenArrays
  | [], arrays => .ok arrays
  | info :: rest, arrays =>
    match computeSlot config bm info.seq info.cachedLenBefore, info.seq.outputTokenIds.getLast? with
    | .error err, _ => .error err
    | .ok _, none => .error .indexError
    | .ok slot, some token =>
      addDecodeTokens rest
        { inputIds := arrays.inputIds ++ [token]
          positions := arrays.positions ++ [info.cachedLenBefore]
          slotMapping := arrays.slotMapping ++ [slot]
          sampleIndices := arrays.sampleIndices ++ [(arrays.tokenOffset : ℤ)]
          tokenOffset := arrays.tokenOffset + 1 }

def computeMaxBlocks (prefillSeqs decodeSeqs : List Sequence) : ℕ :=
  max 1 ((prefillSeqs ++ decodeSeqs).foldl
    (fun maxBlocks seq => max maxBlocks (bm.getBlockTable seq.seqId).length) 0)

def blockTableRow (maxBlocks : ℕ) (seq : Sequence) : List ℤ :=
  let blockIds := bm.getBlockTable seq.seqId
  (blockIds.map Int.ofNat ++ List.replicate (maxBlocks - blockIds.length) (-1)).take maxBlocks

def buildBlockTableTensor (seqs : List Sequence) (maxBlocks : ℕ) : List (List ℤ) :=
  seqs.map (blockTableRow bm maxBlocks)

def buildGroups (prefillMeta : List PrefillMeta) (decodeMeta : List DecodeMeta) : List AttentionGroup :=
  (if prefillMeta.length > 0 then
    [{ seqIndices := List.range prefillMeta.length
       attentionType := .prefillGpu
       cachedLenBefore := prefillMeta.map (·.cachedLenBefore)
       queryLen := prefillMeta.map (·.queryLen)
       kvLenAfter := prefillMeta.map (fun m => m.cachedLenBefore + m.queryLen) }]
  else []) ++
  (if decodeMeta.length > 0 then
    [{ seqIndices := (List.range decodeMeta.length).map (prefillMeta.length + ·)
       attentionType := .decodeGpu
       cachedLenBefore := decodeMeta.map (·.cachedLenBefore)
       queryLen := decodeMeta.map (fun _ => 1)
       kvLenAfter := decodeMeta.map (·.cachedLenBefore + 1) }]
  else [])

def prefillInfos : ℕ → List PrefillMeta → List SequenceExecutionInfo
  | _, [] => []
  | counter, m :: rest =>
    { sequenceId := m.seq.seqId
      phase := .prefill
      queryStart := m.cachedLenBefore
      queryLen := m.queryLen
      cachedLenBefore := m.cachedLenBefore
      kvLenAfter := m.cachedLenBefore + m.queryLen
      sampleOutputIndex := if m.prefillCompletes then some counter else none } ::
        prefillInfos (if m.prefillCompletes then counter + 1 else counter) rest

def decodeInfos : ℕ → List DecodeMeta → List SequenceExecutionInfo
  | _, [] => []
  | counter, m :: rest =>
    { sequenceId := m.seq.seqId
      phase := .decode
      queryStart := m.cachedLenBefore
      queryLen := 1
      cachedLenBefore := m.cachedLenBefore
      kvLenAfter := m.cachedLenBefore + 1
      sampleOutputIndex := some counter } :: decodeInfos (counter + 1) rest

def sequenceInfos (prefillMeta : List PrefillMeta) (decodeMeta : List DecodeMeta) :
    List SequenceExecutionInfo :=
  prefillInfos 0 prefillMeta ++ decodeInfos (prefillMeta.countP (·.prefillCompletes)) decodeMeta

def lengthsAgree (info : SequenceExecutionInfo) : Bool :=
  decide (info.kvLenAfter = info.cachedLenBefore + info.queryLen) &&
    (info.phase != .decode || decide (info.queryLen = 1))

def assemble (prefillMeta : List PrefillMeta) (decodeMeta : List DecodeMeta) : Except Exn ModelInput :=
  match addPrefillTokens config bm prefillMeta {} with
  | .error err => .error err
  | .ok arrays =>
    match addDecodeTokens config bm decodeMeta arrays with
    | .error err => .error err
    | .ok arrays =>
      let prefillSeqs := prefillMeta.map (·.seq)
      let decodeSeqs := decodeMeta.map (·.seq)
      let maxBlocks := computeMaxBlocks bm prefillSeqs decodeSeqs
      let infos := sequenceInfos prefillMeta decodeMeta
      let numPrefill := (prefillMeta.map (·.queryLen)).sum
      if infos.all lengthsAgree then
        .ok { inputIds := arrays.inputIds
              positions := arrays.positions
              slotMapping := arrays.slotMapping
              attnMetadata :=
                { groups := buildGroups prefillMeta decodeMeta
                  prefillSlotMapping := arrays.slotMapping.take numPrefill
                  prefillBlockTables := buildBlockTableTensor bm prefillSeqs maxBlocks
                  prefillPositions := arrays.positions.take numPrefill
                  decodeBlockTables := buildBlockTableTensor bm decodeSeqs maxBlocks
                  decodeSlotMapping :=
                    if decodeMeta.length > 0 then arrays.slotMapping.drop numPrefill else []
                  decodePositions :=
                    if decodeMeta.length > 0 then arrays.positions.drop numPrefill else []
                  blockSize := config.blockSize }
              sampleTokenIndices := arrays.sampleIndices
              sequenceInfo := infos }
      else .error .assertionError

def build (prefillSeqs decodeSeqs : List Sequence) : Except Exn ModelInput :=
  match collectDecodeMetadata decodeSeqs with
  | .error err => .error err
  | .ok decodeMeta => assemble config bm (collectPrefillMetadata config prefillSeqs) decodeMeta

end ModelInputBuilder

end MiniVllm
