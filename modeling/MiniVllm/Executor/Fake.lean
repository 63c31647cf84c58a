import MiniVllm.Executor.Base
import MiniVllm.Library.Loop

/-! `FakeModelExecutor` of `executor/executor.py` with `FakeModel` of `model/fake_model.py`. -/

namespace MiniVllm

namespace FakeModel

variable (vocabSize : ℕ)

def fakeKey (tokenId : ℕ) : ℕ := (tokenId * 7 + 3) % vocabSize

def fakeValue (tokenId : ℕ) : ℕ := (tokenId * 13 + 5) % vocabSize

end FakeModel

/-- `simState` maps a sequence to its `last_token`, once that key is set. -/
structure FakeState where
  kvCache : Dict ℕ (List ℕ) := .empty
  simState : Dict SeqId (Option ℕ) := .empty
  totalTokensProcessed : ℕ := 0

namespace FakeModelExecutor

def prepareBlock (s : FakeState) (blockId : ℕ) : FakeState :=
  { s with kvCache := s.kvCache.set blockId [] }

def releaseBlock (s : FakeState) (blockId : ℕ) : FakeState :=
  { s with kvCache := s.kvCache.pop blockId }

def callbacks : Callbacks FakeState := ⟨prepareBlock, releaseBlock⟩

def tokenize (config : Config) (prompt : List Char) : List ℕ := prompt.map (fun c => c.toNat % config.vocabSize)

def detokenize (tokenIds : List ℕ) : List Char := tokenIds.map (fun t => Char.ofNat (t % 95 + 32))

def writeTokens (s : FakeState) (config : Config) (pid tokenId : ℕ) : FakeState :=
  { s with
    kvCache := s.kvCache.set pid ((s.kvCache.get? pid).getD [] ++
      [FakeModel.fakeKey config.vocabSize tokenId, FakeModel.fakeValue config.vocabSize tokenId])
    totalTokensProcessed := s.totalTokensProcessed + 1 }

def simulateKvWrite (config : Config) (bm : BlockManager FakeState) (seqId : SeqId)
    (position tokenId : ℕ) : Except Exn Unit × BlockManager FakeState :=
  match bm.ensureBlockByIds callbacks config.blockSize seqId position with
  | (.error err, bm) => (.error err, bm)
  | (.ok none, bm) => (.error .indexError, bm)
  | (.ok (some pid), bm) =>
    (.ok (), bm.withListener (writeTokens bm.allocator.listener config pid tokenId))

def simulateReadKvBias (config : Config) (bm : BlockManager FakeState) (seqId : SeqId)
    (position : ℤ) : Except Exn ℕ :=
  let blockIds := bm.getBlockTable seqId
  let logicalIdx := position / config.blockSize
  if logicalIdx < blockIds.length then
    match pyIndex blockIds logicalIdx with
    | .error err => .error err
    | .ok pid => .ok (((bm.allocator.listener.kvCache.get? pid).getD []).sum % config.vocabSize)
  else .ok 0

/-- The locals of `execute`; `pos` outlives the loop that assigns it. -/
structure ExecuteLoop where
  pos : Option ℕ := none
  sampledTokenIds : List ℕ := []
  sampledSequenceIds : List SeqId := []
  blockManager : BlockManager FakeState

def writePrompt (config : Config) (seqId : SeqId) (l : ExecuteLoop) (position : ℕ) :
    Except Exn Unit × ExecuteLoop :=
  match simulateKvWrite config l.blockManager seqId position (position % config.vocabSize) with
  | (r, bm) => (r, { l with pos := some position, blockManager := bm })

def setLastToken (bm : BlockManager FakeState) (seqId : SeqId) (token : Option ℕ) :
    BlockManager FakeState :=
  let s := bm.allocator.listener
  bm.withListener { s with simState := s.simState.set seqId token }

def executePrefill (config : Config) (l : ExecuteLoop) (info : SequenceExecutionInfo) :
    Except Exn Unit × ExecuteLoop :=
  match forEach (writePrompt config info.sequenceId) l
      ((List.range info.queryLen).map (info.queryStart + ·)) with
  | (.error err, l) => (.error err, l)
  | (.ok _, l) =>
    if info.sampleOutputIndex.isSome then
      match l.pos with
      | none => (.error .unboundLocalError, l)
      | some pos =>
        let firstToken := (pos * 3 + 1) % config.vocabSize
        (.ok (), { l with
          blockManager := setLastToken l.blockManager info.sequenceId (some firstToken)
          sampledTokenIds := l.sampledTokenIds ++ [firstToken]
          sampledSequenceIds := l.sampledSequenceIds ++ [info.sequenceId] })
    else (.ok (), l)

def lastToken (bm : BlockManager FakeState) (seqId : SeqId) : Option ℕ :=
  (bm.allocator.listener.simState.get? seqId).getD none

def executeDecode (config : Config) (l : ExecuteLoop) (info : SequenceExecutionInfo) :
    Except Exn Unit × ExecuteLoop :=
  match simulateReadKvBias config l.blockManager info.sequenceId ((info.cachedLenBefore : ℤ) - 1) with
  | .error err => (.error err, l)
  | .ok kvBias =>
    let state := lastToken l.blockManager info.sequenceId
    let bm := setLastToken l.blockManager info.sequenceId state
    let nextToken := (state.getD 42 + 7 + kvBias) % config.vocabSize
    match simulateKvWrite config bm info.sequenceId info.cachedLenBefore nextToken with
    | (.error err, bm) => (.error err, { l with blockManager := bm })
    | (.ok _, bm) =>
      (.ok (), { l with
        blockManager := setLastToken bm info.sequenceId (some nextToken)
        sampledTokenIds := l.sampledTokenIds ++ [nextToken]
        sampledSequenceIds := l.sampledSequenceIds ++ [info.sequenceId] })

def executeInfo (config : Config) (l : ExecuteLoop) (info : SequenceExecutionInfo) :
    Except Exn Unit × ExecuteLoop :=
  match info.phase with
  | .prefill => executePrefill config l info
  | .decode => executeDecode config l info

def execute (config : Config) (input : ModelInput) (bm : BlockManager FakeState) :
    Except Exn ModelRunnerOutput × BlockManager FakeState :=
  match forEach (executeInfo config) { blockManager := bm } input.sequenceInfo with
  | (.error err, l) => (.error err, l.blockManager)
  | (.ok _, l) => (.ok ⟨l.sampledTokenIds, l.sampledSequenceIds⟩, l.blockManager)

end FakeModelExecutor

end MiniVllm
