import MiniVllm.Executor.Base
import MiniVllm.Library.Loop

/-! `scheduler/scheduler.py`. Results name groups by id; the queue holds the groups themselves. -/

namespace MiniVllm

structure Setup (ε : Type) where
  config : Config
  executor : Executor config ε
  blockHash : List ℕ → ℤ

def Setup.blockParams {ε : Type} (S : Setup ε) : BlockParams ε where
  blockSize := S.config.blockSize
  enablePrefixCaching := S.config.enablePrefixCaching
  blockHash := S.blockHash
  callbacks := S.executor.callbacks

inductive IgnoreReason
  | maxNumSeqsLimit | waitingForNextStep | noTokenBudget
  deriving DecidableEq, Repr

structure ScheduleResult where
  scheduledPrefillGroups : List RequestId := []
  scheduledDecodeGroups : List RequestId := []
  ignoredGroups : List RequestId := []
  finishedGroups : List RequestId := []
  rejectedGroups : List RequestId := []
  numBatchedTokens : ℕ := 0
  numPrefillTokens : ℕ := 0
  numDecodeTokens : ℕ := 0
  tokenBudgetRemaining : ℤ := 0
  cachedTokenCount : ℕ := 0
  numUncachedPrefillTokens : ℕ := 0
  matchedBlockCount : ℕ := 0
  ignoredReasons : Dict RequestId IgnoreReason := .empty

namespace Scheduler

variable {ε : Type} (S : Setup ε)

structure FinishLoop (ε : Type) where
  queue : RequestQueue
  blockManager : BlockManager ε
  finishedGroups : List RequestId := []
  keepRunningGroups : List SequenceGroup := []

def finishSeqs : List Sequence → BlockManager ε → List Sequence × BlockManager ε
  | [], bm => ([], bm)
  | q :: rest, bm =>
    if !q.finished ∧ (q.numGeneratedTokens : ℤ) ≥ q.samplingParams.maxTokens then
      let (seqs, bm) := finishSeqs rest (bm.free S.blockParams q.seqId)
      ({ q with status := .finished } :: seqs, bm)
    else
      let (seqs, bm) := finishSeqs rest bm
      (q :: seqs, bm)

def finishGroup (l : FinishLoop ε) (sg : SequenceGroup) : FinishLoop ε :=
  let (seqs, bm) := finishSeqs S sg.seqs l.blockManager
  let sg := { sg with seqs := seqs }
  if sg.isFinished then
    { l with
      queue := l.queue.markFinished sg
      blockManager := bm
      finishedGroups := l.finishedGroups ++ [sg.requestId] }
  else
    { l with
      queue := { l.queue with running := l.queue.running.set sg.requestId sg }
      blockManager := bm
      keepRunningGroups := l.keepRunningGroups ++ [sg] }

def categorize : List SequenceGroup → Except Exn (List SequenceGroup × List (SequenceGroup × Sequence))
  | [] => .ok ([], [])
  | sg :: rest =>
    match sg.getUnfinishedSeqs.head? with
    | none => .error .indexError
    | some seq =>
      match categorize rest with
      | .error err => .error err
      | .ok (decodeGroups, prefillGroups) =>
        if seq.status = .prefill then .ok (decodeGroups, (sg, seq) :: prefillGroups)
        else .ok (sg :: decodeGroups, prefillGroups)

structure BudgetLoop (ε : Type) where
  queue : RequestQueue
  blockManager : BlockManager ε
  result : ScheduleResult
  prefillBudget : ℤ
  remainingTokenBudget : ℤ
  remainingSeqBudget : ℤ
  numPrefillTokens : ℕ := 0

def BudgetLoop.ignore (l : BudgetLoop ε) (rid : RequestId) (reason : IgnoreReason) : BudgetLoop ε :=
  { l with result :=
    { l.result with
      ignoredGroups := l.result.ignoredGroups ++ [rid]
      ignoredReasons := l.result.ignoredReasons.set rid reason } }

def numDecode (decodeGroups : List SequenceGroup) : ℕ :=
  (decodeGroups.map (·.getUnfinishedSeqs.length)).sum

def decodeFirst (l : FinishLoop ε) (decodeGroups : List SequenceGroup) : BudgetLoop ε :=
  let remainingTokenBudget : ℤ := S.config.maxNumBatchedTokens - numDecode decodeGroups
  { queue := l.queue
    blockManager := l.blockManager
    result :=
      { finishedGroups := l.finishedGroups
        scheduledDecodeGroups := decodeGroups.map (·.requestId) }
    prefillBudget := min remainingTokenBudget S.config.maxNumPrefillTokens
    remainingTokenBudget := remainingTokenBudget
    remainingSeqBudget := S.config.maxNumSeqs - numDecode decodeGroups }

def continuePrefill (l : BudgetLoop ε) (item : SequenceGroup × Sequence) : BudgetLoop ε :=
  let (sg, seq) := item
  if l.remainingSeqBudget ≤ 0 then l.ignore sg.requestId .maxNumSeqsLimit
  else
    let remainingPrompt := seq.promptTokenIds.length - seq.prefillCursor
    let thisChunk := min remainingPrompt S.config.maxPrefillChunkSize
    if (thisChunk : ℤ) > l.prefillBudget then l.ignore sg.requestId .waitingForNextStep
    else
      { l with
        result :=
          { l.result with
            scheduledPrefillGroups := l.result.scheduledPrefillGroups ++ [sg.requestId]
            numUncachedPrefillTokens := l.result.numUncachedPrefillTokens + thisChunk }
        prefillBudget := l.prefillBudget - thisChunk
        remainingTokenBudget := l.remainingTokenBudget - thisChunk
        remainingSeqBudget := l.remainingSeqBudget - 1
        numPrefillTokens := l.numPrefillTokens + thisChunk }

def admissionChunk (config : Config) (uncachedTokens promptLen : ℕ) : ℕ :=
  let thisChunk :=
    if config.chunkedPrefillEnabled then min uncachedTokens config.maxPrefillChunkSize
    else uncachedTokens
  if thisChunk = 0 ∧ uncachedTokens = 0 then min config.maxPrefillChunkSize promptLen else thisChunk

def admissionCursor (uncachedTokens promptLen cachedTokenCount thisChunk : ℕ) : ℕ :=
  if uncachedTokens = 0 ∧ cachedTokenCount = promptLen then promptLen - thisChunk else cachedTokenCount

def admittedSeq (bm : BlockManager ε) (sg : SequenceGroup) : Sequence :=
  let promptLen := sg.promptTokenIds.length
  let probe := bm.probePrefixCache S.blockParams sg.promptTokenIds
  let uncachedTokens := promptLen - probe.cachedTokenCount
  { sg.createSequence ⟨sg.requestId, 0⟩ with
    status := .prefill
    prefillCursor := admissionCursor uncachedTokens promptLen probe.cachedTokenCount
      (admissionChunk S.config uncachedTokens promptLen) }

def admitGroup (l : BudgetLoop ε) (sg : SequenceGroup) : Except Exn Unit × BudgetLoop ε :=
  let seq := sg.createSequence ⟨sg.requestId, 0⟩
  let probe := l.blockManager.probePrefixCache S.blockParams sg.promptTokenIds
  let thisChunk := admissionChunk S.config (sg.promptTokenIds.length - probe.cachedTokenCount)
    sg.promptTokenIds.length
  match l.blockManager.allocateForSeq S.blockParams seq with
  | (.error err, bm) =>
    let sg := { sg with seqs := sg.seqs ++ [seq] }
    (.error err, { l with
      queue := { l.queue with waiting := l.queue.waiting.set sg.requestId sg }
      blockManager := bm })
  | (.ok _, bm) =>
    let sg' := { sg with seqs := sg.seqs ++ [admittedSeq S l.blockManager sg] }
    (.ok (), { l with
      queue := l.queue.markRunning sg'
      blockManager := bm
      result :=
        { l.result with
          scheduledPrefillGroups := l.result.scheduledPrefillGroups ++ [sg.requestId]
          cachedTokenCount := l.result.cachedTokenCount + probe.cachedTokenCount
          numUncachedPrefillTokens := l.result.numUncachedPrefillTokens + thisChunk
          matchedBlockCount := l.result.matchedBlockCount + probe.matchedBlockCount }
      prefillBudget := l.prefillBudget - thisChunk
      remainingTokenBudget := l.remainingTokenBudget - thisChunk
      remainingSeqBudget := l.remainingSeqBudget - 1
      numPrefillTokens := l.numPrefillTokens + thisChunk })

inductive Admission
  | noSeat | noBudget | reject | admission
  deriving DecidableEq, Repr

def admissionDecision (l : BudgetLoop ε) (sg : SequenceGroup) : Admission :=
  if l.remainingSeqBudget ≤ 0 then .noSeat
  else
    let promptLen := sg.promptTokenIds.length
    let probe := l.blockManager.probePrefixCache S.blockParams sg.promptTokenIds
    let uncachedTokens := promptLen - probe.cachedTokenCount
    if (admissionChunk S.config uncachedTokens promptLen : ℤ) > l.prefillBudget then
      if uncachedTokens > S.config.maxNumBatchedTokens then .reject else .noBudget
    else .admission

def admitWaiting (l : BudgetLoop ε) (sg : SequenceGroup) : Except Exn Unit × BudgetLoop ε :=
  match admissionDecision S l sg with
  | .noSeat => (.ok (), l.ignore sg.requestId .maxNumSeqsLimit)
  | .noBudget => (.ok (), l.ignore sg.requestId .noTokenBudget)
  | .reject =>
    (.ok (), { l with
      queue := l.queue.markRejected sg
      result := { l.result with rejectedGroups := l.result.rejectedGroups ++ [sg.requestId] } })
  | .admission => admitGroup S l sg

def canAdmit (decodeGroups : List SequenceGroup) (prefillGroups : List (SequenceGroup × Sequence)) : Bool :=
  !S.config.staticBatchMode || (decodeGroups.isEmpty && prefillGroups.isEmpty)

def beforeAdmission (queue : RequestQueue) (bm : BlockManager ε) :
    Except Exn (BudgetLoop ε × List SequenceGroup × ℕ) × RequestQueue × BlockManager ε :=
  let finish := queue.running.values.foldl (finishGroup S) { queue := queue, blockManager := bm }
  match categorize finish.keepRunningGroups with
  | .error err => (.error err, finish.queue, finish.blockManager)
  | .ok (decodeGroups, prefillGroups) =>
    let l := prefillGroups.foldl (continuePrefill S) (decodeFirst S finish decodeGroups)
    let visited := if canAdmit S decodeGroups prefillGroups then l.queue.waiting.values else []
    (.ok (l, visited, numDecode decodeGroups), l.queue, l.blockManager)

def schedule (queue : RequestQueue) (bm : BlockManager ε) :
    Except Exn ScheduleResult × RequestQueue × BlockManager ε :=
  match beforeAdmission S queue bm with
  | (.error err, queue, bm) => (.error err, queue, bm)
  | (.ok (l, visited, numDecode), _, _) =>
    match forEach (admitWaiting S) l visited with
    | (.error err, l) => (.error err, l.queue, l.blockManager)
    | (.ok _, l) =>
      (.ok { l.result with
        numPrefillTokens := l.numPrefillTokens
        numDecodeTokens := numDecode
        numBatchedTokens := l.numPrefillTokens + numDecode
        tokenBudgetRemaining := l.remainingTokenBudget }, l.queue, l.blockManager)

end Scheduler

end MiniVllm
