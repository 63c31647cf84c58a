import MiniVllm.Scheduler.Scheduler

/-! `engine/engine_core.py` and the counters it feeds in `engine/metrics.py`. -/

namespace MiniVllm

structure MetricsCollector where
  timelinePrefill : List ℕ := []
  timelineDecode : List ℕ := []
  timelineCached : List ℕ := []
  timelineBlocks : List ℕ := []
  timelineTotalBlocks : ℕ := 0
  finishedSeqs : List Sequence := []
  effectiveBatchSizes : List ℕ := []
  runningRequestCounts : List ℕ := []
  waitingRequestCounts : List ℕ := []
  cancelledRequests : ℕ := 0
  timeoutRequests : ℕ := 0
  totalRequests : ℕ := 0
  rejectedRequests : ℕ := 0
  rpmRejected : ℕ := 0
  tpmRejected : ℕ := 0

structure EngineState (ε : Type) where
  queue : RequestQueue := {}
  blockManager : BlockManager ε
  metrics : MetricsCollector := {}
  stepCount : ℕ := 0
  seqGroupCount : ℕ := 0
  outputs : Dict RequestId (List Char) := .empty

namespace EngineCore

variable {ε : Type} (S : Setup ε)

def cleanupSequence (s : EngineState ε) (seqId : SeqId) : EngineState ε :=
  let listener := S.executor.cleanupSequence s.blockManager.allocator.listener seqId
  { s with blockManager := s.blockManager.withListener listener }

def registerSequence (s : EngineState ε) (q : Sequence) : EngineState ε :=
  { s with metrics := { s.metrics with finishedSeqs := s.metrics.finishedSeqs ++ [q] } }

def abortSeqs (status : Status) : List Sequence → EngineState ε → List Sequence × EngineState ε
  | [], s => ([], s)
  | q :: rest, s =>
    if q.finished then
      let (seqs, s) := abortSeqs status rest s
      (q :: seqs, s)
    else
      let q := { q with status := status }
      let s := { s with blockManager := s.blockManager.free S.blockParams q.seqId }
      let (seqs, s) := abortSeqs status rest (registerSequence (cleanupSequence S s q.seqId) q)
      (q :: seqs, s)

def fileFinished (queue : RequestQueue) (sg : SequenceGroup) : RequestQueue :=
  if queue.finished.contains sg.requestId then queue
  else { queue with finished := queue.finished.set sg.requestId sg }

def cancelRequest (s : EngineState ε) (rid : RequestId) : Bool × EngineState ε :=
  match s.queue.getById rid with
  | none => (false, s)
  | some sg =>
    let (seqs, s) := abortSeqs S .cancelled sg.seqs s
    let metrics := { s.metrics with cancelledRequests := s.metrics.cancelledRequests + 1 }
    let queue :=
      if s.queue.running.contains rid then { s.queue with running := s.queue.running.pop rid }
      else if s.queue.waiting.contains rid then { s.queue with waiting := s.queue.waiting.pop rid }
      else s.queue
    (true, { s with metrics := metrics, queue := fileFinished queue { sg with seqs := seqs } })

/-- One turn of the second loop of `_check_timeouts`; the flag says the group was found running. -/
def timeoutGroup (s : EngineState ε) (item : RequestId × Bool) : EngineState ε :=
  let (rid, isRunning) := item
  match s.queue.getById rid with
  | none => s
  | some sg =>
    let (seqs, s) := abortSeqs S .timeout sg.seqs s
    let metrics := { s.metrics with timeoutRequests := s.metrics.timeoutRequests + 1 }
    let queue :=
      if isRunning then { s.queue with running := s.queue.running.pop rid }
      else { s.queue with waiting := s.queue.waiting.pop rid }
    { s with metrics := metrics, queue := fileFinished queue { sg with seqs := seqs } }

def expired (now : ℚ) (pool : Dict RequestId SequenceGroup) : List RequestId :=
  (pool.values.filter (fun sg => now - sg.arrivalTime > S.config.requestTimeoutS)).map (·.requestId)

def checkTimeouts (s : EngineState ε) (now : ℚ) : EngineState ε :=
  ((expired S now s.queue.running).map (·, true) ++
    (expired S now s.queue.waiting).map (·, false)).foldl (timeoutGroup S) s

def scheduledSeqs (queue : RequestQueue) (groups : List RequestId) : List Sequence :=
  groups.flatMap (fun rid =>
    match queue.running.get? rid with
    | some sg => sg.getUnfinishedSeqs
    | none => [])

def prefillSeqs (queue : RequestQueue) (result : ScheduleResult) : List Sequence :=
  (scheduledSeqs queue result.scheduledPrefillGroups).filter (·.status = .prefill)

def decodeSeqs (queue : RequestQueue) (result : ScheduleResult) : List Sequence :=
  scheduledSeqs queue result.scheduledDecodeGroups

def chunkEnd (config : Config) (q : Sequence) : ℕ :=
  min (q.prefillCursor + config.maxPrefillChunkSize) q.promptTokenIds.length

def decodePosition (q : Sequence) : ℕ := q.promptTokenIds.length + q.numGeneratedTokens - 1

def ensureCalls (config : Config) (prefill decode : List Sequence) : List (Sequence × ℕ) :=
  prefill.flatMap (fun q =>
    (List.range' q.prefillCursor (chunkEnd config q - q.prefillCursor)).map (q, ·)) ++
  decode.map (fun q => (q, decodePosition q))

def ensureStep (bm : BlockManager ε) (call : Sequence × ℕ) : Except Exn Unit × BlockManager ε :=
  match bm.ensureBlock S.blockParams call.1 call.2 with
  | (.error err, bm) => (.error err, bm)
  | (.ok _, bm) => (.ok (), bm)

def appendToken (tokenId : ℕ) (q : Sequence) : Sequence :=
  if q.status = .prefill then
    { q with outputTokenIds := [tokenId], numGeneratedTokens := 1, status := .running }
  else
    { q with
      outputTokenIds := q.outputTokenIds ++ [tokenId]
      numGeneratedTokens := q.numGeneratedTokens + 1 }

def applyModelOutput (queue : RequestQueue) (output : ModelRunnerOutput) (ids : List SeqId) :
    RequestQueue :=
  (output.sampledTokenIds.zip output.sampledSequenceIds).foldl
    (fun queue item =>
      if item.2 ∈ ids then
        queue.updateRunningSeqs (fun q => if q.seqId = item.2 then appendToken item.1 q else q)
      else queue) queue

def advanceCursors (config : Config) (queue : RequestQueue) (ids : List SeqId) : RequestQueue :=
  queue.updateRunningSeqs (fun q =>
    if q.seqId ∈ ids then { q with prefillCursor := chunkEnd config q } else q)

def context (seqs : List Sequence) (sid : SeqId) (position : ℕ) : List ℕ :=
  match seqs.find? (·.seqId = sid) with
  | some q => q.tokens.take (position + 1)
  | none => []

/-- The KV writes of an executed batch, slot by slot, for the history. -/
def kvWrites (seqs : List Sequence) (input : ModelInput) : List CacheEvent :=
  (input.slotMapping.zip input.tokenPositions).map (fun w => .wrote w.1 w.2.1 w.2.2 (context seqs w.2.1 w.2.2))

def runBatch (queue : RequestQueue) (bm : BlockManager ε) (prefill decode : List Sequence) :
    Except Exn Unit × RequestQueue × BlockManager ε :=
  match ModelInputBuilder.build S.config bm prefill decode with
  | .error err => (.error err, queue, bm)
  | .ok input =>
    match S.executor.execute input bm with
    | (.error err, bm) => (.error err, queue, bm)
    | (.ok output, bm) =>
      let queue := applyModelOutput queue output ((prefill ++ decode).map (·.seqId))
      (.ok (), advanceCursors S.config queue (prefill.map (·.seqId)), bm.record (kvWrites (prefill ++ decode) input))

def executeStep (queue : RequestQueue) (bm : BlockManager ε) (prefill decode : List Sequence) :
    Except Exn Unit × RequestQueue × BlockManager ε :=
  if prefill.isEmpty && decode.isEmpty then (.ok (), queue, bm)
  else
    match forEach (ensureStep S) bm (ensureCalls S.config prefill decode) with
    | (.error err, bm) => (.error err, queue, bm)
    | (.ok _, bm) => runBatch S queue bm prefill decode

def cleanupFinished (s : EngineState ε) (result : ScheduleResult) : EngineState ε :=
  result.finishedGroups.foldl (fun s rid =>
    match s.queue.finished.get? rid with
    | some sg => sg.seqs.foldl (fun s q => registerSequence (cleanupSequence S s q.seqId) q) s
    | none => s) s

def recordStep (s : EngineState ε) (result : ScheduleResult) : EngineState ε :=
  { s with metrics :=
    { s.metrics with
      timelinePrefill := s.metrics.timelinePrefill ++ [result.numPrefillTokens]
      timelineCached := s.metrics.timelineCached ++ [result.cachedTokenCount]
      timelineDecode := s.metrics.timelineDecode ++ [result.numDecodeTokens]
      timelineBlocks := s.metrics.timelineBlocks ++ [s.blockManager.allocator.numUsedBlocks]
      timelineTotalBlocks := s.blockManager.allocator.numTotalBlocks
      effectiveBatchSizes := s.metrics.effectiveBatchSizes ++
        [result.scheduledDecodeGroups.length + result.scheduledPrefillGroups.length]
      runningRequestCounts := s.metrics.runningRequestCounts ++ [s.queue.numRunning]
      waitingRequestCounts := s.metrics.waitingRequestCounts ++ [s.queue.numWaiting] } }

def beginStep (s : EngineState ε) (now : ℚ) : EngineState ε :=
  checkTimeouts S { s with stepCount := s.stepCount + 1 } now

def step (s : EngineState ε) (now : ℚ) : Except Exn ScheduleResult × EngineState ε :=
  let s := beginStep S s now
  match Scheduler.schedule S s.queue s.blockManager with
  | (.error err, queue, bm) => (.error err, { s with queue := queue, blockManager := bm })
  | (.ok result, queue, bm) =>
    match executeStep S queue bm (prefillSeqs queue result) (decodeSeqs queue result) with
    | (.error err, queue, bm) => (.error err, { s with queue := queue, blockManager := bm })
    | (.ok _, queue, bm) =>
      let s := { s with queue := queue, blockManager := bm }
      (.ok result, recordStep (cleanupFinished S s result) result)

end EngineCore

end MiniVllm
