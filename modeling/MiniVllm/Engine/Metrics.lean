import MiniVllm.Engine.Core

/-! `MetricsCollector.report` in `engine/metrics.py`, before rounding. No field that a clock enters is here. -/

namespace MiniVllm

structure Report where
  totalRequests : ℕ
  totalGeneratedTokens : ℕ
  totalOutputTokens : ℕ
  totalPromptTokens : ℕ
  kvTotalBlocks : ℕ
  kvPeakBlocks : ℕ
  kvUtilPeakPct : ℚ
  kvUtilAvgPct : ℚ
  avgBlockUtilTokensPerBlock : ℚ
  totalCachedTokens : ℕ
  prefixCacheHitRate : ℚ
  totalRequestsServing : ℕ
  rejectedRequests : ℕ
  cancelledRequests : ℕ
  timeoutRequests : ℕ
  rpmRejected : ℕ
  tpmRejected : ℕ
  meanEffectiveBatchSize : ℚ
  maxEffectiveBatchSize : ℕ
  meanRunningRequests : ℚ
  peakRunningRequests : ℕ
  peakWaitingRequests : ℕ

namespace MetricsCollector

variable {ε : Type}

def mean (values : List ℚ) : ℚ := if values.isEmpty then 0 else values.sum / values.length

def peak (values : List ℕ) : ℕ := values.foldl max 0

def finished (metrics : MetricsCollector) : List Sequence := metrics.finishedSeqs.filter (·.status = .finished)

def totalPromptTokens (metrics : MetricsCollector) : ℕ := (metrics.finished.map (·.promptLength)).sum

def totalOutputTokens (metrics : MetricsCollector) : ℕ := (metrics.finished.map (·.numOutputTokens)).sum

def totalCachedTokens (metrics : MetricsCollector) : ℕ := metrics.timelineCached.sum

def totalTokens (q : Sequence) : ℕ := q.promptLength + q.numOutputTokens

def blockUtil (bm : BlockManager ε) (q : Sequence) : Option ℚ :=
  let totalBlocksForSeq := (bm.getBlockTable q.seqId).length
  if totalBlocksForSeq > 0 then some ((totalTokens q : ℚ) / totalBlocksForSeq) else none

def avgBlockUtil (bm : BlockManager ε) (metrics : MetricsCollector) : ℚ :=
  mean (metrics.finished.filterMap (blockUtil bm))

def prefixCacheHitRate (metrics : MetricsCollector) : ℚ :=
  if metrics.totalPromptTokens > 0 then (metrics.totalCachedTokens : ℚ) / metrics.totalPromptTokens * 100 else 0

def report (bm : BlockManager ε) (metrics : MetricsCollector) : Report :=
  let kvUsed : Bool := !metrics.timelineBlocks.isEmpty && decide (metrics.timelineTotalBlocks > 0)
  let peakBlocks := if kvUsed then peak metrics.timelineBlocks else 0
  let avgBlocks := mean (metrics.timelineBlocks.map (fun n : ℕ => (n : ℚ)))
  { totalRequests := metrics.finished.length
    totalGeneratedTokens := metrics.totalOutputTokens
    totalOutputTokens := metrics.totalOutputTokens
    totalPromptTokens := metrics.totalPromptTokens
    kvTotalBlocks := metrics.timelineTotalBlocks
    kvPeakBlocks := peakBlocks
    kvUtilPeakPct := if kvUsed then (peakBlocks : ℚ) / metrics.timelineTotalBlocks * 100 else 0
    kvUtilAvgPct := if kvUsed then avgBlocks / metrics.timelineTotalBlocks * 100 else 0
    avgBlockUtilTokensPerBlock := avgBlockUtil bm metrics
    totalCachedTokens := metrics.totalCachedTokens
    prefixCacheHitRate := metrics.prefixCacheHitRate
    totalRequestsServing := metrics.totalRequests
    rejectedRequests := metrics.rejectedRequests
    cancelledRequests := metrics.cancelledRequests
    timeoutRequests := metrics.timeoutRequests
    rpmRejected := metrics.rpmRejected
    tpmRejected := metrics.tpmRejected
    meanEffectiveBatchSize := mean (metrics.effectiveBatchSizes.map (fun n : ℕ => (n : ℚ)))
    maxEffectiveBatchSize := peak metrics.effectiveBatchSizes
    meanRunningRequests := mean (metrics.runningRequestCounts.map (fun n : ℕ => (n : ℚ)))
    peakRunningRequests := peak metrics.runningRequestCounts
    peakWaitingRequests := peak metrics.waitingRequestCounts }

end MetricsCollector

/-- `metrics_collector.report()` at a state of the engine, whose block manager the collector reads. -/
def EngineState.report {ε : Type} (s : EngineState ε) : Report := s.metrics.report s.blockManager

end MiniVllm
