import MiniVllm.AttentionProofs.PrefixGather
import MiniVllm.CacheProofs.Announcements
import MiniVllm.CacheProofs.Pool
import MiniVllm.CacheProofs.RoundTrip
import MiniVllm.EngineProofs.BlockUtilisation
import MiniVllm.EngineProofs.Cancellation
import MiniVllm.EngineProofs.HitRate
import MiniVllm.EngineProofs.OnDemand
import MiniVllm.EngineProofs.Outputs
import MiniVllm.EngineProofs.RefCounts
import MiniVllm.EngineProofs.TimeoutSweep
import MiniVllm.EngineProofs.Tokens
import MiniVllm.ExecutorProofs.DecodePaths
import MiniVllm.ExecutorProofs.Paged
import MiniVllm.ExecutorProofs.Transparency
import MiniVllm.ExecutorProofs.TritonRuns
import MiniVllm.ModelProofs.FusedWeights
import MiniVllm.ModelProofs.Rotary
import MiniVllm.RunnerProofs.GpuRuns
import MiniVllm.SchedulerProofs.Budgets
import MiniVllm.SchedulerProofs.Rejections
import MiniVllm.SchedulerProofs.Seats
import MiniVllm.SchedulerProofs.StaticBatching
import MiniVllm.SchedulerProofs.TokenCounts
import MiniVllm.ServingProofs.Counters
import MiniVllm.ServingProofs.Delivery
import MiniVllm.ServingProofs.Exhaustion
import MiniVllm.ServingProofs.GreedyTexts
import MiniVllm.ServingProofs.RateLimits
import MiniVllm.ServingProofs.Responses
import MiniVllm.ServingProofs.Slots
import MiniVllm.SharingProofs.Admissions
import MiniVllm.SharingProofs.ReadOnly
import MiniVllm.SharingProofs.SharedPrefixes
import MiniVllm.SharingProofs.SkippedPositions
import MiniVllm.SharingProofs.StaleEntries
