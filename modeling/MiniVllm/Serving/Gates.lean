import MiniVllm.Engine.Engine

/-! The gates of `serving/`: `admission_control.py`, `rate_limiter.py` and `stream_manager.py`. -/

namespace MiniVllm

inductive ErrorCode
  | promptTooLong | queueOverflow | blockExhausted | rateLimitedRpm | rateLimitedTpm | rateLimited | tooManyStreams
  deriving DecidableEq, Repr

/-- The number of `sv-` and eight hexadecimal digits. -/
abbrev TrackingId := ℕ

namespace AdmissionControl

variable {ε : Type}

def neededBlocks (config : Config) (promptLen : ℕ) (maxTokens : ℤ) : ℤ :=
  (promptLen + maxTokens + config.blockSize - 1) / config.blockSize

def watermarkBlocks (total : ℕ) : ℕ := total / 5

def check (config : Config) (allocator : BlockAllocator ε) (currentWaiting : ℕ) (promptTokenIds : List ℕ)
    (maxTokens : ℤ) : Option ErrorCode :=
  if promptTokenIds.length = 0 then some .promptTooLong
  else if promptTokenIds.length > config.maxModelLen then some .promptTooLong
  else if currentWaiting ≥ config.maxQueueLen then some .queueOverflow
  else if allocator.numFreeBlocks - neededBlocks config promptTokenIds.length maxTokens <
      watermarkBlocks allocator.numTotalBlocks then some .blockExhausted
  else none

end AdmissionControl

structure SlidingWindowCounter where
  window : ℚ := 60
  events : List ℚ := []
  deriving DecidableEq

namespace SlidingWindowCounter

variable (counter : SlidingWindowCounter) (now : ℚ)

def purge : SlidingWindowCounter :=
  { counter with events := counter.events.filter (fun t => t > now - counter.window) }

def record : SlidingWindowCounter := { counter with events := counter.events ++ [now] }

def wouldExceed (limit : ℕ) : Bool × SlidingWindowCounter :=
  let counter := counter.purge now
  (decide (counter.events.length ≥ limit), counter)

end SlidingWindowCounter

structure RateLimiter where
  rpm : SlidingWindowCounter := {}
  tpm : SlidingWindowCounter := {}
  deriving DecidableEq

namespace RateLimiter

variable (config : Config) (limiter : RateLimiter)

/-- `check` of a limiter built with any two limits. Each of the two counters reads the clock for itself; the number of
tokens is not looked at. -/
def checkLimits (rpmLimit tpmLimit : ℕ) (limiter : RateLimiter) (_totalTokens : ℤ) (nowRpm nowTpm : ℚ) :
    Option ErrorCode × RateLimiter :=
  match limiter.rpm.wouldExceed nowRpm rpmLimit with
  | (true, rpm) => (some .rateLimitedRpm, { limiter with rpm := rpm })
  | (false, rpm) =>
    match limiter.tpm.wouldExceed nowTpm tpmLimit with
    | (true, tpm) => (some .rateLimitedTpm, ⟨rpm, tpm⟩)
    | (false, tpm) => (none, ⟨rpm, tpm⟩)

def check (totalTokens : ℤ) (nowRpm nowTpm : ℚ) : Option ErrorCode × RateLimiter :=
  limiter.checkLimits config.rateLimitRpm config.rateLimitTpm totalTokens nowRpm nowTpm

/-- One reading for the request and one for each token. -/
def record (totalTokens : ℤ) (nowRpm : ℚ) (nowTpm : ℕ → ℚ) : RateLimiter where
  rpm := limiter.rpm.record nowRpm
  tpm := ((List.range totalTokens.toNat).map nowTpm).foldl SlidingWindowCounter.record limiter.tpm

end RateLimiter

structure StreamManager where
  active : Finset TrackingId := ∅
  deriving DecidableEq

namespace StreamManager

variable (config : Config) (manager : StreamManager) (trackingId : TrackingId)

def tryAcquire : Bool × StreamManager :=
  if manager.active.card ≥ config.maxNumStreams then (false, manager)
  else (true, ⟨insert trackingId manager.active⟩)

def release : StreamManager := ⟨manager.active.erase trackingId⟩

end StreamManager

end MiniVllm
