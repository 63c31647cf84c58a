import MiniVllm.Serving.Gates

/-! `serving/api_server.py` with the `CancelManager` of `serving/request_cancel.py`. -/

namespace MiniVllm

structure ServingResponse where
  requestId : TrackingId
  text : List Char
  generatedTokens : ℕ := 0
  error : Option String := none
  errorCode : Option ErrorCode := none
  finishReason : String := "length"
  deriving DecidableEq, Repr

structure PollReply where
  tokenText : List Char
  genCount : ℕ
  finished : Bool
  finishReason : Option Status
  deriving DecidableEq, Repr

/-- The readings of the clock by the gates of one call and by `add_request`. -/
structure Clock where
  rpmCheck : ℚ := 0
  tpmCheck : ℚ := 0
  arrival : ℚ := 0
  rpmRecord : ℚ := 0
  tpmRecord : ℕ → ℚ := fun _ => 0

structure ServingState (ε : Type) where
  engine : EngineState ε
  rateLimiter : RateLimiter := {}
  streamManager : StreamManager := {}
  cancelled : Finset RequestId := ∅
  finishedRequests : Finset RequestId := ∅

namespace ServingLayer

variable {ε : Type} (S : Setup ε)

def initial : ServingState ε where
  engine := LLMEngine.initial S

section Counters

variable (s : ServingState ε)

def countRequest : ServingState ε :=
  { s with engine.metrics.totalRequests := s.engine.metrics.totalRequests + 1 }

def countRejected : ServingState ε :=
  { s with engine.metrics.rejectedRequests := s.engine.metrics.rejectedRequests + 1 }

def countRpmRejected : ServingState ε :=
  { s with engine.metrics.rpmRejected := s.engine.metrics.rpmRejected + 1 }

end Counters

def admissionCheck (s : ServingState ε) (prompt : List Char) (maxTokens : ℤ) : Option ErrorCode :=
  AdmissionControl.check S.config s.engine.blockManager.allocator s.engine.queue.numWaiting
    (S.executor.tokenize prompt) maxTokens

def totalTokens (prompt : List Char) (maxTokens : ℤ) : ℤ := (S.executor.tokenize prompt).length + maxTokens

def submit (s : ServingState ε) (prompt : List Char) (maxTokens : ℤ) (clock : Clock) : ServingState ε :=
  { s with
    engine := LLMEngine.addRequest S s.engine prompt maxTokens clock.arrival
    rateLimiter := s.rateLimiter.record (totalTokens S prompt maxTokens) clock.rpmRecord clock.tpmRecord }

def generateGates (s : ServingState ε) (prompt : List Char) (maxTokens : ℤ) (stream : Bool) (trackingId : TrackingId)
    (clock : Clock) : Except ServingResponse RequestId × ServingState ε :=
  match admissionCheck S s prompt maxTokens with
  | some err =>
    (.error { requestId := trackingId, text := [], error := some "Admission rejected", errorCode := some err },
      countRejected s)
  | none =>
    match s.rateLimiter.check S.config (totalTokens S prompt maxTokens) clock.rpmCheck clock.tpmCheck with
    | (some _, limiter) =>
      (.error { requestId := trackingId, text := [], error := some "Rate limited", errorCode := some .rateLimited },
        countRpmRejected (countRejected { s with rateLimiter := limiter }))
    | (none, limiter) =>
      let s := { s with rateLimiter := limiter }
      let (acquired, manager) :=
        if stream then s.streamManager.tryAcquire S.config trackingId else (true, s.streamManager)
      let s := { s with streamManager := manager }
      if !acquired then
        (.error
          { requestId := trackingId, text := [], error := some "Too many streams", errorCode := some .tooManyStreams },
          countRejected s)
      else (.ok s.engine.seqGroupCount, submit S (countRequest s) prompt maxTokens clock)

/-- One reading for each step of `run_until_done`; `none` while it is still looping. -/
def generate (s : ServingState ε) (prompt : List Char) (maxTokens : ℤ) (stream : Bool) (trackingId : TrackingId)
    (clock : Clock) (readings : List ℚ) : Option (Except Exn ServingResponse) × ServingState ε :=
  match generateGates S s prompt maxTokens stream trackingId clock with
  | (.error response, s) => (some (.ok response), s)
  | (.ok engineRid, s) =>
    match LLMEngine.runUntilDone S readings s.engine with
    | (none, engine) => (none, { s with engine := engine })
    | (some (.error err), engine) => (some (.error err), { s with engine := engine })
    | (some (.ok outputs), engine) =>
      let manager := if stream then s.streamManager.release trackingId else s.streamManager
      (some (.ok { requestId := trackingId, text := (outputs.get? engineRid).getD [] }),
        { s with engine := engine, streamManager := manager })

def generateStream (s : ServingState ε) (prompt : List Char) (maxTokens : ℤ) (trackingId : TrackingId)
    (clock : Clock) : Except (String × ErrorCode) (RequestId × TrackingId) × ServingState ε :=
  match admissionCheck S s prompt maxTokens with
  | some err => (.error ("Admission rejected", err), countRejected s)
  | none =>
    match s.rateLimiter.check S.config (totalTokens S prompt maxTokens) clock.rpmCheck clock.tpmCheck with
    | (some _, limiter) => (.error ("Rate limited", .rateLimited), countRejected { s with rateLimiter := limiter })
    | (none, limiter) =>
      let s := { s with rateLimiter := limiter }
      match s.streamManager.tryAcquire S.config trackingId with
      | (false, manager) =>
        (.error ("Too many streams", .tooManyStreams), countRejected { s with streamManager := manager })
      | (true, manager) =>
        (.ok (s.engine.seqGroupCount, trackingId),
          submit S { s with streamManager := manager } prompt maxTokens clock)

def finishedSeq (queue : RequestQueue) (result : ScheduleResult) (engineRid : RequestId) : Option Sequence :=
  (result.finishedGroups.flatMap (fun rid =>
    match queue.finished.get? rid with
    | some sg => sg.seqs
    | none => [])).find? (fun q => q.groupId = engineRid ∧ q.finished)

def decodedSeq (queue : RequestQueue) (result : ScheduleResult) (engineRid : RequestId) (genCount : ℕ) :
    Option Sequence :=
  (EngineCore.scheduledSeqs queue result.scheduledDecodeGroups).find?
    (fun q => q.groupId = engineRid ∧ genCount < q.numGeneratedTokens)

/-- `now'` is what the second call of `_check_timeouts` reads. -/
def pollStream (s : ServingState ε) (engineRid : RequestId) (trackingId : TrackingId) (genCount : ℕ) (now now' : ℚ) :
    Except Exn PollReply × ServingState ε :=
  match LLMEngine.step S s.engine now with
  | (.error err, engine) => (.error err, { s with engine := engine })
  | (.ok result, engine) =>
    let s := { s with engine := EngineCore.checkTimeouts S engine now' }
    match finishedSeq s.engine.queue result engineRid with
    | some q =>
      (.ok ⟨[], max genCount q.outputTokenIds.length, true, some q.status⟩,
        { s with
          finishedRequests := insert engineRid s.finishedRequests
          streamManager := s.streamManager.release trackingId })
    | none =>
      match decodedSeq s.engine.queue result engineRid genCount with
      | some q =>
        match q.outputTokenIds[genCount]? with
        | some tok => (.ok ⟨S.executor.detokenize [tok], genCount + 1, false, none⟩, s)
        | none => (.error .indexError, s)
      | none => (.ok ⟨[], genCount, false, none⟩, s)

def cancel (s : ServingState ε) (rid : RequestId) : Bool × ServingState ε :=
  match EngineCore.cancelRequest S s.engine rid with
  | (true, engine) => (true, { s with engine := engine, cancelled := insert rid s.cancelled })
  | (false, engine) => (false, { s with engine := engine })

def abort (s : ServingState ε) (engineRid : RequestId) : ServingState ε :=
  if engineRid ∈ s.finishedRequests then s
  else (cancel S { s with finishedRequests := insert engineRid s.finishedRequests } engineRid).2

def closeStream (s : ServingState ε) (engineRid : RequestId) (trackingId : TrackingId) (finished : Bool) :
    ServingState ε :=
  let s := if finished then s else abort S s engineRid
  { s with streamManager := s.streamManager.release trackingId }

/-- The loop of `generate_stream_safe` while its consumer asks on, two readings a turn; `none` while it is still
looping. -/
def streamLoop (engineRid : RequestId) (trackingId : TrackingId) :
    List (ℚ × ℚ) → ℕ → ServingState ε → Option (Except Exn Unit) × ServingState ε
  | [], _, s => (none, s)
  | (now, now') :: readings, genCount, s =>
    match pollStream S s engineRid trackingId genCount now now' with
    | (.error err, s) => (some (.error err), closeStream S s engineRid trackingId false)
    | (.ok reply, s) =>
      if reply.finished then (some (.ok ()), closeStream S s engineRid trackingId true)
      else streamLoop engineRid trackingId readings reply.genCount s

inductive Call
  | generate (prompt : List Char) (maxTokens : ℤ) (stream : Bool) (trackingId : TrackingId) (clock : Clock)
      (readings : List ℚ)
  | generateStream (prompt : List Char) (maxTokens : ℤ) (trackingId : TrackingId) (clock : Clock)
  | pollStream (engineRid : RequestId) (trackingId : TrackingId) (genCount : ℕ) (now now' : ℚ)
  | closeStream (engineRid : RequestId) (trackingId : TrackingId) (finished : Bool)
  | cancel (rid : RequestId)
  | step (now : ℚ)
  | checkTimeouts (now : ℚ)

def apply (s : ServingState ε) : Call → ServingState ε
  | .generate prompt maxTokens stream trackingId clock readings =>
    (generate S s prompt maxTokens stream trackingId clock readings).2
  | .generateStream prompt maxTokens trackingId clock => (generateStream S s prompt maxTokens trackingId clock).2
  | .pollStream engineRid trackingId genCount now now' => (pollStream S s engineRid trackingId genCount now now').2
  | .closeStream engineRid trackingId finished => closeStream S s engineRid trackingId finished
  | .cancel rid => (cancel S s rid).2
  | .step now => { s with engine := (LLMEngine.step S s.engine now).2 }
  | .checkTimeouts now => { s with engine := EngineCore.checkTimeouts S s.engine now }

def run (calls : List Call) : ServingState ε := calls.foldl (apply S) (initial S)

end ServingLayer

end MiniVllm
