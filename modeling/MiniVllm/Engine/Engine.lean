import MiniVllm.Engine.Core

/-! `engine/engine.py` and the runs of an engine. -/

namespace MiniVllm

namespace LLMEngine

variable {ε : Type} (S : Setup ε)

def initial : EngineState ε where
  blockManager := { allocator := .initial S.config.numGpuBlocks S.executor.initial }

def addRequest (s : EngineState ε) (prompt : List Char) (maxNewTokens : ℤ) (now : ℚ) : EngineState ε :=
  { s with
    seqGroupCount := s.seqGroupCount + 1
    queue := s.queue.add
      { requestId := s.seqGroupCount
        samplingParams := { maxTokens := maxNewTokens }
        promptTokenIds := S.executor.tokenize prompt
        arrivalTime := now } }

def captureOutputs (s : EngineState ε) (result : ScheduleResult) : EngineState ε :=
  result.finishedGroups.foldl (fun s rid =>
    match s.queue.finished.get? rid with
    | some sg =>
      (sg.seqs.filter (·.status = .finished)).foldl (fun s q =>
        { s with outputs := s.outputs.set q.groupId (S.executor.detokenize q.outputTokenIds) }) s
    | none => s) s

def step (s : EngineState ε) (now : ℚ) : Except Exn ScheduleResult × EngineState ε :=
  match EngineCore.step S s now with
  | (.error err, s) => (.error err, s)
  | (.ok result, s) => (.ok result, captureOutputs S s result)

/-- `run_until_done` while the clock readings last; `none` while it is still looping. -/
def runUntilDone : List ℚ → EngineState ε → Option (Except Exn (Dict RequestId (List Char))) × EngineState ε
  | [], s => (none, s)
  | now :: readings, s =>
    match step S s now with
    | (.error err, s) => (some (.error err), s)
    | (.ok _, s) =>
      if s.queue.numWaiting = 0 ∧ s.queue.numRunning = 0 then (some (.ok s.outputs), s)
      else runUntilDone readings s

/-- The calls a client makes; each carries the clock reading it sees. -/
inductive Op
  | addRequest (prompt : List Char) (maxNewTokens : ℤ) (now : ℚ)
  | step (now : ℚ)
  | cancelRequest (rid : RequestId)
  | checkTimeouts (now : ℚ)

def apply (s : EngineState ε) : Op → EngineState ε
  | .addRequest prompt maxNewTokens now => addRequest S s prompt maxNewTokens now
  | .step now => (step S s now).2
  | .cancelRequest rid => (EngineCore.cancelRequest S s rid).2
  | .checkTimeouts now => EngineCore.checkTimeouts S s now

def run (ops : List Op) : EngineState ε := ops.foldl (apply S) (initial S)

end LLMEngine

end MiniVllm
