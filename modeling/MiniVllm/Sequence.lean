import MiniVllm.Library.Dict

/-! Requests and their sequences: `sequence/status.py`, `sequence.py`, `sequence_group.py`. -/

namespace MiniVllm

inductive Status
  | waiting | prefill | running | finished | rejected | cancelled | timeout
  deriving DecidableEq, Repr

/-- The counter `n` stands for the id `req-{n:04d}`. -/
abbrev RequestId := ℕ

/-- `⟨r, 0⟩` is the id `{r}-seq-0` that the scheduler builds at admission. -/
structure SeqId where
  request : RequestId
  index : ℕ
  deriving DecidableEq, Repr

structure SamplingParams where
  maxTokens : ℤ := 16
  deriving DecidableEq, Repr

structure Sequence where
  seqId : SeqId
  groupId : RequestId
  promptTokenIds : List ℕ
  samplingParams : SamplingParams
  outputTokenIds : List ℕ := []
  status : Status := .waiting
  numGeneratedTokens : ℕ := 0
  prefillCursor : ℕ := 0
  deriving DecidableEq, Repr

namespace Sequence

def finished (q : Sequence) : Bool :=
  q.status == .finished || q.status == .rejected || q.status == .cancelled || q.status == .timeout

def promptLength (q : Sequence) : ℕ := q.promptTokenIds.length

def numOutputTokens (q : Sequence) : ℕ := q.outputTokenIds.length

def tokens (q : Sequence) : List ℕ := q.promptTokenIds ++ q.outputTokenIds

end Sequence

structure SequenceGroup where
  requestId : RequestId
  samplingParams : SamplingParams
  promptTokenIds : List ℕ
  arrivalTime : ℚ
  seqs : List Sequence := []
  deriving DecidableEq

namespace SequenceGroup

def createSequence (sg : SequenceGroup) (seqId : SeqId) : Sequence where
  seqId := seqId
  groupId := sg.requestId
  promptTokenIds := sg.promptTokenIds
  samplingParams := sg.samplingParams

def numSequences (sg : SequenceGroup) : ℕ := sg.seqs.length

def numFinished (sg : SequenceGroup) : ℕ := sg.seqs.countP Sequence.finished

def isFinished (sg : SequenceGroup) : Bool :=
  decide (0 < sg.numSequences) && sg.numFinished == sg.numSequences

def getUnfinishedSeqs (sg : SequenceGroup) : List Sequence := sg.seqs.filter (!·.finished)

def mapSeqs (f : Sequence → Sequence) (sg : SequenceGroup) : SequenceGroup :=
  { sg with seqs := sg.seqs.map f }

end SequenceGroup

structure RequestQueue where
  waiting : Dict RequestId SequenceGroup := .empty
  running : Dict RequestId SequenceGroup := .empty
  finished : Dict RequestId SequenceGroup := .empty
  rejected : Dict RequestId SequenceGroup := .empty

namespace RequestQueue

variable (qu : RequestQueue) (sg : SequenceGroup)

def add : RequestQueue := { qu with waiting := qu.waiting.set sg.requestId sg }

def markRunning : RequestQueue :=
  { qu with waiting := qu.waiting.pop sg.requestId, running := qu.running.set sg.requestId sg }

def markFinished : RequestQueue :=
  { qu with running := qu.running.pop sg.requestId, finished := qu.finished.set sg.requestId sg }

def markRejected : RequestQueue :=
  { qu with waiting := qu.waiting.pop sg.requestId, rejected := qu.rejected.set sg.requestId sg }

def numWaiting : ℕ := qu.waiting.size

def numRunning : ℕ := qu.running.size

def numFinished : ℕ := qu.finished.size

def numRejected : ℕ := qu.rejected.size

def total : ℕ := qu.numWaiting + qu.numRunning + qu.numFinished + qu.numRejected

def getById (rid : RequestId) : Option SequenceGroup :=
  qu.waiting.get? rid <|> qu.running.get? rid <|> qu.finished.get? rid <|> qu.rejected.get? rid

def updateRunningSeqs (f : Sequence → Sequence) : RequestQueue :=
  { qu with running := qu.running.mapValues (SequenceGroup.mapSeqs f) }

end RequestQueue

inductive Exn
  | outOfMemory (seqId : SeqId) (position : ℕ) (sharedPrefix : Option ℕ)
  | blockNotAllocated (seqId : SeqId) (position logicalIdx numBlocks : ℕ)
  | assertionError
  | indexError
  | valueError
  | unboundLocalError
  deriving DecidableEq, Repr

/-- `xs[idx]` with Python's negative indices. -/
def pyIndex {α : Type} (xs : List α) (idx : ℤ) : Except Exn α :=
  match (if 0 ≤ idx then xs[idx.toNat]? else
    if -idx ≤ xs.length then xs[(xs.length + idx).toNat]? else none) with
  | some x => .ok x
  | none => .error .indexError

lemma pyIndex_natCast {α : Type} {xs : List α} {n : ℕ} {x : α} (h : xs[n]? = some x) : pyIndex xs (n : ℤ) = .ok x := by
  simp only [pyIndex, Int.natCast_nonneg, if_true, Int.toNat_natCast, h]

end MiniVllm
