import MiniVllm.Engine.Runs
import MiniVllm.CacheProofs.Manager
import Mathlib.Logic.Relation

/-! The engine as a transition system on its queue and its block manager. -/

namespace MiniVllm

structure CoreState (ε : Type) where
  queue : RequestQueue
  blockManager : BlockManager ε
  seqGroupCount : ℕ

def EngineState.core {ε : Type} (s : EngineState ε) : CoreState ε := ⟨s.queue, s.blockManager, s.seqGroupCount⟩

namespace RequestQueue

def runningSeq (qu : RequestQueue) (rid : RequestId) : Option Sequence :=
  (qu.running.get? rid).bind (·.seqs.head?)

def withdraw (qu : RequestQueue) (sg : SequenceGroup) : RequestQueue :=
  { qu with waiting := qu.waiting.pop sg.requestId, finished := qu.finished.set sg.requestId sg }

def refile (qu : RequestQueue) (sg : SequenceGroup) : RequestQueue :=
  { qu with finished := qu.finished.set sg.requestId sg }

end RequestQueue

section Ready

variable {ε : Type} (config : Config) (queue : RequestQueue) (bm : BlockManager ε)

structure EnsureReady (q : Sequence) (position : ℕ) : Prop where
  live : queue.runningSeq q.seqId.request = some q
  next : position / config.blockSize ≤ (bm.getBlockTable q.seqId).length
  place : (q.status = .prefill ∧ q.prefillCursor ≤ position ∧ position < EngineCore.chunkEnd config q) ∨
    (q.status = .running ∧ position = EngineCore.decodePosition q)

structure BatchReady (prefill decode : List Sequence) : Prop where
  prefill_live : ∀ q ∈ prefill, queue.runningSeq q.seqId.request = some q ∧ q.status = .prefill
  decode_live : ∀ q ∈ decode, queue.runningSeq q.seqId.request = some q ∧ q.status = .running ∧
    (q.numGeneratedTokens : ℤ) < q.samplingParams.maxTokens
  nodup : ((prefill ++ decode).map (·.seqId)).Nodup
  prefill_covered : ∀ q ∈ prefill, ∀ position, q.prefillCursor ≤ position →
    position < EngineCore.chunkEnd config q → position / config.blockSize < (bm.getBlockTable q.seqId).length
  decode_covered : ∀ q ∈ decode,
    EngineCore.decodePosition q / config.blockSize < (bm.getBlockTable q.seqId).length

end Ready

variable {ε : Type} (S : Setup ε) (c : CallCondition ε)

inductive Retirement (q : Sequence) : Status → Prop
  | finished (h : q.samplingParams.maxTokens ≤ q.numGeneratedTokens) : Retirement q .finished
  | cancelled : Retirement q .cancelled
  | timeout : Retirement q .timeout

inductive Transition : CoreState ε → CoreState ε → Prop
  | submit (s : CoreState ε) (sg : SequenceGroup) (hid : sg.requestId = s.seqGroupCount) (hseqs : sg.seqs = []) :
      Transition s ⟨s.queue.add sg, s.blockManager, s.seqGroupCount + 1⟩
  | retire (s : CoreState ε) (sg : SequenceGroup) (q : Sequence) (status : Status)
      (hrun : s.queue.running.get? sg.requestId = some sg) (hseqs : sg.seqs = [q])
      (hstatus : Retirement q status) :
      Transition s ⟨s.queue.markFinished { sg with seqs := [{ q with status := status }] },
        s.blockManager.free S.blockParams q.seqId, s.seqGroupCount⟩
  | cleanup (s : CoreState ε) (sid : SeqId) :
      Transition s ⟨s.queue, s.blockManager.withListener
        (S.executor.cleanupSequence s.blockManager.allocator.listener sid), s.seqGroupCount⟩
  | withdraw (s : CoreState ε) (sg : SequenceGroup) (hwait : s.queue.waiting.get? sg.requestId = some sg) :
      Transition s ⟨s.queue.withdraw sg, s.blockManager, s.seqGroupCount⟩
  | reject (s : CoreState ε) (sg : SequenceGroup) (hwait : s.queue.waiting.get? sg.requestId = some sg) :
      Transition s ⟨s.queue.markRejected sg, s.blockManager, s.seqGroupCount⟩
  | refile (s : CoreState ε) (sg : SequenceGroup) (hrej : s.queue.rejected.get? sg.requestId = some sg) :
      Transition s ⟨s.queue.refile sg, s.blockManager, s.seqGroupCount⟩
  | admission (s : CoreState ε) (sg : SequenceGroup) (hwait : s.queue.waiting.get? sg.requestId = some sg)
      (hc : c.admission s.queue s.blockManager sg) :
      Transition s ⟨s.queue.markRunning
          { sg with seqs := sg.seqs ++ [Scheduler.admittedSeq S s.blockManager sg] },
        (s.blockManager.allocateForSeq S.blockParams (sg.createSequence ⟨sg.requestId, 0⟩)).2,
        s.seqGroupCount⟩
  | ensure (s : CoreState ε) (q : Sequence) (position : ℕ)
      (hready : EnsureReady S.config s.queue s.blockManager q position)
      (hc : c.ensure s.queue s.blockManager q position) :
      Transition s ⟨s.queue, (s.blockManager.ensureBlock S.blockParams q position).2, s.seqGroupCount⟩
  | batch (s : CoreState ε) (prefill decode : List Sequence)
      (hready : BatchReady S.config s.queue s.blockManager prefill decode)
      (hc : c.batch s.queue s.blockManager prefill decode) :
      Transition s ⟨(EngineCore.runBatch S s.queue s.blockManager prefill decode).2.1,
        (EngineCore.runBatch S s.queue s.blockManager prefill decode).2.2, s.seqGroupCount⟩

abbrev Reaches : CoreState ε → CoreState ε → Prop := Relation.ReflTransGen (Transition S c)

end MiniVllm
