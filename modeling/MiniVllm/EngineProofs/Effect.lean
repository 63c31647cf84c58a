import MiniVllm.EngineProofs.WellFormed

/-! Inversion: everything that a transition from a well-formed state can do. -/

namespace MiniVllm

open EngineCore

variable {ε : Type}

inductive Effect (S : Setup ε) (c : CallCondition ε) (s : CoreState ε) : CoreState ε → Prop
  | idle : Effect S c s s
  | requeue (queue : RequestQueue) (n : ℕ) (hrun : queue.running = s.queue.running)
      (hfin : ∀ rid sg, queue.finished.get? rid = some sg →
        s.queue.finished.get? rid = some sg ∨ sg.seqs = []) :
      Effect S c s ⟨queue, s.blockManager, n⟩
  | cleanup (sid : SeqId) :
      Effect S c s ⟨s.queue, s.blockManager.withListener
        (S.executor.cleanupSequence s.blockManager.allocator.listener sid), s.seqGroupCount⟩
  | retire (sg : SequenceGroup) (q : Sequence) (status : Status) (bm : BlockManager ε)
      (hid : sg.requestId = q.seqId.request) (hseqs : sg.seqs = [q])
      (hlive : s.queue.runningSeq q.seqId.request = some q) (hstatus : Retirement q status)
      (hf : BlockManager.Releases S.blockParams q.seqId s.blockManager bm) :
      Effect S c s ⟨s.queue.markFinished { sg with seqs := [{ q with status := status }] }, bm, s.seqGroupCount⟩
  | admission (sg : SequenceGroup) (bm : BlockManager ε) (hwait : s.queue.waiting.get? sg.requestId = some sg)
      (hfresh : s.queue.runningSeq sg.requestId = none)
      (hc : c.admission s.queue s.blockManager sg)
      (ha : BlockManager.Admits S.blockParams ⟨sg.requestId, 0⟩ sg.promptTokenIds s.blockManager bm) :
      Effect S c s ⟨s.queue.markRunning
        { sg with seqs := sg.seqs ++ [Scheduler.admittedSeq S s.blockManager sg] }, bm, s.seqGroupCount⟩
  | hit (q : Sequence) (position : ℕ) (hash : ℤ) (p : ℕ) (bm : BlockManager ε)
      (hready : EnsureReady S.config s.queue s.blockManager q position)
      (hc : c.ensure s.queue s.blockManager q position)
      (hlen : position / S.config.blockSize = (s.blockManager.getBlockTable q.seqId).length)
      (hhash : s.blockManager.promptHash S.blockParams q position (position / S.config.blockSize) = some hash)
      (hcached : s.blockManager.cachedBlock hash = some p)
      (hs : BlockManager.Shares q.seqId [p] s.blockManager bm) :
      Effect S c s ⟨s.queue, bm, s.seqGroupCount⟩
  | miss (q : Sequence) (position p : ℕ) (bm : BlockManager ε)
      (hready : EnsureReady S.config s.queue s.blockManager q position)
      (hc : c.ensure s.queue s.blockManager q position)
      (hlen : position / S.config.blockSize = (s.blockManager.getBlockTable q.seqId).length)
      (hmiss : (s.blockManager.promptHash S.blockParams q position (position / S.config.blockSize)).bind
        s.blockManager.cachedBlock = none)
      (ht : BlockManager.Takes S.blockParams q.seqId
        (s.blockManager.promptHash S.blockParams q position (position / S.config.blockSize)) p s.blockManager bm) :
      Effect S c s ⟨s.queue, bm, s.seqGroupCount⟩
  | failed (prefill decode : List Sequence) (err : Exn) (x : ε)
      (hready : BatchReady S.config s.queue s.blockManager prefill decode)
      (hc : c.batch s.queue s.blockManager prefill decode)
      (hexec : S.executor.execute (batchInput S.config s.blockManager prefill decode) s.blockManager =
        (.error err, s.blockManager.withListener x)) :
      Effect S c s ⟨s.queue, s.blockManager.withListener x, s.seqGroupCount⟩
  | done (prefill decode : List Sequence) (output : ModelRunnerOutput) (x : ε) (queue : RequestQueue)
      (hready : BatchReady S.config s.queue s.blockManager prefill decode)
      (hc : c.batch s.queue s.blockManager prefill decode)
      (hexec : S.executor.execute (batchInput S.config s.blockManager prefill decode) s.blockManager =
        (.ok output, s.blockManager.withListener x))
      (hwaiting : queue.waiting = s.queue.waiting) (hfinished : queue.finished = s.queue.finished)
      (hrejected : queue.rejected = s.queue.rejected)
      (hrunning : ∀ rid, queue.running.get? rid = (s.queue.running.get? rid).map (SequenceGroup.mapSeqs
        (afterBatch S.config (prefill.map (·.seqId)) (decode.map (·.seqId)) (tokenOf output)))) :
      Effect S c s ⟨queue, (s.blockManager.withListener x).record
        (kvWrites (prefill ++ decode) (batchInput S.config s.blockManager prefill decode)), s.seqGroupCount⟩

theorem WellFormed.effect {S : Setup ε} {c : CallCondition ε} {s s' : CoreState ε} (h : WellFormed S s)
    (ht : Transition S c s s') : Effect S c s s' := by
  cases ht with
  | submit sg hid hseqs => exact .requeue _ _ rfl fun _ _ hg => Or.inl hg
  | cleanup sid => exact .cleanup sid
  | reject sg hwait => exact .requeue _ _ rfl fun _ _ hg => Or.inl hg
  | withdraw sg hwait =>
    refine .requeue _ _ rfl fun rid sg' hg => ?_
    simp only [RequestQueue.withdraw, Dict.get?_set] at hg
    split_ifs at hg
    · cases hg
      exact Or.inr (h.queue.waiting _ sg hwait).2.2
    · exact Or.inl hg
  | refile sg hrej =>
    refine .requeue _ _ rfl fun rid sg' hg => ?_
    simp only [RequestQueue.refile, Dict.get?_set] at hg
    split_ifs at hg
    · cases hg
      exact Or.inr (h.queue.rejected _ sg hrej).2.2
    · exact Or.inl hg
  | retire sg q status hrun hseqs hstatus =>
    have hlive := h.queue.runningSeq_eq_some.mpr ⟨sg, hrun, hseqs⟩
    have hid : q.seqId.request = sg.requestId := by rw [h.queue.runningSeq_seqId hlive]
    exact .retire sg q status _ hid.symm hseqs (by rw [hid]; exact hlive) hstatus
      (BlockManager.free_spec S.blockParams h.balanced (h.contains hlive))
  | admission sg hwait hc =>
    obtain ⟨bm, he, ha⟩ := h.admits hwait
    have hnone : s.queue.running.get? sg.requestId = none :=
      (h.queue.only_waiting hwait).1
    simp only [he]
    exact .admission sg bm hwait (by simp [RequestQueue.runningSeq, hnone]) hc ha
  | ensure q position hready hc =>
    have hspec := h.ensures hready
    generalize (s.blockManager.ensureBlock S.blockParams q position).1 = r at hspec
    generalize (s.blockManager.ensureBlock S.blockParams q position).2 = bm at hspec ⊢
    cases hspec with
    | covered => exact .idle
    | outOfMemory => exact .idle
    | hit hash p _ hlen hhash hcached hs => exact .hit q position hash p bm hready hc hlen hhash hcached hs
    | miss p _ hlen hmiss ht => exact .miss q position p bm hready hc hlen hmiss ht
  | batch prefill decode hready hc =>
    obtain ⟨r, queue, bm, hbatch, hspec⟩ := h.runBatch_cases hready
    simp only [hbatch]
    cases hspec with
    | failed err x hexec => exact .failed prefill decode err x hready hc hexec
    | done output x _ hexec hw hf hj hrun => exact .done prefill decode output x queue hready hc hexec hw hf hj hrun

end MiniVllm
