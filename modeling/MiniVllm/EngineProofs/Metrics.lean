import MiniVllm.Engine.Engine

/-! No call of the engine reads the metrics. -/

namespace MiniVllm

open EngineCore

variable {ε : Type} (S : Setup ε)

def SameEngine (s t : EngineState ε) : Prop := ∃ metrics, t = { s with metrics := metrics }

namespace SameEngine

lemma refl (s : EngineState ε) : SameEngine s s := ⟨s.metrics, rfl⟩

lemma trans {s t u : EngineState ε} (h : SameEngine s t) (h' : SameEngine t u) : SameEngine s u := by
  obtain ⟨metrics, rfl⟩ := h
  obtain ⟨metrics', rfl⟩ := h'
  exact ⟨metrics', rfl⟩

variable {s t : EngineState ε} (h : SameEngine s t)

include h

lemma queue : t.queue = s.queue := by
  obtain ⟨metrics, rfl⟩ := h
  rfl

lemma outputs : t.outputs = s.outputs := by
  obtain ⟨metrics, rfl⟩ := h
  rfl

lemma seqGroupCount : t.seqGroupCount = s.seqGroupCount := by
  obtain ⟨metrics, rfl⟩ := h
  rfl

lemma registerSequence (sid : SeqId) (q : Sequence) :
    SameEngine (EngineCore.registerSequence (cleanupSequence S s sid) q)
      (EngineCore.registerSequence (cleanupSequence S t sid) q) := by
  obtain ⟨metrics, rfl⟩ := h
  exact ⟨_, rfl⟩

lemma abortSeqs (status : Status) (seqs : List Sequence) :
    (EngineCore.abortSeqs S status seqs s).1 = (EngineCore.abortSeqs S status seqs t).1 ∧
      SameEngine (EngineCore.abortSeqs S status seqs s).2 (EngineCore.abortSeqs S status seqs t).2 := by
  induction seqs generalizing s t with
  | nil => exact ⟨rfl, h⟩
  | cons q rest ih =>
    simp only [EngineCore.abortSeqs]
    split_ifs with hq
    · obtain ⟨hseqs, hrest⟩ := ih h
      exact ⟨congrArg (q :: ·) hseqs, hrest⟩
    · have hfree : SameEngine { s with blockManager := s.blockManager.free S.blockParams q.seqId }
          { t with blockManager := t.blockManager.free S.blockParams q.seqId } := by
        obtain ⟨metrics, rfl⟩ := h
        exact ⟨metrics, rfl⟩
      obtain ⟨hseqs, hrest⟩ := ih (hfree.registerSequence S q.seqId { q with status := status })
      exact ⟨congrArg ({ q with status := status } :: ·) hseqs, hrest⟩

lemma cancelRequest (rid : RequestId) :
    SameEngine (EngineCore.cancelRequest S s rid).2 (EngineCore.cancelRequest S t rid).2 := by
  rw [EngineCore.cancelRequest, EngineCore.cancelRequest, h.queue]
  cases s.queue.getById rid with
  | none => exact h
  | some sg =>
    obtain ⟨hseqs, metrics, hrest⟩ := h.abortSeqs S .cancelled sg.seqs
    simp only [← hseqs, hrest]
    exact ⟨_, rfl⟩

lemma timeoutGroup (item : RequestId × Bool) :
    SameEngine (EngineCore.timeoutGroup S s item) (EngineCore.timeoutGroup S t item) := by
  rw [EngineCore.timeoutGroup, EngineCore.timeoutGroup, h.queue]
  cases s.queue.getById item.1 with
  | none => exact h
  | some sg =>
    obtain ⟨hseqs, metrics, hrest⟩ := h.abortSeqs S .timeout sg.seqs
    simp only [← hseqs, hrest]
    exact ⟨_, rfl⟩

lemma checkTimeouts (now : ℚ) : SameEngine (EngineCore.checkTimeouts S s now) (EngineCore.checkTimeouts S t now) := by
  rw [EngineCore.checkTimeouts, EngineCore.checkTimeouts, h.queue]
  exact List.foldl_rel h fun item _ s t h => h.timeoutGroup S item

lemma cleanupFinished (result : ScheduleResult) :
    SameEngine (EngineCore.cleanupFinished S s result) (EngineCore.cleanupFinished S t result) := by
  refine List.foldl_rel h fun rid _ s t h => ?_
  rw [h.queue]
  cases s.queue.finished.get? rid with
  | none => exact h
  | some sg => exact List.foldl_rel h fun q _ s t h => h.registerSequence S q.seqId q

lemma coreStep (now : ℚ) : (EngineCore.step S s now).1 = (EngineCore.step S t now).1 ∧
    SameEngine (EngineCore.step S s now).2 (EngineCore.step S t now).2 := by
  have hcount : SameEngine { s with stepCount := s.stepCount + 1 } { t with stepCount := t.stepCount + 1 } := by
    obtain ⟨metrics, rfl⟩ := h
    exact ⟨metrics, rfl⟩
  obtain ⟨metrics, hbegin⟩ := hcount.checkTimeouts S now
  simp only [EngineCore.step, beginStep, hbegin]
  generalize EngineCore.checkTimeouts S { s with stepCount := s.stepCount + 1 } now = b
  rcases Scheduler.schedule S b.queue b.blockManager with ⟨err | result, queue, bm⟩
  · exact ⟨rfl, metrics, rfl⟩
  · dsimp only
    rcases executeStep S queue bm (prefillSeqs queue result) (decodeSeqs queue result) with ⟨err | u, queue', bm'⟩
    · exact ⟨rfl, metrics, rfl⟩
    · have hexec : SameEngine { b with queue := queue', blockManager := bm' }
          { b with queue := queue', blockManager := bm', metrics := metrics } := ⟨metrics, rfl⟩
      obtain ⟨metrics', hclean⟩ := hexec.cleanupFinished S result
      dsimp only
      rw [hclean]
      exact ⟨rfl, _, rfl⟩

lemma captureOutputs (result : ScheduleResult) :
    SameEngine (LLMEngine.captureOutputs S s result) (LLMEngine.captureOutputs S t result) := by
  refine List.foldl_rel h fun rid _ s t h => ?_
  rw [h.queue]
  cases s.queue.finished.get? rid with
  | none => exact h
  | some sg =>
    refine List.foldl_rel h fun q _ s t h => ?_
    obtain ⟨metrics, rfl⟩ := h
    exact ⟨metrics, rfl⟩

lemma step (now : ℚ) : (LLMEngine.step S s now).1 = (LLMEngine.step S t now).1 ∧
    SameEngine (LLMEngine.step S s now).2 (LLMEngine.step S t now).2 := by
  obtain ⟨hresult, hstate⟩ := h.coreStep S now
  rw [LLMEngine.step, LLMEngine.step]
  generalize EngineCore.step S s now = r at hresult hstate
  generalize EngineCore.step S t now = r' at hresult hstate
  obtain ⟨err | result, s'⟩ := r
  · obtain ⟨r', t'⟩ := r'
    obtain rfl : .error err = r' := hresult
    exact ⟨rfl, hstate⟩
  · obtain ⟨r', t'⟩ := r'
    obtain rfl : .ok result = r' := hresult
    exact ⟨rfl, hstate.captureOutputs S result⟩

lemma apply (op : LLMEngine.Op) : SameEngine (LLMEngine.apply S s op) (LLMEngine.apply S t op) := by
  cases op with
  | addRequest prompt maxNewTokens now =>
    obtain ⟨metrics, rfl⟩ := h
    exact ⟨metrics, rfl⟩
  | step now => exact (h.step S now).2
  | cancelRequest rid => exact h.cancelRequest S rid
  | checkTimeouts now => exact h.checkTimeouts S now

lemma run (ops : List LLMEngine.Op) : SameEngine (ops.foldl (LLMEngine.apply S) s) (ops.foldl (LLMEngine.apply S) t) :=
  List.foldl_rel h fun op _ _ _ h => h.apply S op

end SameEngine

end MiniVllm
