import MiniVllm.Engine.Engine

/-! What the calls of the engine leave of a state's other fields. -/

namespace MiniVllm

open EngineCore

variable {ε : Type} (S : Setup ε)

def MetricsCollector.tallies (metrics : MetricsCollector) : ℕ × ℕ × ℕ × ℕ :=
  (metrics.totalRequests, metrics.rejectedRequests, metrics.rpmRejected, metrics.tpmRejected)

abbrev EngineState.reporting (s : EngineState ε) (bm : BlockManager ε) (reports : List Sequence) : EngineState ε :=
  { s with blockManager := bm, metrics := { s.metrics with finishedSeqs := reports } }

lemma abortSeqs_frame (status : Status) (seqs : List Sequence) (s : EngineState ε) :
    ∃ bm reports, (abortSeqs S status seqs s).2 = s.reporting bm reports := by
  induction seqs generalizing s with
  | nil => exact ⟨s.blockManager, s.metrics.finishedSeqs, rfl⟩
  | cons q rest ih =>
    simp only [abortSeqs]
    split_ifs
    · exact ih s
    · exact ih _

lemma cleanupFinished_reporting (s : EngineState ε) (result : ScheduleResult) :
    ∃ bm reports, cleanupFinished S s result = s.reporting bm reports := by
  have hseqs : ∀ (seqs : List Sequence) (s : EngineState ε), ∃ bm reports,
      seqs.foldl (fun s q => registerSequence (cleanupSequence S s q.seqId) q) s = s.reporting bm reports := by
    intro seqs
    induction seqs with
    | nil => exact fun s => ⟨s.blockManager, s.metrics.finishedSeqs, rfl⟩
    | cons q rest ih => exact fun s => ih _
  unfold cleanupFinished
  induction result.finishedGroups generalizing s with
  | nil => exact ⟨s.blockManager, s.metrics.finishedSeqs, rfl⟩
  | cons rid rest ih =>
    rw [List.foldl_cons]
    cases s.queue.finished.get? rid with
    | none => exact ih s
    | some sg =>
      obtain ⟨bm, reports, hone⟩ := hseqs sg.seqs s
      simp only [hone]
      exact ih _

lemma cancelRequest_frame (s : EngineState ε) (rid : RequestId) :
    ∃ queue bm reports cancelled, (cancelRequest S s rid).2 =
      { s with
        queue := queue
        blockManager := bm
        metrics := { s.metrics with finishedSeqs := reports, cancelledRequests := cancelled } } := by
  rw [cancelRequest]
  split
  · exact ⟨_, _, _, _, rfl⟩
  · rename_i sg _
    obtain ⟨bm, reports, hone⟩ := abortSeqs_frame S .cancelled sg.seqs s
    simp only [hone]
    exact ⟨_, _, _, _, rfl⟩

lemma checkTimeouts_frame (s : EngineState ε) (now : ℚ) :
    ∃ queue bm reports timeouts, checkTimeouts S s now =
      { s with
        queue := queue
        blockManager := bm
        metrics := { s.metrics with finishedSeqs := reports, timeoutRequests := timeouts } } := by
  unfold checkTimeouts
  generalize (expired S now s.queue.running).map (·, true) ++ (expired S now s.queue.waiting).map (·, false) = items
  induction items generalizing s with
  | nil => exact ⟨_, _, _, _, rfl⟩
  | cons item rest ih =>
    rw [List.foldl_cons, timeoutGroup]
    split
    · exact ih s
    · rename_i sg _
      obtain ⟨bm, reports, hone⟩ := abortSeqs_frame S .timeout sg.seqs s
      simp only [hone]
      exact ih _

lemma captureOutputs_frame (s : EngineState ε) (result : ScheduleResult) :
    ∃ outputs, LLMEngine.captureOutputs S s result = { s with outputs := outputs } := by
  have hseqs : ∀ (seqs : List Sequence) (s : EngineState ε), ∃ outputs, seqs.foldl (fun s q =>
      { s with outputs := s.outputs.set q.groupId (S.executor.detokenize q.outputTokenIds) }) s =
        { s with outputs := outputs } := by
    intro seqs
    induction seqs with
    | nil => exact fun s => ⟨s.outputs, rfl⟩
    | cons q rest ih => exact fun s => ih _
  unfold LLMEngine.captureOutputs
  induction result.finishedGroups generalizing s with
  | nil => exact ⟨s.outputs, rfl⟩
  | cons rid rest ih =>
    rw [List.foldl_cons]
    cases s.queue.finished.get? rid with
    | none => exact ih s
    | some sg =>
      obtain ⟨outputs, hone⟩ := hseqs (sg.seqs.filter (·.status = .finished)) s
      simp only [hone]
      exact ih _

lemma step_frame (s : EngineState ε) (now : ℚ) :
    ∃ queue bm metrics, metrics.tallies = s.metrics.tallies ∧ (EngineCore.step S s now).2 =
      { s with queue := queue, blockManager := bm, metrics := metrics, stepCount := s.stepCount + 1 } := by
  obtain ⟨queue, bm, reports, timeouts, hbegin⟩ := checkTimeouts_frame S { s with stepCount := s.stepCount + 1 } now
  simp only [EngineCore.step, beginStep, hbegin]
  split
  · refine ⟨_, _, _, ?_, rfl⟩
    rfl
  · split
    · refine ⟨_, _, _, ?_, rfl⟩
      rfl
    · rename_i result queue₁ bm₁ _ _ u queue₂ bm₂ _
      obtain ⟨bm₃, reports₂, hclean⟩ := cleanupFinished_reporting S
        { s with
          queue := queue₂
          blockManager := bm₂
          metrics := { s.metrics with finishedSeqs := reports, timeoutRequests := timeouts }
          stepCount := s.stepCount + 1 } result
      simp only [hclean]
      refine ⟨_, _, _, ?_, rfl⟩
      rfl

namespace LLMEngine

lemma step_tallies (s : EngineState ε) (now : ℚ) : (step S s now).2.metrics.tallies = s.metrics.tallies := by
  obtain ⟨queue, bm, metrics, htallies, hstep⟩ := step_frame S s now
  rw [step]
  split
  · rename_i err s₁ he
    rw [he] at hstep
    rw [← htallies, hstep]
  · rename_i result s₁ he
    rw [he] at hstep
    have hcapture : (captureOutputs S s₁ result).metrics = s₁.metrics := by
      obtain ⟨outputs, h⟩ := captureOutputs_frame S s₁ result
      rw [h]
    have hmetrics : s₁.metrics = metrics := congrArg EngineState.metrics hstep
    rw [hcapture, hmetrics, htallies]

lemma runUntilDone_tallies (readings : List ℚ) (s : EngineState ε) :
    (runUntilDone S readings s).2.metrics.tallies = s.metrics.tallies := by
  induction readings generalizing s with
  | nil => rfl
  | cons now readings ih =>
    have hstep := step_tallies S s now
    rw [runUntilDone]
    split <;> rename_i he <;> rw [he] at hstep
    · exact hstep
    · split_ifs
      · exact hstep
      · exact (ih _).trans hstep

end LLMEngine

end MiniVllm
