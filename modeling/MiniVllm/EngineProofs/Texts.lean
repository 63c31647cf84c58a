import MiniVllm.EngineProofs.Batching
import MiniVllm.EngineProofs.Reports

/-! The texts among the outputs of the engine. -/

namespace MiniVllm

open EngineCore

variable {ε : Type} {S : Setup ε}

lemma step_outputs {P : RequestId → List Char → Prop} {s : EngineState ε} (hw : WellFormed S s.core) {now : ℚ}
    (hfin : ∀ rid sg, (LLMEngine.step S s now).2.queue.finished.get? rid = some sg → ∀ q ∈ sg.seqs,
      q.status = .finished → P rid (S.executor.detokenize q.outputTokenIds))
    (h : ∀ rid text, s.outputs.get? rid = some text → P rid text) :
    ∀ rid text, (LLMEngine.step S s now).2.outputs.get? rid = some text → P rid text := by
  have hsteps := step_steps hw now
  obtain ⟨queue, bm, metrics, -, hframe⟩ := step_frame S s now
  have hout : (EngineCore.step S s now).2.outputs = s.outputs := by rw [hframe]
  rw [LLMEngine.step_queue] at hfin
  intro rid text htext
  rw [LLMEngine.step] at htext
  generalize EngineCore.step S s now = out at hsteps hfin hout htext
  obtain ⟨r, s'⟩ := out
  cases r with
  | error err => exact h rid text (hout ▸ htext)
  | ok result =>
    obtain ⟨hkeep, hput⟩ := captureOutputs_get (S := S) s' result (hsteps.finishedGroups hw).2 rid
    by_cases hrid : rid ∈ result.finishedGroups
    · obtain ⟨sg, q, hsg, hq, hst, -⟩ := (hsteps.finishedGroups hw).2 rid hrid
      have hvalue := (hput hrid sg q hsg hq).symm.trans htext
      rw [← Option.some.inj hvalue]
      exact hfin rid sg hsg q (by simp [hq]) hst
    · have hsame := (hkeep hrid).symm.trans htext
      exact h rid text (hout ▸ hsame)

lemma apply_outputs {P : RequestId → List Char → Prop} {s : EngineState ε} (hw : WellFormed S s.core)
    {op : LLMEngine.Op} (hfin : ∀ rid sg, (LLMEngine.apply S s op).queue.finished.get? rid = some sg → ∀ q ∈ sg.seqs,
      q.status = .finished → P rid (S.executor.detokenize q.outputTokenIds))
    (h : ∀ rid text, s.outputs.get? rid = some text → P rid text) :
    ∀ rid text, (LLMEngine.apply S s op).outputs.get? rid = some text → P rid text := by
  cases op with
  | addRequest => exact h
  | step now =>
    have hstep : LLMEngine.apply S s (.step now) = (LLMEngine.step S s now).2 := rfl
    rw [hstep] at hfin ⊢
    exact step_outputs hw hfin h
  | cancelRequest rid =>
    obtain ⟨queue, bm, reports, cancelled, hframe⟩ := cancelRequest_frame S s rid
    rw [LLMEngine.apply, hframe]
    exact h
  | checkTimeouts now =>
    rw [LLMEngine.apply, checkTimeouts_outputs]
    exact h

def TextsKept (s : EngineState ε) : Prop := ∀ rid, RanToEnd s.queue rid → s.outputs.get? rid ≠ none

lemma TextsKept.step {s : EngineState ε} (hw : WellFormed S s.core) (h : TextsKept s) {now : ℚ}
    (hok : Succeeds S s now) : TextsKept (LLMEngine.step S s now).2 := by
  have hwb := beginStep_wellFormed hw now
  have hsteps := step_steps hw now
  have hout : (EngineCore.step S s now).2.outputs = s.outputs := by
    obtain ⟨queue, bm, metrics, -, hframe⟩ := step_frame S s now
    rw [hframe]
  rw [Succeeds, LLMEngine.step] at hok
  rw [LLMEngine.step]
  generalize EngineCore.step S s now = out at hsteps hout hok ⊢
  obtain ⟨r, s'⟩ := out
  cases r with
  | error err => cases hok
  | ok result =>
    obtain ⟨hids, hretired⟩ := hsteps.finishedGroups hw
    have hcore := captureOutputs_core (S := S) s' result
    rintro rid ⟨sg, hsg, q, hq, hst⟩
    have hqueue : (LLMEngine.captureOutputs S s' result).queue = s'.queue := congrArg CoreState.queue hcore
    rw [hqueue] at hsg
    obtain ⟨hkeep, hput⟩ := captureOutputs_get (S := S) s' result hretired rid
    by_cases hrid : rid ∈ result.finishedGroups
    · obtain ⟨sg', q', hsg', hq', -⟩ := hretired rid hrid
      simp [hput hrid sg' q' hsg' hq']
    · obtain ⟨l, l', visited, hsched, hfin⟩ := hsteps.files
      rw [hfin, hsched.finished_kept hwb (hids ▸ hrid)] at hsg
      have hold := checkTimeouts_finished (s := { s with stepCount := s.stepCount + 1 }) hw now hsg hq hst
      rw [hkeep hrid, hout]
      exact h rid ⟨sg, hold, q, hq, hst⟩

lemma TextsKept.apply {s : EngineState ε} (hw : WellFormed S s.core) (h : TextsKept s) {op : LLMEngine.Op}
    (hok : (Succeeds S).Apply s op) : TextsKept (LLMEngine.apply S s op) := by
  cases op with
  | addRequest => exact h
  | step now => exact h.step hw hok
  | cancelRequest rid =>
    rintro rid' ⟨sg, hsg, q, hq, hst⟩
    have hold := h rid' ⟨sg, cancelRequest_finishedAt hw hsg hq hst, q, hq, hst⟩
    obtain ⟨queue, bm, reports, cancelled, hframe⟩ := cancelRequest_frame S s rid
    rw [LLMEngine.apply, hframe]
    exact hold
  | checkTimeouts now =>
    rintro rid ⟨sg, hsg, q, hq, hst⟩
    rw [LLMEngine.apply, checkTimeouts_outputs]
    exact h rid ⟨sg, checkTimeouts_finished hw now hsg hq hst, q, hq, hst⟩

end MiniVllm
