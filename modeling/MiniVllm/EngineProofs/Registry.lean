import MiniVllm.Engine.Metrics
import MiniVllm.EngineProofs.Reports

/-! Every registered sequence is filed as finished, and no request has two of them. -/

namespace MiniVllm

open EngineCore Scheduler Scheduler.BudgetLoop

variable {ε : Type} {S : Setup ε}

section Collect

variable {α : Type} (f : EngineState ε → LLMEngine.Op → List α) (S : Setup ε)

def collectFrom : EngineState ε → List LLMEngine.Op → List α
  | _, [] => []
  | s, op :: ops => f s op ++ collectFrom (LLMEngine.apply S s op) ops

def collect (ops : List LLMEngine.Op) : List α := collectFrom f S (LLMEngine.initial S) ops

lemma collectFrom_append (s : EngineState ε) (xs ys : List LLMEngine.Op) :
    collectFrom f S s (xs ++ ys) = collectFrom f S s xs ++ collectFrom f S (xs.foldl (LLMEngine.apply S) s) ys := by
  induction xs generalizing s with
  | nil => rfl
  | cons op rest ih => simp only [List.cons_append, collectFrom, ih, List.foldl_cons, List.append_assoc]

lemma collect_concat (ops : List LLMEngine.Op) (op : LLMEngine.Op) :
    collect f S (ops ++ [op]) = collect f S ops ++ f (LLMEngine.run S ops) op := by
  rw [collect, collectFrom_append, collectFrom, collectFrom, List.append_nil]
  rfl

end Collect

structure Registry (finished : Dict RequestId SequenceGroup) (registered : List Sequence) : Prop where
  filed : ∀ q ∈ registered, ∃ sg, finished.get? q.seqId.request = some sg ∧ q ∈ sg.seqs
  nodup : (registered.map (·.seqId.request)).Nodup

namespace Registry

variable {finished finished' : Dict RequestId SequenceGroup} {registered : List Sequence} {rid : RequestId}
  {sg : SequenceGroup} {q : Sequence}

lemma grow (h : Registry finished registered)
    (hkeep : ∀ rid sg, finished.get? rid = some sg → finished'.get? rid = some sg) : Registry finished' registered := by
  refine ⟨fun q hq => ?_, h.nodup⟩
  obtain ⟨sg, hsg, hm⟩ := h.filed q hq
  exact ⟨sg, hkeep _ sg hsg, hm⟩

lemma file (h : Registry finished registered) (hnew : finished.get? rid = none) (sg : SequenceGroup) :
    Registry (finished.set rid sg) registered := by
  apply h.grow
  intro r g hg
  rw [Dict.get?_set]
  split_ifs with he
  · rw [he, hnew] at hg
    cases hg
  · exact hg

lemma fresh (h : Registry finished registered) (hnew : finished.get? rid = none) :
    ∀ r ∈ registered, r.seqId.request ≠ rid := by
  rintro r hr rfl
  obtain ⟨sg, hsg, -⟩ := h.filed r hr
  rw [hnew] at hsg
  cases hsg

lemma register (h : Registry finished registered) (hsg : finished.get? q.seqId.request = some sg) (hq : q ∈ sg.seqs)
    (hfresh : ∀ r ∈ registered, r.seqId.request ≠ q.seqId.request) : Registry finished (registered ++ [q]) := by
  refine ⟨fun r hr => ?_, ?_⟩
  · rcases List.mem_append.mp hr with hr | hr
    · exact h.filed r hr
    · rw [List.mem_singleton.mp hr]
      exact ⟨sg, hsg, hq⟩
  · rw [List.map_append, List.map_singleton]
    refine h.nodup.append (List.nodup_singleton _) ?_
    rw [List.disjoint_singleton]
    intro hm
    obtain ⟨r, hr, he⟩ := List.mem_map.mp hm
    exact hfresh r hr he

lemma retire (h : Registry finished registered) (hnew : finished.get? rid = none) (hid : q.seqId.request = rid)
    (hq : q ∈ sg.seqs) : Registry (finished.set rid sg) (registered ++ [q]) := by
  refine (h.file hnew sg).register ?_ hq ?_
  · rw [hid]
    exact finished.get?_set_self _ _
  · rw [hid]
    exact h.fresh hnew

end Registry

lemma Steps.files {s s' : EngineState ε} {now : ℚ} {r : Except Exn ScheduleResult} (h : Steps S s now r s') :
    ∃ l l' visited, Schedules S (beginStep S s now).core l l' visited ∧ s'.queue.finished = l'.queue.finished := by
  cases h with
  | raised l l' visited err bm hsched => exact ⟨l, l', visited, hsched, rfl⟩
  | done l l' visited queue bm hsched hexec hframe =>
    refine ⟨l, l', visited, hsched, ?_⟩
    rw [recordStep_queue]
    exact hframe.2.1

lemma LLMEngine.step_metrics (s : EngineState ε) (now : ℚ) :
    (LLMEngine.step S s now).2.metrics = (EngineCore.step S s now).2.metrics := by
  simp only [LLMEngine.step]
  split
  · rename_i he
    rw [he]
  · rename_i he
    rw [he]
    exact captureOutputs_metrics _ _

lemma cleanupFinished_registry (s : EngineState ε) (result : ScheduleResult) (hnd : result.finishedGroups.Nodup)
    (hdue : ∀ rid ∈ result.finishedGroups, ∃ sg q, s.queue.finished.get? rid = some sg ∧ sg.seqs = [q] ∧
      q.seqId.request = rid)
    (hfresh : ∀ rid ∈ result.finishedGroups, ∀ r ∈ s.metrics.finishedSeqs, r.seqId.request ≠ rid)
    (h : Registry s.queue.finished s.metrics.finishedSeqs) :
    Registry (cleanupFinished S s result).queue.finished (cleanupFinished S s result).metrics.finishedSeqs := by
  unfold cleanupFinished
  generalize result.finishedGroups = pending at hnd hdue hfresh
  induction pending generalizing s with
  | nil => exact h
  | cons rid rest ih =>
    obtain ⟨hnot, hrest⟩ := List.nodup_cons.mp hnd
    obtain ⟨sg, q, hsg, hq, rfl⟩ := hdue rid (by simp)
    simp only [List.foldl_cons, hsg, hq, List.foldl_nil]
    refine ih (registerSequence (cleanupSequence S s q.seqId) q) ?_ hrest ?_ ?_
    · exact h.register hsg (by simp [hq]) (hfresh _ (by simp))
    · exact fun r hr => hdue r (List.mem_cons_of_mem _ hr)
    · intro r hr q' hq'
      rcases List.mem_append.mp hq' with hq' | hq'
      · exact hfresh r (List.mem_cons_of_mem _ hr) q' hq'
      · rw [List.mem_singleton.mp hq']
        rintro rfl
        exact hnot hr

section Calls

variable {s : EngineState ε} (hw : WellFormed S s.core) (h : Registry s.queue.finished s.metrics.finishedSeqs)

include hw h

lemma timeoutGroup_registry {item : RequestId × Bool} (hin : InPool s.queue item) :
    Registry (timeoutGroup S s item).queue.finished (timeoutGroup S s item).metrics.finishedSeqs := by
  have hspec := timeoutGroup_spec hw hin
  generalize timeoutGroup S s item = s' at hspec ⊢
  cases hspec with
  | running sg q hr hq hl =>
    exact h.retire (hw.queue.only_running hr).1 (congrArg SeqId.request hl.seqId) (by simp)
  | waiting sg hg hs => exact h.file (hw.queue.only_waiting hg).2.1 sg

lemma cancelRequest_registry (rid : RequestId) :
    Registry (cancelRequest S s rid).2.queue.finished (cancelRequest S s rid).2.metrics.finishedSeqs := by
  rcases getById_cases s.queue rid with ⟨hn, -⟩ | ⟨sg, -, hg | ⟨-, hr⟩ | ⟨-, -, hf⟩ | ⟨hg, hr, hf, hj⟩⟩
  · simp only [EngineCore.cancelRequest, hn]
    exact h
  · obtain ⟨rfl, -, hs⟩ := hw.queue.waiting rid sg hg
    rw [cancelRequest_waiting hw hg]
    exact h.file (hw.queue.only_waiting hg).2.1 sg
  · obtain ⟨rfl, -, q, hq, hl⟩ := hw.queue.running rid sg hr
    rw [cancelRequest_running hw hr hq hl.phase.not_finished]
    exact h.retire (hw.queue.only_running hr).1 (congrArg SeqId.request hl.seqId) (by simp)
  · rw [cancelRequest_finished hw hf]
    exact h
  · obtain ⟨rfl, -, hs⟩ := hw.queue.rejected rid sg hj
    rw [cancelRequest_rejected hw hg hr hf hj]
    exact h.file hf sg

lemma checkTimeouts_registry (now : ℚ) :
    Registry (checkTimeouts S s now).queue.finished (checkTimeouts S s now).metrics.finishedSeqs := by
  obtain ⟨hnd, hin⟩ := expired_items hw now
  exact timeouts_rule (P := fun s : EngineState ε => Registry s.queue.finished s.metrics.finishedSeqs)
    (fun s item hw hin h => timeoutGroup_registry hw h hin) hw h _ hnd hin

lemma beginStep_registry (now : ℚ) :
    Registry (beginStep S s now).queue.finished (beginStep S s now).metrics.finishedSeqs :=
  checkTimeouts_registry (s := { s with stepCount := s.stepCount + 1 }) hw h now

lemma step_registry (now : ℚ) :
    Registry (LLMEngine.step S s now).2.queue.finished (LLMEngine.step S s now).2.metrics.finishedSeqs := by
  have hb := beginStep_registry hw h now
  have hwb := beginStep_wellFormed hw now
  have hsteps := step_steps hw now
  rw [LLMEngine.step_queue, LLMEngine.step_metrics]
  generalize EngineCore.step S s now = out at hsteps ⊢
  obtain ⟨r, s'⟩ := out
  have hkeep : ∀ l l' visited, Schedules S (beginStep S s now).core l l' visited →
      ∀ rid sg, (beginStep S s now).queue.finished.get? rid = some sg → l'.queue.finished.get? rid = some sg := by
    intro l l' visited hs rid sg hsg
    by_cases hd : rid ∈ dueIds (beginStep S s now).queue.running.values
    · have hnone : (beginStep S s now).queue.finished.get? rid = none := (hs.finished_due hwb hd).1
      rw [hnone] at hsg
      cases hsg
    · exact (hs.finished_kept hwb hd).trans hsg
  cases hsteps with
  | raised l l' visited err bm hsched => exact hb.grow (hkeep l l' visited hsched)
  | done l l' visited queue bm hsched hexec hframe =>
    have hids : (l'.report l.queue.decodes.length).finishedGroups =
        dueIds (beginStep S s now).core.queue.running.values :=
      hsched.visits.frame.2.1.trans hsched.finishedGroups
    apply cleanupFinished_registry { beginStep S s now with queue := queue, blockManager := bm }
    · rw [hids]
      exact nodup_dueIds hwb
    · intro rid hrid
      rw [hids] at hrid
      obtain ⟨-, sg, q, hsg, hq, -, hid, -⟩ := hsched.finished_due hwb hrid
      refine ⟨sg, q, ?_, hq, congrArg SeqId.request hid⟩
      rw [← hsg]
      exact congrArg (fun d => d.get? rid) hframe.2.1
    · intro rid hrid
      rw [hids] at hrid
      exact hb.fresh (hsched.finished_due hwb hrid).1
    · apply hb.grow
      intro rid sg hsg
      have hfin := hkeep l l' visited hsched rid sg hsg
      rw [← hframe.2.1] at hfin
      exact hfin

lemma apply_registry (op : LLMEngine.Op) :
    Registry (LLMEngine.apply S s op).queue.finished (LLMEngine.apply S s op).metrics.finishedSeqs := by
  cases op with
  | addRequest prompt maxNewTokens now => exact h
  | step now =>
    rw [LLMEngine.apply]
    exact step_registry hw h now
  | cancelRequest rid => exact cancelRequest_registry hw h rid
  | checkTimeouts now => exact checkTimeouts_registry hw h now

end Calls

theorem registry_run (S : Setup ε) (ops : List LLMEngine.Op) :
    Registry (LLMEngine.run S ops).queue.finished (LLMEngine.run S ops).metrics.finishedSeqs := by
  induction ops using List.reverseRecOn with
  | nil => exact ⟨fun q hq => absurd hq List.not_mem_nil, List.nodup_nil⟩
  | append_singleton ops op ih =>
    rw [LLMEngine.run_concat]
    exact apply_registry (wellFormed_run S ops) ih op

end MiniVllm
