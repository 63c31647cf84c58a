import MiniVllm.EngineProofs.Ages
import MiniVllm.EngineProofs.Steps
import MiniVllm.SchedulerProofs.Partition

/-! With `static_batch_mode` one `schedule` call admits the whole running pool, once the last batch is gone. -/

namespace MiniVllm

open EngineCore Scheduler Scheduler.BudgetLoop

variable {ε : Type} {S : Setup ε}

structure AdmittedBy (S : Setup ε) (s : EngineState ε) (now : ℚ) (rid : RequestId) : Prop where
  waiting : (beginStep S s now).queue.waiting.contains rid = true
  running : (schedule S (beginStep S s now).queue (beginStep S s now).blockManager).2.1.running.contains rid = true

def stillRunning (S : Setup ε) (s : EngineState ε) (now : ℚ) : Dict RequestId SequenceGroup :=
  (beforeAdmission S (beginStep S s now).queue (beginStep S s now).blockManager).2.1.running

def noAdmission : CallCondition ε where
  admission _ _ _ := False

lemma noAdmission_running {s s' : CoreState ε} (hw : WellFormed S s) (hr : Reaches S noAdmission s s')
    {rid : RequestId} (h : s'.queue.running.contains rid = true) : s.queue.running.contains rid = true := by
  induction hr with
  | refl => exact h
  | tail hr ht ih =>
    apply ih
    cases (hw.reaches hr).effect ht with
    | idle => exact h
    | requeue queue n hrun =>
      rw [hrun] at h
      exact h
    | cleanup => exact h
    | retire sg q status bm hid hseqs hlive =>
      simp only [RequestQueue.markFinished, Dict.contains_pop, Bool.and_eq_true] at h
      exact h.2
    | admission sg bm hwait hfresh hc => exact hc.elim
    | hit => exact h
    | miss => exact h
    | failed => exact h
    | done prefill decode output x queue hready hc hexec hwaiting hfinished hrejected hrunning =>
      simpa only [Dict.contains, hrunning, Option.isSome_map] using h

lemma beforeAdmission_queue {queue qu : RequestQueue} {bm bm' : BlockManager ε} {l : BudgetLoop ε}
    {visited : List SequenceGroup} {n : ℕ} (h : beforeAdmission S queue bm = (.ok (l, visited, n), qu, bm')) :
    qu = l.queue := by
  simp only [beforeAdmission] at h
  split at h
  · cases h
  · cases h
    rfl

section Schedule

variable {s₀ : CoreState ε} (h₀ : WellFormed S s₀) {l l' : BudgetLoop ε} {visited : List SequenceGroup}
  (h : Schedules S s₀ l l' visited)

include h

lemma Schedules.admission_queue : (beforeAdmission S s₀.queue s₀.blockManager).2.1 = l.queue := by
  obtain ⟨n, queue, bm, hb⟩ := h.before
  rw [hb]
  exact beforeAdmission_queue hb

include h₀

lemma Schedules.running_cases {rid : RequestId} (hrid : l'.queue.running.contains rid = true) :
    l.queue.running.contains rid = true ∨ s₀.queue.waiting.contains rid = true := by
  have hmoved := (h.moved h₀).running rid
  rw [h.waiting_eq h₀] at hmoved
  simp only [Dict.contains] at hrid ⊢
  cases hold : l.queue.running.get? rid with
  | some sg => exact Or.inl rfl
  | none =>
    refine Or.inr ?_
    rw [hold] at hmoved
    rw [hmoved, Option.orElse_eq_orElse, Option.orElse_eq_or, Option.none_or] at hrid
    split_ifs at hrid
    · simpa using hrid
    · cases hrid

lemma Schedules.no_live (hnil : l.queue.liveSeqs = []) (rid : RequestId) : l.queue.running.contains rid = false := by
  rw [Dict.contains, Option.isSome_eq_false_iff, Option.isNone_iff_eq_none, Option.eq_none_iff_forall_not_mem]
  intro sg hsg
  have hq := (h₀.reaches h.admitting.reach).queue
  obtain ⟨hid, -, q, hseqs, hl⟩ := hq.running rid sg hsg
  have hseq := hq.runningSeq_eq_some.mpr ⟨sg, hsg, hseqs⟩
  have hmem : q ∈ l.queue.liveSeqs := by
    rw [hq.mem_liveSeqs, hl.seqId, hid]
    exact hseq
  rw [hnil] at hmem
  cases hmem

lemma Schedules.gate (hstatic : S.config.staticBatchMode = true) :
    l'.queue = l.queue ∨ ∀ rid, l.queue.running.contains rid = false := by
  by_cases hnil : l.queue.liveSeqs = []
  · exact Or.inr (h.no_live h₀ hnil)
  · have hvisited := h.visited_eq
    rw [if_pos ⟨hstatic, hnil⟩] at hvisited
    have hvisits := h.visits
    rw [hvisited] at hvisits
    cases hvisits
    exact Or.inl rfl

end Schedule

lemma Steps.running {s s' : EngineState ε} {now : ℚ} {r : Except Exn ScheduleResult} (h : Steps S s now r s') :
    ∃ l l' visited, Schedules S (beginStep S s now).core l l' visited ∧
      ∀ rid, s'.queue.running.contains rid = l'.queue.running.contains rid := by
  cases h with
  | raised l l' visited err bm hsched => exact ⟨l, l', visited, hsched, fun _ => rfl⟩
  | done l l' visited queue bm hsched hexec =>
    refine ⟨l, l', visited, hsched, fun rid => ?_⟩
    rw [recordStep_queue]
    cases hexec with
    | kept => rfl
    | done bm output x queue hreach hready hrunning => simp only [Dict.contains, hrunning, Option.isSome_map]

section Step

variable {s : EngineState ε} (hw : WellFormed S s.core) (now : ℚ)

include hw

lemma beginStep_running {rid : RequestId} (h : (beginStep S s now).queue.running.contains rid = true) :
    s.queue.running.contains rid = true :=
  noAdmission_running hw (beginStep_refines hw now) h

lemma step_running : ∃ l l' visited, Schedules S (beginStep S s now).core l l' visited ∧
    ∀ rid, (LLMEngine.apply S s (.step now)).queue.running.contains rid = l'.queue.running.contains rid := by
  have hqueue : (LLMEngine.apply S s (.step now)).queue = (EngineCore.step S s now).2.queue :=
    LLMEngine.step_queue s now
  rw [hqueue]
  exact (step_steps hw now).running

lemma AdmittedBy.runs {rid : RequestId} (h : AdmittedBy S s now rid) :
    (LLMEngine.apply S s (.step now)).queue.running.contains rid = true := by
  obtain ⟨l, l', visited, hs, hrun⟩ := step_running hw now
  have hresult : schedule S (beginStep S s now).queue (beginStep S s now).blockManager =
      (.ok (l'.report l.queue.decodes.length), l'.queue, l'.blockManager) := hs.result
  have hr := h.running
  rw [hresult] at hr
  rw [hrun]
  exact hr

variable (hstatic : S.config.staticBatchMode = true)

include hstatic

lemma AdmittedBy.pool_empty {rid : RequestId} (h : AdmittedBy S s now rid) (other : RequestId) :
    (stillRunning S s now).contains other = false := by
  have hwb := beginStep_wellFormed hw now
  obtain ⟨l, l', visited, hs, hrun⟩ := step_running hw now
  have hqueue : stillRunning S s now = l.queue.running := congrArg RequestQueue.running hs.admission_queue
  rw [hqueue]
  rcases hs.gate hwb hstatic with hsame | hnone
  · -- A closed gate leaves the group waiting, and it cannot run at the same time.
    have hr := h.runs hw now
    rw [hrun, hsame, Dict.contains, Option.isSome_iff_exists] at hr
    obtain ⟨sg, hsg⟩ := hr
    have hwait := (hwb.reaches hs.admitting.reach).queue.waiting_of_running hsg
    have hw₀ := h.waiting
    simp only at hwait
    rw [hs.waiting_eq hwb] at hwait
    rw [Dict.contains] at hw₀
    change (beginStep S s now).queue.waiting.get? rid = none at hwait
    rw [hwait] at hw₀
    cases hw₀
  · exact hnone other

lemma step_batch :
    (∀ rid, (LLMEngine.apply S s (.step now)).queue.running.contains rid = true → s.queue.running.contains rid = true) ∨
      ∀ rid, (LLMEngine.apply S s (.step now)).queue.running.contains rid = true → AdmittedBy S s now rid := by
  have hwb := beginStep_wellFormed hw now
  obtain ⟨l, l', visited, hs, hrun⟩ := step_running hw now
  have hresult : schedule S (beginStep S s now).queue (beginStep S s now).blockManager =
      (.ok (l'.report l.queue.decodes.length), l'.queue, l'.blockManager) := hs.result
  rcases hs.gate hwb hstatic with hsame | hnone
  · refine Or.inl fun rid hrid => ?_
    apply beginStep_running hw now
    rw [hrun, hsame, hs.queue, Dict.contains, Option.isSome_iff_exists] at hrid
    obtain ⟨sg, hsg⟩ := hrid
    exact Dict.contains_of_get? ((finishLoop_running hwb).mp hsg).1
  · refine Or.inr fun rid hrid => ?_
    rw [hrun] at hrid
    rcases hs.running_cases hwb hrid with hold | hwait
    · rw [hnone] at hold
      cases hold
    · refine ⟨hwait, ?_⟩
      rw [hresult]
      exact hrid

end Step

lemma AdmittedBy.not_later {before later : List LLMEngine.Op} {now now' : ℚ} {rid : RequestId}
    (h : AdmittedBy S (LLMEngine.run S before) now rid) :
    ¬ AdmittedBy S (LLMEngine.run S (before ++ .step now :: later)) now' rid := by
  intro h'
  have hruns := h.runs (wellFormed_run S before) now
  rw [← LLMEngine.run_concat, Dict.contains, Option.isSome_iff_exists] at hruns
  obtain ⟨sg, hsg⟩ := hruns
  have hw := wellFormed_run S (before ++ [.step now])
  obtain ⟨hid, -, q, hseqs, hl⟩ := hw.queue.running rid sg hsg
  have hseq := hw.queue.runningSeq_eq_some.mpr ⟨sg, hsg, hseqs⟩
  have hreach := runFrom_refines hw later (runFrom_true (S := S) _ later)
  have hrun : (later.foldl (LLMEngine.apply S) (LLMEngine.run S (before ++ [.step now]))) =
      LLMEngine.run S (before ++ .step now :: later) := by
    simp only [LLMEngine.run, List.foldl_append, List.foldl_cons, List.foldl_nil]
  rw [hrun] at hreach
  have hbegin := beginStep_refines (c := {}) (wellFormed_run S (before ++ .step now :: later)) now'
  have hnone := Reaches.not_waiting hw (hreach.trans hbegin) hseq
  have hwait := h'.waiting
  rw [Dict.contains] at hwait
  change (beginStep S _ now').queue.waiting.get? rid = none at hnone
  rw [hnone] at hwait
  cases hwait

structure StaticBatches (S : Setup ε) (ops : List LLMEngine.Op) : Prop where
  one_call : (∃ rid, (LLMEngine.run S ops).queue.running.contains rid = true) →
    ∃ before now after, ops = before ++ .step now :: after ∧
      ∀ rid, (LLMEngine.run S ops).queue.running.contains rid = true →
        ∀ before' now' after', ops = before' ++ .step now' :: after' →
          (AdmittedBy S (LLMEngine.run S before') now' rid ↔ before' = before)
  admits_alone : ∀ now rid, AdmittedBy S (LLMEngine.run S ops) now rid →
    ∀ other, (stillRunning S (LLMEngine.run S ops) now).contains other = false

lemma apply_running {s : EngineState ε} (hw : WellFormed S s.core) {op : LLMEngine.Op}
    (hop : noAdmission.Apply S s op) {rid : RequestId}
    (h : (LLMEngine.apply S s op).queue.running.contains rid = true) : s.queue.running.contains rid = true :=
  noAdmission_running hw (apply_refines hw hop) h

lemma batch_run (hstatic : S.config.staticBatchMode = true) (ops : List LLMEngine.Op)
    (hne : ∃ rid, (LLMEngine.run S ops).queue.running.contains rid = true) :
    ∃ before now after, ops = before ++ .step now :: after ∧
      ∀ rid, (LLMEngine.run S ops).queue.running.contains rid = true → AdmittedBy S (LLMEngine.run S before) now rid := by
  induction ops using List.reverseRecOn with
  | nil =>
    obtain ⟨rid, hrid⟩ := hne
    cases hrid
  | append_singleton ops op ih =>
    have hw := wellFormed_run S ops
    rw [LLMEngine.run_concat] at hne ⊢
    have hkeep : (∀ rid, (LLMEngine.apply S (LLMEngine.run S ops) op).queue.running.contains rid = true →
        (LLMEngine.run S ops).queue.running.contains rid = true) →
        ∃ before now after, ops ++ [op] = before ++ .step now :: after ∧
          ∀ rid, (LLMEngine.apply S (LLMEngine.run S ops) op).queue.running.contains rid = true →
            AdmittedBy S (LLMEngine.run S before) now rid := by
      intro hsub
      obtain ⟨rid, hrid⟩ := hne
      obtain ⟨before, now, after, rfl, hadm⟩ := ih ⟨rid, hsub rid hrid⟩
      exact ⟨before, now, after ++ [op], by simp, fun rid hrid => hadm rid (hsub rid hrid)⟩
    cases op with
    | step now =>
      rcases step_batch hw now hstatic with hsub | hadm
      · exact hkeep hsub
      · exact ⟨ops, now, [], rfl, hadm⟩
    | addRequest prompt maxNewTokens now =>
      exact hkeep fun rid hrid => apply_running hw (by trivial) hrid
    | cancelRequest id =>
      exact hkeep fun rid hrid => apply_running hw (by trivial) hrid
    | checkTimeouts now =>
      exact hkeep fun rid hrid => apply_running hw (by trivial) hrid

theorem static_batching (S : Setup ε) (hstatic : S.config.staticBatchMode = true) (ops : List LLMEngine.Op) :
    StaticBatches S ops := by
  refine ⟨fun hne => ?_, fun now rid h => h.pool_empty (wellFormed_run S ops) now hstatic⟩
  obtain ⟨before, now, after, heq, hadm⟩ := batch_run hstatic ops hne
  refine ⟨before, now, after, heq, fun rid hrid before' now' after' heq' => ⟨fun h' => ?_, ?_⟩⟩
  · rw [heq, List.append_eq_append_iff] at heq'
    rcases heq' with ⟨mid, rfl, hmid⟩ | ⟨mid, rfl, hmid⟩
    · cases mid with
      | nil => simp
      | cons op mid =>
        cases hmid
        exact absurd h' (hadm rid hrid).not_later
    · cases mid with
      | nil => simp
      | cons op mid =>
        cases hmid
        exact absurd (hadm rid hrid) h'.not_later
  · rintro rfl
    obtain ⟨rfl, -⟩ : now = now' ∧ after = after' := by
      rw [heq'] at heq
      simpa using heq.symm
    exact hadm rid hrid

def staticSeats : Config :=
  { Config.default with
    staticBatchMode := true
    maxPrefillChunkSize := 2
    maxPrefillChunkSize_pos := Nat.two_pos }

theorem static_batching_two_batches : StaticBatches (fakeSetup staticSeats codeHash)
    [.addRequest ['a', 'b', 'c'] 1 0, .addRequest ['d'] 1 0, .step 0, .addRequest ['e'] 1 0, .step 0, .step 0] :=
  static_batching (fakeSetup staticSeats codeHash) rfl _

end MiniVllm
