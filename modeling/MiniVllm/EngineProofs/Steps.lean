import MiniVllm.EngineProofs.Requests
import MiniVllm.EngineProofs.Timeouts
import MiniVllm.SchedulerProofs.Filling

/-! Inversion of a whole engine step. -/

namespace MiniVllm

open EngineCore Scheduler Scheduler.BudgetLoop

variable {ε : Type} {S : Setup ε}

inductive Raises (S : Setup ε) (s : CoreState ε) (prefill decode : List Sequence) : Exn → Prop
  | outOfMemory (bm : BlockManager ε) (q : Sequence) (position : ℕ) (shared : Option ℕ)
      (hreach : Reaches S {} s ⟨s.queue, bm, s.seqGroupCount⟩)
      (hready : EnsureReady S.config s.queue bm q position)
      (hlen : position / S.config.blockSize = (bm.getBlockTable q.seqId).length)
      (hnone : ∀ p, bm.allocator.isFree p = false) :
      Raises S s prefill decode (.outOfMemory q.seqId position shared)
  | executor (bm : BlockManager ε) (err : Exn) (x : ε)
      (hreach : Reaches S {} s ⟨s.queue, bm, s.seqGroupCount⟩)
      (hready : BatchReady S.config s.queue bm prefill decode)
      (hexec : S.executor.execute (batchInput S.config bm prefill decode) bm = (.error err, bm.withListener x)) :
      Raises S s prefill decode err

lemma executeStep_raises {s : CoreState ε} (hw : WellFormed S s) {prefill decode : List Sequence} {err : Exn}
    {queue : RequestQueue} {bm : BlockManager ε}
    (hvisit : (prefill.isEmpty && decode.isEmpty) = false →
      ((({} : CallCondition ε)).visited S s).Execute S s.queue s.blockManager prefill decode)
    (h : executeStep S s.queue s.blockManager prefill decode = (.error err, queue, bm)) :
    Raises S s prefill decode err := by
  cases hempty : prefill.isEmpty && decode.isEmpty with
  | true =>
    simp only [executeStep, hempty, if_true] at h
    cases h
  | false =>
    obtain ⟨hensure, hbatch⟩ := hvisit hempty
    simp only [executeStep, hempty, Bool.false_eq_true, if_false] at h
    cases hloop : forEach (ensureStep S) s.blockManager (ensureCalls S.config prefill decode) with
    | mk r bm₁ =>
      rw [hloop] at hbatch
      simp only [hloop] at h
      cases r with
      | error err' =>
        cases h
        obtain ⟨bm₂, call, -, ⟨-, hreach, hready⟩, hcall⟩ := forEach_raises hensure hloop
        have hspec := (hw.reaches hreach).ensures hready
        simp only [ensureStep] at hcall
        generalize hr : bm₂.ensureBlock S.blockParams call.1 call.2 = r at hspec hcall
        obtain ⟨r, bm₃⟩ := r
        cases hspec with
        | covered => cases hcall
        | hit => cases hcall
        | miss => cases hcall
        | outOfMemory hlen hmiss hnone =>
          cases hcall
          exact .outOfMemory _ call.1 call.2 _ hreach hready hlen hnone
      | ok u =>
        obtain ⟨-, hreach, hready⟩ := hbatch
        have hwb := hw.reaches hreach
        have hspec := runBatch_spec hwb.queue hready (hwb.contains_batch hready)
        simp only [h] at hspec
        cases hspec with
        | failed err' x hexec => exact .executor bm₁ err x hreach hready hexec

inductive Steps (S : Setup ε) (s : EngineState ε) (now : ℚ) : Except Exn ScheduleResult → EngineState ε → Prop
  | raised (l l' : BudgetLoop ε) (visited : List SequenceGroup) (err : Exn) (bm : BlockManager ε)
      (hsched : Schedules S (beginStep S s now).core l l' visited)
      (hexec : executeStep S l'.queue l'.blockManager
          (prefillSeqs l'.queue (l'.report l.queue.decodes.length))
          (decodeSeqs l'.queue (l'.report l.queue.decodes.length)) = (.error err, l'.queue, bm))
      (hcause : Raises S ⟨l'.queue, l'.blockManager, s.seqGroupCount⟩
          (prefillSeqs l'.queue (l'.report l.queue.decodes.length))
          (decodeSeqs l'.queue (l'.report l.queue.decodes.length)) err) :
      Steps S s now (.error err) { beginStep S s now with queue := l'.queue, blockManager := bm }
  | done (l l' : BudgetLoop ε) (visited : List SequenceGroup) (queue : RequestQueue) (bm : BlockManager ε)
      (hsched : Schedules S (beginStep S s now).core l l' visited)
      (hexec : Executes S {} ⟨l'.queue, l'.blockManager, s.seqGroupCount⟩
          (prefillSeqs l'.queue (l'.report l.queue.decodes.length))
          (decodeSeqs l'.queue (l'.report l.queue.decodes.length)) (.ok ()) queue bm)
      (hframe : queue.waiting = l'.queue.waiting ∧ queue.finished = l'.queue.finished ∧
        queue.rejected = l'.queue.rejected)
      (hrun : executeStep S l'.queue l'.blockManager (prefillSeqs l'.queue (l'.report l.queue.decodes.length))
        (decodeSeqs l'.queue (l'.report l.queue.decodes.length)) = (.ok (), queue, bm)) :
      Steps S s now (.ok (l'.report l.queue.decodes.length))
        (recordStep (cleanupFinished S { beginStep S s now with queue := queue, blockManager := bm }
          (l'.report l.queue.decodes.length)) (l'.report l.queue.decodes.length))

lemma LLMEngine.step_result (s : EngineState ε) (now : ℚ) :
    (LLMEngine.step S s now).1 = (EngineCore.step S s now).1 ∧
      (LLMEngine.step S s now).2.core = (EngineCore.step S s now).2.core := by
  simp only [LLMEngine.step]
  split
  · rename_i err s₁ he
    rw [he]
    exact ⟨rfl, rfl⟩
  · rename_i result s₁ he
    rw [he]
    exact ⟨rfl, captureOutputs_core s₁ result⟩

lemma LLMEngine.step_queue (s : EngineState ε) (now : ℚ) :
    (LLMEngine.step S s now).2.queue = (EngineCore.step S s now).2.queue := by
  have hcore := (step_result (S := S) s now).2
  rw [EngineState.core, EngineState.core, CoreState.mk.injEq] at hcore
  exact hcore.1

lemma LLMEngine.step_count (s : EngineState ε) (now : ℚ) :
    (LLMEngine.step S s now).2.seqGroupCount = s.seqGroupCount := by
  have hcore := (step_result (S := S) s now).2
  have hsame : (LLMEngine.step S s now).2.seqGroupCount = (EngineCore.step S s now).2.seqGroupCount := by
    rw [EngineState.core, EngineState.core, CoreState.mk.injEq] at hcore
    exact hcore.2.2
  rw [hsame, step_seqGroupCount]

lemma runBatch_frame (queue : RequestQueue) (bm : BlockManager ε) (prefill decode : List Sequence) :
    (runBatch S queue bm prefill decode).2.1.waiting = queue.waiting ∧
      (runBatch S queue bm prefill decode).2.1.finished = queue.finished ∧
      (runBatch S queue bm prefill decode).2.1.rejected = queue.rejected := by
  simp only [runBatch]
  split
  · exact ⟨rfl, rfl, rfl⟩
  · split
    · exact ⟨rfl, rfl, rfl⟩
    · exact applyItems_frame _ _ _

lemma executeStep_frame (queue : RequestQueue) (bm : BlockManager ε) (prefill decode : List Sequence) :
    (executeStep S queue bm prefill decode).2.1.waiting = queue.waiting ∧
      (executeStep S queue bm prefill decode).2.1.finished = queue.finished ∧
      (executeStep S queue bm prefill decode).2.1.rejected = queue.rejected := by
  simp only [executeStep]
  split_ifs
  · exact ⟨rfl, rfl, rfl⟩
  · split
    · exact ⟨rfl, rfl, rfl⟩
    · exact runBatch_frame _ _ _ _

lemma beginStep_wellFormed {s : EngineState ε} (h : WellFormed S s.core) (now : ℚ) :
    WellFormed S (beginStep S s now).core :=
  h.reaches (beginStep_refines (c := {}) h now)

lemma beginStep_seqGroupCount (s : EngineState ε) (now : ℚ) :
    (beginStep S s now).seqGroupCount = s.seqGroupCount :=
  checkTimeouts_seqGroupCount S _ now

lemma Schedules.visits_execute {s₀ : CoreState ε} (h₀ : WellFormed S s₀) {l l' : BudgetLoop ε}
    {visited : List SequenceGroup} (h : Schedules S s₀ l l' visited) :
    ((prefillSeqs l'.queue (l'.report l.queue.decodes.length)).isEmpty &&
        (decodeSeqs l'.queue (l'.report l.queue.decodes.length)).isEmpty) = false →
      (({} : CallCondition ε).visited S ⟨l'.queue, l'.blockManager, s₀.seqGroupCount⟩).Execute S l'.queue
        l'.blockManager (prefillSeqs l'.queue (l'.report l.queue.decodes.length))
        (decodeSeqs l'.queue (l'.report l.queue.decodes.length)) := by
  have hw := h.wellFormed h₀
  have hsch : Scheduled l'.queue (l'.report l.queue.decodes.length).scheduledPrefillGroups
      (l'.report l.queue.decodes.length).scheduledDecodeGroups := h.done.scheduled
  apply (executeStep_refines (c := {}) hw .refl _ _ (nodup_batch hw.queue hsch) _).2
  · exact fun q hm => mem_prefillSeqs hw.queue hm
  · exact fun q hm => mem_decodeSeqs hw.queue hsch hm
  · exact fun _ => execute_of_forall (fun _ _ _ _ => trivial) (fun _ _ _ _ => trivial) _ _ _ _

theorem step_steps {s : EngineState ε} (h : WellFormed S s.core) (now : ℚ) :
    Steps S s now (EngineCore.step S s now).1 (EngineCore.step S s now).2 := by
  have hwb := beginStep_wellFormed h now
  have hcount : (beginStep S s now).core.seqGroupCount = s.seqGroupCount := beginStep_seqGroupCount s now
  obtain ⟨l, l', visited, hs⟩ := schedule_spec hwb
  have hresult : Scheduler.schedule S (beginStep S s now).queue (beginStep S s now).blockManager =
      (.ok (l'.report l.queue.decodes.length), l'.queue, l'.blockManager) := hs.result
  have hw := hs.wellFormed hwb
  have hvisit := hs.visits_execute hwb
  rw [hcount] at hw hvisit
  have hexec := executeStep_spec hw hvisit
  have hframe := executeStep_frame (S := S) l'.queue l'.blockManager
    (prefillSeqs l'.queue (l'.report l.queue.decodes.length)) (decodeSeqs l'.queue (l'.report l.queue.decodes.length))
  simp only [EngineCore.step, hresult]
  cases he : executeStep S l'.queue l'.blockManager (prefillSeqs l'.queue (l'.report l.queue.decodes.length))
      (decodeSeqs l'.queue (l'.report l.queue.decodes.length)) with
  | mk r rest =>
    obtain ⟨queue, bm⟩ := rest
    simp only [he] at hexec hframe
    cases r with
    | error err =>
      have hqueue : queue = l'.queue := by
        cases hexec
        rfl
      rw [hqueue] at he
      rw [hqueue]
      exact .raised l l' visited err bm hs he (executeStep_raises hw hvisit he)
    | ok u => exact .done l l' visited queue bm hs hexec hframe he

lemma LLMEngine.steps_of_ok {s s' : EngineState ε} (h : WellFormed S s.core) {now : ℚ} {result : ScheduleResult}
    (hstep : LLMEngine.step S s now = (.ok result, s')) :
    ∃ s₁, Steps S s now (.ok result) s₁ ∧ s'.core = s₁.core := by
  have hsteps := step_steps h now
  obtain ⟨hresult, hcore⟩ := LLMEngine.step_result (S := S) s now
  rw [hstep] at hresult hcore
  rw [← hresult] at hsteps
  exact ⟨_, hsteps, hcore⟩

lemma Steps.schedules {s s₁ : EngineState ε} {now : ℚ} {result : ScheduleResult}
    (hsteps : Steps S s now (.ok result) s₁) (rid : RequestId) :
    ∃ l l' visited, Schedules S (beginStep S s now).core l l' visited ∧
      (Dead s₁.queue rid ↔ Dead l'.queue rid) ∧ s₁.queue.finished = l'.queue.finished := by
  cases hsteps with
  | done l l' visited queue bm hsched hexec hframe =>
    rw [recordStep_queue]
    dsimp only
    refine ⟨l, l', visited, hsched, ?_, hframe.2.1⟩
    have hrun : queue.running.get? rid = none ↔ l'.queue.running.get? rid = none := by
      cases hexec with
      | kept => exact Iff.rfl
      | done bm output x queue hreach hready hrunning =>
        rw [hrunning, Option.map_eq_none_iff]
    constructor
    · rintro ⟨hwait, hr⟩
      rw [hframe.1] at hwait
      exact ⟨hwait, hrun.mp hr⟩
    · rintro ⟨hwait, hr⟩
      rw [← hframe.1] at hwait
      exact ⟨hwait, hrun.mpr hr⟩

end MiniVllm
