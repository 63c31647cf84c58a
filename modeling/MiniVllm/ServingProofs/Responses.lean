import MiniVllm.EngineProofs.Reports
import MiniVllm.EngineProofs.Termination
import MiniVllm.ServingProofs.Calls

/-! A response without an error, and the request that it answers. -/

namespace MiniVllm

open EngineCore Scheduler Scheduler.BudgetLoop

variable {ε : Type} {S : Setup ε}

/-- The schedule reaches the waiting request with a seat left, too few tokens for its first chunk, and more uncached
tokens than a step may batch. -/
def RejectedNext (S : Setup ε) (s₀ : CoreState ε) (rid : RequestId) : Prop :=
  ∃ sg, s₀.queue.waiting.get? rid = some sg ∧ AdmissionOpen S s₀.queue ∧ 0 < (turnBudgets S s₀ sg).2 ∧
    (turnBudgets S s₀ sg).1 < admissionCost S (dueFreed S s₀) sg ∧
      S.config.maxNumBatchedTokens < uncachedTokens S (dueFreed S s₀) sg

def retains (S : Setup ε) (rid : RequestId) : StepCondition ε := fun s now =>
  ¬ Expires S s.queue now rid ∧ ¬ RejectedNext S (beginStep S s now).core rid

def Answered (S : Setup ε) (s : EngineState ε) (rid : RequestId) : Prop :=
  ∃ sg q, s.queue.finished.get? rid = some sg ∧ sg.seqs = [q] ∧ q.status = .finished ∧
    s.outputs.get? rid = some (S.executor.detokenize q.outputTokenIds)

section Schedule

variable {s₀ : CoreState ε} (h₀ : WellFormed S s₀) {rid : RequestId}

include h₀

lemma rejects_iff {sg : SequenceGroup} (hsg : s₀.queue.waiting.get? rid = some sg) :
    Rejects S s₀ sg ↔ RejectedNext S s₀ rid := by
  have hmem : sg ∈ s₀.queue.waiting.values := (s₀.queue.waiting.mem_values sg).mpr ⟨rid, hsg⟩
  rw [(schedule_decides h₀ hmem).1, admissionOf_eq_reject]
  constructor
  · exact fun h => ⟨sg, hsg, h⟩
  · rintro ⟨sg', hsg', h⟩
    obtain rfl : sg = sg' := Option.some.inj (hsg.symm.trans hsg')
    exact h

lemma dueIds_of_waiting (hwait : s₀.queue.waiting.get? rid ≠ none) : rid ∉ dueIds s₀.queue.running.values := by
  rw [mem_dueIds_running h₀]
  rintro ⟨sg, hsg, -⟩
  rw [(h₀.queue.waiting_only rid hwait).1] at hsg
  cases hsg

variable {l l' : BudgetLoop ε} {visited : List SequenceGroup} (h : Schedules S s₀ l l' visited)

include h

lemma Schedules.waiting_cases {sg : SequenceGroup} (hsg : s₀.queue.waiting.get? rid = some sg) :
    (RejectedNext S s₀ rid → Lost l'.queue rid) ∧ (¬ RejectedNext S s₀ rid → ¬ Dead l'.queue rid) := by
  have hwait : s₀.queue.waiting.get? rid ≠ none := by
    rw [hsg]
    simp
  have hq : QueueFormed l'.queue s₀.seqGroupCount := (h.wellFormed h₀).queue
  have hid := (h₀.queue.waiting rid sg hsg).1
  have hfin : l'.queue.finished.get? rid = none := by
    rw [h.finished_kept h₀ (dueIds_of_waiting h₀ hwait)]
    exact (h₀.queue.waiting_only rid hwait).2.1
  rw [← rejects_iff h₀ hsg]
  simp only [Rejects, h.result, hid]
  constructor
  · intro hrej
    obtain ⟨hw, hr⟩ := hq.not_live_of_rejected hrej
    exact ⟨⟨hw, hr⟩, fun g hg => by cases hfin.symm.trans hg⟩
  · intro hrej hdead
    obtain ⟨p, hp⟩ := (h.filings h₀).placed ⟨.waiting, Dict.contains_of_get? hsg⟩
    have hrej' : l'.queue.rejected.get? rid = none := not_not.mp hrej
    cases p with
    | waiting => simp [RequestQueue.pool, Dict.contains, hdead.waiting] at hp
    | running => simp [RequestQueue.pool, Dict.contains, hdead.running] at hp
    | finished => simp [RequestQueue.pool, Dict.contains, hfin] at hp
    | rejected => simp [RequestQueue.pool, Dict.contains, hrej'] at hp

lemma Schedules.running_kept {sg : SequenceGroup} (hsg : s₀.queue.running.get? rid = some sg)
    (hd : rid ∉ dueIds s₀.queue.running.values) : ¬ Dead l'.queue rid := by
  have hdue : sg.due = false := by
    by_contra hc
    exact hd ((mem_dueIds_running h₀).mpr ⟨sg, hsg, (Bool.not_eq_false _).mp hc⟩)
  have hrun := h.visits.frame.2.2.2.1 rid sg (by rw [h.queue]; exact (finishLoop_running h₀).mpr ⟨hsg, hdue⟩)
  intro hdead
  cases hdead.running.symm.trans hrun

end Schedule

section Step

variable {s s₁ : EngineState ε} (hw : WellFormed S s.core) {now : ℚ} {result : ScheduleResult}
  (hsteps : Steps S s now (.ok result) s₁) (rid : RequestId)

include hw hsteps

omit hw in
lemma Steps.outputs : s₁.outputs = s.outputs := by
  cases hsteps with
  | done l l' visited queue bm =>
    have hclean := (cleanupFinished_frame S { beginStep S s now with queue := queue, blockManager := bm }
      (l'.report l.queue.decodes.length)).2.2
    exact hclean.trans (checkTimeouts_outputs _ now)

lemma Steps.lost (h : ¬ retains S rid s now) : Lost s₁.queue rid := by
  have hwb := beginStep_wellFormed hw now
  have hexpires := (checkTimeouts_at (s := { s with stepCount := s.stepCount + 1 }) hw now rid).2
  rw [retains, ← not_or, not_not] at h
  rcases h with he | hrej
  · have hlost : Lost (beginStep S s now).queue rid := hexpires he
    exact ((hsteps.filings hw).sameAt hlost.toDead).lost hlost
  · obtain ⟨l, l', visited, hsched, hdead, hfin⟩ := hsteps.schedules rid
    obtain ⟨sg, hsg, -⟩ := id hrej
    have hlost := (hsched.waiting_cases hwb hsg).1 hrej
    refine ⟨hdead.mpr hlost.toDead, ?_⟩
    rw [hfin]
    exact hlost.unfinished

lemma Steps.answered (h : retains S rid s now) (hs : ¬ Dead s.queue rid ∨ Answered S s rid) :
    ¬ Dead s₁.queue rid ∨ Answered S (LLMEngine.captureOutputs S s₁ result) rid := by
  have hwb := beginStep_wellFormed hw now
  obtain ⟨hids, hretired⟩ := hsteps.finishedGroups hw
  obtain ⟨hkeep, hput⟩ := captureOutputs_get (S := S) s₁ result hretired rid
  have hqueue : (LLMEngine.captureOutputs S s₁ result).queue = s₁.queue :=
    congrArg CoreState.queue (captureOutputs_core s₁ result)
  have hsame : SameAt s.queue (beginStep S s now).queue rid :=
    (checkTimeouts_at (s := { s with stepCount := s.stepCount + 1 }) hw now rid).1 h.1
  obtain ⟨l, l', visited, hsched, hdead, hfin⟩ := hsteps.schedules rid
  by_cases hdue : rid ∈ dueIds (beginStep S s now).core.queue.running.values
  · right
    obtain ⟨-, sg, q, hsg, hq, hst, -⟩ := hsched.finished_due hwb hdue
    rw [← hfin] at hsg
    refine ⟨sg, q, ?_, hq, hst, ?_⟩
    · rw [hqueue]
      exact hsg
    · exact hput (by rw [hids]; exact hdue) sg q hsg hq
  · rcases hs with hlive | ⟨sg, q, hsg, hq, hst, htext⟩
    · left
      rw [hdead]
      cases hwait : (beginStep S s now).core.queue.waiting.get? rid with
      | some sg => exact (hsched.waiting_cases hwb hwait).2 h.2
      | none =>
        cases hrun : (beginStep S s now).core.queue.running.get? rid with
        | some sg => exact hsched.running_kept hwb hrun hdue
        | none => exact absurd ⟨hsame.waiting.symm.trans hwait, hsame.running.symm.trans hrun⟩ hlive
    · right
      have hds : Dead s.queue rid := hw.queue.dead_of_finished hsg
      have hat := hsame.trans ((hsteps.filings hw).sameAt (hsame.dead hds))
      refine ⟨sg, q, ?_, hq, hst, ?_⟩
      · rw [hqueue, hat.finished]
        exact hsg
      · rw [hkeep (by rw [hids]; exact hdue), hsteps.outputs]
        exact htext

end Step

lemma runUntilDone_answers (rid : RequestId) (readings : List ℚ) {s s' : EngineState ε} (hw : WellFormed S s.core)
    {outputs : Dict RequestId (List Char)}
    (h : LLMEngine.runUntilDone S readings s = (some (.ok outputs), s')) :
    outputs = s'.outputs ∧ (Lost s.queue rid → Lost s'.queue rid) ∧
      (¬ (retains S rid).Loop S readings s → Lost s'.queue rid) ∧
      (¬ Dead s.queue rid ∨ Answered S s rid → (retains S rid).Loop S readings s → Answered S s' rid) := by
  induction readings generalizing s with
  | nil => cases h
  | cons now readings ih =>
    have hsteps := step_steps hw now
    have hfilings := EngineCore.step_filings hw now
    have hreach : Reaches S {} s.core (EngineCore.step S s now).2.core := (step_refines hw (step_true s now)).1
    simp only [LLMEngine.runUntilDone, LLMEngine.step] at h
    simp only [StepCondition.Loop, LLMEngine.step]
    generalize EngineCore.step S s now = out at hsteps hfilings hreach h ⊢
    obtain ⟨r, s₁⟩ := out
    cases r with
    | error err => cases h
    | ok result =>
      simp only at hsteps hfilings hreach h ⊢
      have hcore := captureOutputs_core (S := S) s₁ result
      have hqueue : (LLMEngine.captureOutputs S s₁ result).queue = s₁.queue := congrArg CoreState.queue hcore
      have hnext := hsteps.answered hw rid
      have hlost := hsteps.lost hw rid
      have hstay : Lost s.queue rid → Lost s₁.queue rid := fun hl => (hfilings.sameAt hl.toDead).lost hl
      rw [← hqueue] at hnext hlost hstay
      rw [← hcore] at hreach
      generalize LLMEngine.captureOutputs S s₁ result = s₂ at h hnext hlost hstay hreach ⊢
      by_cases hend : s₂.queue.numWaiting = 0 ∧ s₂.queue.numRunning = 0
      · rw [if_pos hend] at h
        cases h
        obtain ⟨hwait, hrun⟩ := not_live_of_empty hend.1 hend.2 rid
        refine ⟨rfl, hstay, fun hr => hlost fun h => hr ⟨h, Or.inl hend⟩, fun hs hr => ?_⟩
        exact (hnext hr.1 hs).resolve_left (not_not.mpr ⟨hwait, hrun⟩)
      · rw [if_neg hend] at h
        obtain ⟨hout, hkeep, hlose, hanswer⟩ := ih (hw.reaches hreach) h
        refine ⟨hout, fun hl => hkeep (hstay hl), fun hr => ?_, fun hs hr => ?_⟩
        · by_cases hnow : retains S rid s now
          · exact hlose fun hrest => hr ⟨hnow, Or.inr hrest⟩
          · exact hkeep (hlost hnow)
        · exact hanswer (hnext hr.1 hs) (hr.2.resolve_left hend)

namespace ServingLayer

def AnsweredWith (S : Setup ε) (s : ServingState ε) (rid : RequestId) (text : List Char) : Prop :=
  ∃ sg q, s.engine.queue.finished.get? rid = some sg ∧ sg.seqs = [q] ∧ q.status = .finished ∧
    text = S.executor.detokenize q.outputTokenIds

theorem generate_answers_iff (S : Setup ε) (calls : List Call) (prompt : List Char) (maxTokens : ℤ) (stream : Bool)
    (trackingId : TrackingId) (clock : Clock) (readings : List ℚ) (response : ServingResponse)
    (hreturn : (generate S (run S calls) prompt maxTokens stream trackingId clock readings).1 = some (.ok response))
    (herror : response.error = none) :
    AnsweredWith S (generate S (run S calls) prompt maxTokens stream trackingId clock readings).2
        (run S calls).engine.seqGroupCount response.text ↔
      (retains S (run S calls).engine.seqGroupCount).Loop S readings
        (generateGates S (run S calls) prompt maxTokens stream trackingId clock).2.engine := by
  have hw := wellFormed_run S calls
  generalize run S calls = s at hreturn hw ⊢
  generalize hs' : generate S s prompt maxTokens stream trackingId clock readings = out at hreturn ⊢
  obtain ⟨answer, s'⟩ := out
  obtain rfl : answer = some (.ok response) := hreturn
  have hgates := generateGates_spec (S := S) s prompt maxTokens stream trackingId clock
  cases hg : generateGates S s prompt maxTokens stream trackingId clock with
  | mk r sg =>
  rw [hg] at hgates
  have hreturned : ∀ engineRid, r = .ok engineRid → ∃ outputs,
      LLMEngine.runUntilDone S readings sg.engine = (some (.ok outputs), s'.engine) ∧
        response.text = (outputs.get? engineRid).getD [] := fun _ he => generate_returned (he ▸ hg) hs'
  simp only [generate, hg] at hs'
  cases hgates with
  | refused response' _ hsome hcore =>
    cases hs'
    rw [herror] at hsome
    cases hsome
  | submitted s₁ hcheck hcore =>
    obtain ⟨outputs, hrun, htext⟩ := hreturned _ rfl
    have hcount : s₁.engine.seqGroupCount = s.engine.seqGroupCount := congrArg CoreState.seqGroupCount hcore
    have hws : WellFormed S (submit S s₁ prompt maxTokens clock).engine.core := by
      rw [← hcore] at hw
      exact submit_wellFormed hw prompt maxTokens clock
    have hlive : ¬ Dead (submit S s₁ prompt maxTokens clock).engine.queue s.engine.seqGroupCount := by
      rw [← hcount]
      exact fun hdead => submit_live s₁ prompt maxTokens clock hdead.waiting
    obtain ⟨rfl, -, hlose, hanswer⟩ := runUntilDone_answers s.engine.seqGroupCount readings hws hrun
    constructor
    · rintro ⟨sg, q, hsg, hq, hst, -⟩
      by_contra hr
      exact (hlose hr).unfinished sg hsg q (by simp [hq]) hst
    · intro hr
      obtain ⟨sg, q, hsg, hq, hst, hout⟩ := hanswer (Or.inl hlive) hr
      refine ⟨sg, q, hsg, hq, hst, ?_⟩
      rw [htext, hout, Option.getD_some]

def openStream : List Call := [.generateStream ['a', 'b'] 2 3 {}]

theorem generate_answers_iff_beside_stream :
    AnsweredWith oneTokenSetup
        (generate oneTokenSetup (run oneTokenSetup openStream) ['c'] 1 true 7 {} (List.replicate 6 0)).2
        (run oneTokenSetup openStream).engine.seqGroupCount ['!'] ↔
      (retains oneTokenSetup (run oneTokenSetup openStream).engine.seqGroupCount).Loop oneTokenSetup
        (List.replicate 6 0)
        (generateGates oneTokenSetup (run oneTokenSetup openStream) ['c'] 1 true 7 {}).2.engine :=
  generate_answers_iff oneTokenSetup openStream ['c'] 1 true 7 {} (List.replicate 6 0)
    { requestId := 7, text := ['!'] } (by decide +kernel) rfl

theorem rejected_without_error : ¬ ∀ (config : Config) (blockHash : List ℕ → ℤ) (calls : List Call)
    (prompt : List Char) (maxTokens : ℤ) (stream : Bool) (trackingId : TrackingId) (clock : Clock)
    (readings : List ℚ) (response : ServingResponse),
    (generate (fakeSetup config blockHash) (run (fakeSetup config blockHash) calls) prompt maxTokens stream trackingId
        clock readings).1 = some (.ok response) → response.error = none →
      AnsweredWith (fakeSetup config blockHash)
        (generate (fakeSetup config blockHash) (run (fakeSetup config blockHash) calls) prompt maxTokens stream
          trackingId clock readings).2
        (run (fakeSetup config blockHash) calls).engine.seqGroupCount response.text := by
  intro h
  obtain ⟨sg, q, hsg, -⟩ := h wholePrompts codeHash [] ['a', 'b'] 1 false 7 {} [0] { requestId := 7, text := [] }
    (by decide +kernel) rfl
  have hnone : (generate (fakeSetup wholePrompts codeHash) (run (fakeSetup wholePrompts codeHash) []) ['a', 'b'] 1
      false 7 {} [0]).2.engine.queue.finished.get?
        (run (fakeSetup wholePrompts codeHash) []).engine.seqGroupCount = none := by
    decide +kernel
  cases hnone.symm.trans hsg

end ServingLayer

end MiniVllm
