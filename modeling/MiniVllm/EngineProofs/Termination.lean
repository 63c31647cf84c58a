import MiniVllm.EngineProofs.Pools
import MiniVllm.EngineProofs.Work
import MiniVllm.ExecutorProofs.Reliable

/-! `run_until_done` terminates and serves every request, when prompts fit and no step raises. -/

namespace MiniVllm

open EngineCore Scheduler Scheduler.BudgetLoop

variable {ε : Type} {S : Setup ε}

def Untimed (S : Setup ε) : StepCondition ε :=
  fun s now => expired S now s.queue.running = [] ∧ expired S now s.queue.waiting = []

def OutOfMemory {α : Type} : Except Exn α → Prop
  | .error (.outOfMemory _ _ _) => True
  | _ => False

/-- No timeout fires and the step does not run out of blocks. -/
def smooth (S : Setup ε) : StepCondition ε := fun s now => Untimed S s now ∧ ¬ OutOfMemory (LLMEngine.step S s now).1

lemma beginStep_untimed {s : EngineState ε} {now : ℚ} (h : Untimed S s now) :
    beginStep S s now = { s with stepCount := s.stepCount + 1 } := by
  simp only [beginStep, checkTimeouts, h.1, h.2, List.map_nil, List.append_nil, List.foldl_nil]

section Scheduled

variable {s₀ : CoreState ε} (h₀ : WellFormed S s₀) {l l' : BudgetLoop ε} {visited : List SequenceGroup}
  (h : Schedules S s₀ l l' visited)

include h₀ h

lemma Schedules.livePrompts {P : List ℕ → Prop} (hp : LivePrompts P s₀.queue) : LivePrompts P l'.queue := by
  have hl : LivePrompts P (⟨l'.queue, l'.blockManager, s₀.seqGroupCount⟩ : CoreState ε).queue :=
    hp.reaches h₀ h.done.reach rfl
  exact hl

lemma Schedules.work_le : l'.queue.work ≤ s₀.queue.work ∧
    ((∃ sg ∈ s₀.queue.running.values, sg.due = true) → l'.queue.work < s₀.queue.work) := by
  have hvisits : l'.queue.work ≤ l.queue.work := by
    refine h.visits.work fun sg hsg => ?_
    rw [h.visited_open h₀] at hsg
    split_ifs at hsg
    · obtain ⟨rid, hg⟩ := (s₀.queue.waiting.mem_values sg).mp hsg
      exact (h₀.queue.waiting rid sg hg).2.2
    · cases hsg
  obtain ⟨hle, hlt⟩ := finishGroups_work h₀ (Finishing.start h₀)
  have hfinish : l.queue.work = (finishLoop S s₀.queue s₀.blockManager).queue.work := by rw [h.queue]
  rw [hfinish] at hvisits
  exact ⟨hvisits.trans hle, fun hdue => hvisits.trans_lt (hlt hdue)⟩

lemma Schedules.scheduled_seqs
    (hs : l'.result.scheduledPrefillGroups ≠ [] ∨ l'.result.scheduledDecodeGroups ≠ []) (n : ℕ) :
    prefillSeqs l'.queue (l'.report n) ++ decodeSeqs l'.queue (l'.report n) ≠ [] := by
  have hq : QueueFormed l'.queue s₀.seqGroupCount := (h.wellFormed h₀).queue
  rcases hs with hs | hs
  · obtain ⟨rid, hm⟩ := List.exists_mem_of_ne_nil _ hs
    obtain ⟨q, hr, hst⟩ := h.done.scheduled.prefill rid hm
    refine List.ne_nil_of_mem (a := q) (List.mem_append_left _ (List.mem_filter.mpr ⟨mem_scheduledSeqs hq hm hr, ?_⟩))
    simpa using hst
  · obtain ⟨rid, hm⟩ := List.exists_mem_of_ne_nil _ hs
    obtain ⟨q, hr, -⟩ := h.done.scheduled.decode rid hm
    exact List.ne_nil_of_mem (a := q) (List.mem_append_right _ (mem_scheduledSeqs hq hm hr))

end Scheduled

section Step

variable {s : EngineState ε} (hw : WellFormed S s.core) {now : ℚ}

include hw

lemma step_ok (hexec : Reliable S) (hne : LivePrompts (· ≠ []) s.queue) (hsmooth : smooth S s now) :
    ∃ result, (EngineCore.step S s now).1 = .ok result := by
  have hwb := beginStep_wellFormed hw now
  have hcount := beginStep_seqGroupCount (S := S) s now
  have hqueue : (beginStep S s now).core.queue = s.queue := by rw [beginStep_untimed hsmooth.1]; rfl
  have hraise := hsmooth.2
  rw [(LLMEngine.step_result s now).1] at hraise
  have hsteps := step_steps hw now
  generalize (EngineCore.step S s now).1 = r at hsteps hraise
  generalize (EngineCore.step S s now).2 = s' at hsteps
  cases hsteps with
  | done => exact ⟨_, rfl⟩
  | raised l l' visited err bm hsched he hcause =>
    exfalso
    cases hcause with
    | outOfMemory bm q position shared => exact hraise trivial
    | executor bm err x hreach hready hfail =>
      have hlive : LivePrompts (· ≠ []) l'.queue := by
        refine hsched.livePrompts hwb ?_
        rw [hqueue]
        exact hne
      have hwl : WellFormed S ⟨l'.queue, l'.blockManager, s.seqGroupCount⟩ := by
        rw [← hcount]
        exact hsched.wellFormed hwb
      obtain ⟨output, hout⟩ := hexec ⟨l'.queue, bm, s.seqGroupCount⟩ _ _ (hwl.reaches hreach) hready fun q hq => by
        obtain ⟨sg, hsg, -, -, hl⟩ := hwl.queue.runningSeq_group (hready.prefill_live q hq).1
        rw [hl.prompt]
        exact hlive _ sg (Or.inr hsg)
      rw [hfail] at hout
      cases hout

theorem step_work (hchunked : S.config.chunkedPrefillEnabled = true)
    (hfits : LivePrompts (FirstChunkFits S.config) s.queue) (huntimed : Untimed S s now) {result : ScheduleResult}
    (hok : (EngineCore.step S s now).1 = .ok result)
    (hlive : s.queue.waiting.values ≠ [] ∨ s.queue.running.values ≠ []) :
    (EngineCore.step S s now).2.queue.work < s.queue.work := by
  have hwb := beginStep_wellFormed hw now
  have hcount := beginStep_seqGroupCount (S := S) s now
  have hqueue : (beginStep S s now).core.queue = s.queue := by rw [beginStep_untimed huntimed]; rfl
  have hsteps := step_steps hw now
  generalize (EngineCore.step S s now).1 = r at hsteps hok
  generalize (EngineCore.step S s now).2 = s' at hsteps ⊢
  cases hsteps with
  | raised => cases hok
  | done l l' visited queue bm hsched hexec hframe hrun =>
    have hwl : WellFormed S ⟨l'.queue, l'.blockManager, s.seqGroupCount⟩ := by
      rw [← hcount]
      exact hsched.wellFormed hwb
    rw [← hqueue] at hfits hlive ⊢
    have hne : LivePrompts (· ≠ []) l'.queue := fun rid sg hg => (hsched.livePrompts hwb hfits rid sg hg).1
    obtain ⟨hle, hlt⟩ := hsched.work_le hwb
    obtain ⟨hble, hblt⟩ := hexec.work hwl hne hframe.1
    rw [recordStep_queue]
    dsimp only
    by_cases hdue : ∃ sg ∈ (beginStep S s now).core.queue.running.values, sg.due = true
    · exact hble.trans_lt (hlt hdue)
    · have hnone : ∀ sg ∈ (beginStep S s now).core.queue.running.values, sg.due = false := by
        intro sg hsg
        by_contra hd
        exact hdue ⟨sg, hsg, (Bool.not_eq_false _).mp hd⟩
      have hprogress := hsched.progress hwb hchunked hfits hnone hlive
      exact (hblt (hsched.scheduled_seqs hwb hprogress _)).trans_le hle

end Step

def InSomePool (qu : RequestQueue) (rid : RequestId) : Prop := ∃ p, (qu.pool p).contains rid = true

lemma Filing.placed {qu qu' : RequestQueue} (h : Filing qu qu') {rid : RequestId} (hp : InSomePool qu rid) :
    InSomePool qu' rid := by
  obtain ⟨p, hp⟩ := hp
  cases h with
  | retire sg sg' hrun hid =>
    by_cases he : rid = sg.requestId
    · exact ⟨.finished, by simp [RequestQueue.pool, RequestQueue.markFinished, Dict.contains_set, hid, he]⟩
    · refine ⟨p, ?_⟩
      cases p <;>
        simpa [RequestQueue.pool, RequestQueue.markFinished, Dict.contains_set, Dict.contains_pop, hid, he] using hp
  | withdraw sg hwait =>
    by_cases he : rid = sg.requestId
    · exact ⟨.finished, by simp [RequestQueue.pool, RequestQueue.withdraw, Dict.contains_set, he]⟩
    · refine ⟨p, ?_⟩
      cases p <;> simpa [RequestQueue.pool, RequestQueue.withdraw, Dict.contains_set, Dict.contains_pop, he] using hp
  | reject sg hwait =>
    by_cases he : rid = sg.requestId
    · exact ⟨.rejected, by simp [RequestQueue.pool, RequestQueue.markRejected, Dict.contains_set, he]⟩
    · refine ⟨p, ?_⟩
      cases p <;>
        simpa [RequestQueue.pool, RequestQueue.markRejected, Dict.contains_set, Dict.contains_pop, he] using hp
  | admission sg sg' hwait hid =>
    by_cases he : rid = sg.requestId
    · exact ⟨.running, by simp [RequestQueue.pool, RequestQueue.markRunning, Dict.contains_set, hid, he]⟩
    · refine ⟨p, ?_⟩
      cases p <;>
        simpa [RequestQueue.pool, RequestQueue.markRunning, Dict.contains_set, Dict.contains_pop, hid, he] using hp
  | update _ hw hf hj hrun =>
    refine ⟨p, ?_⟩
    cases p <;> simpa [RequestQueue.pool, hw, hf, hj, hrun] using hp

lemma Filings.placed {qu qu' : RequestQueue} (h : Filings qu qu') {rid : RequestId} (hp : InSomePool qu rid) :
    InSomePool qu' rid := by
  induction h with
  | refl => exact hp
  | tail _ hf ih => exact hf.placed ih

def Completed (qu : RequestQueue) (rid : RequestId) : Prop :=
  ∃ sg q, qu.finished.get? rid = some sg ∧ sg.seqs = [q] ∧ q.status = .finished

def OnTrack (config : Config) (qu : RequestQueue) (rid : RequestId) : Prop :=
  (∃ sg, qu.waiting.get? rid = some sg ∧ sg.promptTokenIds.length ≤ config.maxNumBatchedTokens) ∨
    qu.running.get? rid ≠ none ∨ Completed qu rid

section OnTrack

variable {rid : RequestId}

lemma Visit.onTrack {l l' : BudgetLoop ε} {sg : SequenceGroup} (h : Visit S l sg l')
    (ht : OnTrack S.config l.queue rid) : OnTrack S.config l'.queue rid := by
  cases h with
  | skip => exact ht
  | reject hd hwait =>
    rcases ht with ⟨g, hg, hlen⟩ | ht
    · have hne : rid ≠ sg.requestId := by
        rintro rfl
        obtain rfl : g = sg := Option.some.inj (hg.symm.trans hwait)
        have hu := ((admissionOf_eq_reject l.blockManager l.budgets g).mp hd).2.2
        have hle : uncachedTokens S l.blockManager g ≤ g.promptTokenIds.length := Nat.sub_le _ _
        omega
      exact Or.inl ⟨g, (l.queue.waiting.get?_pop_ne hne).trans hg, hlen⟩
    · exact Or.inr ht
  | admission bm result hd hwait hfresh =>
    by_cases he : rid = sg.requestId
    · refine Or.inr (Or.inl ?_)
      have hrun : (l.queue.markRunning (admittedGroup S l.blockManager sg)).running.get? rid =
          some (admittedGroup S l.blockManager sg) := by
        rw [he]
        exact Dict.get?_set_self _ _ _
      rw [hrun]
      simp
    · rcases ht with ⟨g, hg, hlen⟩ | ht | ht
      · exact Or.inl ⟨g, (l.queue.waiting.get?_pop_ne he).trans hg, hlen⟩
      · have hrun : (l.queue.markRunning (admittedGroup S l.blockManager sg)).running.get? rid =
            l.queue.running.get? rid := l.queue.running.get?_set_ne _ he
        exact Or.inr (Or.inl (by rw [hrun]; exact ht))
      · exact Or.inr (Or.inr ht)

lemma Visits.onTrack {l l' : BudgetLoop ε} {groups : List SequenceGroup} (h : Visits S l groups l')
    (ht : OnTrack S.config l.queue rid) : OnTrack S.config l'.queue rid := by
  induction h with
  | nil => exact ht
  | cons hv _ ih => exact ih (hv.onTrack ht)

lemma Schedules.onTrack {s₀ : CoreState ε} (h₀ : WellFormed S s₀) {l l' : BudgetLoop ε}
    {visited : List SequenceGroup} (h : Schedules S s₀ l l' visited) (ht : OnTrack S.config s₀.queue rid) :
    OnTrack S.config l'.queue rid := by
  refine h.visits.onTrack ?_
  rcases ht with ⟨sg, hsg, hlen⟩ | ht | ⟨sg, q, hsg, hq, hst⟩
  · exact Or.inl ⟨sg, by rw [h.waiting_eq h₀]; exact hsg, hlen⟩
  · obtain ⟨sg, hsg⟩ := Option.ne_none_iff_exists'.mp ht
    rw [h.queue]
    by_cases hd : sg.due = true
    · obtain ⟨-, -, q, hq, -⟩ := h₀.queue.running rid sg hsg
      refine Or.inr (Or.inr ⟨sg.retired, { q with status := .finished }, finishLoop_retired h₀ hsg hd, ?_, rfl⟩)
      rw [SequenceGroup.retired, SequenceGroup.mapSeqs, hq, List.map_singleton]
    · refine Or.inr (Or.inl ?_)
      rw [(finishLoop_running h₀).mpr ⟨hsg, (Bool.not_eq_true _).mp hd⟩]
      simp
  · refine Or.inr (Or.inr ⟨sg, q, ?_, hq, hst⟩)
    rw [h.queue, finishLoop_finished h₀, hsg]
    intro g hg
    have hn := (h₀.queue.only_running hg).1
    rw [hsg] at hn
    cases hn

lemma step_onTrack {s : EngineState ε} (hw : WellFormed S s.core) {now : ℚ} (huntimed : Untimed S s now)
    (ht : OnTrack S.config s.queue rid) : OnTrack S.config (EngineCore.step S s now).2.queue rid := by
  have hwb := beginStep_wellFormed hw now
  have hqueue : (beginStep S s now).core.queue = s.queue := by rw [beginStep_untimed huntimed]; rfl
  rw [← hqueue] at ht
  have hsteps := step_steps hw now
  generalize (EngineCore.step S s now).1 = r at hsteps
  generalize (EngineCore.step S s now).2 = s' at hsteps ⊢
  cases hsteps with
  | raised l l' visited err bm hsched => exact hsched.onTrack hwb ht
  | done l l' visited queue bm hsched hexec hframe hrun =>
    have hl := hsched.onTrack hwb ht
    rw [recordStep_queue]
    dsimp only
    cases hexec with
    | kept => exact hl
    | done bm output x queue hreach hready hrunning =>
      obtain ⟨hwait, hfin, -⟩ := hframe
      simp only [OnTrack, Completed, hwait, hfin, hrunning, ne_eq, Option.map_eq_none_iff]
      exact hl

end OnTrack

structure Advances (S : Setup ε) (s s₁ : EngineState ε) : Prop where
  reach : Reaches S {} s.core s₁.core
  count : s₁.core.seqGroupCount = s.core.seqGroupCount
  placed : ∀ rid, InSomePool s.queue rid → InSomePool s₁.queue rid
  track : ∀ rid, OnTrack S.config s.queue rid → OnTrack S.config s₁.queue rid
  work : s.queue.waiting.values ≠ [] ∨ s.queue.running.values ≠ [] → s₁.queue.work < s.queue.work

lemma LivePrompts.of_idle {P : List ℕ → Prop} {qu : RequestQueue} (hw : qu.waiting.values = [])
    (hr : qu.running.values = []) : LivePrompts P qu := by
  rintro rid sg (hg | hg)
  · have hm := (qu.waiting.mem_values sg).mpr ⟨rid, hg⟩
    rw [hw] at hm
    cases hm
  · have hm := (qu.running.mem_values sg).mpr ⟨rid, hg⟩
    rw [hr] at hm
    cases hm

lemma LivePrompts.idle {qu : RequestQueue} (h : LivePrompts (fun _ => False) qu) :
    qu.numWaiting = 0 ∧ qu.numRunning = 0 := by
  constructor
  · apply List.length_eq_zero_iff.mpr
    apply List.eq_nil_iff_forall_not_mem.mpr
    exact fun e he => h e.1 e.2 (Or.inl ((qu.waiting.mem_entries e.1 e.2).mp he))
  · apply List.length_eq_zero_iff.mpr
    apply List.eq_nil_iff_forall_not_mem.mpr
    exact fun e he => h e.1 e.2 (Or.inr ((qu.running.mem_entries e.1 e.2).mp he))

section Loop

variable (hchunked : S.config.chunkedPrefillEnabled = true) (hexec : Reliable S)

include hchunked hexec

lemma smooth_step {s : EngineState ε} (hw : WellFormed S s.core)
    (hfits : LivePrompts (FirstChunkFits S.config) s.queue) {now : ℚ} (hsmooth : smooth S s now) :
    ∃ result s₁, LLMEngine.step S s now = (.ok result, s₁) ∧ Advances S s s₁ := by
  have hne : LivePrompts (· ≠ []) s.queue := fun rid sg hg => (hfits rid sg hg).1
  obtain ⟨result, hok⟩ := step_ok hw hexec hne hsmooth
  obtain ⟨hfst, hsnd⟩ := LLMEngine.step_result (S := S) s now
  have hqueue : (LLMEngine.step S s now).2.queue = (EngineCore.step S s now).2.queue := LLMEngine.step_queue s now
  have hwork := step_work hw hchunked hfits hsmooth.1 hok
  rw [← hqueue] at hwork
  refine ⟨result, (LLMEngine.step S s now).2, Prod.ext (hfst.trans hok) rfl, ?_, ?_, fun rid hp => ?_, fun rid ht => ?_,
    hwork⟩
  · rw [hsnd]
    exact (step_refines hw (step_true s now)).1
  · rw [hsnd]
    exact step_seqGroupCount S s now
  · rw [hqueue]
    exact (EngineCore.step_filings hw now).placed hp
  · rw [hqueue]
    exact step_onTrack hw hsmooth.1 ht

theorem runUntilDone_ends {s : EngineState ε} (hw : WellFormed S s.core)
    (hfits : LivePrompts (FirstChunkFits S.config) s.queue) (readings : List ℚ)
    (hlen : s.queue.work < readings.length) (hloop : (smooth S).Loop S readings s) :
    ∃ outputs s', LLMEngine.runUntilDone S readings s = (some (.ok outputs), s') ∧
      s'.queue.numWaiting = 0 ∧ s'.queue.numRunning = 0 ∧
      (∀ rid, InSomePool s.queue rid → InSomePool s'.queue rid) ∧
      ∀ rid, OnTrack S.config s.queue rid → OnTrack S.config s'.queue rid := by
  induction readings generalizing s with
  | nil => exact absurd hlen (Nat.not_lt_zero _)
  | cons now readings ih =>
    obtain ⟨hsmooth, hrest⟩ := hloop
    obtain ⟨result, s₁, hs, hadv⟩ := smooth_step hchunked hexec hw hfits hsmooth
    rw [hs] at hrest
    simp only [LLMEngine.runUntilDone, hs]
    by_cases hend : s₁.queue.numWaiting = 0 ∧ s₁.queue.numRunning = 0
    · rw [if_pos hend]
      exact ⟨_, s₁, rfl, hend.1, hend.2, hadv.placed, hadv.track⟩
    · rw [if_neg hend]
      have hbusy : s.queue.waiting.values ≠ [] ∨ s.queue.running.values ≠ [] := by
        by_contra hidle
        push Not at hidle
        have hafter : LivePrompts (fun _ => False) s₁.core.queue :=
          (LivePrompts.of_idle hidle.1 hidle.2).reaches hw hadv.reach hadv.count
        exact hend hafter.idle
      have hless := hadv.work hbusy
      rw [List.length_cons] at hlen
      obtain ⟨outputs, s', hrun, hw₀, hr₀, hp, ho⟩ := ih (hw.reaches hadv.reach)
        (hfits.reaches hw hadv.reach hadv.count) (by omega) (hrest.resolve_left hend)
      exact ⟨outputs, s', hrun, hw₀, hr₀, fun rid h => hp rid (hadv.placed rid h),
        fun rid h => ho rid (hadv.track rid h)⟩

end Loop

lemma not_live_of_empty {qu : RequestQueue} (hw : qu.numWaiting = 0) (hr : qu.numRunning = 0) (rid : RequestId) :
    qu.waiting.get? rid = none ∧ qu.running.get? rid = none := by
  have hnone : ∀ d : Dict RequestId SequenceGroup, d.size = 0 → d.get? rid = none := by
    intro d hd
    rw [Dict.get?, List.length_eq_zero_iff.mp hd]
    rfl
  exact ⟨hnone _ hw, hnone _ hr⟩

theorem runUntilDone_serves (S : Setup ε) (ops : List LLMEngine.Op)
    (hchunked : S.config.chunkedPrefillEnabled = true) (hexec : Reliable S)
    (hfits : LivePrompts (FirstChunkFits S.config) (LLMEngine.run S ops).queue) (readings : List ℚ)
    (hlen : (LLMEngine.run S ops).queue.work < readings.length)
    (hloop : (smooth S).Loop S readings (LLMEngine.run S ops)) :
    ∃ outputs s', LLMEngine.runUntilDone S readings (LLMEngine.run S ops) = (some (.ok outputs), s') ∧
      s'.queue.numWaiting = 0 ∧ s'.queue.numRunning = 0 ∧
      (∀ rid, InSomePool (LLMEngine.run S ops).queue rid →
        s'.queue.finished.contains rid = true ∨ s'.queue.rejected.contains rid = true) ∧
      ∀ rid sg, (LLMEngine.run S ops).queue.waiting.get? rid = some sg ∨
          (LLMEngine.run S ops).queue.running.get? rid = some sg →
        sg.promptTokenIds.length ≤ S.config.maxNumBatchedTokens → Completed s'.queue rid := by
  obtain ⟨outputs, s', hrun, hw, hr, hplaced, htrack⟩ :=
    runUntilDone_ends hchunked hexec (wellFormed_run S ops) hfits readings hlen hloop
  refine ⟨outputs, s', hrun, hw, hr, fun rid hp => ?_, fun rid sg hg hle => ?_⟩
  · obtain ⟨hnw, hnr⟩ := not_live_of_empty hw hr rid
    obtain ⟨p, hp'⟩ := hplaced rid hp
    cases p with
    | waiting => simp [RequestQueue.pool, Dict.contains, hnw] at hp'
    | running => simp [RequestQueue.pool, Dict.contains, hnr] at hp'
    | finished => exact Or.inl hp'
    | rejected => exact Or.inr hp'
  · obtain ⟨hnw, hnr⟩ := not_live_of_empty hw hr rid
    have ht : OnTrack S.config (LLMEngine.run S ops).queue rid := by
      rcases hg with hg | hg
      · exact Or.inl ⟨sg, hg, hle⟩
      · exact Or.inr (Or.inl (by rw [hg]; simp))
    rcases htrack rid ht with ⟨g, hg', -⟩ | hrunning | hserved
    · rw [hnw] at hg'
      cases hg'
    · exact absurd hnr hrunning
    · exact hserved

section Decidable

instance {α : Type} : (r : Except Exn α) → Decidable (OutOfMemory r)
  | .error (.outOfMemory _ _ _) => isTrue trivial
  | .error (.blockNotAllocated _ _ _ _) => isFalse id
  | .error .assertionError => isFalse id
  | .error .indexError => isFalse id
  | .error .valueError => isFalse id
  | .error .unboundLocalError => isFalse id
  | .ok _ => isFalse id

instance (s : EngineState ε) (now : ℚ) : Decidable (Untimed S s now) := inferInstanceAs (Decidable (_ ∧ _))

instance (s : EngineState ε) (now : ℚ) : Decidable (smooth S s now) := inferInstanceAs (Decidable (_ ∧ ¬ _))

end Decidable

def twoPrompts : List LLMEngine.Op := [.addRequest ['a', 'b', 'c', 'd', 'e', 'f'] 2 0, .step 0, .addRequest ['g'] 1 1]

theorem runUntilDone_serves_of_two_prompts :
    ∃ outputs s', LLMEngine.runUntilDone oneTokenSetup (List.replicate 20 1) (LLMEngine.run oneTokenSetup twoPrompts) =
        (some (.ok outputs), s') ∧
      s'.queue.numWaiting = 0 ∧ s'.queue.numRunning = 0 ∧
      (∀ rid, InSomePool (LLMEngine.run oneTokenSetup twoPrompts).queue rid →
        s'.queue.finished.contains rid = true ∨ s'.queue.rejected.contains rid = true) ∧
      ∀ rid sg, (LLMEngine.run oneTokenSetup twoPrompts).queue.waiting.get? rid = some sg ∨
          (LLMEngine.run oneTokenSetup twoPrompts).queue.running.get? rid = some sg →
        sg.promptTokenIds.length ≤ oneTokenSetup.config.maxNumBatchedTokens → Completed s'.queue rid :=
  runUntilDone_serves oneTokenSetup twoPrompts rfl (fake_reliable oneTokenBlocks codeHash)
    (.of_values (by decide +kernel)) (List.replicate 20 1) (by decide +kernel) (by decide +kernel)

end MiniVllm
