import MiniVllm.SchedulerProofs.Budgets

/-! The running pool stays within `max_num_seqs` as long as no mid-prefill group loses its turn. -/

namespace MiniVllm

open Scheduler Scheduler.BudgetLoop EngineCore

variable {ε : Type} {S : Setup ε}

def RequestQueue.staying (qu : RequestQueue) : List Sequence := qu.liveSeqs.filter (fun q => ¬ q.due)

def PrefillsFit (config : Config) (staying : List Sequence) : Prop :=
  staying.filter (·.status = .prefill) = [] ∨
    (staying.filter (·.status ≠ .prefill)).length +
        ((staying.filter (·.status = .prefill)).map (nextChunk config)).sum ≤ config.maxNumBatchedTokens ∧
      ((staying.filter (·.status = .prefill)).map (nextChunk config)).sum ≤ config.maxNumPrefillTokens

instance (config : Config) (staying : List Sequence) : Decidable (PrefillsFit config staying) :=
  inferInstanceAs (Decidable (_ ∨ _ ∧ _))

/-- No step passes over a mid-prefill group for lack of tokens. -/
def prefillsContinue (S : Setup ε) : StepCondition ε :=
  fun s now => PrefillsFit S.config (beginStep S s now).queue.staying

instance (s : EngineState ε) (now : ℚ) : Decidable (prefillsContinue S s now) :=
  inferInstanceAs (Decidable (PrefillsFit _ _))

lemma finishLoop_liveSeqs {s₀ : CoreState ε} (h₀ : WellFormed S s₀) :
    (finishLoop S s₀.queue s₀.blockManager).queue.liveSeqs = s₀.queue.staying := by
  have hlive : ∀ sg ∈ s₀.queue.running.values, ∃ q, sg.getUnfinishedSeqs = [q] ∧ (sg.due = true ↔ q.due) := by
    intro sg hsg
    obtain ⟨-, q, hq, hl⟩ := running_one h₀ hsg
    exact ⟨q, getUnfinishedSeqs_one hq hl, SequenceGroup.due_iff hq⟩
  rw [RequestQueue.liveSeqs, finishLoop_values h₀, (finishLoop_pass h₀).keep, RequestQueue.staying,
    RequestQueue.liveSeqs]
  revert hlive
  generalize s₀.queue.running.values = groups
  intro hlive
  induction groups with
  | nil => rfl
  | cons sg rest ih =>
    obtain ⟨q, hq, hdue⟩ := hlive sg (by simp)
    have hrest := ih fun g hg => hlive g (List.mem_cons_of_mem sg hg)
    rw [List.nil_append] at hrest ⊢
    rw [List.flatMap_cons, List.filter_append, ← hrest, hq]
    by_cases hd : q.due
    · rw [List.filter_cons, if_neg (by simp [hdue.mpr hd])]
      simp [hd]
    · rw [List.filter_cons, if_pos (by simp [Bool.eq_false_iff.mpr (mt hdue.mp hd)]), List.flatMap_cons, hq]
      simp [hd]

def seated (S : Setup ε) : CallCondition ε where
  admission qu _ _ := qu.numRunning < S.config.maxNumSeqs

def Seated (S : Setup ε) (l : BudgetLoop ε) : Prop :=
  l.remainingSeqBudget + l.queue.numRunning = S.config.maxNumSeqs

lemma Visit.seated {l l' : BudgetLoop ε} {sg : SequenceGroup} (h : Visit S l sg l') (hs : Seated S l) :
    Seated S l' := by
  cases h with
  | skip => exact hs
  | reject => exact hs
  | admission bm result hd hwait hfresh =>
    have hn : (l.queue.markRunning (admittedGroup S l.blockManager sg)).numRunning = l.queue.numRunning + 1 := by
      rw [RequestQueue.numRunning, RequestQueue.numRunning, Dict.size_eq_total, Dict.size_eq_total]
      exact l.queue.running.total_set_new _ sg.requestId _ hfresh
    simp only [Seated, hn] at hs ⊢
    push_cast
    omega

section Schedule

variable {s₀ : CoreState ε} (h₀ : WellFormed S s₀) (hn : s₀.queue.numRunning ≤ S.config.maxNumSeqs)
  (hfit : PrefillsFit S.config s₀.queue.staying)

include h₀ hn hfit

lemma Schedules.seated {l l' : BudgetLoop ε} {visited : List SequenceGroup} (h : Schedules S s₀ l l' visited) :
    Seated S l := by
  have hq : (finishLoop S s₀.queue s₀.blockManager).queue.numRunning = _ :=
    (finishLoop_wellFormed h₀).queue.numRunning_eq
  simp only at hq
  have hle : (finishLoop S s₀.queue s₀.blockManager).queue.numRunning ≤ s₀.queue.numRunning := by
    have hsize : ∀ d : Dict RequestId SequenceGroup, d.size = d.values.length := fun d => by simp [Dict.size, Dict.values]
    rw [RequestQueue.numRunning, RequestQueue.numRunning, hsize, hsize, finishLoop_values h₀,
      (finishLoop_pass h₀).keep]
    exact List.length_filter_le _ _
  have hlive := finishLoop_liveSeqs h₀
  rw [← h.queue] at hq hle hlive
  have hfit' : l.queue.prefills = [] ∨
      l.queue.decodes.length + (l.queue.prefills.map (nextChunk S.config)).sum ≤ S.config.maxNumBatchedTokens ∧
        (l.queue.prefills.map (nextChunk S.config)).sum ≤ S.config.maxNumPrefillTokens := by
    rw [RequestQueue.prefills, RequestQueue.decodes, hlive]
    exact hfit
  have hbudget : l.remainingSeqBudget = S.config.maxNumSeqs - l.queue.decodes.length - l.queue.prefills.length := by
    have hfill := h.budgets
    rcases hfit' with hnil | ⟨ht, hp⟩
    · rw [hnil] at hfill
      have h₂ : l.remainingSeqBudget = _ := congrArg Prod.snd hfill
      simpa [hnil] using h₂
    · rw [fill_all] at hfill
      · have h₂ : l.remainingSeqBudget = _ := congrArg Prod.snd hfill
        simpa using h₂
      · simp only
        omega
      · simp only [List.length_map]
        omega
  rw [Seated, hbudget, hq]
  push_cast
  omega

lemma seated_schedule : (seated S).Schedule S s₀.queue s₀.blockManager := by
  obtain ⟨l, l', visited, h⟩ := schedule_spec h₀
  obtain ⟨n, queue, bm, hbefore⟩ := h.before
  simp only [CallCondition.Schedule, hbefore]
  refine ForEachAll.mono (I := fun k rest => Admitting S {} s₀ k rest ∧ Seated S k)
    (P := fun _ _ => True) ?_ ?_ ⟨h.admitting, h.seated h₀ hn hfit⟩ (ForEachAll.of_forall (fun _ _ => trivial) _ _)
  · rintro k sg rest k' ⟨ha, hs⟩ - he
    obtain ⟨k₁, hk, hv⟩ := admitWaiting_visit h₀ ha
    have hnext := (ha.step h₀ ⟨fun _ => trivial, fun _ => trivial⟩).2
    rw [he] at hnext hk
    cases hk
    exact ⟨hnext, hv.seated hs⟩
  · rintro k sg rest ⟨ha, hs⟩ -
    refine ⟨fun _ => trivial, fun hd => ?_⟩
    have hseat : 0 < k.remainingSeqBudget := by
      by_contra hc
      rw [admissionDecision, if_pos (not_lt.mp hc)] at hd
      cases hd
    have hsum : k.remainingSeqBudget + k.queue.numRunning = S.config.maxNumSeqs := hs
    change k.queue.numRunning < S.config.maxNumSeqs
    omega

end Schedule

lemma numRunning_step {s s' : CoreState ε} (hw : WellFormed S s) (h : s.queue.numRunning ≤ S.config.maxNumSeqs)
    (ht : Transition S (seated S) s s') : s'.queue.numRunning ≤ S.config.maxNumSeqs := by
  cases hw.effect ht with
  | idle => exact h
  | requeue queue n hrun =>
    simp only [RequestQueue.numRunning, hrun]
    exact h
  | cleanup => exact h
  | retire sg q status bm hid hseqs hlive =>
    refine le_trans ?_ h
    obtain ⟨g, hg, -, hgid, -⟩ := hw.queue.runningSeq_group hlive
    have hpop := s.queue.running.total_pop (fun _ => 1) _ g hg
    rw [← Dict.size_eq_total, ← Dict.size_eq_total] at hpop
    simp only [RequestQueue.numRunning, RequestQueue.markFinished, hid]
    omega
  | admission sg bm hwait hfresh hc =>
    have hnone : s.queue.running.get? sg.requestId = none :=
      (hw.queue.only_waiting hwait).1
    have hset := s.queue.running.total_set_new (fun _ => 1) sg.requestId (admittedGroup S s.blockManager sg) hnone
    rw [← Dict.size_eq_total, ← Dict.size_eq_total] at hset
    have hlt : s.queue.running.size < S.config.maxNumSeqs := hc
    change (s.queue.running.set sg.requestId (admittedGroup S s.blockManager sg)).size ≤ S.config.maxNumSeqs
    omega
  | hit => exact h
  | miss => exact h
  | failed => exact h
  | done prefill decode output x queue hready hc hexec hwaiting hfinished hrejected hrunning =>
    have hsame : queue.running.size = s.queue.running.size := by
      rw [Dict.size_eq_total, Dict.size_eq_total, Dict.total_map _ _ hrunning]
    exact hsame.le.trans h

lemma numRunning_reaches {s s' : CoreState ε} (hw : WellFormed S s) (h : s.queue.numRunning ≤ S.config.maxNumSeqs)
    (hr : Reaches S (seated S) s s') : s'.queue.numRunning ≤ S.config.maxNumSeqs := by
  induction hr with
  | refl => exact h
  | tail hr ht ih => exact numRunning_step (hw.reaches hr) ih ht

lemma seated_step {s : EngineState ε} (hw : WellFormed S s.core) (h : s.queue.numRunning ≤ S.config.maxNumSeqs)
    {now : ℚ} (hfit : prefillsContinue S s now) : (seated S).Step S s now := by
  have hb := beginStep_refines (c := seated S) hw now
  refine ⟨seated_schedule (hw.reaches hb) (numRunning_reaches hw h hb) hfit, ?_⟩
  split
  · trivial
  · exact fun _ => execute_of_forall (fun _ _ _ _ => trivial) (fun _ _ _ _ => trivial) _ _ _ _

lemma numRunning_runFrom {s : EngineState ε} (hw : WellFormed S s.core)
    (h : s.queue.numRunning ≤ S.config.maxNumSeqs) (ops : List LLMEngine.Op)
    (hrun : (prefillsContinue S).RunFrom S s ops) :
    (ops.foldl (LLMEngine.apply S) s).queue.numRunning ≤ S.config.maxNumSeqs := by
  induction ops generalizing s with
  | nil => exact h
  | cons op rest ih =>
    obtain ⟨hop, hrest⟩ := hrun
    have hcond : (seated S).Apply S s op := by
      cases op with
      | addRequest => trivial
      | cancelRequest => trivial
      | checkTimeouts => trivial
      | step now => exact seated_step hw h hop
    have hreach := apply_refines hw hcond
    exact ih (hw.reaches hreach) (numRunning_reaches hw h hreach) hrest

theorem running_le_maxNumSeqs (S : Setup ε) (ops : List LLMEngine.Op) (hrun : (prefillsContinue S).Run S ops) :
    (LLMEngine.run S ops).queue.numRunning ≤ S.config.maxNumSeqs :=
  numRunning_runFrom (WellFormed.initial S) (Nat.zero_le _) ops hrun

def twoSeats : Config :=
  { Config.default with
    maxNumSeqs := 2
    maxNumBatchedTokens := 2
    maxPrefillChunkSize := 2
    maxNumSeqs_pos := Nat.two_pos
    maxNumBatchedTokens_pos := Nat.two_pos
    maxPrefillChunkSize_pos := Nat.two_pos }

theorem running_le_maxNumSeqs_of_two_requests :
    (LLMEngine.run (fakeSetup twoSeats codeHash) [.addRequest ['a', 'b', 'c', 'd'] 2 0, .addRequest ['e'] 1 0,
      .step 0, .step 0, .step 0]).queue.numRunning ≤ twoSeats.maxNumSeqs :=
  running_le_maxNumSeqs (fakeSetup twoSeats codeHash) [.addRequest ['a', 'b', 'c', 'd'] 2 0, .addRequest ['e'] 1 0,
    .step 0, .step 0, .step 0] (by decide +kernel)

theorem running_exceeds_maxNumSeqs : ¬ ∀ (config : Config) (blockHash : List ℕ → ℤ) (ops : List LLMEngine.Op),
    (LLMEngine.run (fakeSetup config blockHash) ops).queue.numRunning ≤ config.maxNumSeqs := by
  intro h
  have hle := h twoSeats codeHash
    [.addRequest ['a', 'b', 'c', 'd'] 2 0, .addRequest [] 2 0, .step 0, .addRequest [] 2 0, .step 0]
  revert hle
  decide +kernel

theorem prefillsContinue_of_nonempty (S : Setup ε) (ops : List LLMEngine.Op) (now : ℚ)
    (hne : ∀ r ∈ requestsOf S ops, r.1 ≠ []) : prefillsContinue S (LLMEngine.run S ops) now := by
  have hwf := wellFormed_run S ops
  have hreach := beginStep_refines (c := fitting S) hwf now
  have hcount : (beginStep S (LLMEngine.run S ops) now).core.seqGroupCount =
      (LLMEngine.run S ops).core.seqGroupCount := checkTimeouts_seqGroupCount S _ now
  have hb : WithinBudget S.config (beginStep S (LLMEngine.run S ops) now).core.queue :=
    WithinBudget.reaches hne hwf (serves_run S ops).2 (withinBudget_run S ops hne) hreach hcount
  obtain ⟨ht, hp, -⟩ := finishLoop_withinBudget (hwf.reaches hreach) hb
  have hlive := finishLoop_liveSeqs (hwf.reaches hreach)
  rw [RequestQueue.decodes, RequestQueue.prefills, hlive] at ht
  rw [RequestQueue.prefills, hlive] at hp
  exact Or.inr ⟨ht, hp⟩

end MiniVllm
