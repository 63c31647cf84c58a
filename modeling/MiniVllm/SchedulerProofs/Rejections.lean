import MiniVllm.SchedulerProofs.Seats

/-! Which waiting groups a schedule rejects, and which of them an idle engine would admit. -/

namespace MiniVllm

open Scheduler Scheduler.BudgetLoop

variable {ε : Type} {S : Setup ε}

def dueFreed (S : Setup ε) (s₀ : CoreState ε) : BlockManager ε :=
  (s₀.queue.liveSeqs.filter (fun q => q.due)).foldl (fun bm q => bm.free S.blockParams q.seqId) s₀.blockManager

def budgetsBehind (S : Setup ε) (s₀ : CoreState ε) (ahead : List SequenceGroup) : ℤ × ℤ :=
  fill
    (min (S.config.maxNumBatchedTokens - (s₀.queue.staying.filter (·.status ≠ .prefill)).length : ℤ)
        S.config.maxNumPrefillTokens,
      S.config.maxNumSeqs - (s₀.queue.staying.filter (·.status ≠ .prefill)).length)
    ((s₀.queue.staying.filter (·.status = .prefill)).map (nextChunk S.config) ++
      ahead.map (admissionCost S (dueFreed S s₀)))

def turnBudgets (S : Setup ε) (s₀ : CoreState ε) (sg : SequenceGroup) : ℤ × ℤ :=
  budgetsBehind S s₀ (s₀.queue.waiting.values.takeWhile (fun g => g.requestId ≠ sg.requestId))

def AdmissionOpen (S : Setup ε) (qu : RequestQueue) : Prop := S.config.staticBatchMode = true → qu.staying = []

instance (qu : RequestQueue) : Decidable (AdmissionOpen S qu) := inferInstanceAs (Decidable (_ → _))

def Rejects (S : Setup ε) (s₀ : CoreState ε) (sg : SequenceGroup) : Prop :=
  (schedule S s₀.queue s₀.blockManager).2.1.rejected.get? sg.requestId ≠ none

def AdmitsGroup (S : Setup ε) (s₀ : CoreState ε) (sg : SequenceGroup) : Prop :=
  (schedule S s₀.queue s₀.blockManager).2.1.running.get? sg.requestId ≠ none

def idleWith (S : Setup ε) (sg : SequenceGroup) : CoreState ε :=
  ⟨({} : RequestQueue).add sg, (LLMEngine.initial S).blockManager, sg.requestId + 1⟩

lemma finishGroup_blockManager (l : FinishLoop ε) {sg : SequenceGroup} {q : Sequence} (hq : sg.seqs = [q])
    (hlive : q.finished = false) : (finishGroup S l sg).blockManager =
      if q.due then l.blockManager.free S.blockParams q.seqId else l.blockManager := by
  have hge : (q.numGeneratedTokens : ℤ) ≥ q.samplingParams.maxTokens ↔ q.due := Iff.rfl
  by_cases hd : q.due
  · have hseqs : finishSeqs S sg.seqs l.blockManager =
        ([{ q with status := .finished }], l.blockManager.free S.blockParams q.seqId) := by
      simp [hq, finishSeqs, hlive, hge, hd]
    simp only [finishGroup, hseqs, hd, if_true]
    split_ifs <;> rfl
  · have hseqs : finishSeqs S sg.seqs l.blockManager = ([q], l.blockManager) := by
      simp [hq, finishSeqs, hge, hd]
    simp only [finishGroup, hseqs, hd, if_false]
    split_ifs <;> rfl

lemma finishGroups_blockManager (groups : List SequenceGroup) (l : FinishLoop ε)
    (hone : ∀ sg ∈ groups, ∃ q, sg.seqs = [q] ∧ LivePhase q) :
    (groups.foldl (finishGroup S) l).blockManager =
      ((groups.flatMap (·.getUnfinishedSeqs)).filter (fun q => q.due)).foldl
        (fun bm q => bm.free S.blockParams q.seqId) l.blockManager := by
  induction groups generalizing l with
  | nil => rfl
  | cons sg rest ih =>
    obtain ⟨q, hq, hl⟩ := hone sg (by simp)
    rw [List.foldl_cons, ih _ fun g hg => hone g (List.mem_cons_of_mem sg hg),
      finishGroup_blockManager l hq hl.not_finished, List.flatMap_cons, getUnfinishedSeqs_one hq hl,
      List.singleton_append, List.filter_cons]
    by_cases hd : q.due
    · simp [hd]
    · simp [hd]

section Turn

variable {s₀ : CoreState ε} (h₀ : WellFormed S s₀)

include h₀

lemma finishLoop_blockManager : (finishLoop S s₀.queue s₀.blockManager).blockManager = dueFreed S s₀ := by
  refine finishGroups_blockManager _ _ fun sg hsg => ?_
  obtain ⟨-, q, hq, hl⟩ := running_one h₀ hsg
  exact ⟨q, hq, hl⟩

variable {l l' : BudgetLoop ε} {visited : List SequenceGroup} (h : Schedules S s₀ l l' visited)

include h

lemma Schedules.blockManager_eq : l.blockManager = dueFreed S s₀ :=
  h.blockManager.trans (finishLoop_blockManager h₀)

lemma Schedules.liveSeqs_eq : l.queue.liveSeqs = s₀.queue.staying := by
  rw [h.queue]
  exact finishLoop_liveSeqs h₀

lemma Schedules.waiting_eq : l.queue.waiting = s₀.queue.waiting := by
  rw [h.queue]
  exact (finishLoop_pass h₀).waiting

lemma Schedules.visited_open : visited = if AdmissionOpen S s₀.queue then s₀.queue.waiting.values else [] := by
  rw [h.visited_eq, h.liveSeqs_eq h₀, h.waiting_eq h₀]
  by_cases hs : S.config.staticBatchMode = true
  · by_cases hn : s₀.queue.staying = []
    · simp [AdmissionOpen, hs, hn]
    · simp [AdmissionOpen, hs, hn]
  · simp [AdmissionOpen, hs]

lemma Schedules.budgets_behind {ahead : List SequenceGroup} {l₁ : BudgetLoop ε} (hv : Visits S l ahead l₁) :
    l₁.budgets = budgetsBehind S s₀ ahead := by
  rw [hv.budgets, h.budgets, h.blockManager_eq h₀, budgetsBehind, fill_append, RequestQueue.decodes,
    RequestQueue.prefills, h.liveSeqs_eq h₀]

end Turn

lemma Visits.admissionOf {l l' : BudgetLoop ε} {groups : List SequenceGroup} (h : Visits S l groups l') (b : ℤ × ℤ)
    (sg : SequenceGroup) :
    MiniVllm.admissionOf S l'.blockManager b sg = MiniVllm.admissionOf S l.blockManager b sg := by
  have hu : uncachedTokens S l'.blockManager sg = uncachedTokens S l.blockManager sg := by
    simp only [uncachedTokens, h.probe]
  rw [MiniVllm.admissionOf, MiniVllm.admissionOf, h.admissionCost, hu]

lemma takeWhile_ne {groups xs ys : List SequenceGroup} {sg : SequenceGroup} (hnd : (groups.map (·.requestId)).Nodup)
    (he : groups = xs ++ sg :: ys) : groups.takeWhile (fun g => g.requestId ≠ sg.requestId) = xs := by
  rw [he, List.map_append, List.map_cons] at hnd
  obtain ⟨-, -, hdisj⟩ := List.nodup_append.mp hnd
  rw [he, List.takeWhile_append_of_pos, List.takeWhile_cons_of_neg, List.append_nil]
  · simp
  · intro g hg
    simpa using hdisj _ (List.mem_map_of_mem hg) sg.requestId (by simp)

section Decision

variable (bm : BlockManager ε) (b : ℤ × ℤ) (sg : SequenceGroup)

lemma admissionOf_eq_admission :
    admissionOf S bm b sg = .admission ↔ 0 < b.2 ∧ (admissionCost S bm sg : ℤ) ≤ b.1 := by
  simp only [admissionOf]
  split_ifs <;> simp <;> omega

lemma admissionOf_eq_reject : admissionOf S bm b sg = .reject ↔
    0 < b.2 ∧ b.1 < admissionCost S bm sg ∧ S.config.maxNumBatchedTokens < uncachedTokens S bm sg := by
  simp only [admissionOf]
  split_ifs <;> simp <;> omega

end Decision

theorem schedule_decides {s₀ : CoreState ε} (h₀ : WellFormed S s₀) {sg : SequenceGroup}
    (hsg : sg ∈ s₀.queue.waiting.values) :
    (Rejects S s₀ sg ↔ AdmissionOpen S s₀.queue ∧
        admissionOf S (dueFreed S s₀) (turnBudgets S s₀ sg) sg = .reject) ∧
      (AdmitsGroup S s₀ sg ↔ AdmissionOpen S s₀.queue ∧
        admissionOf S (dueFreed S s₀) (turnBudgets S s₀ sg) sg = .admission) := by
  obtain ⟨l, l', visited, h⟩ := schedule_spec h₀
  have hnd : (s₀.queue.waiting.values.map (·.requestId)).Nodup :=
    s₀.queue.waiting.nodup_values_map _ fun rid g hg => (h₀.queue.waiting rid g hg).1
  have hwait : s₀.queue.waiting.get? sg.requestId = some sg := by
    obtain ⟨rid, hg⟩ := (s₀.queue.waiting.mem_values sg).mp hsg
    rw [(h₀.queue.waiting rid sg hg).1]
    exact hg
  have hq : QueueFormed l'.queue s₀.seqGroupCount := (h.wellFormed h₀).queue
  simp only [Rejects, AdmitsGroup, h.result]
  have hstays : l'.queue.waiting.get? sg.requestId = some sg →
      l'.queue.rejected.get? sg.requestId = none ∧ l'.queue.running.get? sg.requestId = none := by
    intro hw
    obtain ⟨hr, -, hj⟩ := hq.only_waiting hw
    exact ⟨hj, hr⟩
  by_cases hopen : AdmissionOpen S s₀.queue
  · obtain ⟨xs, ys, hval⟩ := List.append_of_mem hsg
    have hvisits := h.visits
    rw [h.visited_open h₀, if_pos hopen, hval] at hvisits
    obtain ⟨l₁, hxs, hrest⟩ := hvisits.append
    have hnotin : sg.requestId ∉ ys.map (·.requestId) := by
      rw [hval, List.map_append, List.map_cons] at hnd
      exact (List.nodup_cons.mp (List.nodup_append.mp hnd).2.1).1
    have hturn : turnBudgets S s₀ sg = l₁.budgets := by
      rw [h.budgets_behind h₀ hxs, turnBudgets, takeWhile_ne hnd hval]
    have hdecide : admissionOf S (dueFreed S s₀) (turnBudgets S s₀ sg) sg =
        admissionOf S l₁.blockManager l₁.budgets sg := by
      rw [hturn, hxs.admissionOf, h.blockManager_eq h₀]
    rw [hdecide]
    cases hrest with
    | cons hv hys =>
      obtain ⟨-, -, -, hrun, hrej, hold⟩ := hys.frame
      cases hv with
      | skip reason hd =>
        have hw : l₁.queue.waiting.get? sg.requestId = some sg := by
          have hids : sg.requestId ∉ xs.map (·.requestId) := by
            rw [hval, List.map_append, List.map_cons] at hnd
            exact fun hm => (List.nodup_append.mp hnd).2.2 _ hm _ (by simp) rfl
          rw [(hxs.frame.2.2.2.2.2 sg.requestId hids).1, h.waiting_eq h₀, hwait]
        obtain ⟨hj, hr⟩ := hstays ((hold sg.requestId hnotin).1.trans hw)
        rcases hd with hd | hd <;> simp [hj, hr, hd]
      | reject hd hw =>
        have hj : l'.queue.rejected.get? sg.requestId = some sg :=
          hrej sg.requestId sg (Dict.get?_set_self _ _ _) hnotin
        have hr : l'.queue.running.get? sg.requestId = none := by
          apply (hq.not_live_of_rejected _).2
          rw [hj]
          simp
        simp [hj, hr, hd, hopen]
      | admission bm result hd hw hfresh ha hresult =>
        have hr : l'.queue.running.get? sg.requestId = some (admittedGroup S l₁.blockManager sg) :=
          hrun sg.requestId _ (Dict.get?_set_self _ _ _)
        have hj : l'.queue.rejected.get? sg.requestId = none := (hq.only_running hr).2
        simp [hj, hr, hd, hopen]
  · have hvisits := h.visits
    rw [h.visited_open h₀, if_neg hopen] at hvisits
    cases hvisits
    obtain ⟨hj, hr⟩ := hstays (by rw [h.waiting_eq h₀, hwait])
    simp [hj, hr, hopen]

lemma WellFormed.cached_of_idle {s : CoreState ε} (h : WellFormed S s) (hidle : s.queue.running.values = [])
    (prompt : List ℕ) : (s.blockManager.probePrefixCache S.blockParams prompt).cachedTokenCount = 0 := by
  have hnone : (s.blockManager.probePrefixCache S.blockParams prompt).matchedPhysicalBlockIds = [] := by
    apply List.eq_nil_iff_forall_not_mem.mpr
    intro p hp
    obtain ⟨sid, hm⟩ := h.balanced.exists_holder (BlockManager.probe_live hp)
    obtain ⟨q, hq, -⟩ := h.holder_live hm
    obtain ⟨sg, hsg, -⟩ := h.queue.runningSeq_group hq
    have hmem := (s.queue.running.mem_values sg).mpr ⟨_, hsg⟩
    rw [hidle] at hmem
    cases hmem
  rw [cachedTokenCount_eq, hnone]
  simp

theorem idle_admits_iff {s₀ : CoreState ε} (h₀ : WellFormed S s₀) (hidle : s₀.queue.running.values = [])
    {sg : SequenceGroup} (hw : s₀.queue.waiting.values = [sg]) :
    AdmitsGroup S s₀ sg ↔
      admissionChunk S.config sg.promptTokenIds.length sg.promptTokenIds.length ≤
        min S.config.maxNumBatchedTokens S.config.maxNumPrefillTokens := by
  have hlive : s₀.queue.liveSeqs = [] := by rw [RequestQueue.liveSeqs, hidle, List.flatMap_nil]
  have hstay : s₀.queue.staying = [] := by rw [RequestQueue.staying, hlive, List.filter_nil]
  have hbm : dueFreed S s₀ = s₀.blockManager := by rw [dueFreed, hlive, List.filter_nil, List.foldl_nil]
  have hcost : admissionCost S (dueFreed S s₀) sg =
      admissionChunk S.config sg.promptTokenIds.length sg.promptTokenIds.length := by
    rw [admissionCost, uncachedTokens, hbm, h₀.cached_of_idle hidle, Nat.sub_zero]
  have hturn : turnBudgets S s₀ sg =
      (min (S.config.maxNumBatchedTokens : ℤ) S.config.maxNumPrefillTokens, (S.config.maxNumSeqs : ℤ)) := by
    simp [turnBudgets, budgetsBehind, hw, hstay]
  have hopen : AdmissionOpen S s₀.queue := fun _ => hstay
  have hseats := S.config.maxNumSeqs_pos
  rw [(schedule_decides h₀ (by simp [hw])).2, hturn, admissionOf_eq_admission, hcost]
  constructor
  · rintro ⟨-, -, hle⟩
    simp only at hle
    omega
  · intro hle
    refine ⟨hopen, ?_, ?_⟩
    · simp only
      omega
    · simp only
      omega

def RejectedRightly (S : Setup ε) (s : CoreState ε) (sg : SequenceGroup) : Prop :=
  Rejects S s sg ↔ ¬ AdmitsGroup S (idleWith S sg) sg

def fitsIdle (config : Config) (sg : SequenceGroup) : Prop :=
  admissionChunk config sg.promptTokenIds.length sg.promptTokenIds.length ≤
    min config.maxNumBatchedTokens config.maxNumPrefillTokens

instance (config : Config) (sg : SequenceGroup) : Decidable (fitsIdle config sg) := inferInstanceAs (Decidable (_ ≤ _))

/-- A group that fits an idle engine finds the tokens for its first chunk if only its length is against it; one that
does not fit is visited, with more uncached tokens than a step may batch. -/
def RejectionCondition (S : Setup ε) (s : CoreState ε) (sg : SequenceGroup) : Prop :=
  if fitsIdle S.config sg then
    AdmissionOpen S s.queue → 0 < (turnBudgets S s sg).2 →
      S.config.maxNumBatchedTokens < uncachedTokens S (dueFreed S s) sg →
        admissionCost S (dueFreed S s) sg ≤ (turnBudgets S s sg).1
  else
    AdmissionOpen S s.queue ∧ 0 < (turnBudgets S s sg).2 ∧
      S.config.maxNumBatchedTokens < uncachedTokens S (dueFreed S s) sg

lemma idleWith_wellFormed {sg : SequenceGroup} (hseqs : sg.seqs = []) : WellFormed S (idleWith S sg) := by
  have hempty : QueueFormed {} sg.requestId := by
    refine ⟨?_, ?_, ?_, ?_, ?_, ?_⟩ <;> intro _ <;> simp
  have hw : WellFormed S ⟨{}, (LLMEngine.initial S).blockManager, sg.requestId⟩ := by
    apply (WellFormed.initial S).of_same
    · exact hempty
    · exact fun _ => rfl
    · rfl
  exact hw.step (c := {}) (.submit _ sg rfl hseqs)

lemma budgetsBehind_le (s₀ : CoreState ε) (ahead : List SequenceGroup) :
    (budgetsBehind S s₀ ahead).1 ≤ S.config.maxNumBatchedTokens ∧
      (budgetsBehind S s₀ ahead).1 ≤ S.config.maxNumPrefillTokens := by
  rw [budgetsBehind]
  generalize (s₀.queue.staying.filter (·.status = .prefill)).map (nextChunk S.config) ++ _ = costs
  have hle := (fill_le (min (S.config.maxNumBatchedTokens - (s₀.queue.staying.filter (·.status ≠ .prefill)).length : ℤ)
        S.config.maxNumPrefillTokens,
      S.config.maxNumSeqs - (s₀.queue.staying.filter (·.status ≠ .prefill)).length) costs).1
  simp only at hle
  omega

lemma admissionCost_of_not_fits {bm : BlockManager ε} {sg : SequenceGroup} (hfit : ¬ fitsIdle S.config sg)
    (hu : S.config.maxNumBatchedTokens < uncachedTokens S bm sg) :
    min S.config.maxNumBatchedTokens S.config.maxNumPrefillTokens < admissionCost S bm sg := by
  have hle : uncachedTokens S bm sg ≤ sg.promptTokenIds.length := Nat.sub_le _ _
  have hlen : ¬ sg.promptTokenIds.length = 0 := by omega
  have hpos : ¬ uncachedTokens S bm sg = 0 := by omega
  simp only [fitsIdle, admissionChunk, hlen, and_false, if_false] at hfit
  simp only [admissionCost, admissionChunk, hpos, and_false, if_false]
  split_ifs at hfit ⊢ with hc
  · omega
  · omega

theorem rejection_exact_iff (S : Setup ε) (ops : List LLMEngine.Op) (sg : SequenceGroup)
    (hsg : sg ∈ (LLMEngine.run S ops).queue.waiting.values) :
    RejectedRightly S (LLMEngine.run S ops).core sg ↔ RejectionCondition S (LLMEngine.run S ops).core sg := by
  have hw := wellFormed_run S ops
  have hseqs : sg.seqs = [] := by
    obtain ⟨rid, hg⟩ := ((LLMEngine.run S ops).queue.waiting.mem_values sg).mp hsg
    exact (hw.queue.waiting rid sg hg).2.2
  have hidle : AdmitsGroup S (idleWith S sg) sg ↔ fitsIdle S.config sg :=
    idle_admits_iff (idleWith_wellFormed hseqs) rfl rfl
  have hdecides := (schedule_decides hw hsg).1
  obtain ⟨hbt, hmp⟩ := budgetsBehind_le (S := S) (LLMEngine.run S ops).core
    ((LLMEngine.run S ops).core.queue.waiting.values.takeWhile (fun g => g.requestId ≠ sg.requestId))
  rw [RejectedRightly, hidle, hdecides, admissionOf_eq_reject, RejectionCondition]
  split_ifs with hfit
  · simp only [hfit, not_true_eq_false, iff_false, not_and]
    constructor
    · intro h hopen hseat hu
      by_contra hlt
      exact h hopen hseat (not_le.mp hlt) hu
    · intro h hopen hseat hlt hu
      exact absurd (h hopen hseat hu) (not_le.mpr hlt)
  · simp only [hfit, not_false_eq_true, iff_true]
    refine and_congr_right fun _ => and_congr_right fun _ => and_iff_right_of_imp fun hu => ?_
    have hlarge := admissionCost_of_not_fits hfit hu
    rw [turnBudgets]
    omega

def fourTokens : Config :=
  { Config.default with maxNumBatchedTokens := 4, maxNumBatchedTokens_pos := Nat.succ_pos 3 }

def longGroup : SequenceGroup where
  requestId := 1
  samplingParams := { maxTokens := 1 }
  promptTokenIds := ['b', 'c', 'd', 'e', 'f', 'g', 'h', 'i'].map Char.toNat
  arrivalTime := 0

instance (s : CoreState ε) (sg : SequenceGroup) : Decidable (Rejects S s sg) := inferInstanceAs (Decidable (_ ≠ _))

instance (s : CoreState ε) (sg : SequenceGroup) : Decidable (AdmitsGroup S s sg) := inferInstanceAs (Decidable (_ ≠ _))

theorem rejection_exact_iff_of_long_prompt :
    RejectedRightly (fakeSetup fourTokens codeHash)
        (LLMEngine.run (fakeSetup fourTokens codeHash) [.addRequest ['a'] 5 0, .step 0,
          .addRequest ['b', 'c', 'd', 'e', 'f', 'g', 'h', 'i'] 1 0]).core longGroup ↔
      RejectionCondition (fakeSetup fourTokens codeHash)
        (LLMEngine.run (fakeSetup fourTokens codeHash) [.addRequest ['a'] 5 0, .step 0,
          .addRequest ['b', 'c', 'd', 'e', 'f', 'g', 'h', 'i'] 1 0]).core longGroup :=
  rejection_exact_iff (fakeSetup fourTokens codeHash) [.addRequest ['a'] 5 0, .step 0,
    .addRequest ['b', 'c', 'd', 'e', 'f', 'g', 'h', 'i'] 1 0] longGroup (by decide +kernel)

theorem rejection_depends_on_load : ¬ ∀ (config : Config) (blockHash : List ℕ → ℤ) (ops : List LLMEngine.Op),
    ∀ sg ∈ (LLMEngine.run (fakeSetup config blockHash) ops).queue.waiting.values,
      RejectedRightly (fakeSetup config blockHash) (LLMEngine.run (fakeSetup config blockHash) ops).core sg := by
  intro h
  have hr := h fourTokens codeHash [.addRequest ['a'] 5 0, .step 0,
    .addRequest ['b', 'c', 'd', 'e', 'f', 'g', 'h', 'i'] 1 0] longGroup (by decide +kernel)
  revert hr
  rw [RejectedRightly]
  decide +kernel

end MiniVllm
