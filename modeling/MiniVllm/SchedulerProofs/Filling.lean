import MiniVllm.SchedulerProofs.Phases
import MiniVllm.Library.FirstFit

/-! Phases 3 to 5 as a first-fit filling of the prefill and sequence budgets. -/

namespace MiniVllm

open Scheduler

variable {ε : Type} {S : Setup ε} {c : CallCondition ε}

def nextChunk (config : Config) (q : Sequence) : ℕ :=
  min (q.promptTokenIds.length - q.prefillCursor) config.maxPrefillChunkSize

def uncachedTokens (S : Setup ε) (bm : BlockManager ε) (sg : SequenceGroup) : ℕ :=
  sg.promptTokenIds.length - (bm.probePrefixCache S.blockParams sg.promptTokenIds).cachedTokenCount

def admissionCost (S : Setup ε) (bm : BlockManager ε) (sg : SequenceGroup) : ℕ :=
  admissionChunk S.config (uncachedTokens S bm sg) sg.promptTokenIds.length

lemma nextChunk_admittedSeq_eq (bm : BlockManager ε) (sg : SequenceGroup) :
    nextChunk S.config (admittedSeq S bm sg) = min (admissionCost S bm sg) S.config.maxPrefillChunkSize := by
  have hle : (bm.probePrefixCache S.blockParams sg.promptTokenIds).cachedTokenCount ≤ sg.promptTokenIds.length := by
    rw [WellFormed.cachedTokenCount_eq]
    exact Nat.min_le_right _ _
  have hseq : nextChunk S.config (admittedSeq S bm sg) = min (sg.promptTokenIds.length -
      admissionCursor (uncachedTokens S bm sg) sg.promptTokenIds.length
        (bm.probePrefixCache S.blockParams sg.promptTokenIds).cachedTokenCount
        (admissionChunk S.config (uncachedTokens S bm sg) sg.promptTokenIds.length)) S.config.maxPrefillChunkSize := rfl
  rw [hseq, admissionCost]
  have huncached : uncachedTokens S bm sg = sg.promptTokenIds.length -
      (bm.probePrefixCache S.blockParams sg.promptTokenIds).cachedTokenCount := rfl
  generalize uncachedTokens S bm sg = uncached at huncached ⊢
  by_cases hu : uncached = 0
  · have hall : (bm.probePrefixCache S.blockParams sg.promptTokenIds).cachedTokenCount = sg.promptTokenIds.length := by
      omega
    simp only [admissionCursor, admissionChunk, hu, hall, Nat.zero_min, ite_self, and_self, if_true]
    omega
  · simp only [admissionCursor, admissionChunk, hu, false_and, and_false, if_false]
    split_ifs <;> omega

namespace Scheduler.BudgetLoop

def budgets (l : BudgetLoop ε) : ℤ × ℤ := (l.prefillBudget, l.remainingSeqBudget)

structure Accounts (config : Config) (n : ℕ) (l : BudgetLoop ε) : Prop where
  tokens : l.remainingTokenBudget + l.numPrefillTokens + n = config.maxNumBatchedTokens
  prefill : l.prefillBudget + l.numPrefillTokens = min (config.maxNumBatchedTokens - n : ℤ) config.maxNumPrefillTokens
  seats : l.remainingSeqBudget + l.result.scheduledPrefillGroups.length + n = config.maxNumSeqs

def report (l : BudgetLoop ε) (n : ℕ) : ScheduleResult :=
  { l.result with
    numPrefillTokens := l.numPrefillTokens
    numDecodeTokens := n
    numBatchedTokens := l.numPrefillTokens + n
    tokenBudgetRemaining := l.remainingTokenBudget }

end Scheduler.BudgetLoop

open Scheduler.BudgetLoop

lemma accounts_decodeFirst (l : FinishLoop ε) (decode : List SequenceGroup) :
    Accounts S.config (numDecode decode) (decodeFirst S l decode) := by
  refine ⟨?_, ?_, ?_⟩
  · simp only [decodeFirst, Nat.cast_zero]
    omega
  · simp only [decodeFirst, Nat.cast_zero, add_zero]
  · simp only [decodeFirst, List.length_nil, Nat.cast_zero]
    omega

section ContinuePrefill

variable (l : BudgetLoop ε) (item : SequenceGroup × Sequence)

lemma continuePrefill_budgets :
    (continuePrefill S l item).budgets = place l.budgets (nextChunk S.config item.2) := by
  by_cases hs : l.remainingSeqBudget ≤ 0
  · rw [place_of_no_seat _ _ hs, continuePrefill, if_pos hs]
    rfl
  · by_cases ht : (nextChunk S.config item.2 : ℤ) > l.prefillBudget
    · rw [place_of_too_large _ _ ht]
      rw [nextChunk] at ht
      simp only [continuePrefill, hs, ht, if_false, if_true]
      rfl
    · rw [place_of_fits _ _ (not_le.mp hs) (not_lt.mp ht)]
      rw [nextChunk] at ht
      simp only [continuePrefill, hs, ht, if_false]
      rfl

lemma continuePrefill_accounts {n : ℕ} (h : Accounts S.config n l) :
    Accounts S.config n (continuePrefill S l item) := by
  obtain ⟨h₁, h₂, h₃⟩ := h
  simp only [continuePrefill]
  split_ifs
  · exact ⟨h₁, h₂, h₃⟩
  · exact ⟨h₁, h₂, h₃⟩
  · refine ⟨?_, ?_, ?_⟩
    · simp only [Nat.cast_add]
      omega
    · rw [← h₂]
      simp only [Nat.cast_add]
      omega
    · simp only [List.length_append, List.length_singleton, Nat.cast_add, Nat.cast_one]
      omega

lemma continuePrefill_result :
    (continuePrefill S l item).result.finishedGroups = l.result.finishedGroups ∧
      (continuePrefill S l item).result.rejectedGroups = l.result.rejectedGroups := by
  simp only [continuePrefill]
  split_ifs <;> exact ⟨rfl, rfl⟩

end ContinuePrefill

section ContinuePrefills

variable (items : List (SequenceGroup × Sequence)) (l : BudgetLoop ε)

lemma continuePrefills_budgets : (items.foldl (continuePrefill S) l).budgets =
    fill l.budgets ((items.map Prod.snd).map (nextChunk S.config)) := by
  induction items generalizing l with
  | nil => rfl
  | cons item rest ih => rw [List.foldl_cons, ih, continuePrefill_budgets, List.map_cons, List.map_cons, fill_cons]

lemma continuePrefills_accounts {n : ℕ} (h : Accounts S.config n l) :
    Accounts S.config n (items.foldl (continuePrefill S) l) := by
  induction items generalizing l with
  | nil => exact h
  | cons item rest ih =>
    apply ih
    exact continuePrefill_accounts l item h

lemma continuePrefills_result :
    (items.foldl (continuePrefill S) l).result.finishedGroups = l.result.finishedGroups ∧
      (items.foldl (continuePrefill S) l).result.rejectedGroups = l.result.rejectedGroups := by
  induction items generalizing l with
  | nil => exact ⟨rfl, rfl⟩
  | cons item rest ih =>
    obtain ⟨h₁, h₂⟩ := ih (continuePrefill S l item)
    obtain ⟨h₃, h₄⟩ := continuePrefill_result (S := S) l item
    exact ⟨h₁.trans h₃, h₂.trans h₄⟩

end ContinuePrefills

def admissionOf (S : Setup ε) (bm : BlockManager ε) (b : ℤ × ℤ) (sg : SequenceGroup) : Admission :=
  if b.2 ≤ 0 then .noSeat
  else if (admissionCost S bm sg : ℤ) > b.1 then
    if uncachedTokens S bm sg > S.config.maxNumBatchedTokens then .reject else .noBudget
  else .admission

lemma admissionDecision_eq (l : BudgetLoop ε) (sg : SequenceGroup) :
    admissionDecision S l sg = admissionOf S l.blockManager l.budgets sg := rfl

def admittedGroup (S : Setup ε) (bm : BlockManager ε) (sg : SequenceGroup) : SequenceGroup :=
  { sg with seqs := sg.seqs ++ [admittedSeq S bm sg] }

/-- Everything that the visit of one waiting group can do. -/
inductive Visit (S : Setup ε) (l : BudgetLoop ε) (sg : SequenceGroup) : BudgetLoop ε → Prop
  | skip (reason : IgnoreReason)
      (hd : admissionOf S l.blockManager l.budgets sg = .noSeat ∨
        admissionOf S l.blockManager l.budgets sg = .noBudget) :
      Visit S l sg (l.ignore sg.requestId reason)
  | reject (hd : admissionOf S l.blockManager l.budgets sg = .reject)
      (hwait : l.queue.waiting.get? sg.requestId = some sg) :
      Visit S l sg { l with
        queue := l.queue.markRejected sg
        result := { l.result with rejectedGroups := l.result.rejectedGroups ++ [sg.requestId] } }
  | admission (bm : BlockManager ε) (result : ScheduleResult)
      (hd : admissionOf S l.blockManager l.budgets sg = .admission)
      (hwait : l.queue.waiting.get? sg.requestId = some sg)
      (hfresh : l.queue.running.get? sg.requestId = none)
      (ha : BlockManager.Admits S.blockParams ⟨sg.requestId, 0⟩ sg.promptTokenIds l.blockManager bm)
      (hresult : result.scheduledPrefillGroups = l.result.scheduledPrefillGroups ++ [sg.requestId] ∧
        result.finishedGroups = l.result.finishedGroups ∧ result.rejectedGroups = l.result.rejectedGroups ∧
          result.scheduledDecodeGroups = l.result.scheduledDecodeGroups) :
      Visit S l sg { l with
        queue := l.queue.markRunning (admittedGroup S l.blockManager sg)
        blockManager := bm
        result := result
        prefillBudget := l.prefillBudget - admissionCost S l.blockManager sg
        remainingTokenBudget := l.remainingTokenBudget - admissionCost S l.blockManager sg
        remainingSeqBudget := l.remainingSeqBudget - 1
        numPrefillTokens := l.numPrefillTokens + admissionCost S l.blockManager sg }

lemma admitWaiting_visit {s₀ : CoreState ε} (h₀ : WellFormed S s₀) {l : BudgetLoop ε} {sg : SequenceGroup}
    {rest : List SequenceGroup} (h : Admitting S c s₀ l (sg :: rest)) :
    ∃ l', admitWaiting S l sg = (.ok (), l') ∧ Visit S l sg l' := by
  have hwf := h₀.reaches h.reach
  have hwait : l.queue.waiting.get? sg.requestId = some sg := h.pending sg (by simp)
  cases hdec : admissionDecision S l sg with
  | noSeat => exact ⟨l.ignore sg.requestId .maxNumSeqsLimit, by simp only [admitWaiting, hdec], .skip _ (Or.inl hdec)⟩
  | noBudget => exact ⟨l.ignore sg.requestId .noTokenBudget, by simp only [admitWaiting, hdec], .skip _ (Or.inr hdec)⟩
  | reject => exact ⟨_, by simp only [admitWaiting, hdec], .reject hdec hwait⟩
  | admission =>
    obtain ⟨bm, he, ha⟩ := hwf.admits hwait
    have hfresh : l.queue.running.get? sg.requestId = none :=
      (hwf.queue.only_waiting hwait).1
    have hv := Visit.admission bm
      { l.result with
        scheduledPrefillGroups := l.result.scheduledPrefillGroups ++ [sg.requestId]
        cachedTokenCount := l.result.cachedTokenCount +
          (l.blockManager.probePrefixCache S.blockParams sg.promptTokenIds).cachedTokenCount
        numUncachedPrefillTokens := l.result.numUncachedPrefillTokens + admissionCost S l.blockManager sg
        matchedBlockCount := l.result.matchedBlockCount +
          (l.blockManager.probePrefixCache S.blockParams sg.promptTokenIds).matchedBlockCount }
      hdec hwait hfresh ha ⟨rfl, rfl, rfl, rfl⟩
    refine ⟨_, ?_, hv⟩
    simp only [admitWaiting, hdec, admitGroup, he]
    rfl

inductive Visits (S : Setup ε) : BudgetLoop ε → List SequenceGroup → BudgetLoop ε → Prop
  | nil (l : BudgetLoop ε) : Visits S l [] l
  | cons {l l₁ l₂ : BudgetLoop ε} {sg : SequenceGroup} {rest : List SequenceGroup}
      (hv : Visit S l sg l₁) (hrest : Visits S l₁ rest l₂) : Visits S l (sg :: rest) l₂

lemma Visits.append {l l' : BudgetLoop ε} {xs ys : List SequenceGroup} (h : Visits S l (xs ++ ys) l') :
    ∃ l₁, Visits S l xs l₁ ∧ Visits S l₁ ys l' := by
  induction xs generalizing l with
  | nil => exact ⟨l, .nil l, h⟩
  | cons sg rest ih =>
    cases h with
    | cons hv hrest =>
      obtain ⟨l₁, h₁, h₂⟩ := ih hrest
      exact ⟨l₁, .cons hv h₁, h₂⟩

lemma admitWaiting_visits {s₀ : CoreState ε} (h₀ : WellFormed S s₀) {l : BudgetLoop ε}
    {groups : List SequenceGroup} (h : Admitting S {} s₀ l groups) :
    ∃ l', forEach (admitWaiting S) l groups = (.ok (), l') ∧ Visits S l groups l' ∧ Admitting S {} s₀ l' [] := by
  induction groups generalizing l with
  | nil => exact ⟨l, rfl, .nil l, h⟩
  | cons sg rest ih =>
    obtain ⟨l₁, he, hv⟩ := admitWaiting_visit h₀ h
    have hnext := (h.step h₀ ⟨fun _ => trivial, fun _ => trivial⟩).2
    rw [he] at hnext
    obtain ⟨l', hloop, hvisits, hdone⟩ := ih hnext
    exact ⟨l', by simp only [forEach, he]; exact hloop, .cons hv hvisits, hdone⟩

section VisitFacts

variable {l l' : BudgetLoop ε} {sg : SequenceGroup}

lemma Admits.probe {P : BlockParams ε} {sid : SeqId} {prompt : List ℕ} {bm bm' : BlockManager ε}
    (h : BlockManager.Admits P sid prompt bm bm') (other : List ℕ) :
    bm'.probePrefixCache P other = bm.probePrefixCache P other := by
  have hcached : ∀ x, bm'.cachedBlock x = bm.cachedBlock x := by
    intro x
    apply Option.ext
    intro p
    simp only [BlockManager.cachedBlock_eq_some, h.prefixCache, h.refCount]
    refine and_congr_right fun _ => ?_
    constructor
    · intro hpos
      by_contra hz
      have hm : p ∈ (bm.probePrefixCache P prompt).matchedPhysicalBlockIds := by
        apply List.count_pos_iff.mp
        omega
      exact hz (BlockManager.probe_live hm)
    · omega
  simp only [BlockManager.probePrefixCache, BlockManager.matchPrefix_congr hcached]

lemma Visit.probe (h : Visit S l sg l') (prompt : List ℕ) :
    l'.blockManager.probePrefixCache S.blockParams prompt =
      l.blockManager.probePrefixCache S.blockParams prompt := by
  cases h with
  | skip => rfl
  | reject => rfl
  | admission bm result hd hwait hfresh ha => exact Admits.probe ha prompt

lemma Visit.budgets (h : Visit S l sg l') :
    l'.budgets = place l.budgets (admissionCost S l.blockManager sg) := by
  cases h with
  | skip reason hd =>
    simp only [admissionOf] at hd
    split_ifs at hd with h₁ h₂ h₃
    · rw [place_of_no_seat _ _ h₁]
      rfl
    · rcases hd with hd | hd <;> cases hd
    · rw [place_of_too_large _ _ h₂]
      rfl
    · rcases hd with hd | hd <;> cases hd
  | reject hd =>
    simp only [admissionOf] at hd
    split_ifs at hd with h₁ h₂ h₃
    rw [place_of_too_large _ _ h₂]
    rfl
  | admission bm result hd hwait hfresh ha =>
    simp only [admissionOf] at hd
    split_ifs at hd with h₁ h₂ h₃
    rw [place_of_fits _ _ (not_le.mp h₁) (not_lt.mp h₂)]
    rfl

lemma Visit.accounts {n : ℕ} (h : Visit S l sg l') (ha : Accounts S.config n l) : Accounts S.config n l' := by
  obtain ⟨h₁, h₂, h₃⟩ := ha
  cases h with
  | skip => exact ⟨h₁, h₂, h₃⟩
  | reject => exact ⟨h₁, h₂, h₃⟩
  | admission bm result hd hwait hfresh ha hresult =>
    refine ⟨?_, ?_, ?_⟩
    · simp only [Nat.cast_add]
      omega
    · rw [← h₂]
      simp only [Nat.cast_add]
      omega
    · simp only [hresult.1, List.length_append, List.length_singleton, Nat.cast_add, Nat.cast_one]
      omega

lemma Visit.frame (h : Visit S l sg l') :
    l'.queue.finished = l.queue.finished ∧ l'.result.finishedGroups = l.result.finishedGroups ∧
      l'.result.scheduledDecodeGroups = l.result.scheduledDecodeGroups ∧
      (∀ rid g, l.queue.running.get? rid = some g → l'.queue.running.get? rid = some g) ∧
      (∀ rid g, l.queue.rejected.get? rid = some g → rid ≠ sg.requestId → l'.queue.rejected.get? rid = some g) ∧
      ∀ rid ≠ sg.requestId, l'.queue.waiting.get? rid = l.queue.waiting.get? rid ∧
        (rid ∈ l'.result.rejectedGroups ↔ rid ∈ l.result.rejectedGroups) := by
  cases h with
  | skip => exact ⟨rfl, rfl, rfl, fun _ _ h => h, fun _ _ h _ => h, fun _ _ => ⟨rfl, Iff.rfl⟩⟩
  | reject =>
    refine ⟨rfl, rfl, rfl, fun _ _ h => h, fun rid g hg hne => ?_, fun rid hne => ⟨?_, ?_⟩⟩
    · exact (l.queue.rejected.get?_set_ne sg hne).trans hg
    · exact l.queue.waiting.get?_pop_ne hne
    · simp [hne]
  | admission bm result hd hwait hfresh ha hresult =>
    refine ⟨rfl, hresult.2.1, hresult.2.2.2, fun rid g hg => ?_, fun _ _ h _ => h, fun rid hne => ⟨?_, ?_⟩⟩
    · have hne : rid ≠ sg.requestId := by
        rintro rfl
        rw [hfresh] at hg
        cases hg
      exact (l.queue.running.get?_set_ne _ hne).trans hg
    · exact l.queue.waiting.get?_pop_ne hne
    · simp only [hresult.2.2.1]

end VisitFacts

section VisitsFacts

variable {l l' : BudgetLoop ε} {groups : List SequenceGroup}

lemma Visits.probe (h : Visits S l groups l') (prompt : List ℕ) :
    l'.blockManager.probePrefixCache S.blockParams prompt =
      l.blockManager.probePrefixCache S.blockParams prompt := by
  induction h with
  | nil => rfl
  | cons hv _ ih => exact ih.trans (hv.probe prompt)

lemma Visits.admissionCost (h : Visits S l groups l') (sg : SequenceGroup) :
    admissionCost S l'.blockManager sg = admissionCost S l.blockManager sg := by
  simp only [MiniVllm.admissionCost, uncachedTokens, h.probe]

lemma Visits.budgets (h : Visits S l groups l') :
    l'.budgets = fill l.budgets (groups.map (MiniVllm.admissionCost S l.blockManager)) := by
  induction h with
  | nil => rfl
  | cons hv _ ih =>
    have hcost := (Visits.cons hv (.nil _)).admissionCost
    rw [ih, List.map_cons, fill_cons, ← hv.budgets, funext hcost]

lemma Visits.accounts {n : ℕ} (h : Visits S l groups l') (ha : Accounts S.config n l) :
    Accounts S.config n l' := by
  induction h with
  | nil => exact ha
  | cons hv _ ih => exact ih (hv.accounts ha)

lemma Visits.frame (h : Visits S l groups l') :
    l'.queue.finished = l.queue.finished ∧ l'.result.finishedGroups = l.result.finishedGroups ∧
      l'.result.scheduledDecodeGroups = l.result.scheduledDecodeGroups ∧
      (∀ rid g, l.queue.running.get? rid = some g → l'.queue.running.get? rid = some g) ∧
      (∀ rid g, l.queue.rejected.get? rid = some g → rid ∉ groups.map (·.requestId) →
        l'.queue.rejected.get? rid = some g) ∧
      ∀ rid ∉ groups.map (·.requestId), l'.queue.waiting.get? rid = l.queue.waiting.get? rid ∧
        (rid ∈ l'.result.rejectedGroups ↔ rid ∈ l.result.rejectedGroups) := by
  induction h with
  | nil => exact ⟨rfl, rfl, rfl, fun _ _ h => h, fun _ _ h _ => h, fun _ _ => ⟨rfl, Iff.rfl⟩⟩
  | cons hv _ ih =>
    obtain ⟨h₁, h₂, h₃, h₄, h₅, h₆⟩ := hv.frame
    obtain ⟨i₁, i₂, i₃, i₄, i₅, i₆⟩ := ih
    refine ⟨i₁.trans h₁, i₂.trans h₂, i₃.trans h₃, fun rid g hg => i₄ rid g (h₄ rid g hg),
      fun rid g hg hne => ?_, fun rid hne => ?_⟩
    · rw [List.map_cons, List.mem_cons, not_or] at hne
      exact i₅ rid g (h₅ rid g hg hne.1) hne.2
    · rw [List.map_cons, List.mem_cons, not_or] at hne
      exact ⟨(i₆ rid hne.2).1.trans (h₆ rid hne.1).1, (i₆ rid hne.2).2.trans (h₆ rid hne.1).2⟩

end VisitsFacts

structure Schedules (S : Setup ε) (s₀ : CoreState ε) (l l' : BudgetLoop ε) (visited : List SequenceGroup) : Prop where
  before : ∃ n queue bm, beforeAdmission S s₀.queue s₀.blockManager = (.ok (l, visited, n), queue, bm)
  queue : l.queue = (finishLoop S s₀.queue s₀.blockManager).queue
  blockManager : l.blockManager = (finishLoop S s₀.queue s₀.blockManager).blockManager
  budgets : l.budgets = fill
    (min (S.config.maxNumBatchedTokens - l.queue.decodes.length : ℤ) S.config.maxNumPrefillTokens,
      S.config.maxNumSeqs - l.queue.decodes.length) (l.queue.prefills.map (nextChunk S.config))
  accounts : Accounts S.config l.queue.decodes.length l
  finishedGroups : l.result.finishedGroups = dueIds s₀.queue.running.values
  rejectedGroups : l.result.rejectedGroups = []
  decodeGroups : l.result.scheduledDecodeGroups = l.queue.decodes.map (·.seqId.request)
  visited_eq : visited = if S.config.staticBatchMode = true ∧ l.queue.liveSeqs ≠ [] then [] else l.queue.waiting.values
  admitting : Admitting S {} s₀ l visited
  visits : Visits S l visited l'
  done : Admitting S {} s₀ l' []
  result : schedule S s₀.queue s₀.blockManager =
    (.ok (l'.report l.queue.decodes.length), l'.queue, l'.blockManager)

lemma map_requestId {groups : List SequenceGroup}
    (h : ∀ sg ∈ groups, ∃ q, sg.getUnfinishedSeqs = [q] ∧ q.seqId.request = sg.requestId) :
    groups.map (·.requestId) = (groups.flatMap (·.getUnfinishedSeqs)).map (·.seqId.request) := by
  induction groups with
  | nil => rfl
  | cons sg rest ih =>
    obtain ⟨q, hq, hid⟩ := h sg (by simp)
    rw [List.map_cons, List.flatMap_cons, hq, List.singleton_append, List.map_cons, hid,
      ih fun g hg => h g (List.mem_cons_of_mem sg hg)]

lemma beforeAdmission_eq {queue : RequestQueue} {bm : BlockManager ε} {decode : List SequenceGroup}
    {prefill : List (SequenceGroup × Sequence)} {l : BudgetLoop ε}
    (hcat : categorize (finishLoop S queue bm).keepRunningGroups = .ok (decode, prefill))
    (hl : l = prefill.foldl (continuePrefill S) (decodeFirst S (finishLoop S queue bm) decode)) :
    beforeAdmission S queue bm = (.ok (l, if canAdmit S decode prefill then l.queue.waiting.values else [],
      numDecode decode), l.queue, l.blockManager) := by
  have hfin : queue.running.values.foldl (finishGroup S) { queue := queue, blockManager := bm } =
      finishLoop S queue bm := rfl
  rw [hl]
  simp only [beforeAdmission, hfin, hcat]

lemma liveSeqs_eq_nil (qu : RequestQueue) : qu.liveSeqs = [] ↔ qu.decodes = [] ∧ qu.prefills = [] := by
  simp only [RequestQueue.decodes, RequestQueue.prefills, List.filter_eq_nil_iff, decide_eq_true_eq]
  constructor
  · intro h
    simp [h]
  · rintro ⟨h₁, h₂⟩
    apply List.eq_nil_iff_forall_not_mem.mpr
    exact fun q hq => h₁ q hq (h₂ q hq)

lemma finishLoop_live {s₀ : CoreState ε} (h₀ : WellFormed S s₀) {sg : SequenceGroup}
    (hsg : sg ∈ (finishLoop S s₀.queue s₀.blockManager).keepRunningGroups) : ∃ q, sg.seqs = [q] ∧ LivePhase q := by
  rw [(finishLoop_pass h₀).keep] at hsg
  obtain ⟨-, q, hq, hl⟩ := running_one h₀ (List.mem_of_mem_filter hsg)
  exact ⟨q, hq, hl⟩

lemma canAdmit_groups {decode : List SequenceGroup} {prefill : List (SequenceGroup × Sequence)} {qu : RequestQueue}
    (hempty : (decode.isEmpty && prefill.isEmpty) = true ↔ qu.liveSeqs = []) :
    (if canAdmit S decode prefill then qu.waiting.values else []) =
      if S.config.staticBatchMode = true ∧ qu.liveSeqs ≠ [] then [] else qu.waiting.values := by
  rw [canAdmit]
  by_cases hs : S.config.staticBatchMode = true
  · by_cases hn : qu.liveSeqs = []
    · simp [hs, hempty.mpr hn, hn]
    · simp [hs, (Bool.not_eq_true _).mp (mt hempty.mp hn), hn]
  · simp [hs]

theorem schedule_spec {s₀ : CoreState ε} (h₀ : WellFormed S s₀) : ∃ l l' visited, Schedules S s₀ l l' visited := by
  have hf := finishLoop_finishing (c := {}) h₀
  have hwf := finishLoop_wellFormed h₀
  have hvalues := finishLoop_values h₀
  have hpass := finishLoop_pass h₀
  have hone : ∀ sg ∈ (finishLoop S s₀.queue s₀.blockManager).keepRunningGroups,
      ∃ q, sg.seqs = [q] ∧ LivePhase q := fun sg hsg => finishLoop_live h₀ hsg
  obtain ⟨decode, prefill, hcat, hd, -, -⟩ := categorize_spec _ hone
  obtain ⟨l, visited, n, queue, bm, hb, hreach, hwait, hnd, hsch⟩ := beforeAdmission_spec (c := {}) h₀
  obtain ⟨hl, rfl, rfl⟩ : l = prefill.foldl (continuePrefill S)
        (decodeFirst S (finishLoop S s₀.queue s₀.blockManager) decode) ∧
      visited = (if canAdmit S decode prefill then l.queue.waiting.values else []) ∧ n = numDecode decode := by
    have he := hb.symm.trans (beforeAdmission_eq hcat rfl)
    simp only [Prod.mk.injEq, Except.ok.injEq] at he
    obtain ⟨⟨rfl, h₂, h₃⟩, -⟩ := he
    exact ⟨rfl, h₂, h₃⟩
  set fin := finishLoop S s₀.queue s₀.blockManager with hfin
  obtain ⟨hqueue, hbm, hdecs, -⟩ := continuePrefill_frame (S := S) prefill (decodeFirst S fin decode)
  obtain ⟨hfins, hrejs⟩ := continuePrefills_result (S := S) prefill (decodeFirst S fin decode)
  rw [← hl] at hqueue hbm hdecs hfins hrejs
  have hq : l.queue = fin.queue := hqueue
  obtain ⟨hdecodes, hprefills⟩ := categorize_seqs hcat hone
  rw [← hvalues] at hdecodes hprefills
  have hdec : decode.flatMap (·.getUnfinishedSeqs) = l.queue.decodes := by rw [hq]; exact hdecodes
  have hpre : prefill.map Prod.snd = l.queue.prefills := by rw [hq]; exact hprefills
  have hnum : numDecode decode = l.queue.decodes.length := by
    rw [← hdec, List.length_flatMap]
    rfl
  have hids : decode.map (·.requestId) = l.queue.decodes.map (·.seqId.request) := by
    rw [← hdec]
    apply map_requestId
    intro sg hsg
    obtain ⟨hid, -, q, hq, hl⟩ := hwf.queue.running _ sg (hf.keep sg (hd sg hsg).1).1
    refine ⟨q, ?_, by rw [hl.seqId]⟩
    simp [SequenceGroup.getUnfinishedSeqs, hq, hl.phase.not_finished]
  have hempty : (decode.isEmpty && prefill.isEmpty) = true ↔ l.queue.liveSeqs = [] := by
    rw [liveSeqs_eq_nil, ← hpre, ← List.map_eq_nil_iff (f := (·.seqId.request)), ← hids]
    simp
  have hadm : Admitting S {} s₀ l (if canAdmit S decode prefill then l.queue.waiting.values else []) :=
    ⟨hreach, hwait, hnd, hsch⟩
  obtain ⟨l', hloop, hvisits, hdone⟩ := admitWaiting_visits h₀ hadm
  refine ⟨l, l', _, ⟨_, _, _, hb⟩, hq, hbm, ?_, ?_, ?_, ?_, ?_, canAdmit_groups hempty, hadm, hvisits, hdone, ?_⟩
  · rw [hl, continuePrefills_budgets, ← hl, hpre, ← hnum]
    rfl
  · rw [← hnum, hl]
    apply continuePrefills_accounts
    exact accounts_decodeFirst fin decode
  · rw [hfins]
    exact hpass.finishedGroups
  · rw [hrejs]
    rfl
  · rw [hdecs]
    exact hids
  · simp only [schedule, hb, hloop, hnum, report]

lemma Schedules.wellFormed {s₀ : CoreState ε} (h₀ : WellFormed S s₀) {l l' : BudgetLoop ε}
    {visited : List SequenceGroup} (h : Schedules S s₀ l l' visited) :
    WellFormed S ⟨l'.queue, l'.blockManager, s₀.seqGroupCount⟩ :=
  h₀.reaches h.done.reach

lemma Schedules.decodeSeqs_length {s₀ : CoreState ε} (h₀ : WellFormed S s₀) {l l' : BudgetLoop ε}
    {visited : List SequenceGroup} (h : Schedules S s₀ l l' visited) :
    (EngineCore.decodeSeqs l'.queue (l'.report l.queue.decodes.length)).length = l.queue.decodes.length := by
  have hq := (h.wellFormed h₀).queue
  have hsome : ∀ rid ∈ l'.result.scheduledDecodeGroups, (l'.queue.runningSeq rid).isSome := by
    intro rid hrid
    obtain ⟨q, hq, -⟩ := h.done.scheduled.decode rid hrid
    rw [hq]
    rfl
  have hr : (l'.report l.queue.decodes.length).scheduledDecodeGroups = l'.result.scheduledDecodeGroups := rfl
  rw [EngineCore.decodeSeqs, hr, scheduledSeqs_eq hq, List.length_filterMap_eq_countP,
    List.countP_eq_length.mpr hsome, h.visits.frame.2.2.1, h.decodeGroups, List.length_map]

end MiniVllm
