import MiniVllm.EngineProofs.Steps
import MiniVllm.SchedulerProofs.Rejections

/-! The work that the requests of a queue still ask for, and that every step does some of it. -/

namespace MiniVllm

open EngineCore Scheduler Scheduler.BudgetLoop

variable {ε : Type} {S : Setup ε} {c : CallCondition ε}

def Sequence.outputLimit (q : Sequence) : ℕ := (max 1 q.samplingParams.maxTokens).toNat

/-- A bound on the steps that a live sequence can still take part in, its finish check among them. -/
def Sequence.work (q : Sequence) : ℕ :=
  if q.status = .prefill then q.promptTokenIds.length - q.prefillCursor + q.outputLimit
  else q.outputLimit + 1 - q.numGeneratedTokens

def SequenceGroup.work (sg : SequenceGroup) : ℕ := (sg.seqs.map Sequence.work).sum

def SequenceGroup.waitingWork (sg : SequenceGroup) : ℕ :=
  sg.promptTokenIds.length + (max 1 sg.samplingParams.maxTokens).toNat + 1

def RequestQueue.work (qu : RequestQueue) : ℕ :=
  qu.waiting.total SequenceGroup.waitingWork + qu.running.total SequenceGroup.work

lemma SequenceGroup.work_one {sg : SequenceGroup} {q : Sequence} (hq : sg.seqs = [q]) : sg.work = q.work := by
  simp [SequenceGroup.work, hq]

lemma LivePhase.work_pos {q : Sequence} (h : LivePhase q) : 0 < q.work := by
  rcases h with ⟨hs, -⟩ | ⟨hs, -, -, -, hle⟩
  · simp only [Sequence.work, hs, if_true, Sequence.outputLimit]
    omega
  · simp only [Sequence.work, hs, Sequence.outputLimit, reduceCtorEq, if_false]
    omega

section Batch

variable {queue : RequestQueue} {bm : BlockManager ε} {prefill decode : List Sequence} {n : ℕ}
  (hq : QueueFormed queue n) (hr : BatchReady S.config queue bm prefill decode) (token : SeqId → ℕ)

include hq hr

lemma work_afterBatch {rid : RequestId} {q : Sequence} (hlive : queue.runningSeq rid = some q)
    (hne : q.promptTokenIds ≠ []) :
    (afterBatch S.config (prefill.map (·.seqId)) (decode.map (·.seqId)) token q).work ≤ q.work ∧
      (q ∈ prefill ++ decode →
        (afterBatch S.config (prefill.map (·.seqId)) (decode.map (·.seqId)) token q).work < q.work) := by
  have hphase := hq.runningSeq_phase hlive
  have hlen : 0 < q.promptTokenIds.length := List.length_pos_iff.mpr hne
  have hchunk := S.config.maxPrefillChunkSize_pos
  by_cases hp : q ∈ prefill
  · have hs := (hr.prefill_live q hp).2
    have hcursor : q.prefillCursor < q.promptTokenIds.length := by
      rcases hphase with ⟨-, -, -, h | ⟨-, h⟩⟩ | ⟨h, -⟩
      · exact h
      · omega
      · rw [hs] at h
        cases h
    by_cases hc : chunkEnd S.config q = q.promptTokenIds.length
    · rw [afterBatch_completed hq hr token hlive hp hc]
      simp only [Sequence.work, Sequence.outputLimit, hs, reduceCtorEq, if_false, if_true]
      omega
    · rw [afterBatch_chunk hq hr token hlive hp hc]
      simp only [Sequence.work, Sequence.outputLimit, hs, if_true, chunkEnd]
      omega
  · by_cases hd : q ∈ decode
    · obtain ⟨-, hs, hlt⟩ := hr.decode_live q hd
      rw [afterBatch_decode hq hr token hlive hd]
      simp only [Sequence.work, Sequence.outputLimit, hs, reduceCtorEq, if_false]
      omega
    · rw [afterBatch_idle hq hr token hlive hp hd]
      exact ⟨le_refl _, fun hm => absurd (List.mem_append.mp hm) (by simp [hp, hd])⟩

end Batch

def LivePrompts (P : List ℕ → Prop) (qu : RequestQueue) : Prop :=
  ∀ rid sg, qu.waiting.get? rid = some sg ∨ qu.running.get? rid = some sg → P sg.promptTokenIds

section LivePrompts

variable {P : List ℕ → Prop} {s s' : CoreState ε}

lemma LivePrompts.of_values {qu : RequestQueue}
    (h : ∀ sg ∈ qu.waiting.values ++ qu.running.values, P sg.promptTokenIds) : LivePrompts P qu := by
  rintro rid sg (hg | hg)
  · exact h sg (List.mem_append_left _ ((qu.waiting.mem_values sg).mpr ⟨rid, hg⟩))
  · exact h sg (List.mem_append_right _ ((qu.running.mem_values sg).mpr ⟨rid, hg⟩))

lemma LivePrompts.of_running {queue : RequestQueue} (h : LivePrompts P s.queue)
    (hw : queue.waiting = s.queue.waiting) {f : Sequence → Sequence}
    (hr : ∀ rid, queue.running.get? rid = (s.queue.running.get? rid).map (SequenceGroup.mapSeqs f)) :
    LivePrompts P queue := by
  rintro rid sg (hg | hg)
  · rw [hw] at hg
    exact h rid sg (Or.inl hg)
  · rw [hr] at hg
    obtain ⟨sg₀, hsg₀, rfl⟩ := Option.map_eq_some_iff.mp hg
    exact h rid sg₀ (Or.inr hsg₀)

lemma Transition.livePrompts (hw : WellFormed S s) (ht : Transition S c s s')
    (hn : s'.seqGroupCount = s.seqGroupCount) (h : LivePrompts P s.queue) : LivePrompts P s'.queue := by
  cases ht with
  | submit => exact absurd hn (Nat.succ_ne_self _)
  | cleanup => exact h
  | ensure => exact h
  | refile => exact h
  | retire sg q status hrun hseqs =>
    rintro rid g (hg | hg)
    · exact h rid g (Or.inl hg)
    · exact h rid g (Or.inr (Dict.get?_pop_some hg))
  | withdraw sg hwait =>
    rintro rid g (hg | hg)
    · exact h rid g (Or.inl (Dict.get?_pop_some hg))
    · exact h rid g (Or.inr hg)
  | reject sg hwait =>
    rintro rid g (hg | hg)
    · exact h rid g (Or.inl (Dict.get?_pop_some hg))
    · exact h rid g (Or.inr hg)
  | admission sg hwait =>
    rintro rid g (hg | hg)
    · exact h rid g (Or.inl (Dict.get?_pop_some hg))
    · rcases Dict.get?_set_some hg with ⟨rfl, rfl⟩ | hg
      · exact h _ sg (Or.inl hwait)
      · exact h rid g (Or.inr hg)
  | batch prefill decode hready =>
    obtain ⟨r, queue, bm, hbatch, hspec⟩ := hw.runBatch_cases hready
    simp only [hbatch]
    cases hspec with
    | failed => exact h
    | done output x _ hexec hwt hfn hrj hrun => exact h.of_running hwt hrun

lemma LivePrompts.reaches (hw : WellFormed S s) (h : LivePrompts P s.queue) (hr : Reaches S c s s')
    (hn : s'.seqGroupCount = s.seqGroupCount) : LivePrompts P s'.queue := by
  induction hr with
  | refl => exact h
  | tail hr ht ih =>
    have h₁ := Reaches.seqGroupCount_le hr
    have h₂ := Reaches.seqGroupCount_le (Reaches.single S c ht)
    exact ht.livePrompts (hw.reaches hr) (by omega) (ih (by omega))

end LivePrompts

lemma Executes.work {s : CoreState ε} (hw : WellFormed S s) (hne : LivePrompts (· ≠ []) s.queue)
    {prefill decode : List Sequence} {queue : RequestQueue} {bm : BlockManager ε}
    (h : Executes S c s prefill decode (.ok ()) queue bm) (hwait : queue.waiting = s.queue.waiting) :
    queue.work ≤ s.queue.work ∧ (prefill ++ decode ≠ [] → queue.work < s.queue.work) := by
  cases h with
  | kept _ _ hempty =>
    have he := hempty rfl
    simp only [Bool.and_eq_true, List.isEmpty_iff] at he
    exact ⟨le_refl _, fun hn => absurd (by simp [he]) hn⟩
  | done bm output x queue hreach hready hrunning =>
    have hone : ∀ rid sg, s.queue.running.get? rid = some sg → ∃ q, sg.seqs = [q] ∧ s.queue.runningSeq rid = some q ∧
        (sg.mapSeqs (afterBatch S.config (prefill.map (·.seqId)) (decode.map (·.seqId)) (tokenOf output))).work =
          (afterBatch S.config (prefill.map (·.seqId)) (decode.map (·.seqId)) (tokenOf output) q).work ∧
        q.promptTokenIds ≠ [] := by
      intro rid sg hsg
      obtain ⟨-, -, q, hq, hl⟩ := hw.queue.running rid sg hsg
      refine ⟨q, hq, hw.queue.runningSeq_eq_some.mpr ⟨sg, hsg, hq⟩, ?_, ?_⟩
      · exact SequenceGroup.work_one (by simp [SequenceGroup.mapSeqs, hq])
      · rw [hl.prompt]
        exact hne rid sg (Or.inr hsg)
    have hle : ∀ rid sg, s.queue.running.get? rid = some sg →
        (sg.mapSeqs (afterBatch S.config (prefill.map (·.seqId)) (decode.map (·.seqId)) (tokenOf output))).work ≤
          sg.work := by
      intro rid sg hsg
      obtain ⟨q, hq, hlive, hwork, hprompt⟩ := hone rid sg hsg
      rw [hwork, SequenceGroup.work_one hq]
      exact (work_afterBatch hw.queue hready (tokenOf output) hlive hprompt).1
    rw [RequestQueue.work, RequestQueue.work, hwait, Dict.total_map _ _ hrunning]
    refine ⟨Nat.add_le_add_left (Dict.total_le_total _ _ _ hle) _, fun hn => Nat.add_lt_add_left ?_ _⟩
    obtain ⟨q, hm⟩ := List.exists_mem_of_ne_nil _ hn
    have hlive : s.queue.runningSeq q.seqId.request = some q := by
      rcases List.mem_append.mp hm with hp | hd
      · exact (hready.prefill_live q hp).1
      · exact (hready.decode_live q hd).1
    obtain ⟨sg, hsg, hseqs⟩ := hw.queue.runningSeq_eq_some.mp hlive
    obtain ⟨q', hq', -, hwork, hprompt⟩ := hone _ sg hsg
    obtain rfl : q' = q := by simpa [hq'] using hseqs
    apply Dict.total_lt_total _ _ _ hle hsg
    rw [hwork, SequenceGroup.work_one hq']
    exact (work_afterBatch hw.queue hready (tokenOf output) hlive hprompt).2 hm

lemma Visit.work {l l' : BudgetLoop ε} {sg : SequenceGroup} (hseqs : sg.seqs = []) (h : Visit S l sg l') :
    l'.queue.work ≤ l.queue.work := by
  cases h with
  | skip => exact le_refl _
  | reject hd hwait =>
    have hpop := l.queue.waiting.total_pop SequenceGroup.waitingWork _ sg hwait
    simp only [RequestQueue.work, RequestQueue.markRejected]
    omega
  | admission bm result hd hwait hfresh =>
    have hpop := l.queue.waiting.total_pop SequenceGroup.waitingWork _ sg hwait
    have hset := l.queue.running.total_set_new SequenceGroup.work _ (admittedGroup S l.blockManager sg) hfresh
    have hone : (admittedGroup S l.blockManager sg).seqs = [admittedSeq S l.blockManager sg] := by
      simp [admittedGroup, hseqs]
    have hwork : (admittedGroup S l.blockManager sg).work < sg.waitingWork := by
      rw [SequenceGroup.work_one hone]
      simp only [Sequence.work, Sequence.outputLimit, admittedSeq, SequenceGroup.createSequence, if_true,
        SequenceGroup.waitingWork]
      omega
    have hid : (admittedGroup S l.blockManager sg).requestId = sg.requestId := rfl
    simp only [RequestQueue.work, RequestQueue.markRunning, hid]
    omega

lemma Visits.work {l l' : BudgetLoop ε} {groups : List SequenceGroup} (hseqs : ∀ sg ∈ groups, sg.seqs = [])
    (h : Visits S l groups l') : l'.queue.work ≤ l.queue.work := by
  induction h with
  | nil => exact le_refl _
  | cons hv _ ih =>
    refine (ih fun g hg => hseqs g (List.mem_cons_of_mem _ hg)).trans ?_
    exact hv.work (hseqs _ (by simp))

lemma finishGroups_work {s₀ : CoreState ε} (h₀ : WellFormed S s₀) {l : FinishLoop ε} {groups : List SequenceGroup}
    (h : Finishing S {} s₀ l groups) :
    (groups.foldl (finishGroup S) l).queue.work ≤ l.queue.work ∧
      ((∃ sg ∈ groups, sg.due = true) → (groups.foldl (finishGroup S) l).queue.work < l.queue.work) := by
  induction groups generalizing l with
  | nil => exact ⟨le_refl _, by simp⟩
  | cons sg rest ih =>
    have hrun := h.pending sg (by simp)
    obtain ⟨-, -, q, hq, hl⟩ := (h₀.reaches h.reach).queue.running _ sg hrun
    obtain ⟨hle, hlt⟩ := ih (h.step h₀)
    rw [List.foldl_cons]
    by_cases hd : q.due
    · have hpop := l.queue.running.total_pop SequenceGroup.work _ sg hrun
      have hpos := hl.phase.work_pos
      rw [← SequenceGroup.work_one hq] at hpos
      have hless : (finishGroup S l sg).queue.work < l.queue.work := by
        have hid : (sg.finishedWith q).requestId = sg.requestId := rfl
        rw [finishGroup_due hq hl.phase.not_finished hd]
        simp only [RequestQueue.work, RequestQueue.markFinished, hid]
        omega
      exact ⟨hle.trans hless.le, fun _ => hle.trans_lt hless⟩
    · rw [finishGroup_keep hq hl.phase.not_finished hd hrun] at hle hlt ⊢
      refine ⟨hle, ?_⟩
      rintro ⟨g, hg, hdue⟩
      rcases List.mem_cons.mp hg with rfl | hg
      · exact absurd ((SequenceGroup.due_iff hq).mp hdue) hd
      · exact hlt ⟨g, hg, hdue⟩

def FirstChunkFits (config : Config) (prompt : List ℕ) : Prop :=
  prompt ≠ [] ∧ min prompt.length config.maxPrefillChunkSize ≤
    min config.maxNumBatchedTokens config.maxNumPrefillTokens

instance (config : Config) (prompt : List ℕ) : Decidable (FirstChunkFits config prompt) :=
  inferInstanceAs (Decidable (_ ∧ _))

lemma admissionCost_le (hchunked : S.config.chunkedPrefillEnabled = true) (bm : BlockManager ε) (sg : SequenceGroup) :
    admissionCost S bm sg ≤ min sg.promptTokenIds.length S.config.maxPrefillChunkSize := by
  have hle : uncachedTokens S bm sg ≤ sg.promptTokenIds.length := Nat.sub_le _ _
  simp only [admissionCost, admissionChunk, hchunked, if_true]
  split_ifs <;> omega

lemma fill_first {b : ℤ × ℤ} {cost : ℕ} (costs : List ℕ) (hs : 0 < b.2) (ht : (cost : ℤ) ≤ b.1) :
    (fill b (cost :: costs)).2 < b.2 := by
  have hle := (fill_le (place b cost) costs).2
  rw [fill_cons]
  rw [place_of_fits b cost hs ht] at hle ⊢
  simp only at hle
  omega

section Progress

variable {s₀ : CoreState ε} (h₀ : WellFormed S s₀) {l l' : BudgetLoop ε} {visited : List SequenceGroup}
  (h : Schedules S s₀ l l' visited) (hchunked : S.config.chunkedPrefillEnabled = true)
  (hfits : LivePrompts (FirstChunkFits S.config) s₀.queue)

include h₀ h hchunked hfits

lemma Schedules.first_fits {cost : ℕ} {costs : List ℕ}
    (hcosts : l.queue.prefills.map (nextChunk S.config) ++ visited.map (admissionCost S l.blockManager) =
      cost :: costs) : (cost : ℤ) ≤ min (S.config.maxNumBatchedTokens : ℤ) S.config.maxNumPrefillTokens := by
  have hmem : cost ∈ l.queue.prefills.map (nextChunk S.config) ++ visited.map (admissionCost S l.blockManager) := by
    rw [hcosts]
    simp
  have hbound : ∀ prompt : List ℕ, FirstChunkFits S.config prompt →
      ∀ k ≤ min prompt.length S.config.maxPrefillChunkSize,
        (k : ℤ) ≤ min (S.config.maxNumBatchedTokens : ℤ) S.config.maxNumPrefillTokens := by
    rintro prompt ⟨-, hfit⟩ k hk
    omega
  rcases List.mem_append.mp hmem with hm | hm
  · obtain ⟨q, hq, rfl⟩ := List.mem_map.mp hm
    have hlive : q ∈ s₀.queue.liveSeqs := by
      have hq' := List.mem_of_mem_filter hq
      rw [h.liveSeqs_eq h₀] at hq'
      exact List.mem_of_mem_filter hq'
    obtain ⟨sg, hsg, -, -, hl⟩ := h₀.queue.runningSeq_group (h₀.queue.mem_liveSeqs.mp hlive)
    refine hbound sg.promptTokenIds (hfits _ sg (Or.inr hsg)) _ ?_
    rw [nextChunk, hl.prompt]
    omega
  · obtain ⟨sg, hsg, rfl⟩ := List.mem_map.mp hm
    have hw : sg ∈ s₀.queue.waiting.values := by
      rw [h.visited_open h₀] at hsg
      split_ifs at hsg
      · exact hsg
      · cases hsg
    obtain ⟨rid, hg⟩ := (s₀.queue.waiting.mem_values sg).mp hw
    exact hbound sg.promptTokenIds (hfits rid sg (Or.inl hg)) _ (admissionCost_le hchunked l.blockManager sg)

omit hchunked hfits in
lemma Schedules.asks (hdue : ∀ sg ∈ s₀.queue.running.values, sg.due = false)
    (hlive : s₀.queue.waiting.values ≠ [] ∨ s₀.queue.running.values ≠ []) (hd : l.queue.decodes = []) :
    ∃ cost costs, l.queue.prefills.map (nextChunk S.config) ++ visited.map (admissionCost S l.blockManager) =
      cost :: costs := by
  cases hp : l.queue.prefills with
  | cons q rest => exact ⟨_, _, rfl⟩
  | nil =>
    have hstay : s₀.queue.staying = [] := by
      rw [← h.liveSeqs_eq h₀]
      exact (liveSeqs_eq_nil l.queue).mpr ⟨hd, hp⟩
    have hidle : s₀.queue.running.values = [] := by
      by_contra hne
      obtain ⟨sg, hsg⟩ := List.exists_mem_of_ne_nil _ hne
      obtain ⟨-, q, hq, hphase⟩ := running_one h₀ hsg
      have hq' : q ∈ s₀.queue.staying := by
        refine List.mem_filter.mpr ⟨List.mem_flatMap.mpr ⟨sg, hsg, ?_⟩, ?_⟩
        · rw [getUnfinishedSeqs_one hq hphase]
          simp
        · simpa [hdue sg hsg] using SequenceGroup.due_iff hq
      rw [hstay] at hq'
      cases hq'
    have hopen : AdmissionOpen S s₀.queue := fun _ => hstay
    have hv : visited = s₀.queue.waiting.values := by rw [h.visited_open h₀, if_pos hopen]
    obtain ⟨sg, rest, hw⟩ := List.exists_cons_of_ne_nil (hlive.resolve_right (by simp [hidle]))
    exact ⟨_, _, by rw [hv, hw]; rfl⟩

theorem Schedules.progress (hdue : ∀ sg ∈ s₀.queue.running.values, sg.due = false)
    (hlive : s₀.queue.waiting.values ≠ [] ∨ s₀.queue.running.values ≠ []) :
    l'.result.scheduledPrefillGroups ≠ [] ∨ l'.result.scheduledDecodeGroups ≠ [] := by
  by_cases hd : l.queue.decodes = []
  · left
    have hbudgets := h.visits.budgets
    have haccounts := (h.visits.accounts h.accounts).seats
    have hstart := h.budgets
    simp only [hd, List.length_nil, Nat.cast_zero, sub_zero, add_zero] at hstart haccounts
    rw [hstart, ← fill_append] at hbudgets
    obtain ⟨cost, costs, hc⟩ := h.asks h₀ hdue hlive hd
    have hseats := S.config.maxNumSeqs_pos
    have hlt := fill_first (b := (min (S.config.maxNumBatchedTokens : ℤ) S.config.maxNumPrefillTokens,
      (S.config.maxNumSeqs : ℤ))) costs (by simp only; omega) (h.first_fits h₀ hchunked hfits hc)
    rw [← hc, ← hbudgets] at hlt
    simp only [BudgetLoop.budgets] at hlt
    intro hnil
    rw [hnil, List.length_nil] at haccounts
    simp only [Nat.cast_zero] at haccounts
    omega
  · right
    rw [h.visits.frame.2.2.1, h.decodeGroups]
    simpa using hd

end Progress

end MiniVllm
