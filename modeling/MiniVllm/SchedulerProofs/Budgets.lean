import MiniVllm.EngineProofs.Effect
import MiniVllm.EngineProofs.Requests
import MiniVllm.SchedulerProofs.Filling
import MiniVllm.SharingProofs.Hits

/-! The token, prefill and sequence budgets of every schedule, when no prompt is empty. -/

namespace MiniVllm

open Scheduler Scheduler.BudgetLoop EngineCore

variable {ε : Type} {S : Setup ε}

def groupDecodes (sg : SequenceGroup) : ℕ := (sg.getUnfinishedSeqs.filter (·.status ≠ .prefill)).length

def groupPrefills (sg : SequenceGroup) : ℕ := (sg.getUnfinishedSeqs.filter (·.status = .prefill)).length

def groupChunks (config : Config) (sg : SequenceGroup) : ℕ :=
  ((sg.getUnfinishedSeqs.filter (·.status = .prefill)).map (nextChunk config)).sum

lemma decodes_length (qu : RequestQueue) : qu.decodes.length = qu.running.total groupDecodes := by
  rw [RequestQueue.decodes, RequestQueue.liveSeqs, List.filter_flatMap, List.length_flatMap]
  rfl

lemma prefills_length (qu : RequestQueue) : qu.prefills.length = qu.running.total groupPrefills := by
  rw [RequestQueue.prefills, RequestQueue.liveSeqs, List.filter_flatMap, List.length_flatMap]
  rfl

lemma chunks_sum (config : Config) (qu : RequestQueue) :
    (qu.prefills.map (nextChunk config)).sum = qu.running.total (groupChunks config) := by
  rw [RequestQueue.prefills, RequestQueue.liveSeqs, List.filter_flatMap, List.map_flatMap, List.flatMap_def,
    List.sum_flatten, List.map_map]
  rfl

section OneSequence

variable {sg : SequenceGroup} {q : Sequence} (hq : sg.seqs = [q]) (hl : LivePhase q)

include hq hl

lemma getUnfinishedSeqs_one : sg.getUnfinishedSeqs = [q] := by
  simp [SequenceGroup.getUnfinishedSeqs, hq, hl.not_finished]

lemma group_prefill (config : Config) (hs : q.status = .prefill) :
    groupDecodes sg = 0 ∧ groupPrefills sg = 1 ∧ groupChunks config sg = nextChunk config q := by
  simp [groupDecodes, groupPrefills, groupChunks, getUnfinishedSeqs_one hq hl, hs]

lemma group_decode (config : Config) (hs : q.status = .running) :
    groupDecodes sg = 1 ∧ groupPrefills sg = 0 ∧ groupChunks config sg = 0 := by
  simp [groupDecodes, groupPrefills, groupChunks, getUnfinishedSeqs_one hq hl, hs]

end OneSequence

lemma QueueFormed.numRunning_eq {qu : RequestQueue} {n : ℕ} (h : QueueFormed qu n) :
    qu.numRunning = qu.decodes.length + qu.prefills.length := by
  rw [decodes_length, prefills_length, ← Dict.total_add, RequestQueue.numRunning, Dict.size_eq_total]
  have hone : ∀ rid sg, qu.running.get? rid = some sg → groupDecodes sg + groupPrefills sg = 1 := by
    intro rid sg hsg
    obtain ⟨-, -, q, hq, hl⟩ := h.running rid sg hsg
    rcases hl.phase.status with hs | hs
    · obtain ⟨h₁, h₂, -⟩ := group_prefill hq hl.phase Config.default hs
      omega
    · obtain ⟨h₁, h₂, -⟩ := group_decode hq hl.phase Config.default hs
      omega
  apply le_antisymm
  · exact Dict.total_le_total _ _ _ fun rid sg hsg => (hone rid sg hsg).ge
  · exact Dict.total_le_total _ _ _ fun rid sg hsg => (hone rid sg hsg).le

structure WithinBudget (config : Config) (qu : RequestQueue) : Prop where
  tokens : qu.decodes.length + (qu.prefills.map (nextChunk config)).sum ≤ config.maxNumBatchedTokens
  prefill : (qu.prefills.map (nextChunk config)).sum ≤ config.maxNumPrefillTokens
  seats : qu.numRunning ≤ config.maxNumSeqs

namespace WithinBudget

variable {config : Config} {qu qu' : RequestQueue}

lemma of_totals (h : WithinBudget config qu)
    (ht : qu'.running.total groupDecodes + qu'.running.total (groupChunks config) ≤
      qu.running.total groupDecodes + qu.running.total (groupChunks config))
    (hc : qu'.running.total (groupChunks config) ≤ qu.running.total (groupChunks config))
    (hn : qu'.numRunning ≤ qu.numRunning) : WithinBudget config qu' := by
  obtain ⟨h₁, h₂, h₃⟩ := h
  rw [decodes_length, chunks_sum] at h₁
  rw [chunks_sum] at h₂
  refine ⟨?_, ?_, hn.trans h₃⟩
  · rw [decodes_length, chunks_sum]
    exact ht.trans h₁
  · rw [chunks_sum]
    exact hc.trans h₂

lemma of_running (h : WithinBudget config qu) (hr : qu'.running = qu.running) : WithinBudget config qu' := by
  apply h.of_totals
  · rw [hr]
  · rw [hr]
  · rw [RequestQueue.numRunning, RequestQueue.numRunning, hr]

lemma markFinished (h : WithinBudget config qu) {sg sg' : SequenceGroup}
    (hrun : qu.running.get? sg.requestId = some sg) (hid : sg'.requestId = sg.requestId) :
    WithinBudget config (qu.markFinished sg') := by
  have hpop : ∀ f : SequenceGroup → ℕ, (qu.markFinished sg').running.total f ≤ qu.running.total f := by
    intro f
    have := qu.running.total_pop f sg.requestId sg hrun
    rw [RequestQueue.markFinished, hid]
    simp only
    omega
  have hd := hpop groupDecodes
  have hc := hpop (groupChunks config)
  have hn := hpop (fun _ => 1)
  rw [← Dict.size_eq_total, ← Dict.size_eq_total] at hn
  exact h.of_totals (by omega) hc hn

end WithinBudget

section AfterBatch

variable {queue : RequestQueue} {bm : BlockManager ε} {prefill decode : List Sequence} {n : ℕ}
  (hq : QueueFormed queue n) (hr : BatchReady S.config queue bm prefill decode) (token : SeqId → ℕ)
  {sg : SequenceGroup} {q : Sequence} (hrun : queue.running.get? sg.requestId = some sg) (hseqs : sg.seqs = [q])
  (hne : q.promptTokenIds ≠ [])

include hq hr hrun hseqs hne

lemma afterBatch_costs :
    groupDecodes (sg.mapSeqs (afterBatch S.config (prefill.map (·.seqId)) (decode.map (·.seqId)) token)) +
        groupChunks S.config
          (sg.mapSeqs (afterBatch S.config (prefill.map (·.seqId)) (decode.map (·.seqId)) token)) ≤
        groupDecodes sg + groupChunks S.config sg ∧
      groupChunks S.config
          (sg.mapSeqs (afterBatch S.config (prefill.map (·.seqId)) (decode.map (·.seqId)) token)) ≤
        groupChunks S.config sg := by
  have hlive : queue.runningSeq sg.requestId = some q := hq.runningSeq_eq_some.mpr ⟨sg, hrun, hseqs⟩
  have hphase := hq.runningSeq_phase hlive
  have hphase' := afterBatch_phase hq hr token hlive
  have hseqs' : (sg.mapSeqs (afterBatch S.config (prefill.map (·.seqId)) (decode.map (·.seqId)) token)).seqs =
      [afterBatch S.config (prefill.map (·.seqId)) (decode.map (·.seqId)) token q] := by
    simp [SequenceGroup.mapSeqs, hseqs]
  by_cases hp : q ∈ prefill
  · have hs := (hr.prefill_live q hp).2
    obtain ⟨h₁, -, h₂⟩ := group_prefill hseqs hphase S.config hs
    have hlen : 0 < q.promptTokenIds.length := List.length_pos_iff.mpr hne
    have hcursor : q.prefillCursor < q.promptTokenIds.length := by
      rcases hphase with ⟨-, -, -, h | ⟨-, h⟩⟩ | ⟨h, -⟩
      · exact h
      · omega
      · rw [hs] at h
        cases h
    have hchunk := S.config.maxPrefillChunkSize_pos
    by_cases hc : chunkEnd S.config q = q.promptTokenIds.length
    · have hst : (afterBatch S.config (prefill.map (·.seqId)) (decode.map (·.seqId)) token q).status = .running := by
        rw [afterBatch_completed hq hr token hlive hp hc]
      obtain ⟨h₃, -, h₄⟩ := group_decode hseqs' hphase' S.config hst
      rw [h₁, h₂, h₃, h₄, nextChunk]
      omega
    · have hst : (afterBatch S.config (prefill.map (·.seqId)) (decode.map (·.seqId)) token q).status = .prefill := by
        rw [afterBatch_chunk hq hr token hlive hp hc]
        exact hs
      obtain ⟨h₃, -, h₄⟩ := group_prefill hseqs' hphase' S.config hst
      have hle := cursor_le_chunkEnd S.config hcursor.le
      rw [h₁, h₂, h₃, h₄, afterBatch_chunk hq hr token hlive hp hc]
      simp only [nextChunk]
      omega
  · by_cases hd : q ∈ decode
    · have hs := (hr.decode_live q hd).2.1
      have hst : (afterBatch S.config (prefill.map (·.seqId)) (decode.map (·.seqId)) token q).status = .running := by
        rw [afterBatch_decode hq hr token hlive hd]
        exact hs
      obtain ⟨h₁, -, h₂⟩ := group_decode hseqs hphase S.config hs
      obtain ⟨h₃, -, h₄⟩ := group_decode hseqs' hphase' S.config hst
      rw [h₁, h₂, h₃, h₄]
      exact ⟨le_refl _, le_refl _⟩
    · have hidle : sg.mapSeqs (afterBatch S.config (prefill.map (·.seqId)) (decode.map (·.seqId)) token) = sg := by
        rw [SequenceGroup.mapSeqs, hseqs, List.map_singleton, afterBatch_idle hq hr token hlive hp hd, ← hseqs]
      rw [hidle]
      exact ⟨le_refl _, le_refl _⟩

end AfterBatch

def fitting (S : Setup ε) : CallCondition ε where
  admission qu bm sg := WithinBudget S.config (qu.markRunning (admittedGroup S bm sg))

lemma nextChunk_admittedSeq (bm : BlockManager ε) (sg : SequenceGroup) :
    nextChunk S.config (admittedSeq S bm sg) ≤ admissionCost S bm sg := by
  rw [nextChunk_admittedSeq_eq]
  exact Nat.min_le_left _ _

structure Booked (S : Setup ε) (n : ℕ) (l : BudgetLoop ε) : Prop where
  accounts : Accounts S.config n l
  decodes : l.queue.running.total groupDecodes = n
  chunks : l.queue.running.total (groupChunks S.config) ≤ l.numPrefillTokens
  scheduled : l.queue.running.total (fun _ => 1) = n + l.result.scheduledPrefillGroups.length
  tokens : 0 ≤ l.prefillBudget
  seats : 0 ≤ l.remainingSeqBudget

lemma Booked.withinBudget {n : ℕ} {l : BudgetLoop ε} (h : Booked S n l) : WithinBudget S.config l.queue := by
  obtain ⟨⟨h₁, h₂, h₃⟩, hd, hc, hs, ht, hseats⟩ := h
  refine ⟨?_, ?_, ?_⟩
  · rw [decodes_length, chunks_sum]
    omega
  · rw [chunks_sum]
    omega
  · rw [RequestQueue.numRunning, Dict.size_eq_total]
    omega

lemma Visit.booked {n : ℕ} {l l' : BudgetLoop ε} {sg : SequenceGroup} (hseqs : sg.seqs = []) (h : Visit S l sg l')
    (hf : Booked S n l) : Booked S n l' := by
  have haccounts := h.accounts hf.accounts
  have hnonneg := place_nonneg l.budgets (admissionCost S l.blockManager sg) ⟨hf.tokens, hf.seats⟩
  rw [← h.budgets] at hnonneg
  cases h with
  | skip => exact ⟨haccounts, hf.decodes, hf.chunks, hf.scheduled, hf.tokens, hf.seats⟩
  | reject => exact ⟨haccounts, hf.decodes, hf.chunks, hf.scheduled, hf.tokens, hf.seats⟩
  | admission bm result hd hwait hfresh ha hresult =>
    have hone : (admittedGroup S l.blockManager sg).seqs = [admittedSeq S l.blockManager sg] := by
      simp [admittedGroup, hseqs]
    obtain ⟨h₁, -, h₂⟩ := group_prefill hone (WellFormed.admittedSeq_live l.blockManager sg).phase S.config rfl
    have hnew : ∀ f, (l.queue.markRunning (admittedGroup S l.blockManager sg)).running.total f =
        l.queue.running.total f + f (admittedGroup S l.blockManager sg) :=
      fun f => l.queue.running.total_set_new f sg.requestId _ hfresh
    refine ⟨haccounts, ?_, ?_, ?_, hnonneg.1, hnonneg.2⟩
    · rw [hnew, h₁, hf.decodes]
      rfl
    · rw [hnew, h₂]
      exact Nat.add_le_add hf.chunks (nextChunk_admittedSeq l.blockManager sg)
    · rw [hnew, hf.scheduled, hresult.1, List.length_append, List.length_singleton]
      omega

section Schedule

variable {s₀ : CoreState ε} (h₀ : WellFormed S s₀) (hb : WithinBudget S.config s₀.queue)

include h₀ hb

lemma finishLoop_withinBudget : WithinBudget S.config (finishLoop S s₀.queue s₀.blockManager).queue := by
  have hle : ∀ f : SequenceGroup → ℕ,
      (finishLoop S s₀.queue s₀.blockManager).queue.running.total f ≤ s₀.queue.running.total f := by
    intro f
    rw [Dict.total, finishLoop_values h₀, (finishLoop_pass h₀).keep]
    exact (List.filter_sublist.map f).sum_le_sum fun _ _ => Nat.zero_le _
  have hn := hle (fun _ => 1)
  rw [← Dict.size_eq_total, ← Dict.size_eq_total] at hn
  exact hb.of_totals (Nat.add_le_add (hle _) (hle _)) (hle _) hn

lemma Schedules.booked {l l' : BudgetLoop ε} {visited : List SequenceGroup} (h : Schedules S s₀ l l' visited) :
    Booked S l.queue.decodes.length l := by
  have hwb := finishLoop_withinBudget h₀ hb
  have hq : (finishLoop S s₀.queue s₀.blockManager).queue.numRunning = _ :=
    (finishLoop_wellFormed h₀).queue.numRunning_eq
  simp only at hq
  rw [← h.queue] at hwb hq
  obtain ⟨ht, hp, hs⟩ := hwb
  have hfill := h.budgets
  rw [fill_all] at hfill
  · have h₁ : l.prefillBudget = _ := congrArg Prod.fst hfill
    have h₂ : l.remainingSeqBudget = _ := congrArg Prod.snd hfill
    obtain ⟨a₁, a₂, a₃⟩ := h.accounts
    simp only [List.length_map] at h₁ h₂
    refine ⟨h.accounts, (decodes_length l.queue).symm, ?_, ?_, ?_, ?_⟩
    · rw [← chunks_sum]
      omega
    · rw [← Dict.size_eq_total]
      have hr : l.queue.running.size = l.queue.decodes.length + l.queue.prefills.length := hq
      omega
    · omega
    · omega
  · simp only
    omega
  · simp only [List.length_map]
    omega

lemma fitting_schedule : (fitting S).Schedule S s₀.queue s₀.blockManager := by
  obtain ⟨l, l', visited, h⟩ := schedule_spec h₀
  obtain ⟨n, queue, bm, hbefore⟩ := h.before
  have hstep : ∀ k rest sg k', Admitting S {} s₀ k (sg :: rest) ∧ Booked S l.queue.decodes.length k →
      admitWaiting S k sg = (.ok (), k') →
      Admitting S {} s₀ k' rest ∧ Booked S l.queue.decodes.length k' := by
    rintro k rest sg k' ⟨ha, hf⟩ he
    have hwf := h₀.reaches ha.reach
    have hseqs := (hwf.queue.waiting _ sg (ha.pending sg (by simp))).2.2
    obtain ⟨k₁, hk, hv⟩ := admitWaiting_visit h₀ ha
    have hnext := (ha.step h₀ ⟨fun _ => trivial, fun _ => trivial⟩).2
    rw [he] at hnext
    obtain rfl : k₁ = k' := by
      rw [hk] at he
      exact congrArg Prod.snd he
    exact ⟨hnext, hv.booked hseqs hf⟩
  simp only [CallCondition.Schedule, hbefore]
  refine ForEachAll.mono (I := fun k rest => Admitting S {} s₀ k rest ∧ Booked S l.queue.decodes.length k)
    (P := fun _ _ => True) (fun k sg rest k' hi _ he => hstep k rest sg k' hi he) ?_
    ⟨h.admitting, h.booked h₀ hb⟩ (ForEachAll.of_forall (fun _ _ => trivial) _ _)
  rintro k sg rest ⟨ha, hf⟩ -
  refine ⟨fun _ => trivial, fun hd => ?_⟩
  obtain ⟨k', hk, hv⟩ := admitWaiting_visit h₀ ha
  have hf' := (hstep k rest sg k' ⟨ha, hf⟩ hk).2.withinBudget
  cases hv with
  | skip reason hn =>
    rw [admissionDecision_eq] at hd
    rcases hn with hn | hn <;> simp [hd] at hn
  | reject hn =>
    rw [admissionDecision_eq] at hd
    simp [hd] at hn
  | admission => exact hf'

theorem schedule_budgets : ∃ result queue bm, schedule S s₀.queue s₀.blockManager = (.ok result, queue, bm) ∧
    result.numBatchedTokens = result.numPrefillTokens + result.numDecodeTokens ∧
    result.numBatchedTokens ≤ S.config.maxNumBatchedTokens ∧
    result.numPrefillTokens ≤ S.config.maxNumPrefillTokens ∧
    (decodeSeqs queue result).length + result.scheduledPrefillGroups.length ≤ S.config.maxNumSeqs ∧
    result.tokenBudgetRemaining = S.config.maxNumBatchedTokens - result.numBatchedTokens ∧
    0 ≤ result.tokenBudgetRemaining := by
  obtain ⟨l, l', visited, h⟩ := schedule_spec h₀
  have hf := h.booked h₀ hb
  obtain ⟨a₁, a₂, a₃⟩ := h.visits.accounts h.accounts
  have hnonneg : 0 ≤ l'.prefillBudget ∧ 0 ≤ l'.remainingSeqBudget := by
    have hfill := fill_nonneg l.budgets (visited.map (admissionCost S l.blockManager)) ⟨hf.tokens, hf.seats⟩
    rw [← h.visits.budgets] at hfill
    exact hfill
  refine ⟨_, _, _, h.result, rfl, ?_, ?_, ?_, ?_, ?_⟩
  · simp only [report]
    omega
  · simp only [report]
    omega
  · rw [h.decodeSeqs_length h₀]
    simp only [report]
    omega
  · simp only [report]
    omega
  · simp only [report]
    omega

end Schedule

lemma WithinBudget.step {s s' : CoreState ε} (hw : WellFormed S s)
    (hne : ∀ rid sg, s.queue.running.get? rid = some sg → sg.promptTokenIds ≠ [])
    (h : WithinBudget S.config s.queue) (ht : Transition S (fitting S) s s') :
    WithinBudget S.config s'.queue := by
  cases hw.effect ht with
  | idle => exact h
  | requeue queue n hrun => exact h.of_running hrun
  | cleanup => exact h
  | retire sg q status bm hid hseqs hlive =>
    obtain ⟨g, hg, hgs, hgid, -⟩ := hw.queue.runningSeq_group hlive
    rw [← hgid] at hg
    exact h.markFinished hg (hid.trans hgid.symm)
  | admission sg bm hwait hfresh hc => exact hc
  | hit => exact h
  | miss => exact h
  | failed => exact h
  | done prefill decode output x queue hready hc hexec hwaiting hfinished hrejected hrunning =>
    have hcosts : ∀ rid sg, s.queue.running.get? rid = some sg →
        groupDecodes (sg.mapSeqs (afterBatch S.config (prefill.map (·.seqId)) (decode.map (·.seqId)) (tokenOf output))) +
            groupChunks S.config
              (sg.mapSeqs (afterBatch S.config (prefill.map (·.seqId)) (decode.map (·.seqId)) (tokenOf output))) ≤
            groupDecodes sg + groupChunks S.config sg ∧
          groupChunks S.config
              (sg.mapSeqs (afterBatch S.config (prefill.map (·.seqId)) (decode.map (·.seqId)) (tokenOf output))) ≤
            groupChunks S.config sg := by
      intro rid sg hsg
      obtain ⟨hid, -, q, hq, hl⟩ := hw.queue.running rid sg hsg
      refine afterBatch_costs hw.queue hready (tokenOf output) (by rw [hid]; exact hsg) hq ?_
      rw [hl.prompt]
      exact hne rid sg hsg
    apply h.of_totals
    · rw [← Dict.total_add, ← Dict.total_add, Dict.total_map _ _ hrunning]
      exact Dict.total_le_total _ _ _ fun rid sg hsg => (hcosts rid sg hsg).1
    · rw [Dict.total_map _ _ hrunning]
      exact Dict.total_le_total _ _ _ fun rid sg hsg => (hcosts rid sg hsg).2
    · rw [RequestQueue.numRunning, RequestQueue.numRunning, Dict.size_eq_total, Dict.size_eq_total,
        Dict.total_map _ _ hrunning]

section Runs

variable {requests : List (List ℕ × SamplingParams)} (hne : ∀ r ∈ requests, r.1 ≠ [])

include hne

lemma WithinBudget.reaches {s s' : CoreState ε} (hw : WellFormed S s) (hs : Serves requests s.queue)
    (h : WithinBudget S.config s.queue) (hr : Reaches S (fitting S) s s')
    (hn : s'.seqGroupCount = s.seqGroupCount) : WithinBudget S.config s'.queue := by
  induction hr with
  | refl => exact h
  | tail hr ht ih =>
    have h₁ := Reaches.seqGroupCount_le hr
    have h₂ := Reaches.seqGroupCount_le (Reaches.single S _ ht)
    refine WithinBudget.step (hw.reaches hr) (fun rid sg hsg => ?_) (ih (by omega)) ht
    exact (hs.reaches hw hr (by omega)).running_nonempty hne hsg

lemma WithinBudget.apply {s : EngineState ε} (hw : WellFormed S s.core) (hs : Serves requests s.queue)
    (hlen : s.seqGroupCount = requests.length) (h : WithinBudget S.config s.queue) (op : LLMEngine.Op) :
    WithinBudget S.config (LLMEngine.apply S s op).queue := by
  have hcond : (fitting S).Apply S s op := by
    cases op with
    | addRequest => trivial
    | cancelRequest => trivial
    | checkTimeouts => trivial
    | step now =>
      have hb := beginStep_refines (c := fitting S) hw now
      have hcount : (beginStep S s now).seqGroupCount = s.seqGroupCount := checkTimeouts_seqGroupCount S _ now
      have hwb : WithinBudget S.config (beginStep S s now).core.queue := WithinBudget.reaches hne hw hs h hb hcount
      refine ⟨fitting_schedule (hw.reaches hb) hwb, ?_⟩
      split
      · trivial
      · exact fun _ => execute_of_forall (fun _ _ _ _ => trivial) (fun _ _ _ _ => trivial) _ _ _ _
  have hcount := (apply_serves S hw op hlen hs).1
  have hreach (hn : (LLMEngine.apply S s op).seqGroupCount = s.seqGroupCount) :
      WithinBudget S.config (LLMEngine.apply S s op).queue :=
    WithinBudget.reaches hne hw hs h (apply_refines hw hcond) hn
  cases op with
  | addRequest prompt maxNewTokens now => exact h.of_running rfl
  | step now => exact hreach (hcount.trans (by simp [requestsOf, hlen]))
  | cancelRequest rid => exact hreach (hcount.trans (by simp [requestsOf, hlen]))
  | checkTimeouts now => exact hreach (hcount.trans (by simp [requestsOf, hlen]))

end Runs

theorem withinBudget_run (S : Setup ε) (ops : List LLMEngine.Op) (hne : ∀ r ∈ requestsOf S ops, r.1 ≠ []) :
    WithinBudget S.config (LLMEngine.run S ops).queue := by
  induction ops using List.reverseRecOn with
  | nil => exact ⟨Nat.zero_le _, Nat.zero_le _, Nat.zero_le _⟩
  | append_singleton ops op ih =>
    have hold : ∀ r ∈ requestsOf S ops, r.1 ≠ [] := by
      intro r hr
      apply hne
      rw [requestsOf_append]
      exact List.mem_append_left _ hr
    obtain ⟨hlen, hs⟩ := serves_run S ops
    rw [LLMEngine.run_concat]
    exact WithinBudget.apply hold (wellFormed_run S ops) hs hlen (ih hold) op

theorem schedule_within_budgets (S : Setup ε) (ops : List LLMEngine.Op)
    (hne : ∀ r ∈ requestsOf S ops, r.1 ≠ []) :
    ∃ result queue bm,
      schedule S (LLMEngine.run S ops).queue (LLMEngine.run S ops).blockManager = (.ok result, queue, bm) ∧
      result.numBatchedTokens = result.numPrefillTokens + result.numDecodeTokens ∧
      result.numBatchedTokens ≤ S.config.maxNumBatchedTokens ∧
      result.numPrefillTokens ≤ S.config.maxNumPrefillTokens ∧
      (decodeSeqs queue result).length + result.scheduledPrefillGroups.length ≤ S.config.maxNumSeqs ∧
      result.tokenBudgetRemaining = S.config.maxNumBatchedTokens - result.numBatchedTokens ∧
      0 ≤ result.tokenBudgetRemaining :=
  schedule_budgets (wellFormed_run S ops) (withinBudget_run S ops hne)

theorem schedule_within_budgets_of_three_requests :
    ∃ result queue bm,
      schedule oneTokenSetup
        (LLMEngine.run oneTokenSetup [.addRequest ['a', 'b', 'c', 'd', 'e'] 3 0, .addRequest ['f'] 1 0, .step 0,
          .addRequest ['g', 'h'] 2 0]).queue
        (LLMEngine.run oneTokenSetup [.addRequest ['a', 'b', 'c', 'd', 'e'] 3 0, .addRequest ['f'] 1 0, .step 0,
          .addRequest ['g', 'h'] 2 0]).blockManager = (.ok result, queue, bm) ∧
      result.numBatchedTokens = result.numPrefillTokens + result.numDecodeTokens ∧
      result.numBatchedTokens ≤ oneTokenSetup.config.maxNumBatchedTokens ∧
      result.numPrefillTokens ≤ oneTokenSetup.config.maxNumPrefillTokens ∧
      (decodeSeqs queue result).length + result.scheduledPrefillGroups.length ≤ oneTokenSetup.config.maxNumSeqs ∧
      result.tokenBudgetRemaining = oneTokenSetup.config.maxNumBatchedTokens - result.numBatchedTokens ∧
      0 ≤ result.tokenBudgetRemaining :=
  schedule_within_budgets oneTokenSetup [.addRequest ['a', 'b', 'c', 'd', 'e'] 3 0, .addRequest ['f'] 1 0, .step 0,
    .addRequest ['g', 'h'] 2 0] (by decide)

end MiniVllm
