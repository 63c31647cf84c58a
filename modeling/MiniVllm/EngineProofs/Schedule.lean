import MiniVllm.EngineProofs.Abort

/-! `schedule` as transitions: it never raises, and what it schedules is running. -/

namespace MiniVllm

open Scheduler

variable {ε : Type} {S : Setup ε} {c : CallCondition ε}

structure Scheduled (queue : RequestQueue) (prefill decode : List RequestId) : Prop where
  nodup : (prefill ++ decode).Nodup
  prefill : ∀ rid ∈ prefill, ∃ q, queue.runningSeq rid = some q ∧ q.status = .prefill
  decode : ∀ rid ∈ decode, ∃ q, queue.runningSeq rid = some q ∧ q.status = .running ∧
    (q.numGeneratedTokens : ℤ) < q.samplingParams.maxTokens

namespace CallCondition

variable (c S)

def visited (s₀ : CoreState ε) : CallCondition ε where
  probe qu bm sg := c.probe qu bm sg ∧ Reaches S c s₀ ⟨qu, bm, s₀.seqGroupCount⟩ ∧
    qu.waiting.get? sg.requestId = some sg
  admission qu bm sg := c.admission qu bm sg ∧ Reaches S c s₀ ⟨qu, bm, s₀.seqGroupCount⟩ ∧
    qu.waiting.get? sg.requestId = some sg
  ensure qu bm q position := c.ensure qu bm q position ∧ Reaches S c s₀ ⟨qu, bm, s₀.seqGroupCount⟩ ∧
    EnsureReady S.config qu bm q position
  batch qu bm prefill decode := c.batch qu bm prefill decode ∧
    Reaches S c s₀ ⟨qu, bm, s₀.seqGroupCount⟩ ∧ BatchReady S.config qu bm prefill decode

end CallCondition

def Sequence.due (q : Sequence) : Prop := q.samplingParams.maxTokens ≤ q.numGeneratedTokens

instance (q : Sequence) : Decidable q.due := inferInstanceAs (Decidable (_ ≤ _))

lemma Sequence.not_due {q : Sequence} : ¬ q.due ↔ (q.numGeneratedTokens : ℤ) < q.samplingParams.maxTokens :=
  not_le

def SequenceGroup.finishedWith (sg : SequenceGroup) (q : Sequence) : SequenceGroup :=
  { sg with seqs := [{ q with status := .finished }] }

section FinishGroup

variable {l : FinishLoop ε} {sg : SequenceGroup} {q : Sequence} (hq : sg.seqs = [q]) (hlive : q.finished = false)

include hq hlive

lemma finishGroup_due (hd : q.due) :
    finishGroup S l sg =
      { l with
        queue := l.queue.markFinished (sg.finishedWith q)
        blockManager := l.blockManager.free S.blockParams q.seqId
        finishedGroups := l.finishedGroups ++ [sg.requestId] } := by
  have hge : (q.numGeneratedTokens : ℤ) ≥ q.samplingParams.maxTokens := hd
  have hseqs : finishSeqs S sg.seqs l.blockManager =
      ([{ q with status := .finished }], l.blockManager.free S.blockParams q.seqId) := by
    simp [hq, finishSeqs, hlive, hge]
  have hdone : (sg.finishedWith q).isFinished = true := rfl
  simp only [SequenceGroup.finishedWith] at hdone
  simp only [finishGroup, hseqs, hdone, if_true, SequenceGroup.finishedWith]

lemma finishGroup_keep (hd : ¬ q.due) (hrun : l.queue.running.get? sg.requestId = some sg) :
    finishGroup S l sg = { l with keepRunningGroups := l.keepRunningGroups ++ [sg] } := by
  have hge : ¬ (q.numGeneratedTokens : ℤ) ≥ q.samplingParams.maxTokens := hd
  have hseqs : finishSeqs S sg.seqs l.blockManager = ([q], l.blockManager) := by
    simp [hq, finishSeqs, hge]
  have hsame : ({ sg with seqs := [q] } : SequenceGroup) = sg := by rw [← hq]
  have hnot : sg.isFinished = false := by
    simp [SequenceGroup.isFinished, SequenceGroup.numSequences, SequenceGroup.numFinished, hq, hlive]
  simp only [finishGroup, hseqs, hsame, hnot, Bool.false_eq_true, if_false, l.queue.running.set_eq_self hrun]

end FinishGroup

structure Finishing (S : Setup ε) (c : CallCondition ε) (s₀ : CoreState ε) (l : FinishLoop ε)
    (rest : List SequenceGroup) : Prop where
  reach : Reaches S c s₀ ⟨l.queue, l.blockManager, s₀.seqGroupCount⟩
  pending : ∀ sg ∈ rest, l.queue.running.get? sg.requestId = some sg
  keep : ∀ sg ∈ l.keepRunningGroups, l.queue.running.get? sg.requestId = some sg ∧
    ∀ q ∈ sg.seqs, (q.numGeneratedTokens : ℤ) < q.samplingParams.maxTokens
  nodup : ((l.keepRunningGroups ++ rest).map (·.requestId)).Nodup

lemma Finishing.step {s₀ : CoreState ε} (h₀ : WellFormed S s₀) {l : FinishLoop ε} {sg : SequenceGroup}
    {rest : List SequenceGroup} (h : Finishing S c s₀ l (sg :: rest)) :
    Finishing S c s₀ (finishGroup S l sg) rest := by
  have hwf := h₀.reaches h.reach
  have hrun := h.pending sg (by simp)
  obtain ⟨-, -, q, hq, hl⟩ := hwf.queue.running _ sg hrun
  have hfin := hl.phase.not_finished
  have hnd := h.nodup
  simp only [List.map_append, List.map_cons] at hnd
  have hne : ∀ g, g ∈ l.keepRunningGroups ∨ g ∈ rest → g.requestId ≠ sg.requestId := by
    obtain ⟨-, hcons, hdisj⟩ := List.nodup_append.mp hnd
    rintro g (hg | hg) he
    · exact hdisj _ (List.mem_map_of_mem hg) _ (by simp) he
    · exact (List.nodup_cons.mp hcons).1 (he ▸ List.mem_map_of_mem hg)
  by_cases hd : q.due
  · rw [finishGroup_due hq hfin hd]
    have hget : ∀ g, g.requestId ≠ sg.requestId → l.queue.running.get? g.requestId = some g →
        (l.queue.markFinished (sg.finishedWith q)).running.get? g.requestId = some g := by
      intro g hg hgr
      have hg' : g.requestId ≠ (sg.finishedWith q).requestId := hg
      simpa only [RequestQueue.markFinished, Dict.get?_pop, if_neg hg'] using hgr
    refine ⟨h.reach.tail (.retire _ sg q .finished hrun hq (.finished hd)), fun g hg => ?_, fun g hg => ?_, ?_⟩
    · exact hget g (hne g (Or.inr hg)) (h.pending g (List.mem_cons_of_mem sg hg))
    · exact ⟨hget g (hne g (Or.inl hg)) (h.keep g hg).1, (h.keep g hg).2⟩
    · refine hnd.sublist ?_
      simp
  · rw [finishGroup_keep hq hfin hd hrun]
    refine ⟨h.reach, fun g hg => h.pending g (List.mem_cons_of_mem sg hg), fun g hg => ?_, by simpa using h.nodup⟩
    rcases List.mem_append.mp hg with hg | hg
    · exact h.keep g hg
    · obtain rfl := List.mem_singleton.mp hg
      refine ⟨hrun, fun q' hq' => ?_⟩
      obtain rfl : q' = q := by simpa [hq] using hq'
      exact Sequence.not_due.mp hd

lemma Finishing.all {s₀ : CoreState ε} (h₀ : WellFormed S s₀) {l : FinishLoop ε} {groups : List SequenceGroup}
    (h : Finishing S c s₀ l groups) : Finishing S c s₀ (groups.foldl (finishGroup S) l) [] := by
  induction groups generalizing l with
  | nil => exact h
  | cons sg rest ih => exact ih (h.step h₀)

lemma Finishing.start {s₀ : CoreState ε} (h₀ : WellFormed S s₀) :
    Finishing S c s₀ { queue := s₀.queue, blockManager := s₀.blockManager } s₀.queue.running.values where
  reach := Relation.ReflTransGen.refl
  pending sg hsg := by
    obtain ⟨rid, hrid⟩ := (s₀.queue.running.mem_values sg).mp hsg
    rwa [(h₀.queue.running rid sg hrid).1]
  keep sg hsg := by simp at hsg
  nodup := s₀.queue.running.nodup_values_map _ (fun rid sg hg => (h₀.queue.running rid sg hg).1)

lemma categorize_spec (groups : List SequenceGroup)
    (h : ∀ sg ∈ groups, ∃ q, sg.seqs = [q] ∧ LivePhase q) :
    ∃ decode prefill, categorize groups = .ok (decode, prefill) ∧
      (∀ sg ∈ decode, sg ∈ groups ∧ ∀ q ∈ sg.seqs, q.status = .running) ∧
      (∀ item ∈ prefill, item.1 ∈ groups ∧ item.1.seqs = [item.2] ∧ item.2.status = .prefill) ∧
      (prefill.map Prod.fst ++ decode).Perm groups := by
  induction groups with
  | nil => exact ⟨[], [], rfl, by simp, by simp, by simp⟩
  | cons sg rest ih =>
    obtain ⟨d, p, he, hd, hp, hperm⟩ := ih (fun g hg => h g (List.mem_cons_of_mem sg hg))
    obtain ⟨q, hq, hphase⟩ := h sg (by simp)
    have hhead : sg.getUnfinishedSeqs.head? = some q := by
      simp [SequenceGroup.getUnfinishedSeqs, hq, hphase.not_finished]
    have hd' : ∀ g ∈ d, g ∈ sg :: rest ∧ ∀ q ∈ g.seqs, q.status = .running :=
      fun g hg => ⟨List.mem_cons_of_mem sg (hd g hg).1, (hd g hg).2⟩
    have hp' : ∀ item ∈ p, item.1 ∈ sg :: rest ∧ item.1.seqs = [item.2] ∧ item.2.status = .prefill :=
      fun item hi => ⟨List.mem_cons_of_mem sg (hp item hi).1, (hp item hi).2⟩
    by_cases hst : q.status = .prefill
    · refine ⟨d, (sg, q) :: p, by simp only [categorize, hhead, he, hst, if_true], hd', ?_, hperm.cons sg⟩
      rintro item hi
      rcases List.mem_cons.mp hi with rfl | hi
      · exact ⟨by simp, hq, hst⟩
      · exact hp' item hi
    · refine ⟨sg :: d, p, by simp only [categorize, hhead, he, hst, if_false], ?_, hp', ?_⟩
      · intro g hg
        rcases List.mem_cons.mp hg with rfl | hg
        · refine ⟨by simp, fun q' hq' => ?_⟩
          obtain rfl : q' = q := by simpa [hq] using hq'
          exact hphase.status.resolve_left hst
        · exact hd' g hg
      · exact List.perm_middle.trans (hperm.cons sg)

lemma continuePrefill_frame (items : List (SequenceGroup × Sequence)) (l : BudgetLoop ε) :
    (items.foldl (continuePrefill S) l).queue = l.queue ∧
      (items.foldl (continuePrefill S) l).blockManager = l.blockManager ∧
      (items.foldl (continuePrefill S) l).result.scheduledDecodeGroups = l.result.scheduledDecodeGroups ∧
      ∃ more : List RequestId, more.Sublist (items.map (·.1.requestId)) ∧
        (items.foldl (continuePrefill S) l).result.scheduledPrefillGroups =
          l.result.scheduledPrefillGroups ++ more := by
  induction items generalizing l with
  | nil => exact ⟨rfl, rfl, rfl, [], List.Sublist.refl _, by simp⟩
  | cons item rest ih =>
    obtain ⟨h₁, h₂, h₃, more, hsub, h₄⟩ := ih (continuePrefill S l item)
    simp only [List.foldl_cons, List.map_cons]
    by_cases hseat : l.remainingSeqBudget ≤ 0
    · simp only [continuePrefill, hseat, if_true] at h₁ h₂ h₃ h₄ ⊢
      exact ⟨h₁, h₂, h₃, more, hsub.cons _, h₄⟩
    · by_cases hbudget : ((min (item.2.promptTokenIds.length - item.2.prefillCursor)
          S.config.maxPrefillChunkSize : ℕ) : ℤ) > l.prefillBudget
      · simp only [continuePrefill, hseat, hbudget, if_true, if_false] at h₁ h₂ h₃ h₄ ⊢
        exact ⟨h₁, h₂, h₃, more, hsub.cons _, h₄⟩
      · simp only [continuePrefill, hseat, hbudget, if_false] at h₁ h₂ h₃ h₄ ⊢
        exact ⟨h₁, h₂, h₃, item.1.requestId :: more, hsub.cons_cons _, by simpa using h₄⟩

theorem beforeAdmission_spec {s₀ : CoreState ε} (h₀ : WellFormed S s₀) :
    ∃ l visited n queue bm, beforeAdmission S s₀.queue s₀.blockManager = (.ok (l, visited, n), queue, bm) ∧
      Reaches S c s₀ ⟨l.queue, l.blockManager, s₀.seqGroupCount⟩ ∧
      (∀ sg ∈ visited, l.queue.waiting.get? sg.requestId = some sg) ∧
      (visited.map (·.requestId)).Nodup ∧
      Scheduled l.queue l.result.scheduledPrefillGroups l.result.scheduledDecodeGroups := by
  have hf := (Finishing.start (c := c) h₀).all h₀
  set finish := s₀.queue.running.values.foldl (finishGroup S)
    { queue := s₀.queue, blockManager := s₀.blockManager } with hfinish
  have hwf := h₀.reaches hf.reach
  have hone : ∀ sg ∈ finish.keepRunningGroups, ∃ q, sg.seqs = [q] ∧ LivePhase q := by
    intro sg hsg
    obtain ⟨-, -, q, hq, hl⟩ := hwf.queue.running _ sg (hf.keep sg hsg).1
    exact ⟨q, hq, hl.phase⟩
  obtain ⟨decode, prefill, hcat, hd, hp, hperm⟩ := categorize_spec _ hone
  obtain ⟨h₁, h₂, h₃, more, hsub, h₄⟩ :=
    continuePrefill_frame (S := S) prefill (decodeFirst S finish decode)
  set l := prefill.foldl (continuePrefill S) (decodeFirst S finish decode) with hl
  have hqueue : l.queue = finish.queue := h₁
  have hbm : l.blockManager = finish.blockManager := h₂
  have hwait : ∀ rid sg, l.queue.waiting.get? rid = some sg → sg.requestId = rid := by
    intro rid sg hg
    rw [hqueue] at hg
    exact (hwf.queue.waiting rid sg hg).1
  refine ⟨l, _, _, _, _, by simp only [beforeAdmission, ← hfinish, hcat, ← hl]; rfl, ?_, ?_, ?_, ?_⟩
  · rw [hqueue, hbm]
    exact hf.reach
  · intro sg hsg
    split_ifs at hsg
    · obtain ⟨rid, hg⟩ := (Dict.mem_values _ sg).mp hsg
      rwa [hwait rid sg hg]
    · simp at hsg
  · split_ifs
    · exact Dict.nodup_values_map _ _ hwait
    · simp
  · have hdec : l.result.scheduledDecodeGroups = decode.map (·.requestId) := h₃
    have hpre : l.result.scheduledPrefillGroups = more := by rw [h₄]; rfl
    have hids : ((prefill.map Prod.fst ++ decode).map (·.requestId)).Nodup := by
      have hk := hf.nodup
      rw [List.append_nil] at hk
      exact (hperm.map _).nodup_iff.mpr hk
    have hseq : ∀ sg ∈ finish.keepRunningGroups, ∀ q, sg.seqs = [q] → finish.queue.runningSeq sg.requestId = some q :=
      fun sg hsg q hq => hwf.queue.runningSeq_eq_some.mpr ⟨sg, (hf.keep sg hsg).1, hq⟩
    rw [hdec, hpre, hqueue]
    refine ⟨?_, fun rid hr => ?_, fun rid hr => ?_⟩
    · rw [List.map_append, List.map_map] at hids
      exact hids.sublist (List.Sublist.append hsub (List.Sublist.refl _))
    · obtain ⟨item, hi, rfl⟩ := List.mem_map.mp (hsub.subset hr)
      obtain ⟨hk, hs, hst⟩ := hp item hi
      exact ⟨item.2, hseq item.1 hk item.2 hs, hst⟩
    · obtain ⟨sg, hsg, rfl⟩ := List.mem_map.mp hr
      obtain ⟨hk, hst⟩ := hd sg hsg
      obtain ⟨q, hq, -⟩ := hone sg hk
      have hqm : q ∈ sg.seqs := by simp [hq]
      exact ⟨q, hseq sg hk q hq, hst q hqm, (hf.keep sg hk).2 q hqm⟩

structure Admitting (S : Setup ε) (c : CallCondition ε) (s₀ : CoreState ε) (l : BudgetLoop ε)
    (rest : List SequenceGroup) : Prop where
  reach : Reaches S c s₀ ⟨l.queue, l.blockManager, s₀.seqGroupCount⟩
  pending : ∀ sg ∈ rest, l.queue.waiting.get? sg.requestId = some sg
  nodup : (rest.map (·.requestId)).Nodup
  scheduled : Scheduled l.queue l.result.scheduledPrefillGroups l.result.scheduledDecodeGroups

lemma Scheduled.of_running {queue queue' : RequestQueue} {prefill decode : List RequestId}
    (h : Scheduled queue prefill decode) (hrun : queue'.running = queue.running) :
    Scheduled queue' prefill decode := by
  refine ⟨h.nodup, ?_, ?_⟩
  · simpa only [RequestQueue.runningSeq, hrun] using h.prefill
  · simpa only [RequestQueue.runningSeq, hrun] using h.decode

lemma Admitting.step {s₀ : CoreState ε} (h₀ : WellFormed S s₀) {l : BudgetLoop ε} {sg : SequenceGroup}
    {rest : List SequenceGroup} (h : Admitting S c s₀ l (sg :: rest)) (hc : c.Admission S l sg) :
    (admitWaiting S l sg).1 = .ok () ∧ Admitting S c s₀ (admitWaiting S l sg).2 rest := by
  have hwf := h₀.reaches h.reach
  have hwait : l.queue.waiting.get? sg.requestId = some sg := h.pending sg (by simp)
  have hnd := h.nodup
  simp only [List.map_cons, List.nodup_cons] at hnd
  have hrest : ∀ g ∈ rest, l.queue.waiting.get? g.requestId = some g :=
    fun g hg => h.pending g (List.mem_cons_of_mem sg hg)
  have hne : ∀ g ∈ rest, g.requestId ≠ sg.requestId :=
    fun g hg he => hnd.1 (he ▸ List.mem_map_of_mem hg)
  cases hdec : admissionDecision S l sg with
  | noSeat =>
    simp only [admitWaiting, hdec]
    exact ⟨trivial, h.reach, hrest, hnd.2, h.scheduled⟩
  | noBudget =>
    simp only [admitWaiting, hdec]
    exact ⟨trivial, h.reach, hrest, hnd.2, h.scheduled⟩
  | reject =>
    simp only [admitWaiting, hdec]
    refine ⟨trivial, h.reach.tail (.reject _ sg hwait), fun g hg => ?_, hnd.2, h.scheduled.of_running rfl⟩
    simpa only [RequestQueue.markRejected, Dict.get?_pop, if_neg (hne g hg)] using hrest g hg
  | admission =>
    obtain ⟨bm', ha, -⟩ := hwf.admits hwait
    have hrun := hwf.runningSeq_admission hwait
    have hnone : l.queue.runningSeq sg.requestId = none := by
      have hn : l.queue.running.get? sg.requestId = none :=
        (hwf.queue.only_waiting hwait).1
      simp [RequestQueue.runningSeq, hn]
    have hnotin : ∀ rid, (∃ q, l.queue.runningSeq rid = some q) → rid ≠ sg.requestId := by
      rintro rid ⟨q, hq⟩ rfl
      rw [hnone] at hq
      cases hq
    have ht : Transition S c ⟨l.queue, l.blockManager, s₀.seqGroupCount⟩ _ :=
      .admission _ sg hwait (hc.2 hdec)
    simp only [ha] at ht
    simp only [admitWaiting, hdec, admitGroup, ha]
    refine ⟨trivial, h.reach.tail ht, fun g hg => ?_, hnd.2, ?_, fun rid hr => ?_, fun rid hr => ?_⟩
    · simpa only [RequestQueue.markRunning, Dict.get?_pop, if_neg (hne g hg)] using hrest g hg
    · have hfresh : sg.requestId ∉ l.result.scheduledPrefillGroups ++ l.result.scheduledDecodeGroups := by
        intro hm
        rcases List.mem_append.mp hm with hm | hm
        · obtain ⟨q, hq, -⟩ := h.scheduled.prefill _ hm
          exact hnotin _ ⟨q, hq⟩ rfl
        · obtain ⟨q, hq, -⟩ := h.scheduled.decode _ hm
          exact hnotin _ ⟨q, hq⟩ rfl
      simp only [List.append_assoc, List.singleton_append]
      exact List.nodup_middle.mpr (List.nodup_cons.mpr ⟨hfresh, h.scheduled.nodup⟩)
    · simp only [hrun]
      rcases List.mem_append.mp hr with hr | hr
      · obtain ⟨q, hq, hst⟩ := h.scheduled.prefill rid hr
        exact ⟨q, by rw [if_neg (hnotin rid ⟨q, hq⟩)]; exact hq, hst⟩
      · obtain rfl := List.mem_singleton.mp hr
        exact ⟨_, if_pos rfl, rfl⟩
    · simp only [hrun]
      obtain ⟨q, hq, hst⟩ := h.scheduled.decode rid hr
      exact ⟨q, by rw [if_neg (hnotin rid ⟨q, hq⟩)]; exact hq, hst⟩

theorem schedule_refines {s₀ : CoreState ε} (h₀ : WellFormed S s₀)
    (hc : c.Schedule S s₀.queue s₀.blockManager) :
    (∃ result queue bm, schedule S s₀.queue s₀.blockManager = (.ok result, queue, bm) ∧
      Reaches S c s₀ ⟨queue, bm, s₀.seqGroupCount⟩ ∧
      Scheduled queue result.scheduledPrefillGroups result.scheduledDecodeGroups) ∧
      (c.visited S s₀).Schedule S s₀.queue s₀.blockManager := by
  obtain ⟨l, visited, n, queue, bm, hb, hreach, hwait, hnd, hsch⟩ := beforeAdmission_spec (c := c) h₀
  have hi : Admitting S c s₀ l visited := ⟨hreach, hwait, hnd, hsch⟩
  simp only [CallCondition.Schedule, hb] at hc ⊢
  have hstep : ∀ l sg rest l', Admitting S c s₀ l (sg :: rest) → c.Admission S l sg →
      admitWaiting S l sg = (.ok (), l') → Admitting S c s₀ l' rest := by
    intro l sg rest l' hi hadm he
    have hi' := (hi.step h₀ hadm).2
    rwa [he] at hi'
  have hraise : ∀ l sg rest err l', Admitting S c s₀ l (sg :: rest) → c.Admission S l sg →
      admitWaiting S l sg = (.error err, l') → False := by
    intro l sg rest err l' hi hadm he
    have hr := (hi.step h₀ hadm).1
    rw [he] at hr
    cases hr
  refine ⟨?_, ForEachAll.mono hstep ?_ hi hc⟩
  · obtain ⟨hok, herr⟩ := forEach_rule (J := fun _ => False) hstep hraise hi hc
    cases hloop : forEach (admitWaiting S) l visited with
    | mk r l' =>
      cases r with
      | error err => exact (herr err l' hloop).elim
      | ok u =>
        have hdone := hok l' hloop
        exact ⟨{ l'.result with
            numPrefillTokens := l'.numPrefillTokens
            numDecodeTokens := n
            numBatchedTokens := l'.numPrefillTokens + n
            tokenBudgetRemaining := l'.remainingTokenBudget }, l'.queue, l'.blockManager,
          by simp only [schedule, hb, hloop], hdone.reach, hdone.scheduled⟩
  · intro l sg rest hi hadm
    have hw := hi.pending sg (by simp)
    exact ⟨fun hseat => ⟨hadm.1 hseat, hi.reach, hw⟩, fun hdec => ⟨hadm.2 hdec, hi.reach, hw⟩⟩

end MiniVllm
