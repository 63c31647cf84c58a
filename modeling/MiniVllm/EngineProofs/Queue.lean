import MiniVllm.EngineProofs.Transition

/-! Well-formed request queues: disjoint pools, and one sequence in each running group. -/

namespace MiniVllm

def LivePhase (q : Sequence) : Prop :=
  (q.status = .prefill ∧ q.outputTokenIds = [] ∧ q.numGeneratedTokens = 0 ∧
      (q.prefillCursor < q.promptTokenIds.length ∨ q.prefillCursor = 0 ∧ q.promptTokenIds.length = 0)) ∨
    (q.status = .running ∧ q.prefillCursor = q.promptTokenIds.length ∧ 1 ≤ q.numGeneratedTokens ∧
      q.numGeneratedTokens = q.outputTokenIds.length ∧
      (q.numGeneratedTokens : ℤ) ≤ max 1 q.samplingParams.maxTokens)

structure LiveSeq (sg : SequenceGroup) (q : Sequence) : Prop where
  seqId : q.seqId = ⟨sg.requestId, 0⟩
  groupId : q.groupId = sg.requestId
  prompt : q.promptTokenIds = sg.promptTokenIds
  params : q.samplingParams = sg.samplingParams
  phase : LivePhase q

lemma LivePhase.not_finished {q : Sequence} (h : LivePhase q) : q.finished = false := by
  rcases h with ⟨h, -⟩ | ⟨h, -⟩ <;> simp [Sequence.finished, h]

lemma LivePhase.cursor_le {q : Sequence} (h : LivePhase q) : q.prefillCursor ≤ q.promptTokenIds.length := by
  rcases h with ⟨-, -, -, h⟩ | ⟨-, h, -⟩ <;> omega

lemma LivePhase.status {q : Sequence} (h : LivePhase q) : q.status = .prefill ∨ q.status = .running :=
  h.imp And.left And.left

lemma LivePhase.decode {q : Sequence} (h : LivePhase q) (hs : q.status = .running) :
    q.prefillCursor = q.promptTokenIds.length ∧ 1 ≤ q.numGeneratedTokens ∧
      q.numGeneratedTokens = q.outputTokenIds.length := by
  rcases h with ⟨h, -⟩ | ⟨-, hc, hg, ho, -⟩
  · simp [h] at hs
  · exact ⟨hc, hg, ho⟩

lemma LivePhase.kvLen_running {q : Sequence} (hs : q.status = .running) :
    q.kvLen = EngineCore.decodePosition q := by
  simp [Sequence.kvLen, hs]

lemma LivePhase.kvLen_prefill {q : Sequence} (hs : q.status = .prefill) : q.kvLen = q.prefillCursor := by
  simp [Sequence.kvLen, hs]

structure QueueFormed (qu : RequestQueue) (n : ℕ) : Prop where
  waiting : ∀ rid sg, qu.waiting.get? rid = some sg → sg.requestId = rid ∧ rid < n ∧ sg.seqs = []
  running : ∀ rid sg, qu.running.get? rid = some sg →
    sg.requestId = rid ∧ rid < n ∧ ∃ q, sg.seqs = [q] ∧ LiveSeq sg q
  finished : ∀ rid sg, qu.finished.get? rid = some sg →
    sg.requestId = rid ∧ rid < n ∧ ∀ q ∈ sg.seqs, q.finished = true
  rejected : ∀ rid sg, qu.rejected.get? rid = some sg → sg.requestId = rid ∧ rid < n ∧ sg.seqs = []
  waiting_only : ∀ rid, qu.waiting.get? rid ≠ none →
    qu.running.get? rid = none ∧ qu.finished.get? rid = none ∧ qu.rejected.get? rid = none
  running_only : ∀ rid, qu.running.get? rid ≠ none →
    qu.finished.get? rid = none ∧ qu.rejected.get? rid = none

namespace QueueFormed

variable {qu : RequestQueue} {n : ℕ}

lemma initial : QueueFormed {} 0 where
  waiting _ _ h := by simp at h
  running _ _ h := by simp at h
  finished _ _ h := by simp at h
  rejected _ _ h := by simp at h
  waiting_only _ h := by simp at h
  running_only _ h := by simp at h

section Running

variable (h : QueueFormed qu n)

include h

lemma only_waiting {rid : RequestId} {sg : SequenceGroup} (hw : qu.waiting.get? rid = some sg) :
    qu.running.get? rid = none ∧ qu.finished.get? rid = none ∧ qu.rejected.get? rid = none := by
  apply h.waiting_only
  rw [hw]
  simp

lemma only_running {rid : RequestId} {sg : SequenceGroup} (hr : qu.running.get? rid = some sg) :
    qu.finished.get? rid = none ∧ qu.rejected.get? rid = none := by
  apply h.running_only
  rw [hr]
  simp

lemma waiting_of_running {rid : RequestId} {sg : SequenceGroup} (hr : qu.running.get? rid = some sg) :
    qu.waiting.get? rid = none := by
  by_contra hc
  have hn := (h.waiting_only rid hc).1
  rw [hr] at hn
  cases hn

lemma not_live_of_finished {rid : RequestId} {sg : SequenceGroup} (hf : qu.finished.get? rid = some sg) :
    qu.waiting.get? rid = none ∧ qu.running.get? rid = none := by
  constructor
  · by_contra hc
    cases hf.symm.trans (h.waiting_only rid hc).2.1
  · by_contra hc
    cases hf.symm.trans (h.running_only rid hc).1

lemma not_live_of_rejected {rid : RequestId} (hj : qu.rejected.get? rid ≠ none) :
    qu.waiting.get? rid = none ∧ qu.running.get? rid = none := by
  constructor
  · by_contra hc
    exact hj (h.waiting_only rid hc).2.2
  · by_contra hc
    exact hj (h.running_only rid hc).2

lemma runningSeq_eq_some {rid : RequestId} {q : Sequence} :
    qu.runningSeq rid = some q ↔ ∃ sg, qu.running.get? rid = some sg ∧ sg.seqs = [q] := by
  constructor
  · intro hq
    obtain ⟨sg, hsg, hh⟩ := Option.bind_eq_some_iff.mp hq
    obtain ⟨-, -, q', hq', -⟩ := h.running rid sg hsg
    refine ⟨sg, hsg, ?_⟩
    rw [hq'] at hh ⊢
    simpa using hh
  · rintro ⟨sg, hsg, hq⟩
    simp [RequestQueue.runningSeq, hsg, hq]

lemma runningSeq_group {rid : RequestId} {q : Sequence} (hq : qu.runningSeq rid = some q) :
    ∃ sg, qu.running.get? rid = some sg ∧ sg.seqs = [q] ∧ sg.requestId = rid ∧ LiveSeq sg q := by
  obtain ⟨sg, hsg, hs⟩ := h.runningSeq_eq_some.mp hq
  obtain ⟨hid, -, q', hq', hl⟩ := h.running rid sg hsg
  obtain rfl : q' = q := by simpa [hq'] using hs
  exact ⟨sg, hsg, hs, hid, hl⟩

lemma runningSeq_seqId {rid : RequestId} {q : Sequence} (hq : qu.runningSeq rid = some q) :
    q.seqId = ⟨rid, 0⟩ := by
  obtain ⟨sg, -, -, hid, hl⟩ := h.runningSeq_group hq
  rw [hl.seqId, hid]

lemma seqId_ne {rid : RequestId} {q : Sequence} (hq : qu.runningSeq rid = some q) {sid : SeqId}
    (hne : rid ≠ sid.request) : q.seqId ≠ sid := by
  rintro rfl
  rw [h.runningSeq_seqId hq] at hne
  exact hne rfl

lemma runningSeq_phase {rid : RequestId} {q : Sequence} (hq : qu.runningSeq rid = some q) : LivePhase q := by
  obtain ⟨sg, -, -, -, hl⟩ := h.runningSeq_group hq
  exact hl.phase

lemma runningSeq_ext {r s : RequestId} {q q' : Sequence} (hq : qu.runningSeq r = some q)
    (hq' : qu.runningSeq s = some q') (hid : q.seqId = q'.seqId) : q = q' := by
  rw [h.runningSeq_seqId hq, h.runningSeq_seqId hq'] at hid
  obtain rfl : r = s := congrArg SeqId.request hid
  exact Option.some.inj (hq.symm.trans hq')

lemma unfinished_eq {rid : RequestId} {sg : SequenceGroup} (hsg : qu.running.get? rid = some sg) :
    sg.getUnfinishedSeqs = sg.seqs := by
  obtain ⟨-, -, q, hq, hl⟩ := h.running rid sg hsg
  simp [SequenceGroup.getUnfinishedSeqs, hq, hl.phase.not_finished]

theorem mem_liveSeqs {q : Sequence} : q ∈ qu.liveSeqs ↔ qu.runningSeq q.seqId.request = some q := by
  simp only [RequestQueue.liveSeqs, List.mem_flatMap, Dict.mem_values]
  constructor
  · rintro ⟨sg, ⟨rid, hsg⟩, hq⟩
    rw [h.unfinished_eq hsg] at hq
    obtain ⟨hid, -, q', hq', hl⟩ := h.running rid sg hsg
    obtain rfl : q = q' := by simpa [hq'] using hq
    have hr : q.seqId.request = rid := by rw [hl.seqId, hid]
    exact h.runningSeq_eq_some.mpr ⟨sg, by rwa [hr], hq'⟩
  · intro hq
    obtain ⟨sg, hsg, hs⟩ := h.runningSeq_eq_some.mp hq
    exact ⟨sg, ⟨_, hsg⟩, by rw [h.unfinished_eq hsg, hs]; simp⟩

end Running

section Updates

variable {sg : SequenceGroup}

lemma get?_eq_none_of_le {pool : Dict RequestId SequenceGroup}
    (hp : ∀ rid sg, pool.get? rid = some sg → rid < n) {rid : RequestId} (hr : n ≤ rid) : pool.get? rid = none := by
  cases hg : pool.get? rid with
  | none => rfl
  | some sg => exact absurd (hp rid sg hg) (Nat.not_lt.mpr hr)

theorem add (h : QueueFormed qu n) (hid : sg.requestId = n) (hs : sg.seqs = []) :
    QueueFormed (qu.add sg) (n + 1) where
  waiting rid sg' hg := by
    simp only [RequestQueue.add, Dict.get?_set] at hg
    split_ifs at hg with hr
    · cases hg
      exact ⟨hr.symm, by rw [hr, hid]; exact Nat.lt_succ_self n, hs⟩
    · obtain ⟨h₁, h₂, h₃⟩ := h.waiting rid sg' hg
      exact ⟨h₁, Nat.lt_succ_of_lt h₂, h₃⟩
  running rid sg' hg := by
    obtain ⟨h₁, h₂, h₃⟩ := h.running rid sg' hg
    exact ⟨h₁, Nat.lt_succ_of_lt h₂, h₃⟩
  finished rid sg' hg := by
    obtain ⟨h₁, h₂, h₃⟩ := h.finished rid sg' hg
    exact ⟨h₁, Nat.lt_succ_of_lt h₂, h₃⟩
  rejected rid sg' hg := by
    obtain ⟨h₁, h₂, h₃⟩ := h.rejected rid sg' hg
    exact ⟨h₁, Nat.lt_succ_of_lt h₂, h₃⟩
  waiting_only rid hg := by
    simp only [RequestQueue.add, Dict.get?_set] at hg
    split_ifs at hg with hr
    · have hle : n ≤ rid := by rw [hr, hid]
      exact ⟨get?_eq_none_of_le (fun r g hg => (h.running r g hg).2.1) hle,
        get?_eq_none_of_le (fun r g hg => (h.finished r g hg).2.1) hle,
        get?_eq_none_of_le (fun r g hg => (h.rejected r g hg).2.1) hle⟩
    · exact h.waiting_only rid hg
  running_only rid hg := h.running_only rid hg

theorem markFinished (h : QueueFormed qu n) {sg' : SequenceGroup}
    (hrun : qu.running.get? sg.requestId = some sg) (hid : sg'.requestId = sg.requestId)
    (hs : ∀ q ∈ sg'.seqs, q.finished = true) : QueueFormed (qu.markFinished sg') n where
  waiting := h.waiting
  running rid g hg := by
    simp only [RequestQueue.markFinished, Dict.get?_pop] at hg
    split_ifs at hg
    exact h.running rid g hg
  finished rid g hg := by
    simp only [RequestQueue.markFinished, Dict.get?_set] at hg
    split_ifs at hg with hr
    · cases hg
      rw [hid] at hr
      exact ⟨by rw [hid, hr], hr ▸ (h.running _ sg hrun).2.1, hs⟩
    · exact h.finished rid g hg
  rejected := h.rejected
  waiting_only rid hg := by
    obtain ⟨h₁, h₂, h₃⟩ := h.waiting_only rid hg
    have hne : rid ≠ sg'.requestId := by
      rintro rfl
      rw [hid, hrun] at h₁
      simp at h₁
    simp [RequestQueue.markFinished, Dict.get?_pop, Dict.get?_set, hne, h₁, h₂, h₃]
  running_only rid hg := by
    simp only [RequestQueue.markFinished, Dict.get?_pop] at hg
    split_ifs at hg with hr
    · simp at hg
    · simpa [RequestQueue.markFinished, Dict.get?_set, hr] using h.running_only rid hg

theorem withdraw (h : QueueFormed qu n) (hw : qu.waiting.get? sg.requestId = some sg) :
    QueueFormed (qu.withdraw sg) n where
  waiting rid g hg := by
    simp only [RequestQueue.withdraw, Dict.get?_pop] at hg
    split_ifs at hg
    exact h.waiting rid g hg
  running := h.running
  finished rid g hg := by
    simp only [RequestQueue.withdraw, Dict.get?_set] at hg
    split_ifs at hg with hr
    · cases hg
      obtain ⟨-, hlt, hs⟩ := h.waiting _ sg hw
      exact ⟨hr.symm, hr ▸ hlt, by simp [hs]⟩
    · exact h.finished rid g hg
  rejected := h.rejected
  waiting_only rid hg := by
    simp only [RequestQueue.withdraw, Dict.get?_pop] at hg
    split_ifs at hg with hr
    · simp at hg
    · simpa [RequestQueue.withdraw, Dict.get?_set, hr] using h.waiting_only rid hg
  running_only rid hg := by
    have hne : rid ≠ sg.requestId := by
      rintro rfl
      exact hg (h.only_waiting hw).1
    simpa [RequestQueue.withdraw, Dict.get?_set, hne] using h.running_only rid hg

theorem reject (h : QueueFormed qu n) (hw : qu.waiting.get? sg.requestId = some sg) :
    QueueFormed (qu.markRejected sg) n where
  waiting rid g hg := by
    simp only [RequestQueue.markRejected, Dict.get?_pop] at hg
    split_ifs at hg
    exact h.waiting rid g hg
  running := h.running
  finished := h.finished
  rejected rid g hg := by
    simp only [RequestQueue.markRejected, Dict.get?_set] at hg
    split_ifs at hg with hr
    · cases hg
      obtain ⟨-, hlt, hs⟩ := h.waiting _ sg hw
      exact ⟨hr.symm, hr ▸ hlt, hs⟩
    · exact h.rejected rid g hg
  waiting_only rid hg := by
    simp only [RequestQueue.markRejected, Dict.get?_pop] at hg
    split_ifs at hg with hr
    · simp at hg
    · simpa [RequestQueue.markRejected, Dict.get?_set, hr] using h.waiting_only rid hg
  running_only rid hg := by
    have hne : rid ≠ sg.requestId := by
      rintro rfl
      exact hg (h.only_waiting hw).1
    simpa [RequestQueue.markRejected, Dict.get?_set, hne] using h.running_only rid hg

theorem refile (h : QueueFormed qu n) (hr : qu.rejected.get? sg.requestId = some sg) :
    QueueFormed (qu.refile sg) n where
  waiting := h.waiting
  running := h.running
  finished rid g hg := by
    simp only [RequestQueue.refile, Dict.get?_set] at hg
    split_ifs at hg with hid
    · cases hg
      obtain ⟨-, hlt, hs⟩ := h.rejected _ sg hr
      exact ⟨hid.symm, hid ▸ hlt, by simp [hs]⟩
    · exact h.finished rid g hg
  rejected := h.rejected
  waiting_only rid hg := by
    have h₁ := h.waiting_only rid hg
    have hne : rid ≠ sg.requestId := by
      rintro rfl
      simp [hr] at h₁
    simpa [RequestQueue.refile, Dict.get?_set, hne] using h₁
  running_only rid hg := by
    have h₁ := h.running_only rid hg
    have hne : rid ≠ sg.requestId := by
      rintro rfl
      simp [hr] at h₁
    simpa [RequestQueue.refile, Dict.get?_set, hne] using h₁

theorem markRunning (h : QueueFormed qu n) {sg' : SequenceGroup} {q : Sequence}
    (hw : qu.waiting.get? sg.requestId = some sg) (hid : sg'.requestId = sg.requestId)
    (hs : sg'.seqs = [q]) (hq : LiveSeq sg' q) : QueueFormed (qu.markRunning sg') n where
  waiting rid g hg := by
    simp only [RequestQueue.markRunning, Dict.get?_pop] at hg
    split_ifs at hg
    exact h.waiting rid g hg
  running rid g hg := by
    simp only [RequestQueue.markRunning, Dict.get?_set] at hg
    split_ifs at hg with hr
    · cases hg
      exact ⟨hr.symm, by rw [hr, hid]; exact (h.waiting _ sg hw).2.1, q, hs, hq⟩
    · exact h.running rid g hg
  finished := h.finished
  rejected := h.rejected
  waiting_only rid hg := by
    simp only [RequestQueue.markRunning, Dict.get?_pop] at hg
    split_ifs at hg with hr
    · simp at hg
    · simpa [RequestQueue.markRunning, Dict.get?_set, hr] using h.waiting_only rid hg
  running_only rid hg := by
    by_cases hr : rid = sg'.requestId
    · obtain ⟨-, h₂, h₃⟩ := h.only_waiting hw
      exact ⟨by rw [hr, hid]; exact h₂, by rw [hr, hid]; exact h₃⟩
    · simp only [RequestQueue.markRunning, Dict.get?_set, hr, if_false] at hg
      exact h.running_only rid hg

theorem updateRunning (h : QueueFormed qu n) {qu' : RequestQueue} {f : Sequence → Sequence}
    (hw : qu'.waiting = qu.waiting) (hf : qu'.finished = qu.finished) (hr : qu'.rejected = qu.rejected)
    (hrun : ∀ rid, qu'.running.get? rid = (qu.running.get? rid).map (SequenceGroup.mapSeqs f))
    (hlive : ∀ sg q, LiveSeq sg q → qu.runningSeq sg.requestId = some q → LiveSeq sg (f q)) :
    QueueFormed qu' n where
  waiting := by rw [hw]; exact h.waiting
  running rid g hg := by
    rw [hrun] at hg
    obtain ⟨sg, hsg, rfl⟩ := Option.map_eq_some_iff.mp hg
    obtain ⟨hid, hlt, q, hq, hl⟩ := h.running rid sg hsg
    have hq' := hlive sg q hl (h.runningSeq_eq_some.mpr ⟨sg, by rwa [hid], hq⟩)
    exact ⟨hid, hlt, f q, by simp [SequenceGroup.mapSeqs, hq],
      ⟨hq'.seqId, hq'.groupId, hq'.prompt, hq'.params, hq'.phase⟩⟩
  finished := by rw [hf]; exact h.finished
  rejected := by rw [hr]; exact h.rejected
  waiting_only rid hg := by
    rw [hw] at hg
    obtain ⟨h₁, h₂, h₃⟩ := h.waiting_only rid hg
    rw [hf, hr, hrun, h₁]
    exact ⟨rfl, h₂, h₃⟩
  running_only rid hg := by
    rw [hrun] at hg
    rw [hf, hr]
    exact h.running_only rid (by simpa using hg)

end Updates

end QueueFormed

namespace RequestQueue

variable (qu : RequestQueue) (sg : SequenceGroup) (rid : RequestId)

lemma runningSeq_markFinished :
    (qu.markFinished sg).runningSeq rid = if rid = sg.requestId then none else qu.runningSeq rid := by
  simp only [runningSeq, markFinished, Dict.get?_pop]
  split_ifs <;> rfl

lemma runningSeq_markRunning :
    (qu.markRunning sg).runningSeq rid = if rid = sg.requestId then sg.seqs.head? else qu.runningSeq rid := by
  simp only [runningSeq, markRunning, Dict.get?_set]
  split_ifs <;> rfl

lemma runningSeq_map {qu qu' : RequestQueue} {f : Sequence → Sequence}
    (h : ∀ rid, qu'.running.get? rid = (qu.running.get? rid).map (SequenceGroup.mapSeqs f)) (rid : RequestId) :
    qu'.runningSeq rid = (qu.runningSeq rid).map f := by
  simp only [runningSeq, h]
  cases qu.running.get? rid with
  | none => rfl
  | some sg => simp [SequenceGroup.mapSeqs]

end RequestQueue

end MiniVllm
