import MiniVllm.EngineProofs.WellFormed

/-! `cancel_request` and `_check_timeouts` as transitions. -/

namespace MiniVllm

open EngineCore

variable {ε : Type} (S : Setup ε) (c : CallCondition ε)

lemma Reaches.single {s s' : CoreState ε} (h : Transition S c s s') : Reaches S c s s' :=
  Relation.ReflTransGen.single h

lemma getById_cases (qu : RequestQueue) (rid : RequestId) :
    (qu.getById rid = none ∧ qu.running.get? rid = none ∧ qu.waiting.get? rid = none) ∨
      ∃ sg, qu.getById rid = some sg ∧
        (qu.waiting.get? rid = some sg ∨
          qu.waiting.get? rid = none ∧ qu.running.get? rid = some sg ∨
          qu.waiting.get? rid = none ∧ qu.running.get? rid = none ∧ qu.finished.get? rid = some sg ∨
          qu.waiting.get? rid = none ∧ qu.running.get? rid = none ∧ qu.finished.get? rid = none ∧
            qu.rejected.get? rid = some sg) := by
  unfold RequestQueue.getById
  cases hw : qu.waiting.get? rid with
  | some sg => exact Or.inr ⟨sg, rfl, Or.inl rfl⟩
  | none =>
    cases hr : qu.running.get? rid with
    | some sg => exact Or.inr ⟨sg, rfl, Or.inr (Or.inl ⟨rfl, rfl⟩)⟩
    | none =>
      cases hf : qu.finished.get? rid with
      | some sg => exact Or.inr ⟨sg, rfl, Or.inr (Or.inr (Or.inl ⟨rfl, rfl, rfl⟩))⟩
      | none =>
        cases hj : qu.rejected.get? rid with
        | some sg => exact Or.inr ⟨sg, rfl, Or.inr (Or.inr (Or.inr ⟨rfl, rfl, rfl, rfl⟩))⟩
        | none => exact Or.inl ⟨rfl, rfl, rfl⟩

section AbortSeqs

variable (status : Status) (s : EngineState ε)

lemma abortSeqs_finished (seqs : List Sequence) (h : ∀ q ∈ seqs, q.finished = true) :
    abortSeqs S status seqs s = (seqs, s) := by
  induction seqs generalizing s with
  | nil => rfl
  | cons q rest ih =>
    have hq := h q (by simp)
    simp [abortSeqs, hq, ih s (fun q' hq' => h q' (List.mem_cons_of_mem q hq'))]

def abortSeq (q : Sequence) : EngineState ε :=
  registerSequence (cleanupSequence S { s with blockManager := s.blockManager.free S.blockParams q.seqId } q.seqId)
    { q with status := status }

lemma abortSeqs_live {q : Sequence} (h : q.finished = false) :
    abortSeqs S status [q] s = ([{ q with status := status }], abortSeq S status s q) := by
  simp only [abortSeqs, h, Bool.false_eq_true, if_false]
  rfl

end AbortSeqs

variable {S c}

section Groups

variable {s : CoreState ε} (h : WellFormed S s) {sg : SequenceGroup}

include h

lemma abort_running (hrun : s.queue.running.get? sg.requestId = some sg) {status : Status}
    (hstatus : status = .cancelled ∨ status = .timeout) :
    ∃ q, sg.seqs = [q] ∧ q.finished = false ∧
      Reaches S c s ⟨s.queue.markFinished { sg with seqs := [{ q with status := status }] },
        (s.blockManager.free S.blockParams q.seqId).withListener (S.executor.cleanupSequence
          (s.blockManager.free S.blockParams q.seqId).allocator.listener q.seqId), s.seqGroupCount⟩ := by
  obtain ⟨-, -, q, hq, hl⟩ := h.queue.running _ sg hrun
  have hret : Retirement q status := by
    rcases hstatus with rfl | rfl
    · exact .cancelled
    · exact .timeout
  exact ⟨q, hq, hl.phase.not_finished,
    (Reaches.single S c (.retire s sg q status hrun hq hret)).tail (.cleanup _ q.seqId)⟩

lemma fileFinished_running (hrun : s.queue.running.get? sg.requestId = some sg) (seqs : List Sequence) :
    fileFinished { s.queue with running := s.queue.running.pop sg.requestId } { sg with seqs := seqs } =
      s.queue.markFinished { sg with seqs := seqs } := by
  have hf := (h.queue.only_running hrun).1
  simp [fileFinished, Dict.contains, hf, RequestQueue.markFinished]

lemma fileFinished_waiting (hwait : s.queue.waiting.get? sg.requestId = some sg) :
    fileFinished { s.queue with waiting := s.queue.waiting.pop sg.requestId } sg = s.queue.withdraw sg := by
  have hf := (h.queue.only_waiting hwait).2.1
  simp [fileFinished, Dict.contains, hf, RequestQueue.withdraw]

end Groups

section OneGroup

variable {s : EngineState ε} (h : WellFormed S s.core) {sg : SequenceGroup}

include h

lemma cancelRequest_waiting (hw : s.queue.waiting.get? sg.requestId = some sg) :
    cancelRequest S s sg.requestId =
      (true, { s with
        metrics := { s.metrics with cancelledRequests := s.metrics.cancelledRequests + 1 }
        queue := s.queue.withdraw sg }) := by
  have hqu : s.core.queue = s.queue := rfl
  have hs := (h.queue.waiting _ sg hw).2.2
  have hr := (h.queue.only_waiting hw).1
  have hg : s.queue.getById sg.requestId = some sg := by simp [RequestQueue.getById, hw]
  have hnil : ({ sg with seqs := [] } : SequenceGroup) = sg := by rw [← hs]
  have hfile := fileFinished_waiting h hw
  simp only [hqu] at hfile hr
  simp [cancelRequest, hg, hs, abortSeqs, Dict.contains, hr, hw, hnil, hfile]

lemma cancelRequest_running (hr : s.queue.running.get? sg.requestId = some sg) {q : Sequence} (hq : sg.seqs = [q])
    (hfin : q.finished = false) :
    cancelRequest S s sg.requestId =
      (true, { abortSeq S .cancelled s q with
        metrics := { (abortSeq S .cancelled s q).metrics with
          cancelledRequests := (abortSeq S .cancelled s q).metrics.cancelledRequests + 1 }
        queue := s.queue.markFinished { sg with seqs := [{ q with status := .cancelled }] } }) := by
  have hw : s.queue.waiting.get? sg.requestId = none := h.queue.waiting_of_running hr
  have hg : s.queue.getById sg.requestId = some sg := by simp [RequestQueue.getById, hw, hr]
  have hfile := fileFinished_running h hr [{ q with status := .cancelled }]
  have hsame : (abortSeq S .cancelled s q).queue = s.queue := rfl
  have hcore : s.core.queue = s.queue := rfl
  simp only [hcore] at hfile
  simp only [cancelRequest, hg, hq, abortSeqs_live S .cancelled s hfin, hsame, Dict.contains, hr, Option.isSome_some,
    if_true, hfile]

lemma cancelRequest_finished {rid : RequestId} (hf : s.queue.finished.get? rid = some sg) :
    (cancelRequest S s rid).2 = { s with
      metrics := { s.metrics with cancelledRequests := s.metrics.cancelledRequests + 1 } } := by
  obtain ⟨rfl, -, hs⟩ := h.queue.finished rid sg hf
  have hlive := h.queue.not_live_of_finished hf
  obtain ⟨hw, hr⟩ : s.queue.waiting.get? sg.requestId = none ∧ s.queue.running.get? sg.requestId = none := hlive
  have hg : s.queue.getById sg.requestId = some sg := by simp [RequestQueue.getById, hw, hr, hf]
  simp [cancelRequest, hg, abortSeqs_finished S .cancelled s sg.seqs hs, Dict.contains, hr, hw, hf, fileFinished]

lemma cancelRequest_rejected {rid : RequestId} (hw : s.queue.waiting.get? rid = none)
    (hr : s.queue.running.get? rid = none) (hf : s.queue.finished.get? rid = none)
    (hj : s.queue.rejected.get? rid = some sg) :
    (cancelRequest S s rid).2 = { s with
      metrics := { s.metrics with cancelledRequests := s.metrics.cancelledRequests + 1 }
      queue := s.queue.refile sg } := by
  obtain ⟨rfl, -, hs⟩ := h.queue.rejected rid sg hj
  have hg : s.queue.getById sg.requestId = some sg := by simp [RequestQueue.getById, hw, hr, hf, hj]
  have hnil : ({ sg with seqs := [] } : SequenceGroup) = sg := by rw [← hs]
  simp [cancelRequest, hg, hs, abortSeqs, Dict.contains, hr, hw, hf, hnil, fileFinished, RequestQueue.refile]

lemma timeoutGroup_running (hr : s.queue.running.get? sg.requestId = some sg) {q : Sequence} (hq : sg.seqs = [q])
    (hfin : q.finished = false) :
    timeoutGroup S s (sg.requestId, true) =
      { abortSeq S .timeout s q with
        metrics := { (abortSeq S .timeout s q).metrics with
          timeoutRequests := (abortSeq S .timeout s q).metrics.timeoutRequests + 1 }
        queue := s.queue.markFinished { sg with seqs := [{ q with status := .timeout }] } } := by
  have hw : s.queue.waiting.get? sg.requestId = none := h.queue.waiting_of_running hr
  have hg : s.queue.getById sg.requestId = some sg := by simp [RequestQueue.getById, hw, hr]
  have hfile := fileFinished_running h hr [{ q with status := .timeout }]
  have hsame : (abortSeq S .timeout s q).queue = s.queue := rfl
  have hcore : s.core.queue = s.queue := rfl
  simp only [hcore] at hfile
  simp only [timeoutGroup, hg, hq, abortSeqs_live S .timeout s hfin, hsame, if_true, hfile]

lemma timeoutGroup_waiting (hw : s.queue.waiting.get? sg.requestId = some sg) :
    timeoutGroup S s (sg.requestId, false) =
      { s with
        metrics := { s.metrics with timeoutRequests := s.metrics.timeoutRequests + 1 }
        queue := s.queue.withdraw sg } := by
  have hs := (h.queue.waiting _ sg hw).2.2
  have hg : s.queue.getById sg.requestId = some sg := by simp [RequestQueue.getById, hw]
  have hnil : ({ sg with seqs := [] } : SequenceGroup) = sg := by rw [← hs]
  have hfile := fileFinished_waiting h hw
  have hqu : s.core.queue = s.queue := rfl
  simp only [hqu] at hfile
  simp [timeoutGroup, hg, hs, abortSeqs, hnil, hfile]

end OneGroup

theorem cancelRequest_refines {s : EngineState ε} (h : WellFormed S s.core) (rid : RequestId) :
    Reaches S c s.core (cancelRequest S s rid).2.core := by
  rcases getById_cases s.queue rid with ⟨hn, -⟩ | ⟨sg, -, hw | ⟨hw, hr⟩ | ⟨hw, hr, hf⟩ | ⟨hw, hr, hf, hj⟩⟩
  · simp only [cancelRequest, hn]
    exact Relation.ReflTransGen.refl
  · obtain ⟨rfl, -⟩ := h.queue.waiting rid sg hw
    rw [cancelRequest_waiting h hw]
    exact Reaches.single S c (.withdraw s.core sg hw)
  · obtain ⟨rfl, -⟩ := h.queue.running rid sg hr
    obtain ⟨q, hq, hfin, hreach⟩ := abort_running (c := c) h hr (Or.inl rfl)
    rw [cancelRequest_running h hr hq hfin]
    exact hreach
  · rw [cancelRequest_finished h hf]
    exact Relation.ReflTransGen.refl
  · have hid := (h.queue.rejected rid sg hj).1
    rw [cancelRequest_rejected h hw hr hf hj]
    exact Reaches.single S c (.refile s.core sg (by rw [hid]; exact hj))

def InPool (qu : RequestQueue) (item : RequestId × Bool) : Prop :=
  if item.2 then qu.running.get? item.1 ≠ none else qu.waiting.get? item.1 ≠ none

inductive TimesOut (S : Setup ε) (s : EngineState ε) : RequestId × Bool → EngineState ε → Prop
  | running (sg : SequenceGroup) (q : Sequence) (hr : s.queue.running.get? sg.requestId = some sg)
      (hq : sg.seqs = [q]) (hl : LiveSeq sg q) :
      TimesOut S s (sg.requestId, true)
        { abortSeq S .timeout s q with
          metrics := { (abortSeq S .timeout s q).metrics with
            timeoutRequests := (abortSeq S .timeout s q).metrics.timeoutRequests + 1 }
          queue := s.queue.markFinished { sg with seqs := [{ q with status := .timeout }] } }
  | waiting (sg : SequenceGroup) (hwait : s.queue.waiting.get? sg.requestId = some sg) (hseqs : sg.seqs = []) :
      TimesOut S s (sg.requestId, false)
        { s with
          metrics := { s.metrics with timeoutRequests := s.metrics.timeoutRequests + 1 }
          queue := s.queue.withdraw sg }

section TimeoutGroup

variable {s : EngineState ε} (h : WellFormed S s.core) {item : RequestId × Bool} (hin : InPool s.queue item)

include h hin

lemma timeoutGroup_spec : TimesOut S s item (timeoutGroup S s item) := by
  obtain ⟨rid, running⟩ := item
  cases running with
  | true =>
    obtain ⟨sg, hr⟩ := Option.ne_none_iff_exists'.mp (show s.queue.running.get? rid ≠ none from hin)
    obtain ⟨rfl, -, q, hq, hl⟩ := h.queue.running rid sg hr
    rw [timeoutGroup_running h hr hq hl.phase.not_finished]
    exact .running sg q hr hq hl
  | false =>
    obtain ⟨sg, hw⟩ := Option.ne_none_iff_exists'.mp (show s.queue.waiting.get? rid ≠ none from hin)
    obtain ⟨rfl, -, hs⟩ := h.queue.waiting rid sg hw
    rw [timeoutGroup_waiting h hw]
    exact .waiting sg hw hs

lemma timeoutGroup_refines : Reaches S c s.core (timeoutGroup S s item).core := by
  have hspec := timeoutGroup_spec h hin
  generalize timeoutGroup S s item = s' at hspec ⊢
  cases hspec with
  | running sg q hr hq hl =>
    obtain ⟨q', hq', hfin, hreach⟩ := abort_running (c := c) h hr (Or.inr rfl)
    obtain rfl : q = q' := by simpa [hq] using hq'
    exact hreach
  | waiting sg hw hs => exact Reaches.single S c (.withdraw s.core sg hw)

lemma timeoutGroup_inPool {other : RequestId × Bool} (hne : other.1 ≠ item.1) (hother : InPool s.queue other) :
    InPool (timeoutGroup S s item).queue other := by
  have hspec := timeoutGroup_spec h hin
  generalize timeoutGroup S s item = s' at hspec ⊢
  cases hspec with
  | running sg q hr hq hl =>
    simp only [InPool, RequestQueue.markFinished, Dict.get?_pop] at hother ⊢
    simpa only [if_neg hne] using hother
  | waiting sg hw hs =>
    simp only [InPool, RequestQueue.withdraw, Dict.get?_pop] at hother ⊢
    simpa only [if_neg hne] using hother

end TimeoutGroup

lemma timeouts_rule {P : EngineState ε → Prop}
    (hstep : ∀ s item, WellFormed S s.core → InPool s.queue item → P s → P (timeoutGroup S s item))
    {s : EngineState ε} (h : WellFormed S s.core) (hs : P s) (items : List (RequestId × Bool))
    (hnd : (items.map Prod.fst).Nodup) (hin : ∀ item ∈ items, InPool s.queue item) :
    P (items.foldl (timeoutGroup S) s) := by
  induction items generalizing s with
  | nil => exact hs
  | cons item rest ih =>
    simp only [List.map_cons, List.nodup_cons] at hnd
    have hitem := hin item List.mem_cons_self
    apply ih (h.reaches (timeoutGroup_refines (c := {}) h hitem)) (hstep s item h hitem hs) hnd.2
    intro other ho
    apply timeoutGroup_inPool h hitem _ (hin other (List.mem_cons_of_mem item ho))
    intro he
    apply hnd.1
    rw [← he]
    exact List.mem_map_of_mem ho

lemma timeouts_refine {s : EngineState ε} (h : WellFormed S s.core) (items : List (RequestId × Bool))
    (hnd : (items.map Prod.fst).Nodup) (hin : ∀ item ∈ items, InPool s.queue item) :
    Reaches S c s.core (items.foldl (timeoutGroup S) s).core := by
  refine timeouts_rule (P := fun s' => Reaches S c s.core s'.core) ?_ h Relation.ReflTransGen.refl items hnd hin
  intro s' item h' hitem hreach
  exact hreach.trans (timeoutGroup_refines h' hitem)

lemma mem_expired {pool : Dict RequestId SequenceGroup} {now : ℚ} {rid : RequestId}
    (hid : ∀ rid sg, pool.get? rid = some sg → sg.requestId = rid) (h : rid ∈ expired S now pool) :
    pool.get? rid ≠ none := by
  obtain ⟨sg, hsg, rfl⟩ := List.mem_map.mp h
  obtain ⟨k, hk⟩ := (pool.mem_values sg).mp (List.mem_of_mem_filter hsg)
  rw [hid k sg hk, hk]
  simp

lemma expired_items {s : EngineState ε} (h : WellFormed S s.core) (now : ℚ) :
    (((expired S now s.queue.running).map (·, true) ++
        (expired S now s.queue.waiting).map (·, false)).map Prod.fst).Nodup ∧
      ∀ item ∈ (expired S now s.queue.running).map (·, true) ++ (expired S now s.queue.waiting).map (·, false),
        InPool s.queue item := by
  have hrid : ∀ rid sg, s.queue.running.get? rid = some sg → sg.requestId = rid :=
    fun rid sg hg => (h.queue.running rid sg hg).1
  have hwid : ∀ rid sg, s.queue.waiting.get? rid = some sg → sg.requestId = rid :=
    fun rid sg hg => (h.queue.waiting rid sg hg).1
  refine ⟨?_, fun item hi => ?_⟩
  · have hfst : ∀ (ids : List RequestId) (b : Bool), (ids.map (·, b)).map Prod.fst = ids := by
      intro ids b
      simp [List.map_map, Function.comp_def]
    rw [List.map_append, hfst, hfst]
    refine List.Nodup.append ?_ ?_ ?_
    · exact (s.queue.running.nodup_values_map _ hrid).sublist (List.filter_sublist.map _)
    · exact (s.queue.waiting.nodup_values_map _ hwid).sublist (List.filter_sublist.map _)
    · intro rid hr hw
      exact mem_expired hrid hr (h.queue.waiting_only rid (mem_expired hwid hw)).1
  · rcases List.mem_append.mp hi with hi | hi
    · obtain ⟨rid, hr, rfl⟩ := List.mem_map.mp hi
      exact mem_expired hrid hr
    · obtain ⟨rid, hr, rfl⟩ := List.mem_map.mp hi
      exact mem_expired hwid hr

theorem checkTimeouts_refines {s : EngineState ε} (h : WellFormed S s.core) (now : ℚ) :
    Reaches S c s.core (checkTimeouts S s now).core := by
  obtain ⟨hnd, hin⟩ := expired_items h now
  exact timeouts_refine h _ hnd hin

end MiniVllm
