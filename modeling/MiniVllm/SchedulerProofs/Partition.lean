import MiniVllm.SchedulerProofs.Rejections

/-! `schedule` puts every group that it looks at on exactly one of its lists. -/

namespace MiniVllm

open Scheduler Scheduler.BudgetLoop

lemma mem_iff_of_nodup_flatMap {ι α : Type} {f : ι → List α} {is : List ι} (h : (is.flatMap f).Nodup) {i j : ι}
    (hi : i ∈ is) (hj : j ∈ is) {a : α} (ha : a ∈ f i) : a ∈ f j ↔ j = i := by
  constructor
  · intro hb
    by_contra hne
    have : Std.Symm (Function.onFun List.Disjoint f) := ⟨fun _ _ hd => hd.symm⟩
    exact (List.nodup_flatMap.mp h).2.forall hj hi hne hb ha
  · rintro rfl
    exact ha

inductive Listing
  | finished | decode | prefill | ignored | rejected
  deriving DecidableEq

def Listing.all : List Listing := [.finished, .decode, .prefill, .ignored, .rejected]

lemma Listing.mem_all (p : Listing) : p ∈ Listing.all := by
  cases p <;> decide

namespace ScheduleResult

def groups (r : ScheduleResult) : Listing → List RequestId
  | .finished => r.finishedGroups
  | .decode => r.scheduledDecodeGroups
  | .prefill => r.scheduledPrefillGroups
  | .ignored => r.ignoredGroups
  | .rejected => r.rejectedGroups

structure Deals (r : ScheduleResult) (ids : List RequestId) : Prop where
  perm : (Listing.all.flatMap r.groups).Perm ids
  reasons : ∀ rid, r.ignoredReasons.contains rid = true ↔ rid ∈ r.ignoredGroups

namespace Deals

variable {r : ScheduleResult} {ids : List RequestId}

lemma of_perm (h : r.Deals ids) {ids' : List RequestId} (hp : ids.Perm ids') : r.Deals ids' :=
  ⟨h.perm.trans hp, h.reasons⟩

lemma push (h : r.Deals ids) {r' : ScheduleResult} {rid : RequestId} (p : Listing)
    (hgroups : ∀ p', r'.groups p' = if p' = p then r.groups p' ++ [rid] else r.groups p')
    (hreasons : ∀ x, r'.ignoredReasons.contains x = true ↔ x ∈ r'.ignoredGroups) : r'.Deals (rid :: ids) := by
  refine ⟨List.Perm.trans ?_ (h.perm.cons rid), hreasons⟩
  apply List.perm_iff_count.mpr
  intro x
  have hone : List.count x [rid] = if rid = x then 1 else 0 := by
    rw [List.count_singleton]
    simp
  simp only [Listing.all, List.flatMap_cons, List.flatMap_nil, hgroups, List.count_append, List.count_cons]
  cases p <;> simp [hone] <;> omega

lemma mem_of_listed (h : r.Deals ids) {p : Listing} {rid : RequestId} (hm : rid ∈ r.groups p) : rid ∈ ids :=
  h.perm.subset (List.mem_flatMap.mpr ⟨p, p.mem_all, hm⟩)

lemma listed_once (h : r.Deals ids) (hnd : ids.Nodup) {rid : RequestId} (hm : rid ∈ ids) :
    ∃ p, ∀ p', rid ∈ r.groups p' ↔ p' = p := by
  obtain ⟨p, hp, hrid⟩ := List.mem_flatMap.mp (h.perm.symm.subset hm)
  refine ⟨p, fun p' => ?_⟩
  exact mem_iff_of_nodup_flatMap (h.perm.nodup_iff.mpr hnd) hp p'.mem_all hrid

lemma nodup (h : r.Deals ids) (hnd : ids.Nodup) (p : Listing) : (r.groups p).Nodup :=
  (List.nodup_flatMap.mp (h.perm.nodup_iff.mpr hnd)).1 p p.mem_all

end Deals

end ScheduleResult

variable {ε : Type} {S : Setup ε}

section Lists

variable {l : BudgetLoop ε} {ids : List RequestId}

lemma decodeFirst_deals (l : FinishLoop ε) (decode : List SequenceGroup) :
    (decodeFirst S l decode).result.Deals (l.finishedGroups ++ decode.map (·.requestId)) := by
  refine ⟨?_, fun rid => by simp [decodeFirst, Dict.contains]⟩
  simp [decodeFirst, Listing.all, ScheduleResult.groups]

lemma ignore_deals (h : l.result.Deals ids) (rid : RequestId) (reason : IgnoreReason) :
    (l.ignore rid reason).result.Deals (rid :: ids) := by
  apply h.push .ignored
  · intro p
    cases p <;> rfl
  · intro x
    simp only [BudgetLoop.ignore, Dict.contains_set, List.mem_append, List.mem_singleton]
    rw [Bool.or_eq_true, h.reasons]
    simp [or_comm]

lemma continuePrefill_deals (h : l.result.Deals ids) (item : SequenceGroup × Sequence) :
    (continuePrefill S l item).result.Deals (item.1.requestId :: ids) := by
  simp only [continuePrefill]
  split_ifs
  · exact ignore_deals h _ _
  · exact ignore_deals h _ _
  · apply h.push .prefill
    · intro p
      cases p <;> rfl
    · exact h.reasons

lemma continuePrefills_deals (h : l.result.Deals ids) (items : List (SequenceGroup × Sequence)) :
    (items.foldl (continuePrefill S) l).result.Deals (items.map (·.1.requestId) ++ ids) := by
  induction items generalizing l ids with
  | nil => exact h
  | cons item rest ih => exact (ih (continuePrefill_deals h item)).of_perm List.perm_middle

lemma admitWaiting_deals (h : l.result.Deals ids) {l' : BudgetLoop ε} {sg : SequenceGroup}
    (he : admitWaiting S l sg = (.ok (), l')) : l'.result.Deals (sg.requestId :: ids) := by
  simp only [admitWaiting] at he
  split at he
  · cases he
    exact ignore_deals h _ _
  · cases he
    exact ignore_deals h _ _
  · cases he
    apply h.push .rejected
    · intro p
      cases p <;> rfl
    · exact h.reasons
  · simp only [admitGroup] at he
    split at he
    · cases he
    · cases he
      apply h.push .prefill
      · intro p
        cases p <;> rfl
      · exact h.reasons

lemma admitWaitings_deals (h : l.result.Deals ids) {l' : BudgetLoop ε} {groups : List SequenceGroup}
    (he : forEach (admitWaiting S) l groups = (.ok (), l')) :
    l'.result.Deals (groups.map (·.requestId) ++ ids) := by
  induction groups generalizing l ids with
  | nil =>
    cases he
    exact h
  | cons sg rest ih =>
    cases hsg : admitWaiting S l sg with
    | mk r l₁ =>
      simp only [forEach, hsg] at he
      cases r with
      | error err => cases he
      | ok u => exact (ih (admitWaiting_deals h hsg) he).of_perm List.perm_middle

end Lists

lemma admittedGroup_requestId (bm : BlockManager ε) (sg : SequenceGroup) :
    (admittedGroup S bm sg).requestId = sg.requestId := rfl

lemma admittedGroup_congr {b b' : BlockManager ε}
    (h : ∀ prompt, b.probePrefixCache S.blockParams prompt = b'.probePrefixCache S.blockParams prompt)
    (sg : SequenceGroup) : admittedGroup S b sg = admittedGroup S b' sg := by
  simp only [admittedGroup, admittedSeq, h]

structure Moved (S : Setup ε) (l₀ l : BudgetLoop ε) : Prop where
  finished : l.queue.finished = l₀.queue.finished
  waiting : ∀ rid, l.queue.waiting.get? rid =
    if rid ∈ l.result.scheduledPrefillGroups ∨ rid ∈ l.result.rejectedGroups then none
    else l₀.queue.waiting.get? rid
  running : ∀ rid, l.queue.running.get? rid = (l₀.queue.running.get? rid <|>
    if rid ∈ l.result.scheduledPrefillGroups then
      (l₀.queue.waiting.get? rid).map (admittedGroup S l₀.blockManager)
    else none)
  rejected : ∀ rid, l.queue.rejected.get? rid =
    if rid ∈ l.result.rejectedGroups then l₀.queue.waiting.get? rid else l₀.queue.rejected.get? rid
  rejected_waiting : ∀ rid ∈ l.result.rejectedGroups, l₀.queue.waiting.get? rid ≠ none

namespace Moved

variable {l₀ l l' : BudgetLoop ε} {sg : SequenceGroup}

lemma pending (h : Moved S l₀ l) (hwait : l.queue.waiting.get? sg.requestId = some sg) :
    sg.requestId ∉ l.result.scheduledPrefillGroups ∧ sg.requestId ∉ l.result.rejectedGroups ∧
      l₀.queue.waiting.get? sg.requestId = some sg := by
  rw [h.waiting] at hwait
  split_ifs at hwait with hm
  exact ⟨fun hp => hm (Or.inl hp), fun hr => hm (Or.inr hr), hwait⟩

lemma visit (h : Moved S l₀ l) (hprobe : ∀ prompt, l.blockManager.probePrefixCache S.blockParams prompt =
    l₀.blockManager.probePrefixCache S.blockParams prompt) (hv : Visit S l sg l') : Moved S l₀ l' := by
  cases hv with
  | skip => exact ⟨h.finished, h.waiting, h.running, h.rejected, h.rejected_waiting⟩
  | reject hd hwait =>
    obtain ⟨hp, hr, hold⟩ := h.pending hwait
    refine ⟨h.finished, fun rid => ?_, h.running, fun rid => ?_, fun rid hrid => ?_⟩
    · by_cases he : rid = sg.requestId
      · simp [RequestQueue.markRejected, he]
      · simp [RequestQueue.markRejected, Dict.get?_pop, he, h.waiting]
    · by_cases he : rid = sg.requestId
      · simp [RequestQueue.markRejected, he, hold]
      · simp [RequestQueue.markRejected, Dict.get?_set, he, h.rejected]
    · rcases List.mem_append.mp hrid with hrid | hrid
      · exact h.rejected_waiting rid hrid
      · rw [List.mem_singleton.mp hrid, hold]
        simp
  | admission bm result hd hwait hfresh ha hresult =>
    obtain ⟨hp, hr, hold⟩ := h.pending hwait
    have hnew : l₀.queue.running.get? sg.requestId = none := by
      have hrun := h.running sg.requestId
      rw [hfresh, if_neg hp] at hrun
      simpa using hrun.symm
    have hgroup := admittedGroup_congr hprobe sg
    refine ⟨h.finished, fun rid => ?_, fun rid => ?_, ?_, ?_⟩
    · by_cases he : rid = sg.requestId
      · simp [RequestQueue.markRunning, admittedGroup, he, hresult.1]
      · simp [RequestQueue.markRunning, admittedGroup, Dict.get?_pop, he, h.waiting, hresult.1, hresult.2.2.1]
    · by_cases he : rid = sg.requestId
      · simp [RequestQueue.markRunning, admittedGroup_requestId, he, hold, hresult.1, hnew, hgroup]
      · simp [RequestQueue.markRunning, admittedGroup_requestId, Dict.get?_set, he, h.running, hresult.1]
    · intro rid
      simp only [hresult.2.2.1]
      exact h.rejected rid
    · intro rid
      simp only [hresult.2.2.1]
      exact h.rejected_waiting rid

lemma visits (h : Moved S l₀ l) (hprobe : ∀ prompt, l.blockManager.probePrefixCache S.blockParams prompt =
    l₀.blockManager.probePrefixCache S.blockParams prompt) {groups : List SequenceGroup}
    (hv : Visits S l groups l') : Moved S l₀ l' := by
  induction hv with
  | nil => exact h
  | cons hv _ ih => exact ih (h.visit hprobe hv) fun prompt => (hv.probe prompt).trans (hprobe prompt)

end Moved

lemma mem_map_requestId {pool : Dict RequestId SequenceGroup}
    (hid : ∀ rid sg, pool.get? rid = some sg → sg.requestId = rid) (rid : RequestId) :
    rid ∈ pool.values.map (·.requestId) ↔ pool.get? rid ≠ none := by
  rw [List.mem_map, Option.ne_none_iff_exists']
  constructor
  · rintro ⟨sg, hsg, rfl⟩
    obtain ⟨rid, hrid⟩ := (pool.mem_values sg).mp hsg
    rw [hid rid sg hrid]
    exact ⟨sg, hrid⟩
  · rintro ⟨sg, hsg⟩
    exact ⟨sg, (pool.mem_values sg).mpr ⟨rid, hsg⟩, hid rid sg hsg⟩

section Schedule

variable {s₀ : CoreState ε} (h₀ : WellFormed S s₀) {l l' : BudgetLoop ε} {visited : List SequenceGroup}
  (h : Schedules S s₀ l l' visited)

include h₀ h

lemma Schedules.phases : ∃ (decode : List SequenceGroup) (prefill : List (SequenceGroup × Sequence)),
    l = prefill.foldl (continuePrefill S) (decodeFirst S (finishLoop S s₀.queue s₀.blockManager) decode) ∧
    (∀ item ∈ prefill, item.1 ∈ (finishLoop S s₀.queue s₀.blockManager).keepRunningGroups ∧
      item.1.seqs = [item.2]) ∧
    (prefill.map Prod.fst ++ decode).Perm (finishLoop S s₀.queue s₀.blockManager).keepRunningGroups := by
  have hone : ∀ sg ∈ (finishLoop S s₀.queue s₀.blockManager).keepRunningGroups,
      ∃ q, sg.seqs = [q] ∧ LivePhase q := fun sg hsg => finishLoop_live h₀ hsg
  obtain ⟨decode, prefill, hcat, -, hprefill, hperm⟩ := categorize_spec _ hone
  obtain ⟨n, queue, bm, hb⟩ := h.before
  have he := hb.symm.trans (beforeAdmission_eq hcat rfl)
  simp only [Prod.mk.injEq, Except.ok.injEq] at he
  exact ⟨decode, prefill, he.1.1, fun item hi => ⟨(hprefill item hi).1, (hprefill item hi).2.1⟩, hperm⟩

lemma Schedules.start_deals : l.result.Deals (s₀.queue.running.values.map (·.requestId)) := by
  have hpass := finishLoop_pass h₀
  obtain ⟨decode, prefill, hl, -, hperm⟩ := h.phases h₀
  rw [hl]
  apply (continuePrefills_deals (decodeFirst_deals _ _) prefill).of_perm
  have hids := hperm.map (·.requestId)
  rw [List.map_append, List.map_map] at hids
  rw [hpass.finishedGroups, List.nil_append]
  rw [hpass.keep] at hids
  calc List.Perm (prefill.map (·.1.requestId) ++ (dueIds s₀.queue.running.values ++ decode.map (·.requestId)))
        (dueIds s₀.queue.running.values ++ (prefill.map (·.1.requestId) ++ decode.map (·.requestId))) :=
        List.perm_append_comm_assoc _ _ _
    List.Perm _ (dueIds s₀.queue.running.values ++
        (s₀.queue.running.values.filter (!·.due)).map (·.requestId)) := hids.append_left _
    List.Perm _ (s₀.queue.running.values.map (·.requestId)) := by
        rw [dueIds, ← List.map_append]
        exact (List.filter_append_perm _ _).map _

lemma Schedules.deals : l'.result.Deals
    (visited.map (·.requestId) ++ s₀.queue.running.values.map (·.requestId)) := by
  obtain ⟨n, queue, bm, hb⟩ := h.before
  have hresult := h.result
  simp only [schedule, hb] at hresult
  cases hloop : forEach (admitWaiting S) l visited with
  | mk r k =>
    rw [hloop] at hresult
    cases r with
    | error err => cases hresult
    | ok u =>
      have hdeals := admitWaitings_deals (h.start_deals h₀) hloop
      simp only [Prod.mk.injEq, Except.ok.injEq] at hresult
      have hreport : (l'.report l.queue.decodes.length).Deals
          (visited.map (·.requestId) ++ s₀.queue.running.values.map (·.requestId)) := by
        rw [← hresult.1]
        exact ⟨hdeals.perm, hdeals.reasons⟩
      exact ⟨hreport.perm, hreport.reasons⟩

omit h₀ in
lemma Schedules.prefill_running {rid : RequestId} (hrid : rid ∈ l.result.scheduledPrefillGroups) :
    ∃ sg, l.queue.running.get? rid = some sg := by
  obtain ⟨q, hq, -⟩ := h.admitting.scheduled.prefill rid hrid
  obtain ⟨sg, hsg, -⟩ := Option.bind_eq_some_iff.mp hq
  exact ⟨sg, hsg⟩

lemma Schedules.moved : Moved S l l' := by
  have hq := (h₀.reaches h.admitting.reach).queue
  refine Moved.visits ⟨rfl, fun rid => ?_, fun rid => ?_, fun rid => ?_, fun rid hrid => ?_⟩ (fun _ => rfl) h.visits
  · split_ifs with hm
    · rcases hm with hm | hm
      · obtain ⟨sg, hsg⟩ := h.prefill_running hm
        exact hq.waiting_of_running hsg
      · rw [h.rejectedGroups] at hm
        cases hm
    · rfl
  · split_ifs with hm
    · obtain ⟨sg, hsg⟩ := h.prefill_running hm
      rw [hsg]
      rfl
    · simp
  · simp [h.rejectedGroups]
  · rw [h.rejectedGroups] at hrid
    cases hrid

lemma Schedules.finished_iff {rid : RequestId} : rid ∈ l'.result.finishedGroups ↔
    ∃ sg, s₀.queue.running.get? rid = some sg ∧ sg.due = true := by
  rw [h.visits.frame.2.1, h.finishedGroups, mem_dueIds_running h₀]

lemma Schedules.decode_running {rid : RequestId} (hrid : rid ∈ l'.result.scheduledDecodeGroups) :
    s₀.queue.running.get? rid ≠ none := by
  rw [h.visits.frame.2.2.1] at hrid
  obtain ⟨q, hq, -⟩ := h.admitting.scheduled.decode rid hrid
  obtain ⟨sg, hsg, -⟩ := (h₀.reaches h.admitting.reach).queue.runningSeq_eq_some.mp hq
  rw [h.queue] at hsg
  rw [((finishLoop_running h₀).mp hsg).1]
  simp

lemma Schedules.rejected_waiting {rid : RequestId} (hrid : rid ∈ l'.result.rejectedGroups) :
    s₀.queue.waiting.get? rid ≠ none := by
  rw [← h.waiting_eq h₀]
  exact (h.moved h₀).rejected_waiting rid hrid

end Schedule

structure Accounted (S : Setup ε) (s₀ : CoreState ε) (result : ScheduleResult) (qu : RequestQueue) : Prop where
  running : ∀ rid, s₀.queue.running.get? rid ≠ none →
    ∃ p ≠ Listing.rejected, ∀ p', rid ∈ result.groups p' ↔ p' = p
  waiting : AdmissionOpen S s₀.queue → ∀ rid, s₀.queue.waiting.get? rid ≠ none →
    ∃ p ∈ [Listing.prefill, .ignored, .rejected], ∀ p', rid ∈ result.groups p' ↔ p' = p
  closed : ¬ AdmissionOpen S s₀.queue → ∀ rid, s₀.queue.waiting.get? rid ≠ none →
    (∀ p, rid ∉ result.groups p) ∧ qu.waiting.get? rid = s₀.queue.waiting.get? rid
  listed : ∀ p, ∀ rid ∈ result.groups p, s₀.queue.running.get? rid ≠ none ∨ s₀.queue.waiting.get? rid ≠ none
  nodup : ∀ p, (result.groups p).Nodup
  reasons : ∀ rid, result.ignoredReasons.contains rid = true ↔ rid ∈ result.ignoredGroups
  waiting_pool : ∀ rid, qu.waiting.get? rid =
    if rid ∈ result.scheduledPrefillGroups ∨ rid ∈ result.rejectedGroups then none
    else s₀.queue.waiting.get? rid
  running_pool : ∀ rid, qu.running.get? rid =
    if rid ∈ result.finishedGroups then none
    else s₀.queue.running.get? rid <|>
      if rid ∈ result.scheduledPrefillGroups then
        (s₀.queue.waiting.get? rid).map (admittedGroup S (dueFreed S s₀))
      else none
  finished_pool : ∀ rid, qu.finished.get? rid =
    if rid ∈ result.finishedGroups then (s₀.queue.running.get? rid).map (·.retired)
    else s₀.queue.finished.get? rid
  rejected_pool : ∀ rid, qu.rejected.get? rid =
    if rid ∈ result.rejectedGroups then s₀.queue.waiting.get? rid else s₀.queue.rejected.get? rid

section Accounted

variable {s₀ : CoreState ε} (h₀ : WellFormed S s₀) {l l' : BudgetLoop ε} {visited : List SequenceGroup}
  (h : Schedules S s₀ l l' visited)

include h₀ h

lemma Schedules.ids_nodup :
    (visited.map (·.requestId) ++ s₀.queue.running.values.map (·.requestId)).Nodup := by
  apply List.nodup_append.mpr
  refine ⟨h.admitting.nodup, ?_, ?_⟩
  · exact s₀.queue.running.nodup_values_map _ fun rid sg hg => (h₀.queue.running rid sg hg).1
  · rintro rid hv _ hr rfl
    obtain ⟨sg, hsg, rfl⟩ := List.mem_map.mp hv
    obtain ⟨g, hg, hid⟩ := List.mem_map.mp hr
    have hwait := h.admitting.pending sg hsg
    rw [h.waiting_eq h₀] at hwait
    have hnone := (h₀.queue.only_waiting hwait).1
    rw [← hid, (running_one h₀ hg).1] at hnone
    cases hnone

lemma Schedules.mem_ids (rid : RequestId) :
    rid ∈ visited.map (·.requestId) ++ s₀.queue.running.values.map (·.requestId) ↔
      (AdmissionOpen S s₀.queue ∧ s₀.queue.waiting.get? rid ≠ none) ∨ s₀.queue.running.get? rid ≠ none := by
  rw [List.mem_append, mem_map_requestId fun rid sg hg => (h₀.queue.running rid sg hg).1]
  apply or_congr_left
  rw [h.visited_open h₀]
  split_ifs with hopen
  · rw [mem_map_requestId fun rid sg hg => (h₀.queue.waiting rid sg hg).1]
    exact (and_iff_right hopen).symm
  · simp [hopen]

lemma Schedules.running_eq (rid : RequestId) : l.queue.running.get? rid =
    if rid ∈ l'.result.finishedGroups then none else s₀.queue.running.get? rid := by
  apply Option.ext
  intro sg
  rw [h.queue, finishLoop_running h₀]
  split_ifs with hf
  · obtain ⟨g, hg, hd⟩ := (h.finished_iff h₀).mp hf
    constructor
    · rintro ⟨hsg, hnot⟩
      rw [hg] at hsg
      cases hsg
      rw [hd] at hnot
      cases hnot
    · exact fun hc => by cases hc
  · refine ⟨fun hsg => hsg.1, fun hsg => ⟨hsg, ?_⟩⟩
    rw [← Bool.not_eq_true]
    exact fun hd => hf ((h.finished_iff h₀).mpr ⟨sg, hsg, hd⟩)

lemma Schedules.finished_eq (rid : RequestId) : l.queue.finished.get? rid =
    if rid ∈ l'.result.finishedGroups then (s₀.queue.running.get? rid).map (·.retired)
    else s₀.queue.finished.get? rid := by
  rw [h.queue]
  split_ifs with hf
  · obtain ⟨sg, hsg, hd⟩ := (h.finished_iff h₀).mp hf
    rw [finishLoop_retired h₀ hsg hd, hsg]
    rfl
  · apply finishLoop_finished h₀
    intro sg hsg
    rw [← Bool.not_eq_true]
    exact fun hd => hf ((h.finished_iff h₀).mpr ⟨sg, hsg, hd⟩)

theorem Schedules.accounted : Accounted S s₀ (l'.report l.queue.decodes.length) l'.queue := by
  have hdeals := h.deals h₀
  have hnd := h.ids_nodup h₀
  have hmoved := h.moved h₀
  have hwaiting := h.waiting_eq h₀
  have hexclusive : ∀ rid, s₀.queue.waiting.get? rid ≠ none → s₀.queue.running.get? rid = none :=
    fun rid hrid => (h₀.queue.waiting_only rid hrid).1
  refine ⟨fun rid hrid => ?_, fun hopen rid hrid => ?_, fun hclosed rid hrid => ?_, fun p rid hrid => ?_,
    hdeals.nodup hnd, hdeals.reasons, fun rid => ?_, fun rid => ?_, fun rid => ?_, fun rid => ?_⟩
  · obtain ⟨p, hp⟩ := hdeals.listed_once hnd ((h.mem_ids h₀ rid).mpr (Or.inr hrid))
    refine ⟨p, ?_, hp⟩
    rintro rfl
    exact hrid (hexclusive rid (h.rejected_waiting h₀ ((hp .rejected).mpr rfl)))
  · obtain ⟨p, hp⟩ := hdeals.listed_once hnd ((h.mem_ids h₀ rid).mpr (Or.inl ⟨hopen, hrid⟩))
    have hnone := hexclusive rid hrid
    refine ⟨p, ?_, hp⟩
    cases p with
    | finished =>
      obtain ⟨sg, hsg, -⟩ := (h.finished_iff h₀).mp ((hp .finished).mpr rfl)
      rw [hnone] at hsg
      cases hsg
    | decode => exact absurd hnone (h.decode_running h₀ ((hp .decode).mpr rfl))
    | prefill => simp
    | ignored => simp
    | rejected => simp
  · have hnot : ∀ p, rid ∉ (l'.report l.queue.decodes.length).groups p := by
      intro p hp
      rcases (h.mem_ids h₀ rid).mp (hdeals.mem_of_listed hp) with ⟨hopen, -⟩ | hrun
      · exact hclosed hopen
      · exact hrun (hexclusive rid hrid)
    refine ⟨hnot, ?_⟩
    rw [hmoved.waiting, if_neg, hwaiting]
    rintro (hp | hr)
    · exact hnot .prefill hp
    · exact hnot .rejected hr
  · rcases (h.mem_ids h₀ rid).mp (hdeals.mem_of_listed hrid) with ⟨-, hwait⟩ | hrun
    · exact Or.inr hwait
    · exact Or.inl hrun
  · rw [← hwaiting]
    exact hmoved.waiting rid
  · have hfinished : rid ∈ l'.result.finishedGroups → s₀.queue.waiting.get? rid = none := by
      intro hf
      obtain ⟨sg, hsg, -⟩ := (h.finished_iff h₀).mp hf
      exact h₀.queue.waiting_of_running hsg
    rw [hmoved.running, h.running_eq h₀, hwaiting, h.blockManager_eq h₀]
    by_cases hf : rid ∈ l'.result.finishedGroups
    · simp [report, hf, hfinished hf]
    · rw [if_neg hf]
      exact (if_neg hf).symm
  · rw [hmoved.finished]
    exact h.finished_eq h₀ rid
  · rw [← hwaiting, ← (finishLoop_pass h₀).rejected, ← h.queue]
    exact hmoved.rejected rid

end Accounted

theorem schedule_accounts (S : Setup ε) (ops : List LLMEngine.Op) :
    ∃ result queue bm,
      schedule S (LLMEngine.run S ops).queue (LLMEngine.run S ops).blockManager = (.ok result, queue, bm) ∧
      Accounted S (LLMEngine.run S ops).core result queue := by
  obtain ⟨l, l', visited, h⟩ := schedule_spec (wellFormed_run S ops)
  exact ⟨_, _, _, h.result, h.accounted (wellFormed_run S ops)⟩

end MiniVllm
