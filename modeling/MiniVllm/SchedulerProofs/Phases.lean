import MiniVllm.EngineProofs.Refinement

/-! What each phase of `schedule` does with the pools. -/

namespace MiniVllm

open Scheduler

variable {ε : Type} {S : Setup ε} {c : CallCondition ε}

namespace SequenceGroup

def due (sg : SequenceGroup) : Bool := sg.seqs.all (fun q => decide q.due)

def retired (sg : SequenceGroup) : SequenceGroup := sg.mapSeqs (fun q => { q with status := .finished })

variable {sg : SequenceGroup} {q : Sequence}

lemma due_iff (hq : sg.seqs = [q]) : sg.due = true ↔ q.due := by
  simp [due, hq]

lemma retired_eq (hq : sg.seqs = [q]) : sg.retired = sg.finishedWith q := by
  simp [retired, finishedWith, mapSeqs, hq]

end SequenceGroup

def dueIds (groups : List SequenceGroup) : List RequestId := (groups.filter (·.due)).map (·.requestId)

structure FinishPass (l₀ : FinishLoop ε) (groups : List SequenceGroup) (l : FinishLoop ε) : Prop where
  waiting : l.queue.waiting = l₀.queue.waiting
  rejected : l.queue.rejected = l₀.queue.rejected
  finishedGroups : l.finishedGroups = l₀.finishedGroups ++ dueIds groups
  keep : l.keepRunningGroups = l₀.keepRunningGroups ++ groups.filter (!·.due)
  running : l.queue.running.entries = l₀.queue.running.entries.filter (fun e => e.1 ∉ dueIds groups)
  retired : ∀ sg ∈ groups, sg.due = true → l.queue.finished.get? sg.requestId = some sg.retired
  finished : ∀ rid ∉ dueIds groups, l.queue.finished.get? rid = l₀.queue.finished.get? rid

lemma mem_dueIds {groups : List SequenceGroup} {rid : RequestId} :
    rid ∈ dueIds groups ↔ ∃ sg ∈ groups, sg.due = true ∧ sg.requestId = rid := by
  simp [dueIds, and_assoc]

lemma dueIds_cons (sg : SequenceGroup) (groups : List SequenceGroup) :
    dueIds (sg :: groups) = if sg.due then sg.requestId :: dueIds groups else dueIds groups := by
  simp only [dueIds, List.filter_cons]
  split_ifs <;> rfl

lemma finishPass (groups : List SequenceGroup) (l : FinishLoop ε)
    (hrun : ∀ sg ∈ groups, l.queue.running.get? sg.requestId = some sg)
    (hone : ∀ sg ∈ groups, ∃ q, sg.seqs = [q] ∧ q.finished = false)
    (hnd : (groups.map (·.requestId)).Nodup) : FinishPass l groups (groups.foldl (finishGroup S) l) := by
  induction groups generalizing l with
  | nil => exact ⟨rfl, rfl, by simp [dueIds], by simp, by simp [dueIds], by simp, fun _ _ => rfl⟩
  | cons sg rest ih =>
    obtain ⟨q, hq, hlive⟩ := hone sg (by simp)
    simp only [List.map_cons, List.nodup_cons] at hnd
    have hne : ∀ g ∈ rest, g.requestId ≠ sg.requestId := fun g hg he => hnd.1 (he ▸ List.mem_map_of_mem hg)
    have hnot : sg.requestId ∉ dueIds rest := by
      intro hm
      obtain ⟨g, hg, -, he⟩ := mem_dueIds.mp hm
      exact hne g hg he
    rw [List.foldl_cons]
    by_cases hd : q.due
    · have hdue : sg.due = true := (SequenceGroup.due_iff hq).mpr hd
      rw [finishGroup_due hq hlive hd, ← SequenceGroup.retired_eq hq]
      have hid : sg.retired.requestId = sg.requestId := rfl
      have hp := ih { l with
          queue := l.queue.markFinished sg.retired
          blockManager := l.blockManager.free S.blockParams q.seqId
          finishedGroups := l.finishedGroups ++ [sg.requestId] }
        (fun g hg => by
          simpa only [RequestQueue.markFinished, hid, Dict.get?_pop, if_neg (hne g hg)] using
            hrun g (List.mem_cons_of_mem sg hg))
        (fun g hg => hone g (List.mem_cons_of_mem sg hg)) hnd.2
      refine ⟨hp.waiting, hp.rejected, ?_, ?_, ?_, fun g hg hgd => ?_, fun rid hrid => ?_⟩
      · rw [hp.finishedGroups, dueIds_cons, if_pos hdue]
        simp
      · rw [hp.keep, List.filter_cons, if_neg (by simp [hdue])]
      · rw [hp.running, dueIds_cons, if_pos hdue]
        simp only [RequestQueue.markFinished, Dict.pop, hid, List.filter_filter]
        apply List.filter_congr
        intro e _
        simp only [List.mem_cons, not_or, Bool.decide_and, Bool.and_comm]
      · rcases List.mem_cons.mp hg with rfl | hg
        · rw [hp.finished _ hnot]
          simp only [RequestQueue.markFinished, hid, Dict.get?_set_self]
        · exact hp.retired g hg hgd
      · rw [dueIds_cons, if_pos hdue, List.mem_cons, not_or] at hrid
        rw [hp.finished rid hrid.2]
        exact l.queue.finished.get?_set_ne _ hrid.1
    · have hdue : sg.due = false := by
        rw [← Bool.not_eq_true, SequenceGroup.due_iff hq]
        exact hd
      rw [finishGroup_keep hq hlive hd (hrun sg (by simp))]
      have hp := ih { l with keepRunningGroups := l.keepRunningGroups ++ [sg] }
        (fun g hg => hrun g (List.mem_cons_of_mem sg hg)) (fun g hg => hone g (List.mem_cons_of_mem sg hg)) hnd.2
      have hids : dueIds (sg :: rest) = dueIds rest := by simp [dueIds_cons, hdue]
      refine ⟨hp.waiting, hp.rejected, ?_, ?_, ?_, fun g hg hgd => ?_, fun rid hrid => ?_⟩
      · rw [hids]
        exact hp.finishedGroups
      · rw [hp.keep, List.filter_cons, if_pos (by simp [hdue])]
        simp
      · rw [hids]
        exact hp.running
      · rcases List.mem_cons.mp hg with rfl | hg
        · rw [hdue] at hgd
          cases hgd
        · exact hp.retired g hg hgd
      · rw [hids] at hrid
        exact hp.finished rid hrid

def finishLoop (S : Setup ε) (queue : RequestQueue) (bm : BlockManager ε) : FinishLoop ε :=
  queue.running.values.foldl (finishGroup S) { queue := queue, blockManager := bm }

section Finish

variable {s₀ : CoreState ε} (h₀ : WellFormed S s₀)

include h₀

lemma running_one {sg : SequenceGroup} (hsg : sg ∈ s₀.queue.running.values) :
    s₀.queue.running.get? sg.requestId = some sg ∧ ∃ q, sg.seqs = [q] ∧ LivePhase q := by
  obtain ⟨rid, hrid⟩ := (s₀.queue.running.mem_values sg).mp hsg
  obtain ⟨hid, -, q, hq, hl⟩ := h₀.queue.running rid sg hrid
  exact ⟨by rw [hid]; exact hrid, q, hq, hl.phase⟩

theorem finishLoop_pass : FinishPass { queue := s₀.queue, blockManager := s₀.blockManager }
    s₀.queue.running.values (finishLoop S s₀.queue s₀.blockManager) := by
  apply finishPass
  · exact fun sg hsg => (running_one h₀ hsg).1
  · intro sg hsg
    obtain ⟨-, q, hq, hl⟩ := running_one h₀ hsg
    exact ⟨q, hq, hl.not_finished⟩
  · exact s₀.queue.running.nodup_values_map _ fun rid sg hg => (h₀.queue.running rid sg hg).1

lemma finishLoop_finishing : Finishing S c s₀ (finishLoop S s₀.queue s₀.blockManager) [] :=
  (Finishing.start h₀).all h₀

lemma finishLoop_wellFormed : WellFormed S ⟨(finishLoop S s₀.queue s₀.blockManager).queue,
    (finishLoop S s₀.queue s₀.blockManager).blockManager, s₀.seqGroupCount⟩ :=
  h₀.reaches (finishLoop_finishing (c := {}) h₀).reach

lemma mem_dueIds_running {rid : RequestId} : rid ∈ dueIds s₀.queue.running.values ↔
    ∃ sg, s₀.queue.running.get? rid = some sg ∧ sg.due = true := by
  rw [mem_dueIds]
  constructor
  · rintro ⟨sg, hsg, hd, rfl⟩
    exact ⟨sg, (running_one h₀ hsg).1, hd⟩
  · rintro ⟨sg, hsg, hd⟩
    exact ⟨sg, (s₀.queue.running.mem_values sg).mpr ⟨rid, hsg⟩, hd, (h₀.queue.running rid sg hsg).1⟩

lemma finishLoop_values : (finishLoop S s₀.queue s₀.blockManager).queue.running.values =
    (finishLoop S s₀.queue s₀.blockManager).keepRunningGroups := by
  have hp := finishLoop_pass h₀
  rw [hp.keep, Dict.values, hp.running, List.nil_append, Dict.values, List.filter_map]
  congr 1
  apply List.filter_congr
  rintro ⟨rid, sg⟩ he
  have hg := (s₀.queue.running.mem_entries rid sg).mp he
  have hiff : rid ∈ dueIds s₀.queue.running.values ↔ sg.due = true := by
    rw [mem_dueIds_running h₀]
    constructor
    · rintro ⟨sg', hsg', hd⟩
      obtain rfl : sg' = sg := Option.some.inj (hsg'.symm.trans hg)
      exact hd
    · exact fun hd => ⟨sg, hg, hd⟩
  change decide (rid ∉ dueIds s₀.queue.running.values) = !sg.due
  rw [Bool.eq_iff_iff, decide_eq_true_iff, hiff]
  simp

lemma finishLoop_running {rid : RequestId} {sg : SequenceGroup} :
    (finishLoop S s₀.queue s₀.blockManager).queue.running.get? rid = some sg ↔
      s₀.queue.running.get? rid = some sg ∧ sg.due = false := by
  have hp := finishLoop_pass h₀
  rw [← Dict.mem_entries, hp.running, List.mem_filter, Dict.mem_entries, decide_eq_true_eq, mem_dueIds_running h₀]
  refine and_congr_right fun hg => ?_
  rw [← Bool.not_eq_true, hg]
  simp

lemma finishLoop_retired {rid : RequestId} {sg : SequenceGroup} (hg : s₀.queue.running.get? rid = some sg)
    (hd : sg.due = true) :
    (finishLoop S s₀.queue s₀.blockManager).queue.finished.get? rid = some sg.retired := by
  have hid := (h₀.queue.running rid sg hg).1
  rw [← hid]
  exact (finishLoop_pass h₀).retired sg ((s₀.queue.running.mem_values sg).mpr ⟨rid, hg⟩) hd

lemma finishLoop_finished {rid : RequestId} (hr : ∀ sg, s₀.queue.running.get? rid = some sg → sg.due = false) :
    (finishLoop S s₀.queue s₀.blockManager).queue.finished.get? rid = s₀.queue.finished.get? rid := by
  apply (finishLoop_pass h₀).finished rid
  rw [mem_dueIds_running h₀]
  rintro ⟨sg, hg, hd⟩
  rw [hr sg hg] at hd
  cases hd

end Finish

namespace RequestQueue

def decodes (qu : RequestQueue) : List Sequence := qu.liveSeqs.filter (·.status ≠ .prefill)

def prefills (qu : RequestQueue) : List Sequence := qu.liveSeqs.filter (·.status = .prefill)

end RequestQueue

lemma categorize_seqs {groups decode : List SequenceGroup} {prefill : List (SequenceGroup × Sequence)}
    (h : categorize groups = .ok (decode, prefill)) (hone : ∀ sg ∈ groups, ∃ q, sg.seqs = [q] ∧ LivePhase q) :
    decode.flatMap (·.getUnfinishedSeqs) =
        (groups.flatMap (·.getUnfinishedSeqs)).filter (·.status ≠ .prefill) ∧
      prefill.map Prod.snd = (groups.flatMap (·.getUnfinishedSeqs)).filter (·.status = .prefill) := by
  induction groups generalizing decode prefill with
  | nil =>
    cases h
    exact ⟨rfl, rfl⟩
  | cons sg rest ih =>
    obtain ⟨q, hq, hphase⟩ := hone sg (by simp)
    have hun : sg.getUnfinishedSeqs = [q] := by simp [SequenceGroup.getUnfinishedSeqs, hq, hphase.not_finished]
    have hhead : sg.getUnfinishedSeqs.head? = some q := by rw [hun]; rfl
    simp only [categorize, hhead] at h
    cases hc : categorize rest with
    | error err =>
      rw [hc] at h
      cases h
    | ok r =>
      obtain ⟨d, p⟩ := r
      obtain ⟨h₁, h₂⟩ := ih hc (fun g hg => hone g (List.mem_cons_of_mem sg hg))
      simp only [hc] at h
      rw [List.flatMap_cons, hun, List.singleton_append, List.filter_cons, List.filter_cons]
      by_cases hst : q.status = .prefill
      · simp only [hst, if_true] at h
        cases h
        simp [hst, h₁, h₂]
      · simp only [hst, if_false] at h
        cases h
        simp [hst, h₁, h₂, hun]

end MiniVllm
