import MiniVllm.EngineProofs.Refinement
import MiniVllm.EngineProofs.Timeouts
import MiniVllm.SharingProofs.Hits

/-! What a cancel does to its own request and to the others. -/

namespace MiniVllm

open EngineCore

variable {ε : Type} {S : Setup ε}

lemma BlockManager.free_get?_ne (P : BlockParams ε) (bm : BlockManager ε) {sid s : SeqId} (hne : s ≠ sid) :
    (bm.free P sid).tables.get? s = bm.tables.get? s := by
  rw [free]
  split
  · rfl
  · exact bm.tables.get?_pop_ne hne

lemma WellFormed.table_of_dead {s : CoreState ε} (hw : WellFormed S s) {sid : SeqId} (hd : Dead s.queue sid.request) :
    s.blockManager.tables.contains sid = false := by
  rw [← Bool.not_eq_true, hw.tables]
  rintro ⟨q, hq, -⟩
  obtain ⟨sg, hsg, -⟩ := hw.queue.runningSeq_eq_some.mp hq
  rw [hd.running] at hsg
  cases hsg

structure Removes (s s' : EngineState ε) (rid : RequestId) : Prop where
  dead : Dead s'.queue rid
  tables : ∀ sid : SeqId, sid.request = rid → s'.blockManager.tables.contains sid = false
  balanced : s'.blockManager.Balanced
  others : ∀ r, r ≠ rid → SameAt s.queue s'.queue r
  otherTables : ∀ sid : SeqId, sid.request ≠ rid → s'.blockManager.tables.get? sid = s.blockManager.tables.get? sid

structure Cancels (s s' : EngineState ε) (rid : RequestId) : Prop extends Removes s s' rid where
  filed : ∃ sg, (s.queue.waiting.get? rid = some sg ∨ s.queue.running.get? rid = some sg) ∧
    s'.queue.finished.get? rid =
      some (sg.mapSeqs (fun q => if q.finished then q else { q with status := .cancelled }))
  rejected : s'.queue.rejected.get? rid = s.queue.rejected.get? rid
  cancelled : s'.metrics.cancelledRequests = s.metrics.cancelledRequests + 1

structure CancelLaw (S : Setup ε) (s : EngineState ε) (rid : RequestId) : Prop where
  returns : (cancelRequest S s rid).1 = true ↔ ¬ Dead s.queue rid
  cancels : ¬ Dead s.queue rid → Cancels s (cancelRequest S s rid).2 rid
  otherwise : Dead s.queue rid → (cancelRequest S s rid).2 = s

lemma cancelRequest_found (s : EngineState ε) (rid : RequestId) :
    (cancelRequest S s rid).1 = (s.queue.getById rid).isSome := by
  rw [cancelRequest]
  split <;> rename_i he <;> rw [he] <;> rfl

lemma getById_eq_none (qu : RequestQueue) (rid : RequestId) :
    qu.getById rid = none ↔ Dead qu rid ∧ qu.finished.get? rid = none ∧ qu.rejected.get? rid = none := by
  rw [RequestQueue.getById]
  constructor
  · intro h
    simp only [Option.orElse_eq_orElse, Option.orElse_eq_or, Option.or_eq_none_iff] at h
    exact ⟨⟨h.1, h.2.1⟩, h.2.2⟩
  · rintro ⟨hd, hf, hj⟩
    rw [hd.waiting, hd.running, hf, hj]
    rfl

section Cancel

variable {s : EngineState ε} (hw : WellFormed S s.core) {rid : RequestId}

include hw

lemma Removes.of_queue (hd : Dead (cancelRequest S s rid).2.queue rid)
    (hothers : ∀ r, r ≠ rid → SameAt s.queue (cancelRequest S s rid).2.queue r)
    (htables : ∀ sid : SeqId, sid.request ≠ rid →
      (cancelRequest S s rid).2.blockManager.tables.get? sid = s.blockManager.tables.get? sid) :
    Removes s (cancelRequest S s rid).2 rid := by
  have hw' : WellFormed S (cancelRequest S s rid).2.core := hw.reaches (cancelRequest_refines (c := {}) hw rid)
  refine ⟨hd, fun sid hsid => ?_, hw'.balanced, hothers, htables⟩
  apply hw'.table_of_dead
  rw [hsid]
  exact hd

lemma cancels_waiting {sg : SequenceGroup} (hsg : s.queue.waiting.get? rid = some sg) :
    Cancels s (cancelRequest S s rid).2 rid := by
  obtain ⟨rfl, -, hnil⟩ := hw.queue.waiting rid sg hsg
  have hcancel := cancelRequest_waiting hw hsg
  have hne : s.core.queue.waiting.get? sg.requestId ≠ none := fun hn => by cases hn.symm.trans hsg
  refine ⟨Removes.of_queue hw ?_ (fun r hr => ?_) (fun sid hsid => ?_), ⟨sg, .inl hsg, ?_⟩, ?_, ?_⟩
  · rw [hcancel]
    exact ⟨s.queue.waiting.get?_pop_self _, (hw.queue.waiting_only _ hne).1⟩
  · rw [hcancel]
    exact sameAt_withdraw s.queue sg hr
  · rw [hcancel]
  · have hsame : sg.mapSeqs (fun q => if q.finished then q else { q with status := .cancelled }) = sg := by
      rw [SequenceGroup.mapSeqs, hnil, List.map_nil, ← hnil]
    rw [hcancel, hsame]
    exact s.queue.finished.get?_set_self _ _
  · rw [hcancel]
    rfl
  · rw [hcancel]

lemma cancels_running {sg : SequenceGroup} (hsg : s.queue.running.get? rid = some sg) :
    Cancels s (cancelRequest S s rid).2 rid := by
  obtain ⟨rfl, -, q, hq, hl⟩ := hw.queue.running rid sg hsg
  have hfin := hl.phase.not_finished
  have hcancel := cancelRequest_running hw hsg hq hfin
  refine ⟨Removes.of_queue hw ?_ (fun r hr => ?_) (fun sid hsid => ?_), ⟨sg, .inr hsg, ?_⟩, ?_, ?_⟩
  · rw [hcancel]
    exact ⟨hw.queue.waiting_of_running hsg, s.queue.running.get?_pop_self _⟩
  · rw [hcancel]
    exact sameAt_markFinished s.queue _ hr
  · have hne : sid ≠ q.seqId := by
      rintro rfl
      exact hsid (by rw [hl.seqId])
    rw [hcancel]
    exact s.blockManager.free_get?_ne S.blockParams hne
  · have hmap : sg.mapSeqs (fun q => if q.finished then q else { q with status := .cancelled }) =
        { sg with seqs := [{ q with status := .cancelled }] } := by
      simp [SequenceGroup.mapSeqs, hq, hfin]
    rw [hcancel, hmap]
    exact s.queue.finished.get?_set_self _ _
  · rw [hcancel]
    rfl
  · rw [hcancel]
    rfl

lemma cancels_live (h : ¬ Dead s.queue rid) : Cancels s (cancelRequest S s rid).2 rid := by
  cases hwait : s.queue.waiting.get? rid with
  | some sg => exact cancels_waiting hw hwait
  | none =>
    cases hrun : s.queue.running.get? rid with
    | some sg => exact cancels_running hw hrun
    | none => exact absurd ⟨hwait, hrun⟩ h

theorem cancelRequest_removes (rid : RequestId) : Removes s (cancelRequest S s rid).2 rid := by
  by_cases hd : Dead s.queue rid
  · rcases getById_cases s.queue rid with ⟨hn, -⟩ | ⟨sg, -, hg | ⟨-, hg⟩ | ⟨-, -, hf⟩ | ⟨hg, hr, hf, hj⟩⟩
    · have hcancel : (cancelRequest S s rid).2 = s := by simp only [cancelRequest, hn]
      apply Removes.of_queue hw <;> rw [hcancel]
      · exact hd
      · exact fun r _ => .refl _ r
      · exact fun _ _ => rfl
    · cases hd.waiting.symm.trans hg
    · cases hd.running.symm.trans hg
    · apply Removes.of_queue hw <;> rw [cancelRequest_finished hw hf]
      · exact hd
      · exact fun r _ => .refl _ r
      · exact fun _ _ => rfl
    · have hid := (hw.queue.rejected rid sg hj).1
      apply Removes.of_queue hw <;> rw [cancelRequest_rejected hw hg hr hf hj]
      · exact ⟨hd.waiting, hd.running⟩
      · exact fun r hne => ⟨rfl, rfl, s.queue.finished.get?_set_ne sg (by rw [hid]; exact hne), rfl⟩
      · exact fun _ _ => rfl
  · exact (cancels_live hw hd).toRemoves

theorem cancelLaw_iff (rid : RequestId) :
    CancelLaw S s rid ↔ s.queue.finished.get? rid = none ∧ s.queue.rejected.get? rid = none := by
  constructor
  · intro h
    have hdead : Dead s.queue rid → s.queue.getById rid = none := by
      intro hd
      have hfalse := mt h.returns.mp (not_not.mpr hd)
      rw [cancelRequest_found] at hfalse
      exact Option.not_isSome_iff_eq_none.mp hfalse
    constructor
    · by_contra hn
      obtain ⟨sg, hsg⟩ := Option.ne_none_iff_exists'.mp hn
      exact hn ((getById_eq_none s.queue rid).mp (hdead (hw.queue.dead_of_finished hsg))).2.1
    · by_contra hn
      obtain ⟨sg, hsg⟩ := Option.ne_none_iff_exists'.mp hn
      exact hn ((getById_eq_none s.queue rid).mp (hdead (hw.queue.dead_of_rejected hsg))).2.2
  · rintro ⟨hf, hj⟩
    have hnone : s.queue.getById rid = none ↔ Dead s.queue rid :=
      (getById_eq_none s.queue rid).trans (and_iff_left ⟨hf, hj⟩)
    refine ⟨?_, cancels_live hw, fun hd => ?_⟩
    · rw [cancelRequest_found, ← not_iff_not, not_not, ← hnone, Option.not_isSome_iff_eq_none]
    · simp only [cancelRequest, hnone.mpr hd]

end Cancel

theorem cancel_law_iff (S : Setup ε) (ops : List LLMEngine.Op) (rid : RequestId) :
    CancelLaw S (LLMEngine.run S ops) rid ↔
      (LLMEngine.run S ops).queue.finished.get? rid = none ∧ (LLMEngine.run S ops).queue.rejected.get? rid = none :=
  cancelLaw_iff (wellFormed_run S ops) rid

theorem cancelled_twice : ¬ ∀ (config : Config) (blockHash : List ℕ → ℤ) (ops : List LLMEngine.Op) (rid : RequestId),
    CancelLaw (fakeSetup config blockHash) (LLMEngine.run (fakeSetup config blockHash) ops) rid := by
  intro h
  have hreturns := (h .default codeHash [.addRequest ['a'] 1 0, .cancelRequest 0] 0).returns
  revert hreturns
  decide +kernel

end MiniVllm
