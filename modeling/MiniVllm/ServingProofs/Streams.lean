import MiniVllm.EngineProofs.Pools
import MiniVllm.EngineProofs.Reports
import MiniVllm.ServingProofs.Calls

/-! What a poll reads, and the streams whose request is gone. -/

namespace MiniVllm

open EngineCore

variable {ε : Type} {S : Setup ε}

namespace ServingLayer

section Reads

variable {queue : RequestQueue} {result : ScheduleResult} {rid : RequestId}

lemma finishedSeq_none (hg : ∀ r ∈ result.finishedGroups, Retired queue r) (hrid : rid ∉ result.finishedGroups) :
    finishedSeq queue result rid = none := by
  refine List.find?_eq_none.mpr fun q hq => ?_
  obtain ⟨r, hr, hq⟩ := List.mem_flatMap.mp hq
  obtain ⟨sg, q', hsg, hseqs, -, rfl⟩ := hg r hr
  simp only [hsg, hseqs, List.mem_singleton] at hq
  obtain rfl := hq
  have hne : q.groupId ≠ rid := fun he => hrid (he ▸ hr)
  simp [hne]

lemma finishedSeq_some (hg : ∀ r ∈ result.finishedGroups, Retired queue r) (hrid : rid ∈ result.finishedGroups) :
    ∃ sg q, finishedSeq queue result rid = some q ∧ queue.finished.get? rid = some sg ∧ sg.seqs = [q] ∧
      q.status = .finished := by
  obtain ⟨sg, q, hsg, hseqs, hst, hid⟩ := hg rid hrid
  cases hf : finishedSeq queue result rid with
  | none =>
    have hnone := List.find?_eq_none.mp hf q (List.mem_flatMap.mpr ⟨rid, hrid, by simp [hsg, hseqs]⟩)
    simp [hid, Sequence.finished, hst] at hnone
  | some q' =>
    have hmem := List.mem_of_find?_eq_some hf
    have hprop := List.find?_some hf
    obtain ⟨r, hr, hq'⟩ := List.mem_flatMap.mp hmem
    obtain ⟨sg', q'', hsg', hseqs', -, rfl⟩ := hg r hr
    simp only [hsg', hseqs', List.mem_singleton] at hq'
    obtain rfl := hq'
    have he : q'.groupId = rid := by
      simp only [decide_eq_true_eq] at hprop
      exact hprop.1
    rw [he] at hsg'
    obtain rfl : sg = sg' := Option.some.inj (hsg.symm.trans hsg')
    obtain rfl : q = q' := by simpa [hseqs] using hseqs'
    exact ⟨sg, q, rfl, hsg, hseqs, hst⟩

lemma decodedSeq_running {n : ℕ} (hq : QueueFormed queue n) {genCount : ℕ} {q : Sequence}
    (h : decodedSeq queue result rid genCount = some q) :
    queue.runningSeq rid = some q ∧ rid ∈ result.scheduledDecodeGroups ∧ genCount < q.numGeneratedTokens := by
  have hmem := List.mem_of_find?_eq_some h
  have hprop := List.find?_some h
  simp only [decide_eq_true_eq] at hprop
  rw [scheduledSeqs_eq hq] at hmem
  obtain ⟨r, hr, hrun⟩ := List.mem_filterMap.mp hmem
  obtain ⟨sg, -, -, hid, hl⟩ := hq.runningSeq_group hrun
  have he : r = rid := by rw [← hid, ← hl.groupId, hprop.1]
  rw [← he]
  exact ⟨hrun, hr, hprop.2⟩

end Reads

inductive Polls (S : Setup ε) (s : ServingState ε) (rid : RequestId) (trackingId : TrackingId) (genCount : ℕ)
    (now now' : ℚ) : Except Exn PollReply → ServingState ε → Prop
  | raised (err : Exn) (engine : EngineState ε) (hstep : LLMEngine.step S s.engine now = (.error err, engine)) :
      Polls S s rid trackingId genCount now now' (.error err) { s with engine := engine }
  | finished (result : ScheduleResult) (engine : EngineState ε) (sg : SequenceGroup) (q : Sequence)
      (hstep : LLMEngine.step S s.engine now = (.ok result, engine)) (hdue : rid ∈ result.finishedGroups)
      (hsg : (checkTimeouts S engine now').queue.finished.get? rid = some sg) (hq : sg.seqs = [q])
      (hst : q.status = .finished) :
      Polls S s rid trackingId genCount now now'
        (.ok ⟨[], max genCount q.outputTokenIds.length, true, some q.status⟩)
        { s with
          engine := checkTimeouts S engine now'
          finishedRequests := insert rid s.finishedRequests
          streamManager := s.streamManager.release trackingId }
  | token (result : ScheduleResult) (engine : EngineState ε) (q : Sequence)
      (hstep : LLMEngine.step S s.engine now = (.ok result, engine)) (hgone : rid ∉ result.finishedGroups)
      (hrun : (checkTimeouts S engine now').queue.runningSeq rid = some q)
      (hdec : rid ∈ result.scheduledDecodeGroups) (hlt : genCount < q.outputTokenIds.length) :
      Polls S s rid trackingId genCount now now'
        (.ok ⟨S.executor.detokenize [q.outputTokenIds[genCount]], genCount + 1, false, none⟩)
        { s with engine := checkTimeouts S engine now' }
  | idle (result : ScheduleResult) (engine : EngineState ε)
      (hstep : LLMEngine.step S s.engine now = (.ok result, engine)) (hgone : rid ∉ result.finishedGroups) :
      Polls S s rid trackingId genCount now now' (.ok ⟨[], genCount, false, none⟩)
        { s with engine := checkTimeouts S engine now' }

lemma checkTimeouts_finished {s : EngineState ε} (hw : WellFormed S s.core) (now : ℚ) {rid : RequestId}
    {sg : SequenceGroup} (hsg : s.queue.finished.get? rid = some sg) :
    (checkTimeouts S s now).queue.finished.get? rid = some sg := by
  have hdead : Dead s.queue rid := hw.queue.dead_of_finished hsg
  rw [((checkTimeouts_filings hw now).sameAt hdead).finished]
  exact hsg

section Poll

variable {s : ServingState ε} (hw : WellFormed S s.engine.core) (rid : RequestId) (trackingId : TrackingId)
  (genCount : ℕ) (now now' : ℚ)

include hw

lemma retired_after {result : ScheduleResult} {engine : EngineState ε}
    (hstep : LLMEngine.step S s.engine now = (.ok result, engine)) :
    WellFormed S (checkTimeouts S engine now').core ∧
      ∀ r ∈ result.finishedGroups, Retired (checkTimeouts S engine now').queue r := by
  have hwe : WellFormed S engine.core := hw.reaches (Drives.step_reaches hw hstep)
  obtain ⟨s₁, hsteps, hcore⟩ := LLMEngine.steps_of_ok hw hstep
  have hqueue : engine.queue = s₁.queue := congrArg CoreState.queue hcore
  refine ⟨hwe.reaches (checkTimeouts_refines (c := {}) hwe now'), fun r hr => ?_⟩
  obtain ⟨sg, q, hsg, hq, hst, hid⟩ := (hsteps.finishedGroups hw).2 r hr
  rw [← hqueue] at hsg
  exact ⟨sg, q, checkTimeouts_finished hwe now' hsg, hq, hst, hid⟩

theorem pollStream_spec : Polls S s rid trackingId genCount now now'
    (pollStream S s rid trackingId genCount now now').1 (pollStream S s rid trackingId genCount now now').2 := by
  cases hstep : LLMEngine.step S s.engine now with
  | mk r engine =>
  cases r with
  | error err =>
    simp only [pollStream, hstep]
    exact .raised err engine hstep
  | ok result =>
    obtain ⟨hwt, hretired⟩ := retired_after hw now now' hstep
    simp only [pollStream, hstep]
    by_cases hrid : rid ∈ result.finishedGroups
    · obtain ⟨sg, q, hf, hsg, hq, hst⟩ := finishedSeq_some hretired hrid
      simp only [hf]
      exact .finished result engine sg q hstep hrid hsg hq hst
    · simp only [finishedSeq_none hretired hrid]
      cases hd : decodedSeq (checkTimeouts S engine now').queue result rid genCount with
      | none => exact .idle result engine hstep hrid
      | some q =>
        obtain ⟨hrun, hdec, hlt⟩ := decodedSeq_running hwt.queue hd
        rcases hwt.queue.runningSeq_phase hrun with ⟨-, -, hzero, -⟩ | ⟨-, -, -, hlen, -⟩
        · omega
        · rw [hlen] at hlt
          simp only [List.getElem?_eq_getElem hlt]
          exact .token result engine q hstep hrid hrun hdec hlt

end Poll

lemma step_sameAt {s : EngineState ε} (hw : WellFormed S s.core) {rid : RequestId} (hdead : Dead s.queue rid)
    (now : ℚ) : SameAt s.queue (LLMEngine.step S s now).2.queue rid := by
  rw [LLMEngine.step_queue]
  exact (EngineCore.step_filings hw now).sameAt hdead

section Dead

variable {s : ServingState ε} (hw : WellFormed S s.engine.core) {rid : RequestId} (hdead : Dead s.engine.queue rid)

include hw hdead

lemma pollStream_keeps_dead (trackingId : TrackingId) (genCount : ℕ) (now now' : ℚ) :
    Dead (pollStream S s rid trackingId genCount now now').2.engine.queue rid := by
  have hstep := (step_sameAt hw hdead now).dead hdead
  have hreach : Reaches S {} s.engine.core (LLMEngine.step S s.engine now).2.core :=
    (Drives.step s.engine now).reaches hw
  cases h : LLMEngine.step S s.engine now with
  | mk r engine =>
  rw [h] at hstep hreach
  cases r with
  | error err =>
    simp only [pollStream, h]
    exact hstep
  | ok result =>
    rw [pollStream_engine s rid trackingId genCount now now' h]
    have hwe : WellFormed S engine.core := hw.reaches hreach
    exact ((checkTimeouts_filings hwe now').sameAt hstep).dead hstep

lemma pollStream_dead (trackingId : TrackingId) (genCount : ℕ) (now now' : ℚ) :
    (∀ reply, (pollStream S s rid trackingId genCount now now').1 = .ok reply →
        reply = ⟨[], genCount, false, none⟩) ∧
      (pollStream S s rid trackingId genCount now now').2.streamManager = s.streamManager := by
  have hafter := pollStream_keeps_dead hw hdead trackingId genCount now now'
  have hpolls := pollStream_spec hw rid trackingId genCount now now'
  generalize (pollStream S s rid trackingId genCount now now').1 = r at hpolls
  generalize (pollStream S s rid trackingId genCount now now').2 = s' at hpolls hafter ⊢
  cases hpolls with
  | raised err engine hstep => exact ⟨fun reply h => (by cases h), rfl⟩
  | finished result engine sg q hstep hdue =>
    exfalso
    obtain ⟨s₁, hsteps, -⟩ := LLMEngine.steps_of_ok hw hstep
    rw [(hsteps.finishedGroups hw).1, mem_dueIds_running (beginStep_wellFormed hw now)] at hdue
    obtain ⟨sg', hsg', -⟩ := hdue
    have hbegin := ((checkTimeouts_filings (s := { s.engine with stepCount := s.engine.stepCount + 1 })
      hw now).sameAt hdead).dead hdead
    cases hbegin.running.symm.trans hsg'
  | token result engine q hstep hgone hrun =>
    exfalso
    have hnone : (checkTimeouts S engine now').queue.runningSeq rid = none := by
      rw [RequestQueue.runningSeq, show (checkTimeouts S engine now').queue.running.get? rid = none from hafter.running]
      rfl
    cases hnone.symm.trans hrun
  | idle result engine hstep hgone =>
    refine ⟨fun reply h => ?_, rfl⟩
    cases h
    rfl

lemma streamLoop_dead (trackingId : TrackingId) (genCount : ℕ) (readings : List (ℚ × ℚ)) :
    (streamLoop S rid trackingId readings genCount s).1 ≠ some (.ok ()) := by
  induction readings generalizing s genCount with
  | nil => simp [streamLoop]
  | cons reading readings ih =>
    obtain ⟨now, now'⟩ := reading
    have hafter := pollStream_keeps_dead hw hdead trackingId genCount now now'
    have hreply := (pollStream_dead hw hdead trackingId genCount now now').1
    have hnext := hw.reaches ((pollStream_drives s rid trackingId genCount now now').reaches hw)
    rw [streamLoop]
    generalize pollStream S s rid trackingId genCount now now' = out at hafter hreply hnext ⊢
    obtain ⟨r, s'⟩ := out
    cases r with
    | error err => simp
    | ok reply =>
      obtain rfl := hreply reply rfl
      exact ih hnext hafter genCount

end Dead

theorem dead_stream_never_ends (S : Setup ε) (calls : List Call) (rid : RequestId) (trackingId : TrackingId)
    (genCount : ℕ) (hdead : Dead (run S calls).engine.queue rid) :
    (∀ now now' reply, (pollStream S (run S calls) rid trackingId genCount now now').1 = .ok reply →
        reply = ⟨[], genCount, false, none⟩) ∧
      (∀ now now', (pollStream S (run S calls) rid trackingId genCount now now').2.streamManager =
        (run S calls).streamManager) ∧
      ∀ readings, (streamLoop S rid trackingId readings genCount (run S calls)).1 ≠ some (.ok ()) := by
  have hw := wellFormed_run S calls
  refine ⟨fun now now' => ?_, fun now now' => ?_, fun readings => ?_⟩
  · exact (pollStream_dead hw hdead trackingId genCount now now').1
  · exact (pollStream_dead hw hdead trackingId genCount now now').2
  · exact streamLoop_dead hw hdead trackingId genCount readings

def cancelledStream : List Call := [.generateStream ['a'] 1 7 {}, .cancel 0]

theorem dead_stream_never_ends_of_cancelled :
    (∀ now now' reply,
        (pollStream (fakeSetup Config.default codeHash) (run (fakeSetup Config.default codeHash) cancelledStream) 0 7 0
          now now').1 = .ok reply → reply = ⟨[], 0, false, none⟩) ∧
      (∀ now now',
        (pollStream (fakeSetup Config.default codeHash) (run (fakeSetup Config.default codeHash) cancelledStream) 0 7 0
          now now').2.streamManager = (run (fakeSetup Config.default codeHash) cancelledStream).streamManager) ∧
      ∀ readings, (streamLoop (fakeSetup Config.default codeHash) 0 7 readings 0
        (run (fakeSetup Config.default codeHash) cancelledStream)).1 ≠ some (.ok ()) :=
  dead_stream_never_ends (fakeSetup Config.default codeHash) cancelledStream 0 7 0 (by decide +kernel)

theorem cancelled_stream_not_told : ¬ ∀ (config : Config) (blockHash : List ℕ → ℤ) (calls : List Call)
    (rid : RequestId) (trackingId : TrackingId) (genCount : ℕ) (now now' : ℚ),
    Dead (run (fakeSetup config blockHash) calls).engine.queue rid →
      ∃ reply, (pollStream (fakeSetup config blockHash) (run (fakeSetup config blockHash) calls) rid trackingId
          genCount now now').1 = .ok reply ∧ reply.finished = true ∧
        trackingId ∉ (pollStream (fakeSetup config blockHash) (run (fakeSetup config blockHash) calls) rid trackingId
          genCount now now').2.streamManager.active := by
  intro h
  obtain ⟨reply, -, -, hactive⟩ := h Config.default codeHash cancelledStream 0 7 0 0 0 (by decide +kernel)
  revert hactive
  decide +kernel

end ServingLayer

end MiniVllm
