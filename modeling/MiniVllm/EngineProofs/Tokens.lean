import MiniVllm.EngineProofs.Builds
import MiniVllm.EngineProofs.Pools

/-! The tokens of each request over a step, and the phases of the live sequences between steps. -/

namespace MiniVllm

open EngineCore Scheduler Scheduler.BudgetLoop

variable {ε : Type} {S : Setup ε} {c : CallCondition ε}

def SequenceGroup.tokens (sg : SequenceGroup) : List ℕ := sg.seqs.flatMap (·.outputTokenIds)

namespace RequestQueue

def tokensOf (qu : RequestQueue) (rid : RequestId) : List ℕ := ((qu.getById rid).map (·.tokens)).getD []

end RequestQueue

def RejectedBare (qu : RequestQueue) : Prop :=
  ∀ rid sg sg', qu.rejected.get? rid = some sg → qu.finished.get? rid = some sg' → sg'.seqs = []

lemma RejectedBare.step {s s' : CoreState ε} (hw : WellFormed S s) (h : RejectedBare s.queue)
    (ht : Transition S c s s') : RejectedBare s'.queue := by
  cases ht with
  | submit => exact h
  | cleanup => exact h
  | admission => exact h
  | ensure => exact h
  | retire sg q status hrun hseqs =>
    intro rid g g' hg hg'
    rcases Dict.get?_set_some hg' with ⟨rfl, -⟩ | hold
    · have hnone := (hw.queue.only_running hrun).2
      exact absurd (hnone.symm.trans hg) (by simp)
    · exact h rid g g' hg hold
  | withdraw sg hwait =>
    intro rid g g' hg hg'
    rcases Dict.get?_set_some hg' with ⟨rfl, -⟩ | hold
    · have hnone := (hw.queue.only_waiting hwait).2.2
      exact absurd (hnone.symm.trans hg) (by simp)
    · exact h rid g g' hg hold
  | reject sg hwait =>
    intro rid g g' hg hg'
    rcases Dict.get?_set_some hg with ⟨rfl, -⟩ | hold
    · have hnone := (hw.queue.only_waiting hwait).2.1
      exact absurd (hnone.symm.trans hg') (by simp)
    · exact h rid g g' hold hg'
  | refile sg hrej =>
    intro rid g g' hg hg'
    rcases Dict.get?_set_some hg' with ⟨-, rfl⟩ | hold
    · exact (hw.queue.rejected _ _ hrej).2.2
    · exact h rid g g' hg hold
  | batch prefill decode =>
    obtain ⟨-, hf, hj⟩ := runBatch_frame (S := S) s.queue s.blockManager prefill decode
    intro rid g g'
    rw [hf, hj]
    exact h rid g g'

lemma RejectedBare.reaches {s s' : CoreState ε} (hw : WellFormed S s) (h : RejectedBare s.queue)
    (hr : Reaches S c s s') : RejectedBare s'.queue := by
  induction hr with
  | refl => exact h
  | tail hr ht ih => exact ih.step (hw.reaches hr) ht

lemma rejectedBare_run (S : Setup ε) (ops : List LLMEngine.Op) : RejectedBare (LLMEngine.run S ops).queue :=
  RejectedBare.reaches (WellFormed.initial S) (fun rid sg sg' hg => by cases hg) (run_refines (runFrom_true _ ops))

def quiet : CallCondition ε where
  batch _ _ _ _ := False

section TokensOf

variable {qu qu' : RequestQueue} {rid : RequestId} {sg : SequenceGroup}

lemma SameAt.tokensOf (h : SameAt qu qu' rid) : qu'.tokensOf rid = qu.tokensOf rid := by
  rw [RequestQueue.tokensOf, RequestQueue.tokensOf, RequestQueue.getById, RequestQueue.getById, h.waiting, h.running,
    h.finished, h.rejected]

lemma tokensOf_waiting (hsg : qu.waiting.get? rid = some sg) : qu.tokensOf rid = sg.tokens := by
  simp [RequestQueue.tokensOf, RequestQueue.getById, hsg]

lemma tokensOf_running (hw : qu.waiting.get? rid = none) (hsg : qu.running.get? rid = some sg) :
    qu.tokensOf rid = sg.tokens := by
  simp [RequestQueue.tokensOf, RequestQueue.getById, hw, hsg]

lemma tokensOf_finished (hd : Dead qu rid) (hsg : qu.finished.get? rid = some sg) : qu.tokensOf rid = sg.tokens := by
  simp [RequestQueue.tokensOf, RequestQueue.getById, hd.1, hd.2, hsg]

lemma tokensOf_rejected (hd : Dead qu rid) (hf : qu.finished.get? rid = none) (hsg : qu.rejected.get? rid = some sg) :
    qu.tokensOf rid = sg.tokens := by
  simp [RequestQueue.tokensOf, RequestQueue.getById, hd.1, hd.2, hf, hsg]

lemma QueueFormed.tokensOf_runningSeq {n : ℕ} (hq : QueueFormed qu n) {q : Sequence}
    (hlive : qu.runningSeq rid = some q) : qu.tokensOf rid = q.outputTokenIds := by
  obtain ⟨sg, hsg, hseqs⟩ := hq.runningSeq_eq_some.mp hlive
  rw [tokensOf_running (hq.waiting_of_running hsg) hsg, SequenceGroup.tokens, hseqs]
  simp

variable {n : ℕ} (hq : QueueFormed qu n)

include hq

lemma tokensOf_markFinished (hrun : qu.running.get? sg.requestId = some sg) {sg' : SequenceGroup}
    (hid : sg'.requestId = sg.requestId) (ht : sg'.tokens = sg.tokens) (rid : RequestId) :
    (qu.markFinished sg').tokensOf rid = qu.tokensOf rid := by
  by_cases he : rid = sg'.requestId
  · rw [← hid] at hrun
    subst he
    have hwait := hq.waiting_of_running hrun
    have hnew : (qu.markFinished sg').tokensOf sg'.requestId = sg'.tokens := by
      apply tokensOf_finished
      · exact ⟨hwait, Dict.get?_pop_self _ _⟩
      · exact Dict.get?_set_self _ _ _
    rw [hnew, ht, tokensOf_running hwait hrun]
  · exact (sameAt_markFinished qu sg' he).tokensOf

lemma tokensOf_withdraw (hwait : qu.waiting.get? sg.requestId = some sg) (rid : RequestId) :
    (qu.withdraw sg).tokensOf rid = qu.tokensOf rid := by
  by_cases he : rid = sg.requestId
  · subst he
    have hrun := (hq.only_waiting hwait).1
    have hnew : (qu.withdraw sg).tokensOf sg.requestId = sg.tokens := by
      apply tokensOf_finished
      · exact ⟨Dict.get?_pop_self _ _, hrun⟩
      · exact Dict.get?_set_self _ _ _
    rw [hnew, tokensOf_waiting hwait]
  · exact (sameAt_withdraw qu sg he).tokensOf

lemma tokensOf_markRejected (hwait : qu.waiting.get? sg.requestId = some sg) (rid : RequestId) :
    (qu.markRejected sg).tokensOf rid = qu.tokensOf rid := by
  by_cases he : rid = sg.requestId
  · subst he
    obtain ⟨hrun, hfin, -⟩ := hq.only_waiting hwait
    have hnew : (qu.markRejected sg).tokensOf sg.requestId = sg.tokens := by
      apply tokensOf_rejected
      · exact ⟨Dict.get?_pop_self _ _, hrun⟩
      · exact hfin
      · exact Dict.get?_set_self _ _ _
    rw [hnew, tokensOf_waiting hwait]
  · have hsame : SameAt qu (qu.markRejected sg) rid :=
      ⟨qu.waiting.get?_pop_ne he, rfl, rfl, qu.rejected.get?_set_ne sg he⟩
    exact hsame.tokensOf

lemma tokensOf_refile (hbare : RejectedBare qu) (hrej : qu.rejected.get? sg.requestId = some sg) (rid : RequestId) :
    (qu.refile sg).tokensOf rid = qu.tokensOf rid := by
  by_cases he : rid = sg.requestId
  · subst he
    have hdead := hq.dead_of_rejected hrej
    have hnil : ∀ g : SequenceGroup, g.seqs = [] → g.tokens = [] := by
      intro g hg
      rw [SequenceGroup.tokens, hg, List.flatMap_nil]
    have hsg := hnil sg (hq.rejected _ _ hrej).2.2
    have hnew : (qu.refile sg).tokensOf sg.requestId = sg.tokens := by
      apply tokensOf_finished
      · exact ⟨hdead.1, hdead.2⟩
      · exact Dict.get?_set_self _ _ _
    rw [hnew, hsg]
    cases hfin : qu.finished.get? sg.requestId with
    | none => rw [tokensOf_rejected hdead hfin hrej, hsg]
    | some g => rw [tokensOf_finished hdead hfin, hnil g (hbare _ sg g hrej hfin)]
  · have hsame : SameAt qu (qu.refile sg) rid := ⟨rfl, rfl, qu.finished.get?_set_ne sg he, rfl⟩
    exact hsame.tokensOf

omit hq in
lemma tokensOf_markRunning (hwait : qu.waiting.get? sg.requestId = some sg) {sg' : SequenceGroup}
    (hid : sg'.requestId = sg.requestId) (ht : sg'.tokens = sg.tokens) (rid : RequestId) :
    (qu.markRunning sg').tokensOf rid = qu.tokensOf rid := by
  by_cases he : rid = sg'.requestId
  · rw [← hid] at hwait
    subst he
    have hnew : (qu.markRunning sg').tokensOf sg'.requestId = sg'.tokens := by
      apply tokensOf_running
      · exact Dict.get?_pop_self _ _
      · exact Dict.get?_set_self _ _ _
    rw [hnew, ht, tokensOf_waiting hwait]
  · have hsame : SameAt qu (qu.markRunning sg') rid :=
      ⟨qu.waiting.get?_pop_ne he, qu.running.get?_set_ne sg' he, rfl, rfl⟩
    exact hsame.tokensOf

end TokensOf

lemma WellFormed.tokensOf_step {s s' : CoreState ε} (hw : WellFormed S s) (hbare : RejectedBare s.queue)
    (ht : Transition S quiet s s') (hn : s'.seqGroupCount = s.seqGroupCount) (rid : RequestId) :
    s'.queue.tokensOf rid = s.queue.tokensOf rid := by
  cases ht with
  | submit => exact absurd hn (Nat.succ_ne_self _)
  | cleanup => rfl
  | ensure => rfl
  | batch prefill decode hready hc => exact hc.elim
  | retire sg q status hrun hseqs =>
    refine tokensOf_markFinished hw.queue hrun ?_ ?_ rid
    · rfl
    · simp [SequenceGroup.tokens, hseqs]
  | withdraw sg hwait => exact tokensOf_withdraw hw.queue hwait rid
  | reject sg hwait => exact tokensOf_markRejected hw.queue hwait rid
  | refile sg hrej => exact tokensOf_refile hw.queue hbare hrej rid
  | admission sg hwait =>
    refine tokensOf_markRunning hwait ?_ ?_ rid
    · rfl
    · simp [SequenceGroup.tokens, admittedSeq, SequenceGroup.createSequence]

lemma WellFormed.tokensOf_reaches {s s' : CoreState ε} (hw : WellFormed S s) (hbare : RejectedBare s.queue)
    (hr : Reaches S quiet s s') (hn : s'.seqGroupCount = s.seqGroupCount) (rid : RequestId) :
    s'.queue.tokensOf rid = s.queue.tokensOf rid := by
  induction hr with
  | refl => rfl
  | tail hr ht ih =>
    have h₁ := Reaches.seqGroupCount_le hr
    have h₂ := Reaches.seqGroupCount_le (Reaches.single S _ ht)
    rw [(hw.reaches hr).tokensOf_step (hbare.reaches hw hr) ht (by omega) rid]
    exact ih (by omega)

lemma Executes.batch {s : CoreState ε} {prefill decode : List Sequence} {queue : RequestQueue} {bm : BlockManager ε}
    (h : Executes S c s prefill decode (.ok ()) queue bm) :
    ∃ (bm' : BlockManager ε) (token : SeqId → ℕ), BatchReady S.config s.queue bm' prefill decode ∧
      ∀ rid, queue.runningSeq rid = (s.queue.runningSeq rid).map
        (afterBatch S.config (prefill.map (·.seqId)) (decode.map (·.seqId)) token) := by
  cases h with
  | kept _ bm hempty =>
    have hnil := hempty rfl
    rw [Bool.and_eq_true, List.isEmpty_iff, List.isEmpty_iff] at hnil
    obtain ⟨rfl, rfl⟩ := hnil
    refine ⟨bm, fun _ => 0, ⟨by simp, by simp, by simp, by simp, by simp⟩, fun rid => ?_⟩
    have hid : afterBatch S.config [] [] (fun _ => 0) = id := by
      funext q
      simp [afterBatch]
    simp [hid]
  | done bm output x queue hreach hready hrunning =>
    exact ⟨bm, _, hready, fun rid => RequestQueue.runningSeq_map hrunning rid⟩

structure Generates (config : Config) (before mid after : RequestQueue) (result : ScheduleResult) : Prop where
  decode : ∀ rid ∈ result.scheduledDecodeGroups, ∃ q token,
    after.runningSeq rid = some q ∧ q.outputTokenIds = before.tokensOf rid ++ [token]
  prefill : ∀ rid ∈ result.scheduledPrefillGroups, ∃ q, mid.runningSeq rid = some q ∧
    (chunkEnd config q = q.promptTokenIds.length → ∃ q', after.runningSeq rid = some q' ∧
      q'.status = .running ∧ q'.outputTokenIds.length = 1)
  others : ∀ rid ∉ result.scheduledDecodeGroups,
    (∀ q, mid.runningSeq rid = some q → rid ∈ result.scheduledPrefillGroups →
      chunkEnd config q ≠ q.promptTokenIds.length) → after.tokensOf rid = before.tokensOf rid

section Batch

variable {qu qu' : RequestQueue} {n : ℕ} {bm : BlockManager ε} {result : ScheduleResult} {token : SeqId → ℕ}
  (hq : QueueFormed qu n)
  (hsch : Scheduled qu result.scheduledPrefillGroups result.scheduledDecodeGroups)
  (hready : BatchReady S.config qu bm (prefillSeqs qu result) (decodeSeqs qu result))
  (hrun : ∀ rid, qu'.runningSeq rid = (qu.runningSeq rid).map (afterBatch S.config
    ((prefillSeqs qu result).map (·.seqId)) ((decodeSeqs qu result).map (·.seqId)) token))

include hq

omit hq in
lemma QueueFormed.running_eq_none (hq : QueueFormed qu n) {rid : RequestId} (hnone : qu.runningSeq rid = none) :
    qu.running.get? rid = none := by
  cases hg : qu.running.get? rid with
  | none => rfl
  | some sg =>
    obtain ⟨-, -, q, hseqs, -⟩ := hq.running rid sg hg
    have hlive := hq.runningSeq_eq_some.mpr ⟨sg, hg, hseqs⟩
    rw [hnone] at hlive
    cases hlive

lemma mem_of_scheduledSeqs {ids : List RequestId} {rid : RequestId} {q : Sequence}
    (hlive : qu.runningSeq rid = some q) (hm : q ∈ scheduledSeqs qu ids) : rid ∈ ids := by
  rw [scheduledSeqs_eq hq] at hm
  obtain ⟨r, hr, hlive'⟩ := List.mem_filterMap.mp hm
  have hid := (hq.runningSeq_seqId hlive').symm.trans (hq.runningSeq_seqId hlive)
  obtain rfl : r = rid := congrArg SeqId.request hid
  exact hr

include hsch hready hrun

lemma generates_batch (hw : qu'.waiting = qu.waiting) (hf : qu'.finished = qu.finished)
    (hj : qu'.rejected = qu.rejected) {m : ℕ} (hq' : QueueFormed qu' m) : Generates S.config qu qu qu' result := by
  refine ⟨fun rid hrid => ?_, fun rid hrid => ?_, fun rid hnot hchunk => ?_⟩
  · obtain ⟨q, hlive, -⟩ := hsch.decode rid hrid
    have hmem : q ∈ decodeSeqs qu result := mem_scheduledSeqs hq hrid hlive
    refine ⟨_, token q.seqId, by rw [hrun, hlive]; rfl, ?_⟩
    rw [afterBatch_decode hq hready token hlive hmem, hq.tokensOf_runningSeq hlive]
  · obtain ⟨q, hlive, hstatus⟩ := hsch.prefill rid hrid
    have hmem : q ∈ prefillSeqs qu result :=
      List.mem_filter.mpr ⟨mem_scheduledSeqs hq hrid hlive, decide_eq_true hstatus⟩
    refine ⟨q, hlive, fun hend => ⟨_, by rw [hrun, hlive]; rfl, ?_⟩⟩
    rw [afterBatch_completed hq hready token hlive hmem hend]
    exact ⟨rfl, rfl⟩
  · cases hlive : qu.runningSeq rid with
    | none =>
      have hnone : qu'.runningSeq rid = none := by
        rw [hrun, hlive]
        rfl
      have hsame : SameAt qu qu' rid := by
        refine ⟨by rw [hw], ?_, by rw [hf], by rw [hj]⟩
        rw [hq.running_eq_none hlive, hq'.running_eq_none hnone]
      exact hsame.tokensOf
    | some q =>
      have hlive' : qu'.runningSeq rid = some (afterBatch S.config ((prefillSeqs qu result).map (·.seqId))
          ((decodeSeqs qu result).map (·.seqId)) token q) := by
        rw [hrun, hlive]
        rfl
      rw [hq'.tokensOf_runningSeq hlive', hq.tokensOf_runningSeq hlive]
      have hd : q ∉ decodeSeqs qu result := fun hm => hnot (mem_of_scheduledSeqs hq hlive hm)
      by_cases hp : q ∈ prefillSeqs qu result
      · have hrid := mem_of_scheduledSeqs hq hlive (List.mem_filter.mp hp).1
        rw [afterBatch_chunk hq hready token hlive hp (hchunk q hlive hrid)]
      · rw [afterBatch_idle hq hready token hlive hp hd]

end Batch

section Step

variable {s s₁ : EngineState ε} (hw : WellFormed S s.core) (hbare : RejectedBare s.queue) {now : ℚ}

def scheduledQueue (S : Setup ε) (s : EngineState ε) (now : ℚ) : RequestQueue :=
  (Scheduler.schedule S (beginStep S s now).queue (beginStep S s now).blockManager).2.1

include hw hbare

lemma scheduledQueue_tokensOf (rid : RequestId) :
    (scheduledQueue S s now).tokensOf rid = s.queue.tokensOf rid := by
  have hbegin : Reaches S quiet s.core (beginStep S s now).core := beginStep_refines hw now
  have hwb := beginStep_wellFormed hw now
  obtain ⟨⟨result, queue, bm, hsched, hreach, -⟩, -⟩ := schedule_refines (c := quiet) hwb
    (schedule_of_forall (fun _ _ _ => trivial) (fun _ _ _ => trivial) _ _)
  have hqueue : scheduledQueue S s now = queue := congrArg (fun r => r.2.1) hsched
  have hbare' : RejectedBare (beginStep S s now).core.queue := hbare.reaches hw hbegin
  have hstart : (beginStep S s now).core.queue.tokensOf rid = s.queue.tokensOf rid :=
    hw.tokensOf_reaches hbare hbegin (beginStep_seqGroupCount s now) rid
  rw [hqueue, ← hstart]
  exact hwb.tokensOf_reaches hbare' hreach rfl rid

theorem Steps.generates {result : ScheduleResult} (hsteps : Steps S s now (.ok result) s₁)
    (hw₁ : WellFormed S s₁.core) : Generates S.config s.queue (scheduledQueue S s now) s₁.queue result := by
  have htokens : ∀ rid, (scheduledQueue S s now).tokensOf rid = s.queue.tokensOf rid :=
    fun rid => scheduledQueue_tokensOf hw hbare rid
  cases hsteps with
  | done l l' visited queue bm hsched hexec hframe =>
    have hmid : scheduledQueue S s now = l'.queue := congrArg (fun r => r.2.1) hsched.result
    have hq := (hsched.wellFormed (beginStep_wellFormed hw now)).queue
    obtain ⟨bm', token, hready, hrun⟩ := hexec.batch
    have hafter := hw₁.queue
    simp only [EngineState.core, recordStep_queue] at hafter
    have hgen := generates_batch hq hsched.done.scheduled hready hrun hframe.1 hframe.2.1 hframe.2.2 hafter
    rw [hmid] at htokens ⊢
    rw [recordStep_queue]
    refine ⟨fun rid hrid => ?_, hgen.prefill, fun rid hnot hchunk => ?_⟩
    · rw [← htokens]
      exact hgen.decode rid hrid
    · rw [← htokens]
      exact hgen.others rid hnot hchunk

end Step

def Sequence.AtBoundary (q : Sequence) : Prop :=
  (q.status = .prefill ∧ q.prefillCursor < q.promptTokenIds.length ∧ q.numGeneratedTokens = 0 ∧
      q.outputTokenIds = []) ∨
    (q.status = .running ∧ q.prefillCursor = q.promptTokenIds.length ∧
      q.numGeneratedTokens = q.outputTokenIds.length ∧ 1 ≤ q.numGeneratedTokens)

lemma LivePhase.atBoundary {q : Sequence} (h : LivePhase q) (hne : q.promptTokenIds ≠ []) : q.AtBoundary := by
  have hlen := List.length_pos_iff.mpr hne
  rcases h with ⟨hstatus, hout, hgen, hcursor⟩ | ⟨hstatus, hcursor, hgen, hout, -⟩
  · refine Or.inl ⟨hstatus, ?_, hgen, hout⟩
    omega
  · exact Or.inr ⟨hstatus, hcursor, hout, hgen⟩

lemma QueueFormed.live_atBoundary {qu : RequestQueue} {n : ℕ} (hq : QueueFormed qu n)
    (hne : ∀ rid sg, qu.running.get? rid = some sg → sg.promptTokenIds ≠ []) {p : Pool} {sg : SequenceGroup}
    (hsg : sg ∈ (qu.pool p).values) {q : Sequence} (hm : q ∈ sg.seqs) (hlive : q.finished = false) :
    q.AtBoundary := by
  obtain ⟨rid, hrid⟩ := (Dict.mem_values _ sg).mp hsg
  cases p with
  | waiting =>
    rw [(hq.waiting rid sg hrid).2.2] at hm
    cases hm
  | running =>
    obtain ⟨-, -, q', hseqs, hl⟩ := hq.running rid sg hrid
    rw [hseqs] at hm
    obtain rfl := List.mem_singleton.mp hm
    apply hl.phase.atBoundary
    rw [hl.prompt]
    exact hne rid sg hrid
  | finished =>
    rw [(hq.finished rid sg hrid).2.2 q hm] at hlive
    cases hlive
  | rejected =>
    rw [(hq.rejected rid sg hrid).2.2] at hm
    cases hm

/-- Between steps every live sequence is in one of two phases, no step makes `build` raise, and each step that returns
gives its tokens to the scheduled sequences only. -/
structure Lawful (S : Setup ε) (s : EngineState ε) : Prop where
  phases : ∀ p, ∀ sg ∈ (s.queue.pool p).values, ∀ q ∈ sg.seqs, q.finished = false → q.AtBoundary
  builds : ∀ now result x, buildCall S s now = some (result, x) → ∃ input, x = .ok input
  generates : ∀ now result s', LLMEngine.step S s now = (.ok result, s') →
    Generates S.config s.queue (scheduledQueue S s now) s'.queue result

theorem sequences_lawful (S : Setup ε) (ops : List LLMEngine.Op) (hne : ∀ r ∈ requestsOf S ops, r.1 ≠ []) :
    Lawful S (LLMEngine.run S ops) := by
  have hw : WellFormed S (LLMEngine.run S ops).core := wellFormed_run S ops
  have hformed : QueueFormed (LLMEngine.run S ops).queue (LLMEngine.run S ops).seqGroupCount := hw.queue
  refine ⟨fun p sg hsg q hm hlive => ?_, fun now result x hcall => ?_, fun now result s' hstep => ?_⟩
  · refine hformed.live_atBoundary (fun rid sg hrun => ?_) hsg hm hlive
    exact (serves_run S ops).2.running_nonempty hne hrun
  · obtain ⟨l, l', visited, bm, hbuilds⟩ := buildCall_spec hw hcall
    exact ⟨_, hbuilds.built⟩
  · obtain ⟨s₁, hsteps, hcore⟩ := LLMEngine.steps_of_ok hw hstep
    have hw₁ : WellFormed S s₁.core := by
      rw [← hcore]
      have happly : WellFormed S (LLMEngine.apply S (LLMEngine.run S ops) (.step now)).core :=
        hw.reaches (apply_refines hw (step_true _ now))
      rw [LLMEngine.apply, hstep] at happly
      exact happly
    have hqueue : s'.queue = s₁.queue := congrArg CoreState.queue hcore
    rw [hqueue]
    exact hsteps.generates hw (rejectedBare_run S ops) hw₁

theorem sequences_lawful_of_two : Lawful (fakeSetup .default codeHash)
    (LLMEngine.run (fakeSetup .default codeHash)
      [.addRequest ['a'] 2 0, .addRequest ['a', 'b', 'c', 'd', 'e'] 1 0, .step 0]) :=
  sequences_lawful (fakeSetup .default codeHash)
    [.addRequest ['a'] 2 0, .addRequest ['a', 'b', 'c', 'd', 'e'] 1 0, .step 0] (by decide)

end MiniVllm
