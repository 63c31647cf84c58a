import MiniVllm.EngineProofs.Ages
import MiniVllm.Serving.Clients
import MiniVllm.ServingProofs.Streams

/-! What a stream has received of the output of its request. -/

namespace MiniVllm

open EngineCore Scheduler Scheduler.BudgetLoop

variable {ε : Type} {S : Setup ε}

def outputTexts (S : Setup ε) (q : Sequence) : List (List Char) :=
  q.outputTokenIds.map (fun tok => S.executor.detokenize [tok])

def Delivered (S : Setup ε) (v : StreamView) (q : Sequence) : Prop :=
  v.tokens = outputTexts S q ∧ v.text = (outputTexts S q).flatten

/-- An open stream has the first `genCount` tokens of its request, and not the last one. -/
structure Delivering (S : Setup ε) (s : CoreState ε) (rid : RequestId) (v : StreamView) : Prop where
  known : rid < s.seqGroupCount
  text : v.text = v.tokens.flatten
  waiting : s.queue.waiting.get? rid ≠ none → v.genCount = 0 ∧ v.tokens = []
  running : ∀ q, s.queue.runningSeq rid = some q → v.tokens = (outputTexts S q).take v.genCount ∧
    (v.genCount = 0 ∨ v.genCount < q.outputTokenIds.length)

section Carried

variable {c : CallCondition ε} {s s' : CoreState ε} {rid : RequestId} {v : StreamView}

lemma Ages.outputs {config : Config} {bm bm' : BlockManager ε} {q q' : Sequence} (h : Ages config bm q bm' q') :
    q.outputTokenIds <+: q'.outputTokenIds := by
  have htokens := h.tokens
  rw [Sequence.tokens, Sequence.tokens, h.prompt] at htokens
  exact (List.prefix_append_right_inj _).mp htokens

lemma Delivering.transition (hw : WellFormed S s) (ht : Transition S c s s') (h : Delivering S s rid v) :
    Delivering S s' rid v := by
  refine ⟨h.known.trans_le (Reaches.seqGroupCount_le (Reaches.single S c ht)), h.text, fun hwait => ?_, fun q' hq' => ?_⟩
  · exact h.waiting fun hn => hwait (ht.not_waiting hw h.known hn)
  · rcases ht.ages hw hq' with ⟨q, hq, ha⟩ | ⟨sg, hsg, rfl, -, -, -⟩
    · obtain ⟨htokens, hcount⟩ := h.running q hq
      obtain ⟨more, hmore⟩ := ha.outputs
      refine ⟨?_, hcount.imp_right fun hlt => hlt.trans_le ha.outputs.length_le⟩
      rcases hcount with hzero | hlt
      · rw [htokens, hzero, List.take_zero, List.take_zero]
      · rw [htokens, outputTexts, outputTexts, ← hmore, List.map_append,
          List.take_append_of_le_length (by rw [List.length_map]; exact hlt.le)]
    · obtain ⟨hzero, hnil⟩ := h.waiting (by rw [hsg]; simp)
      exact ⟨by rw [hzero, hnil, List.take_zero], Or.inl hzero⟩

lemma Delivering.reaches (hw : WellFormed S s) (hr : Reaches S c s s') (h : Delivering S s rid v) :
    Delivering S s' rid v := by
  induction hr with
  | refl => exact h
  | tail hr ht ih => exact ih.transition (hw.reaches hr) ht

end Carried

lemma Delivering.all_iff {s : CoreState ε} (hw : WellFormed S s) {rid : RequestId} {v : StreamView}
    (h : Delivering S s rid v) {q : Sequence} (hq : s.queue.runningSeq rid = some q) :
    v.tokens = outputTexts S q ↔ q.status = .prefill := by
  obtain ⟨htokens, hcount⟩ := h.running q hq
  have hlen : (outputTexts S q).length = q.outputTokenIds.length := List.length_map _
  rcases hw.queue.runningSeq_phase hq with ⟨hs, hout, -⟩ | ⟨hs, -, hpos, hgen, -⟩
  · have hnil : outputTexts S q = [] := by rw [outputTexts, hout, List.map_nil]
    simp [htokens, hnil, hs]
  · have hne : v.tokens ≠ outputTexts S q := by
      intro he
      have hcut := congrArg List.length (htokens.symm.trans he)
      rw [List.length_take] at hcut
      omega
    simp [hne, hs]

section Step

variable {s s₁ : EngineState ε} (hw : WellFormed S s.core) {now : ℚ} {result : ScheduleResult}
  (hsteps : Steps S s now (.ok result) s₁) {rid : RequestId}

include hw hsteps

lemma Steps.decoded (hdec : rid ∈ result.scheduledDecodeGroups) :
    ∃ (l' : BudgetLoop ε) (q : Sequence) (token : ℕ),
      Reaches S {} s.core ⟨l'.queue, l'.blockManager, s.seqGroupCount⟩ ∧ l'.queue.runningSeq rid = some q ∧
        q.status = .running ∧ ∀ q', s₁.queue.runningSeq rid = some q' →
          q'.outputTokenIds = q.outputTokenIds ++ [token] := by
  have hwb := beginStep_wellFormed hw now
  cases hsteps with
  | done l l' visited queue bm hsched hexec hframe hrun =>
    have hcount : (beginStep S s now).core.seqGroupCount = s.seqGroupCount := beginStep_seqGroupCount s now
    have hreach : Reaches S {} s.core ⟨l'.queue, l'.blockManager, s.seqGroupCount⟩ := by
      rw [← hcount]
      exact (beginStep_refines hw now).trans hsched.done.reach
    have hq : QueueFormed l'.queue s.seqGroupCount := (hw.reaches hreach).queue
    obtain ⟨q, hlive, hst, -⟩ := hsched.done.scheduled.decode rid hdec
    have hmem : q ∈ decodeSeqs l'.queue (l'.report l.queue.decodes.length) := mem_scheduledSeqs hq hdec hlive
    rw [recordStep_queue]
    dsimp only
    cases hexec with
    | kept _ _ hempty =>
      have he := hempty rfl
      simp only [Bool.and_eq_true, List.isEmpty_iff] at he
      rw [he.2] at hmem
      cases hmem
    | done bm output x queue hreach' hready hrunning =>
      refine ⟨l', q, tokenOf output q.seqId, hreach, hlive, hst, fun q' hq' => ?_⟩
      rw [RequestQueue.runningSeq_map hrunning, hlive, Option.map_some,
        afterBatch_decode hq hready (tokenOf output) hlive hmem] at hq'
      cases hq'
      rfl

lemma Steps.retires (hdue : rid ∈ result.finishedGroups) : ∃ sg q, s.queue.runningSeq rid = some q ∧
    s₁.queue.finished.get? rid = some sg ∧ sg.seqs = [{ q with status := .finished }] := by
  have hwb := beginStep_wellFormed hw now
  rw [(hsteps.finishedGroups hw).1, mem_dueIds_running hwb] at hdue
  obtain ⟨sg, hsg, hd⟩ := hdue
  obtain ⟨-, -, q, hq, -⟩ := hwb.queue.running rid sg hsg
  have hlive : (beginStep S s now).queue.runningSeq rid = some q :=
    hwb.queue.runningSeq_eq_some.mpr ⟨sg, hsg, hq⟩
  obtain ⟨hkept, hexpired⟩ := checkTimeouts_at (s := { s with stepCount := s.stepCount + 1 }) hw now rid
  have hsame : SameAt s.queue (beginStep S s now).queue rid := by
    refine hkept fun he => ?_
    have hnone : (beginStep S s now).queue.running.get? rid = none := (hexpired he).running
    cases hnone.symm.trans hsg
  refine ⟨sg.retired, q, hsame.runningSeq.symm.trans hlive, ?_, ?_⟩
  · obtain ⟨l, l', visited, hsched, -, hfin⟩ := hsteps.schedules rid
    rw [hfin, hsched.visits.frame.1, hsched.queue]
    exact finishLoop_retired hwb hsg hd
  · rw [SequenceGroup.retired, SequenceGroup.mapSeqs, hq, List.map_singleton]

end Step

section Poll

variable {s : EngineState ε} (hw : WellFormed S s.core) {rid : RequestId} {v : StreamView}
  (h : Delivering S s.core rid v) {now now' : ℚ} {result : ScheduleResult} {engine : EngineState ε}
  (hstep : LLMEngine.step S s now = (.ok result, engine))

include hw h hstep

lemma Delivering.decoded (hdec : rid ∈ result.scheduledDecodeGroups) {q : Sequence}
    (hrun : engine.queue.runningSeq rid = some q) : v.genCount + 1 < q.outputTokenIds.length := by
  obtain ⟨s₁, hsteps, hcore⟩ := LLMEngine.steps_of_ok hw hstep
  have hqueue : engine.queue = s₁.queue := congrArg CoreState.queue hcore
  obtain ⟨l', q₁, token, hreach, hlive, hst, hone⟩ := hsteps.decoded hw hdec
  rw [hqueue] at hrun
  have hcount := ((h.reaches hw hreach).running q₁ hlive).2
  obtain ⟨-, hpos, hlen⟩ := ((hw.reaches hreach).queue.runningSeq_phase hlive).decode hst
  rw [hone q hrun, List.length_append, List.length_singleton]
  omega

lemma Delivering.token (hdec : rid ∈ result.scheduledDecodeGroups) {q : Sequence}
    (hrun : (checkTimeouts S engine now').queue.runningSeq rid = some q)
    (hlt : v.genCount < q.outputTokenIds.length) :
    Delivering S (checkTimeouts S engine now').core rid
      (v.receive ⟨S.executor.detokenize [q.outputTokenIds[v.genCount]], v.genCount + 1, false, none⟩) := by
  have hreach : Reaches S {} s.core engine.core := ServingLayer.Drives.step_reaches hw hstep
  have hwe : WellFormed S engine.core := hw.reaches hreach
  have hcheck : Reaches S {} engine.core (checkTimeouts S engine now').core := checkTimeouts_refines hwe now'
  have hafter := (h.reaches hw hreach).reaches hwe hcheck
  have hq : QueueFormed (checkTimeouts S engine now').queue _ := (hwe.reaches hcheck).queue
  obtain ⟨hkept, hexpired⟩ := checkTimeouts_at hwe now' rid
  have hsame : SameAt engine.queue (checkTimeouts S engine now').queue rid := by
    refine hkept fun he => ?_
    obtain ⟨sg, hsg, -⟩ := hq.runningSeq_eq_some.mp hrun
    cases (hexpired he).running.symm.trans hsg
  have hmore := h.decoded hw hstep hdec (hsame.runningSeq.symm.trans hrun)
  have htokens := (hafter.running q hrun).1
  have hlt' : v.genCount < (outputTexts S q).length := by rwa [outputTexts, List.length_map]
  rw [v.receive_token]
  refine ⟨hafter.known, ?_, fun hwait => ?_, fun q' hq' => ⟨?_, Or.inr ?_⟩⟩
  · simp [hafter.text]
  · obtain ⟨sg, hsg, -⟩ := hq.runningSeq_eq_some.mp hrun
    cases (hq.waiting_only rid hwait).1.symm.trans hsg
  · obtain rfl : q = q' := Option.some.inj (hrun.symm.trans hq')
    have hget : (outputTexts S q)[v.genCount] = S.executor.detokenize [q.outputTokenIds[v.genCount]] :=
      List.getElem_map _
    rw [List.take_succ_eq_append_getElem hlt', ← htokens, hget]
  · obtain rfl : q = q' := Option.some.inj (hrun.symm.trans hq')
    exact hmore

end Poll

lemma ServingLayer.finished_poll {s : ServingState ε} (hw : WellFormed S s.engine.core) {rid : RequestId} {now now' : ℚ}
    {result : ScheduleResult} {engine : EngineState ε} {sg : SequenceGroup} {q : Sequence}
    (hstep : LLMEngine.step S s.engine now = (.ok result, engine)) (hdue : rid ∈ result.finishedGroups)
    (hsg : (checkTimeouts S engine now').queue.finished.get? rid = some sg) (hq : sg.seqs = [q]) :
    ∃ q₀, s.engine.queue.runningSeq rid = some q₀ ∧ { q₀ with status := .finished } = q := by
  have hwe : WellFormed S engine.core := hw.reaches (Drives.step_reaches hw hstep)
  obtain ⟨s₁, hsteps, hcore⟩ := LLMEngine.steps_of_ok hw hstep
  have hqueue : engine.queue = s₁.queue := congrArg CoreState.queue hcore
  obtain ⟨sg₁, q₀, hlive, hsg₁, hseqs⟩ := hsteps.retires hw hdue
  rw [← hqueue] at hsg₁
  obtain rfl : sg₁ = sg := Option.some.inj ((checkTimeouts_finished hwe now' hsg₁).symm.trans hsg)
  rw [hseqs] at hq
  exact ⟨q₀, hlive, List.head_eq_of_cons_eq hq⟩

namespace Clients

def AllDelivering (S : Setup ε) (s : ClientState ε) : Prop :=
  ∀ rid v, s.streams.get? rid = some v → v.finished = false → Delivering S s.server.engine.core rid v

section Actions

variable {s : ClientState ε} (hw : WellFormed S s.server.engine.core) (h : AllDelivering S s)

include hw h

lemma AllDelivering.poll (rid : RequestId) (now now' : ℚ) : AllDelivering S (poll S s rid now now') := by
  cases hget : s.streams.get? rid with
  | none =>
    simp only [Clients.poll, hget]
    exact h
  | some v =>
  cases hv : v.finished with
  | true =>
    simp only [Clients.poll, hget, hv, if_true]
    exact h
  | false =>
  have hpolls := ServingLayer.pollStream_spec hw rid v.trackingId v.genCount now now'
  have hreach := (ServingLayer.pollStream_drives s.server rid v.trackingId v.genCount now now').reaches hw
  have hcarried := fun r u hu hopen => (h r u hu hopen).reaches hw hreach
  simp only [Clients.poll, hget, hv, Bool.false_eq_true, if_false]
  generalize ServingLayer.pollStream S s.server rid v.trackingId v.genCount now now' = out at hpolls hcarried
  obtain ⟨r, server⟩ := out
  cases r with
  | error err => exact hcarried
  | ok reply =>
    intro r u hu hopen
    rcases Dict.get?_set_some hu with ⟨rfl, rfl⟩ | hold
    · have hown := h r v hget hv
      cases hpolls with
      | finished => cases hopen
      | token result engine q hstep hgone hrun hdec hlt => exact hown.token hw hstep hdec hrun hlt
      | idle result engine hstep hgone =>
        rw [v.receive_idle hv]
        exact hcarried r v hget hv
    · exact hcarried r u hold hopen

lemma AllDelivering.call (call : ServingLayer.Call) : AllDelivering S (apply S s (.call call)) := by
  have hcarried := fun r u hu hopen => (h r u hu hopen).reaches hw (ServingLayer.apply_reaches hw call)
  intro r u hu hopen
  cases call with
  | generateStream prompt maxTokens trackingId clock =>
    have hopens := ServingLayer.generateStream_spec (S := S) s.server prompt maxTokens trackingId clock
    simp only [apply, openStreams, ServingLayer.apply] at hu hcarried ⊢
    generalize (ServingLayer.generateStream S s.server prompt maxTokens trackingId clock).1 = answer at hopens hu
    generalize (ServingLayer.generateStream S s.server prompt maxTokens trackingId clock).2 = server at hopens hcarried ⊢
    cases hopens with
    | refused => exact hcarried r u hu hopen
    | submitted s₁ hcheck hcore =>
      rcases Dict.get?_set_some hu with ⟨rfl, rfl⟩ | hold
      · have hcount : s₁.engine.seqGroupCount = s.server.engine.seqGroupCount :=
          congrArg CoreState.seqGroupCount hcore
        refine ⟨?_, rfl, fun _ => ⟨rfl, rfl⟩, fun q hq => ⟨?_, Or.inl rfl⟩⟩
        · change s.server.engine.seqGroupCount < s₁.engine.seqGroupCount + 1
          omega
        · rw [List.take_zero]
      · exact hcarried r u hold hopen
  | _ =>
    simp only [apply, openStreams] at hu ⊢
    exact hcarried r u hu hopen

omit h in
lemma apply_reaches (action : Action) :
    Reaches S {} s.server.engine.core (apply S s action).server.engine.core := by
  cases action with
  | call call =>
    rw [apply]
    exact ServingLayer.apply_reaches hw call
  | poll rid now now' =>
    simp only [apply, Clients.poll]
    split
    · exact .refl
    · rename_i v _
      have hreach := (ServingLayer.pollStream_drives s.server rid v.trackingId v.genCount now now').reaches hw
      split_ifs
      · exact .refl
      · split <;> rename_i he <;> rw [he] at hreach <;> exact hreach

end Actions

lemma allDelivering_run (S : Setup ε) (actions : List Action) :
    WellFormed S (run S actions).server.engine.core ∧ AllDelivering S (run S actions) := by
  induction actions using List.reverseRecOn with
  | nil => exact ⟨WellFormed.initial S, fun rid v hv => by cases hv⟩
  | append_singleton actions action ih =>
    have hrun : run S (actions ++ [action]) = apply S (run S actions) action := by
      simp [run]
    rw [hrun]
    refine ⟨ih.1.reaches (apply_reaches ih.1 action), ?_⟩
    cases action with
    | poll rid now now' => exact ih.2.poll ih.1 rid now now'
    | call call => exact ih.2.call ih.1 call

theorem finished_stream_delivered_iff (S : Setup ε) (actions : List Action) (rid : RequestId) (now now' : ℚ)
    (v v' : StreamView) (hopen : (run S actions).streams.get? rid = some v) (hv : v.finished = false)
    (hlast : (apply S (run S actions) (.poll rid now now')).streams.get? rid = some v') (hend : v'.finished = true) :
    ∃ sg q, (apply S (run S actions) (.poll rid now now')).server.engine.queue.finished.get? rid = some sg ∧
      sg.seqs = [q] ∧ q.status = .finished ∧
      (Delivered S v' q ↔
        ∃ q₀, (run S actions).server.engine.queue.runningSeq rid = some q₀ ∧ q₀.status = .prefill) := by
  obtain ⟨hw, hall⟩ := allDelivering_run S actions
  have hown := hall rid v hopen hv
  generalize run S actions = s at hopen hlast hw hown ⊢
  have hpolls := ServingLayer.pollStream_spec hw rid v.trackingId v.genCount now now'
  simp only [apply, poll, hopen, hv, Bool.false_eq_true, if_false] at hlast ⊢
  generalize ServingLayer.pollStream S s.server rid v.trackingId v.genCount now now' = out at hpolls hlast ⊢
  obtain ⟨r, server⟩ := out
  cases r with
  | error err =>
    cases hopen.symm.trans hlast
    cases hv.symm.trans hend
  | ok reply =>
    obtain rfl : v.receive reply = v' := Option.some.inj ((s.streams.get?_set_self _ _).symm.trans hlast)
    cases hpolls with
    | token => cases hend
    | idle => cases hend
    | finished result engine sg q hstep hdue hsg hq hst =>
      refine ⟨sg, q, hsg, hq, hst, ?_⟩
      obtain ⟨q₀, hlive, rfl⟩ := ServingLayer.finished_poll hw hstep hdue hsg hq
      have hiff : Delivered S (v.receive ⟨[], max v.genCount q₀.outputTokenIds.length, true, some .finished⟩)
          { q₀ with status := .finished } ↔ v.tokens = outputTexts S q₀ := by
        rw [v.receive_last, Delivered, hown.text]
        exact and_iff_left_of_imp (congrArg List.flatten)
      rw [hiff, hown.all_iff hw hlive]
      constructor
      · exact fun hs => ⟨q₀, hlive, hs⟩
      · rintro ⟨q, hq, hs⟩
        obtain rfl : q₀ = q := Option.some.inj (hlive.symm.trans hq)
        exact hs

def pollsOf (maxTokens : ℤ) (n : ℕ) : List Action :=
  .call (.generateStream ['a'] maxTokens 7 {}) :: List.replicate n (.poll 0 0 0)

theorem finished_stream_delivered_iff_of_two_tokens :
    ∃ sg q, (apply (fakeSetup Config.default codeHash) (run (fakeSetup Config.default codeHash) (pollsOf 2 2))
          (.poll 0 0 0)).server.engine.queue.finished.get? 0 = some sg ∧
      sg.seqs = [q] ∧ q.status = .finished ∧
      (Delivered (fakeSetup Config.default codeHash)
          { trackingId := 7, genCount := 2, text := ['!'], tokens := [['!']], finished := true } q ↔
        ∃ q₀, (run (fakeSetup Config.default codeHash) (pollsOf 2 2)).server.engine.queue.runningSeq 0 = some q₀ ∧
          q₀.status = .prefill) :=
  finished_stream_delivered_iff (fakeSetup Config.default codeHash) (pollsOf 2 2) 0 0 0
    { trackingId := 7, genCount := 1, text := ['!'], tokens := [['!']] } _ (by decide +kernel) rfl (by decide +kernel)
    rfl

theorem last_token_lost : ¬ ∀ (config : Config) (blockHash : List ℕ → ℤ) (actions : List Action) (rid : RequestId)
    (now now' : ℚ) (v v' : StreamView) (sg : SequenceGroup) (q : Sequence),
    (run (fakeSetup config blockHash) actions).streams.get? rid = some v → v.finished = false →
      (apply (fakeSetup config blockHash) (run (fakeSetup config blockHash) actions)
        (.poll rid now now')).streams.get? rid = some v' → v'.finished = true →
      (apply (fakeSetup config blockHash) (run (fakeSetup config blockHash) actions)
        (.poll rid now now')).server.engine.queue.finished.get? rid = some sg →
      sg.seqs = [q] → v'.text = (outputTexts (fakeSetup config blockHash) q).flatten := by
  intro h
  have hout : ((apply (fakeSetup Config.default codeHash) (run (fakeSetup Config.default codeHash) (pollsOf 2 2))
      (.poll 0 0 0)).server.engine.queue.finished.get? 0).map (fun sg => sg.seqs.map (·.outputTokenIds)) =
        some [[1, 16]] := by decide +kernel
  obtain ⟨sg, hsg, hseqs⟩ := Option.map_eq_some_iff.mp hout
  obtain ⟨q, hq, hids⟩ := List.map_eq_singleton_iff.mp hseqs
  have htext := h Config.default codeHash (pollsOf 2 2) 0 0 0
    { trackingId := 7, genCount := 1, text := ['!'], tokens := [['!']] }
    { trackingId := 7, genCount := 2, text := ['!'], tokens := [['!']], finished := true } sg q
    (by decide +kernel) rfl (by decide +kernel) rfl hsg hq
  rw [outputTexts, hids] at htext
  revert htext
  decide

end Clients

end MiniVllm
