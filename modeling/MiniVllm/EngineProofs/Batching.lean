import MiniVllm.EngineProofs.Queueing
import MiniVllm.SchedulerProofs.StaticBatching

/-! Continuous batching: nobody is overtaken, nobody waits for ever, and no static batch is ahead of it. -/

namespace MiniVllm

open EngineCore Scheduler Scheduler.BudgetLoop SeatQueue

variable {ε : Type} {S : Setup ε}

def NoOvertaking (qu : RequestQueue) : Prop :=
  ∀ rid rid', rid < rid' → qu.waiting.get? rid ≠ none → qu.running.get? rid' = none

lemma NoOvertaking.shrink {qu qu' : RequestQueue} (h : NoOvertaking qu)
    (hw : ∀ rid, qu.waiting.get? rid = none → qu'.waiting.get? rid = none)
    (hr : ∀ rid, qu.running.get? rid = none → qu'.running.get? rid = none) : NoOvertaking qu' :=
  fun rid rid' hlt hwait => hr rid' (h rid rid' hlt (mt (hw rid) hwait))

lemma NoOvertaking.reaches {s s' : CoreState ε} (hw : WellFormed S s) (h : NoOvertaking s.queue)
    (hr : Reaches S noAdmission s s') (hn : s'.seqGroupCount = s.seqGroupCount) : NoOvertaking s'.queue := by
  apply h.shrink
  · intro rid hnone
    by_cases hlt : rid < s.seqGroupCount
    · exact Reaches.stays_out hw hr hlt hnone
    · by_contra hc
      obtain ⟨sg, hsg⟩ := Option.ne_none_iff_exists'.mp hc
      have hid := ((hw.reaches hr).queue.waiting rid sg hsg).2.1
      rw [hn] at hid
      exact hlt hid
  · intro rid hnone
    rw [← Option.isNone_iff_eq_none, ← Option.isSome_eq_false_iff] at hnone ⊢
    rw [← Bool.not_eq_true] at hnone ⊢
    exact mt (noAdmission_running hw hr) hnone

lemma NoOvertaking.submit {qu : RequestQueue} {n : ℕ} (hq : QueueFormed qu n) (h : NoOvertaking qu) {sg : SequenceGroup}
    (hid : sg.requestId = n) : NoOvertaking (qu.add sg) := by
  intro rid rid' hlt hwait
  by_contra hrun
  have hrun' : qu.running.get? rid' ≠ none := hrun
  obtain ⟨g, hg⟩ := Option.ne_none_iff_exists'.mp hrun'
  have hold := (hq.running rid' g hg).2.1
  have hne : rid ≠ sg.requestId := by
    rw [hid]
    exact (hlt.trans hold).ne
  rw [RequestQueue.add, Dict.get?_set_ne _ _ hne] at hwait
  exact hrun' (h rid rid' hlt hwait)

lemma Schedules.noOvertaking {s₀ : CoreState ε} (h₀ : WellFormed S s₀) {l l' : BudgetLoop ε}
    {visited : List SequenceGroup} (hsched : Schedules S s₀ l l' visited) (hfills : FillsSeats S l l' visited)
    (hinc : s₀.queue.waiting.keys.Pairwise (· < ·)) (h : NoOvertaking s₀.queue) : NoOvertaking l'.queue := by
  have hmoved := hsched.moved h₀
  have hwait := hsched.waiting_eq h₀
  intro rid rid' hlt hwaiting
  by_contra hrunning
  rw [hmoved.waiting, hwait] at hwaiting
  split_ifs at hwaiting with hlisted
  · exact hwaiting rfl
  · have hearlier := h rid rid' hlt hwaiting
    have hgone : l.queue.running.get? rid' = none := by
      rw [hsched.running_eq h₀, hearlier, ite_self]
    rw [hmoved.running, hgone] at hrunning
    -- The later request was admitted by this call, so the earlier one had its turn before.
    have hlater : rid' ∈ (visited.map (·.requestId)).take (S.config.maxNumSeqs - l.queue.numRunning) := by
      by_contra hno
      rw [if_neg] at hrunning
      · exact hrunning rfl
      · rw [hfills.admitted, List.mem_append, not_or]
        refine ⟨fun hp => ?_, hno⟩
        obtain ⟨g, hg⟩ := hsched.prefill_running hp
        cases hgone.symm.trans hg
    apply hlisted
    left
    rw [hfills.admitted]
    apply List.mem_append_right
    rw [hsched.visited_open h₀] at hlater ⊢
    split_ifs at hlater ⊢ with hopen
    · rw [h₀.queue.waiting_ids, mem_take_increasing hinc] at hlater ⊢
      refine ⟨(Dict.mem_keys _ _).mpr hwaiting, lt_of_le_of_lt ?_ hlater.2⟩
      refine List.countP_mono_left fun k _ hk => ?_
      simp only [decide_eq_true_eq] at hk ⊢
      exact hk.trans hlt
    · simp at hlater

theorem noOvertaking_run (S : Setup ε) (hc : SeatsCovered S.config) (ops : List LLMEngine.Op) :
    NoOvertaking (LLMEngine.run S ops).queue := by
  induction ops using List.reverseRecOn with
  | nil => exact fun _ _ _ _ => rfl
  | append_singleton ops op ih =>
    have hw := wellFormed_run S ops
    have hcount := LLMEngine.apply_count S (LLMEngine.run S ops) op
    rw [LLMEngine.run_concat]
    cases op with
    | addRequest prompt maxNewTokens now => exact ih.submit hw.queue rfl
    | cancelRequest rid => exact ih.reaches hw (cancelRequest_refines hw rid) hcount
    | checkTimeouts now => exact ih.reaches hw (checkTimeouts_refines hw now) hcount
    | step now =>
      have hwb := beginStep_wellFormed hw now
      have hbegin := beginStep_refines (c := noAdmission) hw now
      have hcountb : (beginStep S (LLMEngine.run S ops) now).core.seqGroupCount = (LLMEngine.run S ops).seqGroupCount :=
        beginStep_seqGroupCount _ now
      have hnb := numRunning_reaches hw (hc.numRunning_run ops) (beginStep_refines hw now)
      have hinc := ((inLine_run S ops).2.reaches hw (beginStep_refines (c := {}) hw now) hcountb).increasing
      have hkeep := ih.reaches hw hbegin hcountb
      have hqueue : (LLMEngine.apply S (LLMEngine.run S ops) (.step now)).queue =
        (EngineCore.step S (LLMEngine.run S ops) now).2.queue := LLMEngine.step_queue _ now
      rw [hqueue]
      have hsteps := step_steps hw now
      generalize (EngineCore.step S (LLMEngine.run S ops) now).1 = r at hsteps
      generalize (EngineCore.step S (LLMEngine.run S ops) now).2 = s' at hsteps
      cases hsteps with
      | raised l l' visited err bm hsched => exact hsched.noOvertaking hwb (hsched.fillsSeats hwb hc hnb) hinc hkeep
      | done l l' visited queue bm hsched hexec hframe =>
        rw [recordStep_queue]
        refine (hsched.noOvertaking hwb (hsched.fillsSeats hwb hc hnb) hinc hkeep).shrink (fun rid hnone => ?_)
          (fun rid hnone => ?_)
        · simp only [hframe.1, hnone]
        · cases hexec with
          | kept => exact hnone
          | done bm output x queue hreach hready hrunning => simp only [hrunning, hnone, Option.map_none]

def RanToEnd (qu : RequestQueue) (rid : RequestId) : Prop :=
  ∃ sg, qu.finished.get? rid = some sg ∧ ∃ q ∈ sg.seqs, q.status = .finished

lemma stageOf_eq_done {config : Config} {qu : RequestQueue} {n : ℕ} (hq : QueueFormed qu n) (rid : RequestId) :
    stageOf config qu rid = .done ↔ RanToEnd qu rid := by
  have hany : (qu.finished.get? rid).any (·.seqs.any (·.status = .finished)) = true ↔ RanToEnd qu rid := by
    simp only [Option.any_eq_true, List.any_eq_true, decide_eq_true_eq, RanToEnd]
  have hlive : RanToEnd qu rid → Dead qu rid := by
    rintro ⟨sg, hsg, -⟩
    exact hq.dead_of_finished hsg
  rcases hq.stage_cases rid with ⟨sg, hsg⟩ | ⟨q, hw, hr⟩ | hd
  · rw [stageOf_waiting hsg]
    refine ⟨fun h => (by cases h), fun h => ?_⟩
    cases (hlive h).waiting.symm.trans hsg
  · rw [stageOf_running hw hr]
    refine ⟨fun h => (by cases h), fun h => ?_⟩
    obtain ⟨sg, hsg, -⟩ := hq.runningSeq_eq_some.mp hr
    cases (hlive h).running.symm.trans hsg
  · rw [stageOf_dead hd, ← hany]
    split_ifs with h
    · exact ⟨fun _ => h, fun _ => rfl⟩
    · exact ⟨fun hc => (by cases hc), fun hc => absurd hc h⟩

lemma lineOf_getElem {config : Config} {s : EngineState ε} {rid : ℕ} (h : rid < s.seqGroupCount) :
    (lineOf config s)[rid]? = some (stageOf config s.queue rid) := by
  rw [lineOf, List.getElem?_map, List.getElem?_range h]
  rfl

lemma RanToEnd.before {s : EngineState ε} (hw : WellFormed S s.core) {op : LLMEngine.Op} {rid : RequestId}
    (h : RanToEnd (LLMEngine.apply S s op).queue rid) : RanToEnd s.queue rid ∨ s.queue.running.get? rid ≠ none := by
  obtain ⟨sg, hsg, q, hq, hst⟩ := h
  cases op with
  | addRequest prompt maxNewTokens now => exact Or.inl ⟨sg, hsg, q, hq, hst⟩
  | cancelRequest id => exact Or.inl ⟨sg, cancelRequest_finishedAt hw hsg hq hst, q, hq, hst⟩
  | checkTimeouts now => exact Or.inl ⟨sg, checkTimeouts_finished hw now hsg hq hst, q, hq, hst⟩
  | step now =>
    have hwb := beginStep_wellFormed hw now
    have hqueue : (LLMEngine.apply S s (.step now)).queue = (EngineCore.step S s now).2.queue :=
      LLMEngine.step_queue s now
    obtain ⟨l, l', visited, hsched, hfin⟩ := (step_steps hw now).files
    rw [hqueue, hfin] at hsg
    by_cases hd : rid ∈ dueIds (beginStep S s now).core.queue.running.values
    · right
      obtain ⟨g, hg, -⟩ := (mem_dueIds_running hwb).mp hd
      rw [← Option.isSome_iff_ne_none]
      exact beginStep_running hw now (Dict.contains_of_get? hg)
    · rw [hsched.finished_kept hwb hd] at hsg
      have hold := checkTimeouts_finished (s := { s with stepCount := s.stepCount + 1 }) hw now hsg hq hst
      exact Or.inl ⟨sg, hold, q, hq, hst⟩

/-- First come, first served: while a request waits, none that came later runs or is served. -/
theorem admission_in_order (S : Setup ε) (hc : SeatsCovered S.config) (ops : List LLMEngine.Op) (rid rid' : ℕ)
    (hlt : rid < rid') (hwait : (LLMEngine.run S ops).queue.waiting.get? rid ≠ none) :
    (LLMEngine.run S ops).queue.running.get? rid' = none ∧ ¬ RanToEnd (LLMEngine.run S ops).queue rid' := by
  refine ⟨noOvertaking_run S hc ops rid rid' hlt hwait, ?_⟩
  induction ops using List.reverseRecOn with
  | nil => exact absurd rfl hwait
  | append_singleton ops op ih =>
    have hw := wellFormed_run S ops
    intro hserved
    rw [LLMEngine.run_concat] at hwait hserved
    -- A later request that is served was submitted before, and so was this one.
    have hbefore : (LLMEngine.run S ops).queue.waiting.get? rid ≠ none := by
      intro hnone
      by_cases hid : rid < (LLMEngine.run S ops).seqGroupCount
      · exact hwait (Reaches.stays_out hw (apply_refines hw (runFrom_true _ [op]).1) hid hnone)
      · have hlater : rid' < (LLMEngine.run S ops).seqGroupCount := by
          rcases hserved.before hw with ⟨sg, hsg, -⟩ | hrun
          · exact (hw.queue.finished rid' sg hsg).2.1
          · obtain ⟨sg, hsg⟩ := Option.ne_none_iff_exists'.mp hrun
            exact (hw.queue.running rid' sg hsg).2.1
        omega
    rcases hserved.before hw with hold | hrun
    · exact ih hbefore hold
    · exact hrun (noOvertaking_run S hc ops rid rid' hlt hbefore)

theorem admission_in_order_of_four_requests :
    (LLMEngine.run (fakeSetup coveredSeats codeHash) fourRequests).queue.running.get? 3 = none ∧
      ¬ RanToEnd (LLMEngine.run (fakeSetup coveredSeats codeHash) fourRequests).queue 3 :=
  admission_in_order (fakeSetup coveredSeats codeHash) (by decide) fourRequests 2 3 (by decide) (by decide +kernel)

structure NotBehind (config : Config) (qu qu' : RequestQueue) (rid : RequestId) : Prop where
  served : RanToEnd qu' rid → RanToEnd qu rid
  waiting : qu.waiting.get? rid ≠ none → qu'.waiting.get? rid ≠ none
  running : ∀ q q', qu.runningSeq rid = some q → qu'.runningSeq rid = some q' →
    q.roundsLeft config ≤ q'.roundsLeft config

lemma NotBehind.of_ahead {config : Config} {qu qu' : RequestQueue} {n n' : ℕ} (hq : QueueFormed qu n)
    (hq' : QueueFormed qu' n') {rid : RequestId} (h : Ahead (stageOf config qu rid) (stageOf config qu' rid)) :
    NotBehind config qu qu' rid := by
  refine ⟨fun hs => ?_, fun hw => ?_, fun q q' hr hr' => ?_⟩
  · have hdone : stageOf config qu' rid = .done := (stageOf_eq_done hq' rid).mpr hs
    rw [hdone] at h
    exact (stageOf_eq_done hq rid).mp h.done_of
  · obtain ⟨sg, hsg⟩ := Option.ne_none_iff_exists'.mp hw
    rw [stageOf_waiting hsg] at h
    intro hnone
    rcases hq'.stage_cases rid with ⟨g, hg⟩ | ⟨q, hw', hr⟩ | hd
    · cases hnone.symm.trans hg
    · rw [stageOf_running hw' hr] at h
      cases h
    · rw [stageOf_dead hd] at h
      split_ifs at h <;> cases h
  · obtain ⟨sg, hsg, -⟩ := hq.runningSeq_eq_some.mp hr
    obtain ⟨sg', hsg', -⟩ := hq'.runningSeq_eq_some.mp hr'
    rw [stageOf_running (hq.waiting_of_running hsg) hr, stageOf_running (hq'.waiting_of_running hsg') hr'] at h
    cases h with
    | serving hle => exact hle

lemma eventsOf_congr {δ : Type} {T : Setup δ} (hlate : T.config.requestTimeoutS = S.config.requestTimeoutS)
    (hchunk : T.config.maxPrefillChunkSize = S.config.maxPrefillChunkSize)
    (htokenize : ∀ prompt, T.executor.tokenize prompt = S.executor.tokenize prompt) (arrivals : List ℚ)
    (ops : List LLMEngine.Op) : eventsOf T arrivals ops = eventsOf S arrivals ops := by
  have hrounds : furtherRounds T.config = furtherRounds S.config := by
    funext promptLen maxTokens
    rw [furtherRounds, furtherRounds, hchunk]
  have hgone : late T.config = late S.config := by
    funext arrivals now rid
    rw [late, late, hlate]
  induction ops generalizing arrivals with
  | nil => rfl
  | cons op ops ih => cases op <;> simp only [eventsOf, hrounds, hgone, htokenize, ih]

/-- The static engine `T` gets the same calls as `S`, and is never ahead of it for any request. -/
theorem continuous_not_behind_static {δ : Type} (S : Setup ε) (T : Setup δ)
    (hcontinuous : S.config.staticBatchMode = false) (hstatic : T.config = { S.config with staticBatchMode := true })
    (htokenize : ∀ prompt, T.executor.tokenize prompt = S.executor.tokenize prompt)
    (hoff : S.config.enablePrefixCaching = false) (hc : SeatsCovered S.config) (ops : List LLMEngine.Op)
    (hS : (Succeeds S).Run S ops) (hT : (Succeeds T).Run T ops) (rid : RequestId) :
    NotBehind S.config (LLMEngine.run S ops).queue (LLMEngine.run T ops).queue rid := by
  have hcT : SeatsCovered T.config := by
    rw [hstatic]
    exact ⟨hc.chunked, hc.tokens, hc.prefill⟩
  have hstage : stageOf T.config = stageOf S.config := by
    rw [hstatic]
    rfl
  have hlineS := lineOf_run S hoff hc [] ops hS
  have hlineT := lineOf_run T (by rw [hstatic]; exact hoff) hcT [] ops hT
  have hevents : eventsOf T (arrivalsOf []) ops = eventsOf S (arrivalsOf []) ops :=
    eventsOf_congr (by rw [hstatic]) (by rw [hstatic]) htokenize _ ops
  have hpolicyS : seatPolicy S.config = continuous S.config.maxNumSeqs := by
    rw [seatPolicy, hcontinuous]
    rfl
  have hpolicyT : seatPolicy T.config = static S.config.maxNumSeqs := by
    rw [hstatic]
    rfl
  rw [hpolicyS] at hlineS
  rw [hpolicyT, hevents] at hlineT
  have hslower : ∀ n, static S.config.maxNumSeqs n ≤ S.config.maxNumSeqs - n := by
    intro n
    rw [static]
    split_ifs <;> omega
  have hahead : List.Forall₂ Ahead (lineOf S.config (LLMEngine.run S ops))
      (lineOf T.config (LLMEngine.run T ops)) := by
    have hrun := ahead_run hslower (eventsOf S (arrivalsOf []) ops)
    rw [SeatQueue.run, SeatQueue.run] at hrun
    rw [List.nil_append] at hlineS hlineT
    rw [hlineS, hlineT]
    exact hrun
  have hqS := (wellFormed_run S ops).queue
  have hqT := (wellFormed_run T ops).queue
  have hcountS := (inLine_run S ops).1
  have hcountT := (inLine_run T ops).1
  by_cases hlt : rid < (LLMEngine.run S ops).seqGroupCount
  · have hget := (List.forall₂_iff_get.mp hahead).2 rid (by simpa [lineOf] using hlt)
      (by simpa [lineOf, hcountT, ← hcountS] using hlt)
    simp only [lineOf, List.get_eq_getElem, List.getElem_map, List.getElem_range, hstage] at hget
    exact NotBehind.of_ahead hqS hqT hget
  · refine ⟨fun hend => ?_, fun hw => ?_, fun q q' hr => ?_⟩
    · obtain ⟨sg, hsg, -⟩ := hend
      have hid := (hqT.finished rid sg hsg).2.1
      exact absurd (hcountS ▸ hcountT ▸ hid) hlt
    · obtain ⟨sg, hsg⟩ := Option.ne_none_iff_exists'.mp hw
      exact absurd (hqS.waiting rid sg hsg).2.1 hlt
    · obtain ⟨sg, hsg, -⟩ := hqS.runningSeq_eq_some.mp hr
      exact absurd (hqS.running rid sg hsg).2.1 hlt

theorem continuous_not_behind_static_of_four_requests :
    NotBehind coveredSeats (LLMEngine.run (fakeSetup coveredSeats codeHash) fourRequests).queue
      (LLMEngine.run (fakeSetup { coveredSeats with staticBatchMode := true } codeHash) fourRequests).queue 0 :=
  continuous_not_behind_static (fakeSetup coveredSeats codeHash)
    (fakeSetup { coveredSeats with staticBatchMode := true } codeHash) rfl rfl (fun _ => rfl) rfl (by decide)
    fourRequests (by decide +kernel) (by decide +kernel) 0

def roundsOf (config : Config) (qu : RequestQueue) (rid : RequestId) : ℕ := (stageOf config qu rid).load

def stepsOf (ops : List LLMEngine.Op) : ℕ :=
  ops.countP (fun
    | .step _ => true
    | _ => false)

/-- The call neither cancels the request nor finds it past its timeout. -/
def Spares (config : Config) (arrivals : List ℚ) (rid : RequestId) : LLMEngine.Op → Prop
  | .addRequest _ _ _ => True
  | .cancelRequest id => id ≠ rid
  | .step now => late config arrivals now rid = false
  | .checkTimeouts now => late config arrivals now rid = false

instance (config : Config) (arrivals : List ℚ) (rid : RequestId) :
    (op : LLMEngine.Op) → Decidable (Spares config arrivals rid op)
  | .addRequest _ _ _ => isTrue trivial
  | .cancelRequest id => inferInstanceAs (Decidable (id ≠ rid))
  | .step now => inferInstanceAs (Decidable (late config arrivals now rid = false))
  | .checkTimeouts now => inferInstanceAs (Decidable (late config arrivals now rid = false))

lemma rounds_eventsOf (S : Setup ε) (arrivals : List ℚ) (ops : List LLMEngine.Op) :
    SeatQueue.rounds (eventsOf S arrivals ops) = stepsOf ops := by
  induction ops generalizing arrivals with
  | nil => rfl
  | cons op ops ih =>
    cases op with
    | addRequest prompt maxNewTokens now => exact ih (arrivals ++ [now])
    | cancelRequest rid => exact ih arrivals
    | checkTimeouts now => exact ih arrivals
    | step now =>
      have hrest := ih arrivals
      rw [SeatQueue.rounds, stepsOf] at hrest ⊢
      rw [eventsOf, List.countP_cons_of_neg Bool.false_ne_true, List.countP_cons_of_pos rfl, hrest,
        List.countP_cons_of_pos rfl]

lemma stays_eventsOf {arrivals : List ℚ} {rid : ℕ} (hrid : rid < arrivals.length) {ops : List LLMEngine.Op}
    (h : ∀ op ∈ ops, Spares S.config arrivals rid op) : Stays rid (eventsOf S arrivals ops) := by
  have hgrow : ∀ more now, late S.config (arrivals ++ more) now rid = late S.config arrivals now rid := by
    intro more now
    rw [late, late, List.getElem?_append_left hrid]
  suffices hall : ∀ more, Stays rid (eventsOf S (arrivals ++ more) ops) by simpa using hall []
  induction ops with
  | nil => exact fun more gone hm => by cases hm
  | cons op ops ih =>
    have hrest := ih fun op hm => h op (List.mem_cons_of_mem _ hm)
    have hop := h op List.mem_cons_self
    intro more gone hm
    cases op with
    | addRequest prompt maxNewTokens now =>
      rcases List.mem_cons.mp hm with he | hm
      · cases he
      · rw [List.append_assoc] at hm
        exact hrest _ gone hm
    | cancelRequest id =>
      rcases List.mem_cons.mp hm with he | hm
      · cases he
        simpa using Ne.symm hop
      · exact hrest more gone hm
    | checkTimeouts now =>
      rcases List.mem_cons.mp hm with he | hm
      · cases he
        rw [hgrow]
        exact hop
      · exact hrest more gone hm
    | step now =>
      rcases List.mem_cons.mp hm with he | hm
      · cases he
        rw [hgrow]
        exact hop
      · rcases List.mem_cons.mp hm with he | hm
        · cases he
        · exact hrest more gone hm

lemma lineOf_loads (config : Config) (s : EngineState ε) {rid : ℕ} (h : rid < s.seqGroupCount) :
    ((lineOf config s)[rid]?.elim 0 Stage.load = roundsOf config s.queue rid) ∧
      ((lineOf config s).take rid).map Stage.load = (List.range rid).map (roundsOf config s.queue) := by
  refine ⟨by rw [lineOf_getElem h]; rfl, ?_⟩
  rw [lineOf, ← List.map_take, List.take_range, Nat.min_eq_left h.le, List.map_map]
  rfl

lemma lineOf_inOrder (config : Config) {s : EngineState ε} {n : ℕ} (hq : QueueFormed s.queue n)
    (h : NoOvertaking s.queue) : InOrder (lineOf config s) := by
  rw [InOrder, lineOf, List.pairwise_map]
  refine List.Pairwise.imp ?_ List.pairwise_lt_range
  intro i j hij hwaiting
  have hwait : s.queue.waiting.get? i ≠ none := by
    rcases hq.stage_cases i with ⟨sg, hsg⟩ | ⟨q, hw, hr⟩ | hd
    · rw [hsg]
      simp
    · rw [stageOf_running hw hr] at hwaiting
      cases hwaiting
    · rw [stageOf_dead hd] at hwaiting
      split_ifs at hwaiting <;> cases hwaiting
  rcases hq.stage_cases j with ⟨sg, hsg⟩ | ⟨q, hw, hr⟩ | hd
  · rw [stageOf_waiting hsg]
    rfl
  · obtain ⟨sg, hsg, -⟩ := hq.runningSeq_eq_some.mp hr
    cases (h i j hij hwait).symm.trans hsg
  · rw [stageOf_dead hd]
    split_ifs <;> rfl

section Within

variable (hcontinuous : S.config.staticBatchMode = false) (hoff : S.config.enablePrefixCaching = false)
  (hc : SeatsCovered S.config) {ops more : List LLMEngine.Op}
  (hok : (Succeeds S).RunFrom S (LLMEngine.run S ops) more) {rid : ℕ} (hrid : rid < (arrivalsOf ops).length)
  (hsteps : roundsOf S.config (LLMEngine.run S ops).queue rid +
    ((List.range rid).map (roundsOf S.config (LLMEngine.run S ops).queue)).sum / S.config.maxNumSeqs < stepsOf more)

include hcontinuous hoff hc hok hrid hsteps

lemma gone_within : Gone (lineOf S.config (LLMEngine.run S (ops ++ more))) rid := by
  have hlt : rid < (LLMEngine.run S ops).seqGroupCount := (inLine_run S ops).1 ▸ hrid
  have hq : QueueFormed (LLMEngine.run S ops).queue _ := (wellFormed_run S ops).queue
  have hpolicy : seatPolicy S.config = continuous S.config.maxNumSeqs := by
    rw [seatPolicy, hcontinuous]
    rfl
  obtain ⟨hload, hloads⟩ := lineOf_loads S.config (LLMEngine.run S ops) hlt
  have horder := lineOf_inOrder S.config hq (noOvertaking_run S hc ops)
  rw [lineOf_run S hoff hc ops more hok, hpolicy]
  exact gone_of_rounds S.config.maxNumSeqs_pos horder (by simpa [lineOf] using hlt)
    (eventsOf S (arrivalsOf ops) more) (by rw [hload, hloads, rounds_eventsOf]; exact hsteps)

lemma dead_within : Dead (LLMEngine.run S (ops ++ more)).queue rid := by
  have hlt : rid < (LLMEngine.run S (ops ++ more)).seqGroupCount := by
    rw [(inLine_run S (ops ++ more)).1, arrivalsOf_append, List.length_append]
    omega
  obtain ⟨x, hx, hdead⟩ := gone_within hcontinuous hoff hc hok hrid hsteps
  rw [lineOf_getElem hlt] at hx
  cases hx
  have hq : QueueFormed (LLMEngine.run S (ops ++ more)).queue _ := (wellFormed_run S (ops ++ more)).queue
  rcases hq.stage_cases rid with ⟨sg, hsg⟩ | ⟨q, hw, hr⟩ | hd
  · rw [stageOf_waiting hsg] at hdead
    cases hdead
  · rw [stageOf_running hw hr] at hdead
    cases hdead
  · exact hd

lemma ranToEnd_within (hlive : ¬ Dead (LLMEngine.run S ops).queue rid)
    (hspares : ∀ op ∈ more, Spares S.config (arrivalsOf ops) rid op) :
    RanToEnd (LLMEngine.run S (ops ++ more)).queue rid := by
  have hcount := (inLine_run S ops).1
  have hlt' : rid < (LLMEngine.run S (ops ++ more)).seqGroupCount := by
    rw [(inLine_run S (ops ++ more)).1, arrivalsOf_append, List.length_append]
    omega
  have hq : QueueFormed (LLMEngine.run S ops).queue _ := (wellFormed_run S ops).queue
  have hne : stageOf S.config (LLMEngine.run S ops).queue rid ≠ .withdrawn := by
    rcases hq.stage_cases rid with ⟨sg, hsg⟩ | ⟨q, hw, hr⟩ | hd
    · rw [stageOf_waiting hsg]
      exact Stage.noConfusion
    · rw [stageOf_running hw hr]
      exact Stage.noConfusion
    · exact absurd hd hlive
  have hgone := gone_within hcontinuous hoff hc hok hrid hsteps
  have hline := lineOf_run S hoff hc ops more hok
  rw [hline] at hgone
  have hdone := done_of_gone _ (lineOf_getElem (hcount ▸ hrid)) hne (stays_eventsOf hrid hspares) hgone
  rw [← hline, lineOf_getElem hlt'] at hdone
  exact (stageOf_eq_done (wellFormed_run S (ops ++ more)).queue rid).mp (Option.some.inj hdone)

end Within

/-- A request leaves the engine after its own batches, its share of those of the requests before it, and one step. -/
theorem answered_within (S : Setup ε) (hcontinuous : S.config.staticBatchMode = false)
    (hoff : S.config.enablePrefixCaching = false) (hc : SeatsCovered S.config) (ops more : List LLMEngine.Op)
    (hok : (Succeeds S).RunFrom S (LLMEngine.run S ops) more) (rid : ℕ) (hrid : rid < (arrivalsOf ops).length)
    (hsteps : roundsOf S.config (LLMEngine.run S ops).queue rid +
      ((List.range rid).map (roundsOf S.config (LLMEngine.run S ops).queue)).sum / S.config.maxNumSeqs < stepsOf more) :
    Dead (LLMEngine.run S (ops ++ more)).queue rid ∧
      (¬ Dead (LLMEngine.run S ops).queue rid → (∀ op ∈ more, Spares S.config (arrivalsOf ops) rid op) →
        RanToEnd (LLMEngine.run S (ops ++ more)).queue rid) :=
  ⟨dead_within hcontinuous hoff hc hok hrid hsteps,
    fun hlive hspares => ranToEnd_within hcontinuous hoff hc hok hrid hsteps hlive hspares⟩

theorem answered_within_five_steps :
    Dead (LLMEngine.run (fakeSetup coveredSeats codeHash)
        (fourRequests ++ [.step 0, .addRequest ['h'] 9 0, .step 0, .step 0, .step 0, .step 0])).queue 2 ∧
      (¬ Dead (LLMEngine.run (fakeSetup coveredSeats codeHash) fourRequests).queue 2 →
        (∀ op ∈ [.step 0, .addRequest ['h'] 9 0, .step 0, .step 0, .step 0, .step 0],
          Spares coveredSeats (arrivalsOf fourRequests) 2 op) →
        RanToEnd (LLMEngine.run (fakeSetup coveredSeats codeHash)
          (fourRequests ++ [.step 0, .addRequest ['h'] 9 0, .step 0, .step 0, .step 0, .step 0])).queue 2) :=
  answered_within (fakeSetup coveredSeats codeHash) rfl rfl (by decide) fourRequests
    [.step 0, .addRequest ['h'] 9 0, .step 0, .step 0, .step 0, .step 0] (by decide +kernel) 2 (by decide)
    (by decide +kernel)

end MiniVllm
